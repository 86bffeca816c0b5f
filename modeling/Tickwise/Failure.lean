import Tickwise.Fault

/-!
# Failures

What went wrong in a piece of work that reaches beyond the library: the first cause, and what
was being done at each level around it.
-/

namespace Tickwise

/-- The first cause of a failure. -/
inductive Cause where
  /-- The library refuses an input. -/
  | fault (fault : Fault)
  /-- A rule of the work itself was broken, or the chain refused a call. -/
  | refusal (message : String)
  /-- Something outside the library failed, in words of its own. -/
  | outside (message : String)
deriving DecidableEq

namespace Cause

/-- The message of a cause. -/
def message : Cause → String
  | .fault f => f.message
  | .refusal text => text
  | .outside text => text

end Cause

/-- A cause, and the work around it from the outermost level inwards. -/
structure Failure where
  contexts : List String
  cause : Cause
deriving DecidableEq

namespace Failure

/-- The failure of a fault. -/
def ofFault (fault : Fault) : Failure := ⟨[], .fault fault⟩

/-- The failure of a broken rule. -/
def refusal (message : String) : Failure := ⟨[], .refusal message⟩

/-- The failure of something outside. -/
def outside (message : String) : Failure := ⟨[], .outside message⟩

/-- The failure as part of some work. -/
def within (context : String) (failure : Failure) : Failure :=
  { failure with contexts := context :: failure.contexts }

/-- All messages, the outermost first. -/
def messages (failure : Failure) : List String := failure.contexts ++ [failure.cause.message]

/-- The outermost message. -/
def message (failure : Failure) : String := failure.contexts.headD failure.cause.message

/-- All messages in one line. -/
def line (failure : Failure) : String := ": ".intercalate failure.messages

/-- The fault at the root of a failure. -/
def fault? (failure : Failure) : Option Fault :=
  match failure.cause with
  | .fault f => some f
  | _ => none

end Failure

end Tickwise

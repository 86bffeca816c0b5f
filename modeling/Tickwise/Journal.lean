/-!
# Journal entries

What a piece of work tells about itself, line by line.
-/

namespace Tickwise

/-- How much an entry matters. -/
inductive Level where
  | debug
  | info
  | error
deriving DecidableEq

instance : ToString Level :=
  ⟨fun
    | .debug => "DEBUG"
    | .info => "INFO"
    | .error => "ERROR"⟩

/-- A line of a journal. -/
structure Entry where
  level : Level
  text : String
deriving DecidableEq

instance : ToString Entry := ⟨fun entry => s!"{entry.level} {entry.text}"⟩

end Tickwise

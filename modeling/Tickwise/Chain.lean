import Tickwise.Failure
import Tickwise.Fee
import Tickwise.Journal
import Tickwise.Pool
import Tickwise.Token

/-!
# Access to a chain

What the provisioner asks of a chain, whichever way the chain is reached, and the actions that
its work is made of. Reads change nothing; a write comes back once it is confirmed, and fails
if the chain reverted it.

* `Action` — work on a session, which may fail and leaves the session as far as it came;
* `Action.run` — what such work comes to, with a law for each way of building it;
* `Chain` — the calls that a chain answers.
-/

namespace Tickwise

/-! ## What is sent and confirmed -/

/-- The hash of a transaction. -/
structure TxHash where
  toNat : Nat
deriving DecidableEq

/-- The hash in hexadecimal. -/
def TxHash.hex (hash : TxHash) : String := "0x" ++ String.ofList (Hex.digits 64 hash.toNat)

instance : ToString TxHash := ⟨TxHash.hex⟩

/-- What a mint is asked for, by ascending address. -/
structure MintRequest where
  positionManager : Address
  token0 : Address
  token1 : Address
  fee : FeeTier
  tickLower : Int
  tickUpper : Int
  amount0Desired : Nat
  amount1Desired : Nat
  amount0Min : Nat
  amount1Min : Nat
  recipient : Address
  /-- The time after which the mint reverts, in seconds of the epoch. -/
  deadline : Nat
deriving DecidableEq

/-- What a confirmed mint reports. -/
structure MintReceipt where
  txHash : TxHash
  tokenId : Nat
  liquidity : Nat
  amount0 : Nat
  amount1 : Nat
deriving DecidableEq

/-! ## Actions -/

/-- A piece of work in progress: the chain, the clock, and the journal so far. -/
structure Session (σ : Type) where
  chain : σ
  /-- The reading of the clock, in seconds of the epoch. -/
  now : Int
  journal : List Entry

/-- Work on a session that may fail. -/
abbrev Action (σ : Type) := ExceptT Failure (StateM (Session σ))

namespace Action

variable {σ α β : Type}

/-- What an action comes to in a session, and the session it leaves. -/
def run (action : Action σ α) (session : Session σ) : Except Failure α × Session σ :=
  (StateT.run (ExceptT.run action) session).run

/-- Adds a line to the journal. -/
def write (level : Level) (text : String) : Action σ Unit :=
  modify fun session => { session with journal := session.journal ++ [⟨level, text⟩] }

/-- Adds a line about what has been done. -/
def info (text : String) : Action σ Unit := write .info text

/-- Adds a line about how it is done. -/
def debug (text : String) : Action σ Unit := write .debug text

/-- The chain as it is now. -/
def chain : Action σ σ := do return (← get).chain

/-- Changes the chain. -/
def change (f : σ → σ) : Action σ Unit :=
  modify fun session => { session with chain := f session.chain }

/-- Fails, because a rule of the work is broken. -/
def refuse (message : String) : Action σ α := throw (.refusal message)

/-- The result of a calculation. -/
def calculate (result : Except Fault α) : Action σ α :=
  match result with
  | .ok a => pure a
  | .error fault => throw (.ofFault fault)

/-- An action as a part of some work, which is named when it fails. -/
def within (context : String) (action : Action σ α) : Action σ α :=
  action.adapt (Failure.within context)

/-! ## What actions come to -/

@[simp] theorem run_pure (a : α) (session : Session σ) :
    (pure a : Action σ α).run session = (.ok a, session) := rfl

@[simp] theorem run_throw (failure : Failure) (session : Session σ) :
    (throw failure : Action σ α).run session = (.error failure, session) := rfl

/-- What follows is run in the session that its first part leaves, unless that fails. -/
theorem run_bind (first : Action σ α) (next : α → Action σ β) (session : Session σ) :
    (first >>= next).run session = match first.run session with
      | (.ok a, later) => (next a).run later
      | (.error failure, later) => (.error failure, later) := by
  change Id.run (ExceptT.bindCont next (first.run session).1 (first.run session).2) = _
  rcases first.run session with ⟨_ | _, later⟩ <;> rfl

theorem run_bind_of_ok {first : Action σ α} {next : α → Action σ β} {session later : Session σ}
    {a : α} (h : first.run session = (.ok a, later)) :
    (first >>= next).run session = (next a).run later := by
  rw [run_bind, h]

theorem run_bind_of_error {first : Action σ α} {next : α → Action σ β}
    {session later : Session σ} {failure : Failure}
    (h : first.run session = (.error failure, later)) :
    (first >>= next).run session = (.error failure, later) := by
  rw [run_bind, h]

/-- Work in two parts succeeds when both do. -/
theorem run_bind_eq_ok_iff {first : Action σ α} {next : α → Action σ β}
    {session last : Session σ} {b : β} :
    (first >>= next).run session = (.ok b, last) ↔
      ∃ a later, first.run session = (.ok a, later) ∧ (next a).run later = (.ok b, last) := by
  rw [run_bind]
  rcases first.run session with ⟨_ | a, later⟩
  · simp
  · simp [and_assoc]

@[simp] theorem run_get (session : Session σ) :
    (get : Action σ (Session σ)).run session = (.ok session, session) := rfl

@[simp] theorem run_chain (session : Session σ) :
    (chain : Action σ σ).run session = (.ok session.chain, session) := rfl

@[simp] theorem run_change (f : σ → σ) (session : Session σ) :
    (change f).run session = (.ok (), { session with chain := f session.chain }) := rfl

@[simp] theorem run_write (level : Level) (text : String) (session : Session σ) :
    (write level text).run session =
      (.ok (), { session with journal := session.journal ++ [⟨level, text⟩] }) := rfl

@[simp] theorem run_info (text : String) (session : Session σ) :
    (info text).run session =
      (.ok (), { session with journal := session.journal ++ [⟨.info, text⟩] }) := rfl

@[simp] theorem run_debug (text : String) (session : Session σ) :
    (debug text).run session =
      (.ok (), { session with journal := session.journal ++ [⟨.debug, text⟩] }) := rfl

@[simp] theorem run_refuse (message : String) (session : Session σ) :
    (refuse message : Action σ α).run session = (.error (.refusal message), session) := rfl

@[simp] theorem run_calculate (result : Except Fault α) (session : Session σ) :
    (calculate result).run session = (result.mapError Failure.ofFault, session) := by
  cases result <;> rfl

@[simp] theorem run_within (context : String) (action : Action σ α) (session : Session σ) :
    (action.within context).run session =
      ((action.run session).1.mapError (Failure.within context), (action.run session).2) := by
  rfl

end Action

/-! ## The calls of a chain -/

/-- A chain as seen by the provisioner, with a state of type `σ`. -/
class Chain (σ : Type) where
  /-- The account that sends transactions. -/
  owner : σ → Address
  /-- The id of the connected chain. -/
  chainId : Action σ Nat
  /-- What a token contract says about itself. -/
  token (token : Address) : Action σ Token
  /-- The pool of a pair and fee, if the factory has one. -/
  poolAddress (factory token0 token1 : Address) (fee : FeeTier) : Action σ (Option Address)
  /-- The state of a pool. -/
  poolState (pool : Address) : Action σ Pool
  /-- Creates a pool unless there is one, gives it a price unless it has one, and answers its
  address. -/
  createAndInitializePool (positionManager token0 token1 : Address) (fee : FeeTier)
    (sqrtPrice : Nat) : Action σ Address
  /-- How much of a token the owner lets a spender take. -/
  allowance (token owner spender : Address) : Action σ Nat
  /-- Lets a spender take an amount of a token. -/
  approve (token spender : Address) (amount : Nat) : Action σ TxHash
  /-- Mints a position. -/
  mint (request : MintRequest) : Action σ MintReceipt

end Tickwise

import Tickwise.Provision.Provisioner

/-!
# Running a batch

The requests of a batch are provisioned in order, up to the first that fails. What was
provisioned before it stays; what comes after it is not attempted.

* `Provisioner.provisionBatch` — the run of a batch;
* `BatchOutcome.result` — its outcomes, or the failure that stopped it.
-/

namespace Tickwise

/-- What a run of a batch came to. -/
structure BatchOutcome where
  /-- The outcomes of the pools that were provisioned, in order. -/
  completed : List Outcome
  /-- What was reported as each pool was finished: its place in the batch, and its outcome. -/
  reported : List (Nat × Outcome)
  /-- The place of the request that failed, if one did, and its failure. -/
  failure : Option (Nat × Failure)
deriving DecidableEq

namespace BatchOutcome

/-- A run of no requests. -/
def none : BatchOutcome := ⟨[], [], .none⟩

/-- A run that is stopped at its first request. -/
def stopped (index : Nat) (failure : Failure) : BatchOutcome := ⟨[], [], some (index, failure)⟩

/-- A run that begins with a request that is provisioned. -/
def cons (index : Nat) (outcome : Outcome) (later : BatchOutcome) : BatchOutcome :=
  ⟨outcome :: later.completed, (index, outcome) :: later.reported, later.failure⟩

/-- The outcomes of a run, or the failure that stopped it. -/
def result (run : BatchOutcome) : Except Failure (List Outcome) :=
  match run.failure with
  | .none => .ok run.completed
  | some (index, failure) => .error <| failure.within <|
    s!"batch stopped at pool #{index} after {run.completed.length} completed"

end BatchOutcome

namespace Provisioner

variable {σ : Type} [Chain σ]

/-- Notes a failure that stops a batch. -/
def noteStop (index remaining : Nat) (failure : Failure) : Session σ → Session σ :=
  fun session =>
    let text := s!"provision::pool: Pool #{index} failed, " ++
      s!"skipping the remaining {remaining}: {failure.line}"
    { session with journal := session.journal ++ [⟨.error, text⟩] }

/-- Provisions the requests from a place in a batch onwards. -/
def provisionFrom (p : Provisioner) : (index : Nat) → List PoolRequest → Session σ →
    BatchOutcome × Session σ
  | _, [], session => (.none, session)
  | index, request :: rest, session =>
    match (p.provision request : Action σ Outcome).run session with
    | (.ok outcome, later) =>
      let (run, last) := p.provisionFrom (index + 1) rest later
      (run.cons index outcome, last)
    | (.error failure, later) => (.stopped index failure, noteStop index rest.length failure later)

/-- Provisions requests in order, up to the first that fails. -/
def provisionBatch (p : Provisioner) (requests : List PoolRequest) (session : Session σ) :
    BatchOutcome × Session σ :=
  p.provisionFrom 0 requests session

/-! ## Laws -/

@[simp] theorem provisionFrom_nil (p : Provisioner) (index : Nat) (session : Session σ) :
    p.provisionFrom index [] session = (.none, session) := rfl

/-- A request that is provisioned is followed by the rest of the batch. -/
theorem provisionFrom_cons_of_ok {p : Provisioner} {index : Nat} {request : PoolRequest}
    {rest : List PoolRequest} {session later : Session σ} {outcome : Outcome}
    (h : (p.provision request : Action σ Outcome).run session = (.ok outcome, later)) :
    p.provisionFrom index (request :: rest) session =
      ((p.provisionFrom (index + 1) rest later).1.cons index outcome,
        (p.provisionFrom (index + 1) rest later).2) := by
  rw [provisionFrom, h]

/-- A request that fails ends the run. -/
theorem provisionFrom_cons_of_error {p : Provisioner} {index : Nat} {request : PoolRequest}
    {rest : List PoolRequest} {session later : Session σ} {failure : Failure}
    (h : (p.provision request : Action σ Outcome).run session = (.error failure, later)) :
    p.provisionFrom index (request :: rest) session =
      (.stopped index failure, noteStop index rest.length failure later) := by
  rw [provisionFrom, h]

end Provisioner

end Tickwise

import Tickwise.Proofs.Provision.Campaign

/-!
# A batch is provisioned in turn

The requests of a batch are provisioned one after the other, up to the first that fails.  So a
batch can be split anywhere: it comes to what its first part comes to and, unless that was
stopped, its second part from there.

* `BatchOutcome.append`, `BatchOutcome.shift` — runs one after the other, and one that begins later;
* `provisionInTwo` — a batch, and another one unless the first was stopped;
* `InTurn` — requests that are all provisioned, one after the other;
* `FailFast` — what a run has to do with provisioning in turn;
* `provisionBatch_append`, `failFast_provisionFrom` — a batch in two parts, and what it comes to;
* `batch_is_failFast_sequence` — both, with the result of the batch.
-/

namespace Tickwise

/-! ## Runs in parts -/

namespace BatchOutcome

/-- A run that goes on after another one. -/
def append (first second : BatchOutcome) : BatchOutcome :=
  ⟨first.completed ++ second.completed, first.reported ++ second.reported, second.failure⟩

/-- A run whose requests stand further behind in the batch. -/
def shift (places : ℕ) (run : BatchOutcome) : BatchOutcome where
  completed := run.completed
  reported := run.reported.map (Prod.map (places + ·) id)
  failure := run.failure.map (Prod.map (places + ·) id)

@[simp] theorem shift_stopped (places index : ℕ) (failure : Failure) :
    (stopped index failure).shift places = stopped (places + index) failure := rfl

theorem shift_cons (places index : ℕ) (outcome : Outcome) (run : BatchOutcome) :
    (run.cons index outcome).shift places =
      (run.shift places).cons (places + index) outcome := rfl

/-- The result of a run is an error when there is a failure, and only then. -/
theorem isOk_result (run : BatchOutcome) : run.result.isOk = run.failure.isNone := by
  unfold result
  cases run.failure <;> rfl

end BatchOutcome

/-- A session but for what it has written in the journal. -/
def Session.unwritten {σ : Type} (session : Session σ) : Session σ := { session with journal := [] }

namespace Provisioner

section Split

variable {σ : Type}

@[simp] theorem unwritten_noteStop (index remaining : ℕ) (failure : Failure)
    (session : Session σ) :
    (noteStop index remaining failure session).unwritten = session.unwritten := rfl

variable [Chain σ] {p : Provisioner}

/-- A batch and, unless it is stopped, another one whose requests stand behind those of the
first. -/
def provisionInTwo (p : Provisioner) (requests more : List PoolRequest) (session : Session σ) :
    BatchOutcome × Session σ :=
  let (first, middle) := p.provisionBatch requests session
  match first.failure with
  | none =>
    let (second, last) := p.provisionBatch more middle
    (first.append (second.shift requests.length), last)
  | some _ => (first, middle)

/-- Where a run stands in a batch shows in the places that it reports, and in the journal. -/
theorem provisionFrom_add (places index : ℕ) (requests : List PoolRequest) (session : Session σ) :
    (p.provisionFrom (places + index) requests session).map id Session.unwritten =
      (p.provisionFrom index requests session).map (BatchOutcome.shift places)
        Session.unwritten := by
  induction requests generalizing index session with
  | nil => rfl
  | cons request rest ih =>
    rcases hrun : (p.provision request : Action σ Outcome).run session with
      ⟨failure | outcome, later⟩
    · rw [provisionFrom_cons_of_error hrun, provisionFrom_cons_of_error hrun]
      simp
    · rw [provisionFrom_cons_of_ok hrun, provisionFrom_cons_of_ok hrun]
      obtain ⟨houtcome, hlast⟩ := Prod.mk.inj (ih (index + 1) later)
      have hshifted : (p.provisionFrom (places + index + 1) rest later).1 =
          (p.provisionFrom (index + 1) rest later).1.shift places := houtcome
      refine Prod.ext ?_ hlast
      simp only [Prod.map_fst, id_eq, BatchOutcome.shift_cons, hshifted]

/-- A run that completes its requests is followed by one of those behind them. -/
theorem provisionFrom_append_of_complete {index : ℕ} {requests : List PoolRequest}
    {session middle : Session σ} {first : BatchOutcome} (more : List PoolRequest)
    (h : p.provisionFrom index requests session = (first, middle))
    (hcomplete : first.failure = none) :
    p.provisionFrom index (requests ++ more) session =
      (p.provisionFrom (index + requests.length) more middle).map first.append id := by
  induction requests generalizing index session first with
  | nil =>
    cases h
    rfl
  | cons request rest ih =>
    rcases hrun : (p.provision request : Action σ Outcome).run session with
      ⟨failure | outcome, later⟩
    · rw [provisionFrom_cons_of_error hrun] at h
      cases h
      cases hcomplete
    · rw [provisionFrom_cons_of_ok hrun] at h
      cases h
      have hplace : index + (request :: rest).length = index + 1 + rest.length := by
        rw [List.length_cons]
        omega
      rw [List.cons_append, provisionFrom_cons_of_ok hrun, ih rfl hcomplete, hplace]
      rfl

/-- A run that is stopped does not come to the requests behind: only its journal counts them. -/
theorem provisionFrom_append_of_failure {index : ℕ} {requests : List PoolRequest}
    {session middle : Session σ} {first : BatchOutcome} {stop : ℕ × Failure}
    (more : List PoolRequest) (h : p.provisionFrom index requests session = (first, middle))
    (hfailure : first.failure = some stop) :
    (p.provisionFrom index (requests ++ more) session).map id Session.unwritten =
      (first, middle.unwritten) := by
  induction requests generalizing index session first with
  | nil =>
    cases h
    cases hfailure
  | cons request rest ih =>
    rcases hrun : (p.provision request : Action σ Outcome).run session with
      ⟨failure | outcome, later⟩
    · rw [provisionFrom_cons_of_error hrun] at h
      cases h
      rw [List.cons_append, provisionFrom_cons_of_error hrun]
      simp
    · rw [provisionFrom_cons_of_ok hrun] at h
      cases h
      obtain ⟨houtcome, hlast⟩ := Prod.mk.inj (ih rfl hfailure)
      rw [List.cons_append, provisionFrom_cons_of_ok hrun]
      exact Prod.ext (congrArg (BatchOutcome.cons index outcome) houtcome) hlast

/-- **A batch can be split anywhere.**  It comes to the same as its two parts, the second of which
is left out when the first is stopped; only the line in the journal that says so is another. -/
theorem provisionBatch_append (p : Provisioner) (requests more : List PoolRequest)
    (session : Session σ) :
    (p.provisionBatch (requests ++ more) session).map id Session.unwritten =
      (p.provisionInTwo requests more session).map id Session.unwritten := by
  rcases hfirst : p.provisionBatch requests session with ⟨first, middle⟩
  cases hfailure : first.failure with
  | some stop =>
    have hwhole := provisionFrom_append_of_failure more hfirst hfailure
    have htwo : p.provisionInTwo requests more session = (first, middle) := by
      simp only [provisionInTwo, hfirst, hfailure]
    rw [htwo]
    exact hwhole
  | none =>
    have hwhole := provisionFrom_append_of_complete more hfirst hfailure
    have htwo : p.provisionInTwo requests more session =
        (p.provisionBatch more middle).map (fun run => first.append (run.shift requests.length))
          id := by
      simp only [provisionInTwo, hfirst, hfailure]
      rfl
    obtain ⟨houtcome, hlast⟩ := Prod.mk.inj
      (p.provisionFrom_add requests.length 0 more middle)
    rw [htwo, provisionBatch, hwhole, Nat.zero_add]
    refine Prod.ext ?_ hlast
    exact congrArg first.append houtcome

end Split

/-! ## Requests in turn -/

/-- Requests that are all provisioned, one after the other, with what each comes to. -/
inductive InTurn (p : Provisioner) : Session Ledger → List PoolRequest → List Outcome →
    Session Ledger → Prop
  | nil {session : Session Ledger} : InTurn p session [] [] session
  | cons {session later last : Session Ledger} {request : PoolRequest}
    {rest : List PoolRequest} {outcome : Outcome} {outcomes : List Outcome}
    (h : (p.provision request : Action Ledger Outcome).run session = (.ok outcome, later))
    (hrest : InTurn p later rest outcomes last) :
    InTurn p session (request :: rest) (outcome :: outcomes) last

/-- How a run ends after all that it has completed: there is nothing left, or the next request
fails, which is noted. -/
inductive Ends (p : Provisioner) (index : ℕ) (requests : List PoolRequest) (run : BatchOutcome)
    (before last : Session Ledger) : Prop
  | complete (hall : run.completed.length = requests.length) (hfailure : run.failure = none)
    (hlast : last = before)
  | stopped {request : PoolRequest} {failure : Failure} {later : Session Ledger}
    (hnext : requests[run.completed.length]? = some request)
    (hrun : (p.provision request : Action Ledger Outcome).run before = (.error failure, later))
    (hfailure : run.failure = some (index + run.completed.length, failure))
    (hlast : last =
      noteStop (index + run.completed.length) (requests.length - run.completed.length - 1)
        failure later)

/-- What a run of requests from a place in a batch on has to do with provisioning them in turn. -/
structure FailFast (p : Provisioner) (index : ℕ) (requests : List PoolRequest)
    (session : Session Ledger) (run : BatchOutcome) (last : Session Ledger) : Prop where
  /-- As many of the requests as there are outcomes are provisioned, from the first on. -/
  inTurn : ∃ before, InTurn p session (requests.take run.completed.length) run.completed before ∧
    Ends p index requests run before last
  /-- Their places are reported in order, with the outcomes. -/
  reported : run.reported = (List.range' index run.completed.length).zip run.completed
  /-- No request behind the one that fails is attempted. -/
  attempted : (p.attempts requests session).map Attempt.request =
    requests.take (run.completed.length + 1)
  /-- The calls of the attempts are all the calls that the chain receives. -/
  calls : last.chain.calls = session.chain.calls ++
    (p.attempts requests session).flatMap fun a => a.exchanges.map fun e => e.ask.call

variable {p : Provisioner} {index : ℕ} {request : PoolRequest} {rest : List PoolRequest}
  {session later last : Session Ledger}

/-- A run that begins with a request that is provisioned ends as the rest of it does. -/
theorem Ends.cons {run : BatchOutcome} {before : Session Ledger} (outcome : Outcome)
    (h : Ends p (index + 1) rest run before last) :
    Ends p index (request :: rest) (run.cons index outcome) before last := by
  have hplace : index + (run.completed.length + 1) = index + 1 + run.completed.length := by omega
  cases h with
  | complete hall hfailure hlast =>
    exact .complete (congrArg (· + 1) hall) hfailure hlast
  | stopped hnext hrun hfailure hlast =>
    refine .stopped ?_ hrun ?_ ?_
    · simpa [BatchOutcome.cons] using hnext
    · simpa [BatchOutcome.cons, hplace] using hfailure
    · simpa [BatchOutcome.cons, hplace] using hlast

/-- A run that is stopped at its first request. -/
theorem FailFast.stopped {failure : Failure} (index : ℕ) (rest : List PoolRequest)
    (hrun : (p.provision request : Action Ledger Outcome).run session = (.error failure, later)) :
    FailFast p index (request :: rest) session (.stopped index failure)
      (noteStop index rest.length failure later) where
  inTurn := ⟨session, .nil, .stopped rfl hrun rfl rfl⟩
  reported := rfl
  attempted := by
    rw [attempts, hrun]
    rfl
  calls := by
    have hcalls := (linked_attempt hrun).calls
    rw [attempts, hrun, List.flatMap_singleton]
    exact hcalls

/-- A run that begins with a request that is provisioned. -/
theorem FailFast.cons {outcome : Outcome} {run : BatchOutcome}
    (hrun : (p.provision request : Action Ledger Outcome).run session = (.ok outcome, later))
    (h : FailFast p (index + 1) rest later run last) :
    FailFast p index (request :: rest) session (run.cons index outcome) last where
  inTurn := by
    obtain ⟨before, hturn, hends⟩ := h.inTurn
    exact ⟨before, .cons hrun hturn, hends.cons outcome⟩
  reported := by
    simp [BatchOutcome.cons, h.reported, List.range'_succ]
  attempted := by
    rw [attempts, hrun]
    simpa [BatchOutcome.cons, attempt] using h.attempted
  calls := by
    have hcalls := (linked_attempt hrun).calls
    rw [attempts, hrun, List.flatMap_cons, ← List.append_assoc, ← hcalls]
    exact h.calls

/-- **A run is the sequence of its requests, up to the first that fails.** -/
theorem failFast_provisionFrom (p : Provisioner) (index : ℕ) (requests : List PoolRequest)
    (session : Session Ledger) :
    FailFast p index requests session (p.provisionFrom index requests session).1
      (p.provisionFrom index requests session).2 := by
  induction requests generalizing index session with
  | nil =>
    refine ⟨⟨session, .nil, .complete rfl rfl rfl⟩, rfl, rfl, ?_⟩
    exact (List.append_nil _).symm
  | cons request rest ih =>
    rcases hrun : (p.provision request : Action Ledger Outcome).run session with
      ⟨failure | outcome, later⟩
    · rw [provisionFrom_cons_of_error hrun]
      exact .stopped index rest hrun
    · rw [provisionFrom_cons_of_ok hrun]
      exact .cons hrun (ih (index + 1) later)

/-- **A batch is the fail-fast sequence of its requests, and can be split anywhere.**  It comes to
the same as its two parts, wherever it is split.  The outcomes are those of its first requests,
provisioned one after the other from the ledger it starts with; they are reported in order, as each
is finished.  Then either all requests are provisioned, or the next one fails and its place and its
failure are those of the batch; the chain is not asked anything for the requests behind it.  The
result is an error exactly when there is a failure. -/
theorem batch_is_failFast_sequence (p : Provisioner) (requests more : List PoolRequest)
    (session : Session Ledger) :
    (p.provisionBatch (requests ++ more) session).map id Session.unwritten =
        (p.provisionInTwo requests more session).map id Session.unwritten ∧
      FailFast p 0 requests session (p.provisionBatch requests session).1
        (p.provisionBatch requests session).2 ∧
      (p.provisionBatch requests session).1.result.isOk =
        (p.provisionBatch requests session).1.failure.isNone :=
  ⟨p.provisionBatch_append requests more session, p.failFast_provisionFrom 0 requests session,
    BatchOutcome.isOk_result _⟩

/-- The second of three mints fails: the first pool is reported, and the third request is not
attempted. -/
example : (fun run : BatchOutcome × Session Ledger =>
    (run.1.reported.map Prod.fst, run.1.failure.map Prod.fst, run.2.chain.count .mint))
      (sample.provisionBatch (List.replicate 3 (sampleRequest "1"))
        ⟨sampleLedger.failOn .mint 2, 0, []⟩) = ([0], some 1, 2) := by
  decide +kernel

end Provisioner

end Tickwise

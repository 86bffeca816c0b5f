import Tickwise.Proofs.Provision.Protocol

/-!
# What the chain is asked for it can do

A chain in memory refuses a pool of tokens out of order, a price without a tick, the state of a
pool that is not there, and a mint that its allowances do not cover or that asks for more than it
gives.  A provision never asks for any of that, and so its calls fail only where a failure was
scheduled or a token is not known.  And when it has come to a position, it fails with its calls
alone.

* `CallFailed` — whether work failed because its last call did;
* `Deposited.not_spared`, `Course.not_spared` — behind a failure there is a scheduled one;
* `provision_preconditions` — what every call of a provision has, and what its failures come from.
-/

namespace Tickwise

/-- Whether work failed because its last call did. -/
def CallFailed (exchanges : List Exchange) (failure : Failure) : Prop :=
  ∃ earlier e called, exchanges = earlier ++ [e] ∧ e.failure? = some called ∧
    failure.cause = called.cause

/-- Work that a scheduled failure fell on failed with its last call. -/
theorem Conversation.callFailed {α : Type} {before after : Ledger} {exchanges : List Exchange}
    {failure : Failure} (h : Conversation before exchanges (.error failure : Except Failure α) after)
    (hstruck : ¬ before.Spared after) : CallFailed exchanges failure := by
  unfold Ledger.Spared at hstruck
  push Not at hstruck
  obtain ⟨calls, hcalls, hstruck⟩ := hstruck
  rw [h.linked.calls] at hcalls
  obtain rfl := List.append_cancel_left hcalls
  obtain ⟨e, he, hfailed⟩ := h.linked.exists_failure hstruck
  obtain ⟨called, hcalled⟩ := Option.isSome_iff_exists.1 (Option.isSome_iff_ne_none.2 hfailed)
  obtain ⟨earlier, later, rfl⟩ := List.append_of_mem he
  obtain ⟨rfl, last, hlast, hcause⟩ := h.stops earlier e later called rfl hcalled
  cases hlast
  exact ⟨earlier, e, called, rfl, hcalled, hcause⟩

namespace Provisioner

variable {p : Provisioner} {request : PoolRequest} {plan : Plan} {pool : Pool} {manager : Address}
  {position : Position} {before opened after : Ledger} {now : ℤ} {failure : Failure}

/-! ## Behind a failure -/

/-- Behind a failure of a deposit that was sized there is a scheduled one, unless the clock stands
before the epoch. -/
theorem Deposited.not_spared
    (h : Deposited p pool manager position before now (.error failure) after) (hclock : 0 ≤ now) :
    ¬ before.Spared after := by
  intro hspared
  obtain ⟨calls, ⟨-, hstruck | hbefore, count, -, rfl⟩ | ⟨deadline, hok, -⟩⟩ := h
  · refine hspared calls ?_ hstruck
    obtain ⟨_, _, heq⟩ := Ledger.grantedTo_eq manager position count before
    rw [heq]
    rfl
  · exact absurd hclock (not_le.2 hbefore)
  · cases hok

/-- Behind a failure of a request that comes to a position there is a scheduled one, unless the
clock stands before the epoch. -/
theorem Course.not_spared (h : Course p request before now (.error failure) after)
    (htarget : Target p request before plan manager opened pool position) (hclock : 0 ≤ now) :
    ¬ before.Spared after := by
  intro hspared
  cases h with
  | @halted _ calls hwhy =>
    rcases hwhy with ⟨-, hstruck⟩ | hnot
    · exact hspared calls rfl hstruck
    · exact hnot plan manager htarget.ready
  | @unread _ _ _ _ calls _ _ _ _ hstruck => exact hspared calls rfl hstruck
  | unsized hready hopened hsized =>
    obtain ⟨rfl, -⟩ := hready.unique htarget.ready
    obtain ⟨-, rfl⟩ := hopened.unique htarget.opens
    rw [htarget.sized] at hsized
    cases hsized
  | sized hready hopened hsized hdeposited =>
    -- opening a pool is neither a call nor a failure that is scheduled
    refine hdeposited.not_spared hclock ?_
    cases hopened with
    | found => exact hspared
    | created => exact hspared

/-! ## The preconditions -/

/-- **The preconditions of a provision.**  Every call takes place with what it needs, so that it
fails only where a failure was scheduled or a token is not known.  With a clock past the epoch, a
provision that can come to a position fails only with its last call, and so does the deposit of
any position that was sized. -/
theorem provision_preconditions (p : Provisioner) (request : PoolRequest)
    (session : Session Ledger) :
    Linked session.chain (said (p.provision request) session)
        ((p.provision request : Action Ledger Outcome).run session).2.chain ∧
      (∀ e ∈ said (p.provision request) session, e.ask.Met e.before ∧
        (e.failure? ≠ none → e.before.Strikes e.ask.call ∨
          ∃ address, e.ask = .token address ∧ Table.get? address e.before.tokens = none)) ∧
      (0 ≤ session.now → ∀ plan manager opened pool position,
        Target p request session.chain plan manager opened pool position →
        ∀ failure later,
          (p.provision request : Action Ledger Outcome).run session = (.error failure, later) →
          CallFailed (said (p.provision request) session) failure) ∧
      (0 ≤ session.now → ∀ plan pool manager position,
        p.deployment.resolve .positionManager = .ok manager →
        sizePosition (p.sizingRequest plan pool) = .ok position →
        ∀ failure later,
          (p.advance plan (.initialized pool) : Action Ledger Progress).run session =
            (.error failure, later) →
          CallFailed (said (p.advance plan (.initialized pool)) session) failure) := by
  have hsaid := (p.follows_provision request).conversation_said session
  refine ⟨hsaid.linked, fun e he => ?_, ?_, ?_⟩
  · have hmet := (provides_of_mem_said he).1
    refine ⟨hmet, fun hfailed => ?_⟩
    obtain ⟨failure, hfailure⟩ :=
      Option.isSome_iff_exists.1 (Option.isSome_iff_ne_none.2 hfailed)
    exact (hsaid.linked.held e he).failure_cases hmet hfailure
  · intro hclock plan manager opened pool position htarget failure later hrun
    rw [hrun] at hsaid
    exact hsaid.callFailed ((run_provision hrun).not_spared htarget hclock)
  · intro hclock plan pool manager position hmanager hsized failure later hrun
    have hstep := (p.follows_advance plan (.initialized pool)).conversation_said session
    rw [hrun] at hstep
    obtain ⟨inner, last, hadd, hrest⟩ := Action.run_bind_cases hrun
    cases inner with
    | ok outcome => cases hrest
    | error cause =>
      cases hrest
      obtain ⟨fault, _, hno, -⟩ | ⟨position', -, hdeposited⟩ :=
        run_addLiquidity_cases hmanager hadd
      · rw [hsized] at hno
        cases hno
      · exact hstep.callFailed (hdeposited.not_spared hclock)

/-- The sample request fails with its first approval because that was scheduled. -/
theorem provision_preconditions_sample :
    ∃ e ∈ said (sample.provision (sampleRequest "1000000"))
        ⟨sampleLedger.failOn .approve 1, 0, []⟩,
      e.failure? ≠ none ∧ e.before.Strikes .approve := by
  have hlast : ((said (sample.provision (sampleRequest "1000000"))
      ⟨sampleLedger.failOn .approve 1, 0, []⟩).getLast?.map
        fun e => (e.ask.call, e.failure?.isSome)) = some (.approve, true) := by
    decide +kernel
  obtain ⟨e, hlast, hcall⟩ := Option.map_eq_some_iff.1 hlast
  obtain ⟨happrove, hfailed⟩ := Prod.mk.inj hcall
  have he := List.mem_of_getLast? hlast
  have hfailed : e.failure? ≠ none := Option.isSome_iff_ne_none.1 hfailed
  obtain ⟨-, hcalls, -⟩ := provision_preconditions sample (sampleRequest "1000000")
    ⟨sampleLedger.failOn .approve 1, 0, []⟩
  obtain hstrikes | ⟨address, hask, -⟩ := (hcalls e he).2 hfailed
  · rw [happrove] at hstrikes
    exact ⟨e, he, hfailed, hstrikes⟩
  · rw [hask] at happrove
    cases happrove

end Provisioner

end Tickwise

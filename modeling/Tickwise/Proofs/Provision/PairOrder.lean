import Tickwise.Proofs.Provision.Protocol

/-!
# The order in which a pair is given

A request names its two tokens in any order, each with its reserve.  The check of a request sorts
them before anything else is done, so that from there on nothing depends on the order: the same is
asked of the chain and the same comes of it, whatever the chain.

* `checkRequest_swap` — the check of a request does not depend on the order of its pair;
* `run_provision_swap` — neither does a provision, on any chain;
* `provision_swap` — a provision on a chain in memory, with all that it says.
-/

namespace Tickwise

namespace Provisioner

/-- The pair is sorted by its addresses, and each reserve stays with its token. -/
theorem checkRequest_swap (request : PoolRequest) :
    checkRequest request.swap = checkRequest request := by
  change (do
    let fee ← FeeTier.ofFee request.fee
    let reserves ← OrderedPair.of request.tokenB request.reserveB request.tokenA request.reserveA
    let _ ← reserves.sideOf request.inputToken
    return (fee, reserves)) = checkRequest request
  rw [OrderedPair.of_comm]
  rfl

section AnyChain

variable {σ : Type} [Chain σ] {request : PoolRequest}

/-- A request that passes the check has the same plan in both orders. -/
theorem run_plan_swap {checked : FeeTier × OrderedPair String}
    (hcheck : checkRequest request = .ok checked) (session : Session σ) :
    (Provisioner.plan request.swap : Action σ Plan).run session =
      (Provisioner.plan request : Action σ Plan).run session := by
  rw [Provisioner.plan, Provisioner.plan, Action.run_bind, Action.run_bind, Action.run_within,
    Action.run_within, Action.run_calculate, Action.run_calculate, checkRequest_swap, hcheck]
  rfl

/-- What a provision comes to, and the session it leaves, do not depend on the order in which the
pair is given.  Only the message of a request that is refused as it stands names the pair in that
order, and the cause below it is the same. -/
theorem run_provision_swap (p : Provisioner) (request : PoolRequest) (session : Session σ) :
    ((p.provision request.swap : Action σ Outcome).run session).2 =
        ((p.provision request : Action σ Outcome).run session).2 ∧
      ((p.provision request.swap : Action σ Outcome).run session).1.mapError Failure.cause =
        ((p.provision request : Action σ Outcome).run session).1.mapError Failure.cause := by
  cases hcheck : checkRequest request with
  | error fault =>
    obtain ⟨failure, hrun, hcause⟩ := run_provision_of_checkRequest p session hcheck
    obtain ⟨failure', hrun', hcause'⟩ := run_provision_of_checkRequest p session
      ((checkRequest_swap request).trans hcheck)
    rw [hrun, hrun']
    refine ⟨rfl, ?_⟩
    change Except.error failure'.cause = Except.error failure.cause
    rw [hcause, hcause']
  | ok checked =>
    have hsame : (p.provision request.swap : Action σ Outcome).run session =
        (p.provision request : Action σ Outcome).run session := by
      rw [provision, provision, Action.run_bind, Action.run_bind, run_plan_swap hcheck]
    rw [hsame]
    exact ⟨rfl, rfl⟩

end AnyChain

/-- **The order in which a pair is given is irrelevant.**  Exchanging the two tokens of a request,
each with its reserve, changes nothing that is said to the chain and nothing in the ledger, the
journal and the clock that are left.  The outcome is the same one, and a failure has the same
cause. -/
theorem provision_swap (p : Provisioner) (request : PoolRequest) (session : Session Ledger) :
    said (p.provision request.swap) session = said (p.provision request) session ∧
      ((p.provision request.swap : Action Ledger Outcome).run session).2 =
        ((p.provision request : Action Ledger Outcome).run session).2 ∧
      ((p.provision request.swap : Action Ledger Outcome).run session).1.mapError Failure.cause =
        ((p.provision request : Action Ledger Outcome).run session).1.mapError Failure.cause := by
  refine ⟨?_, p.run_provision_swap request session⟩
  -- what is said is kept in the watched chain that is left
  rw [said, said, (p.run_provision_swap request session.watched).1]

end Provisioner

end Tickwise

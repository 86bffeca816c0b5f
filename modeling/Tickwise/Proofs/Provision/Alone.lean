import Tickwise.Proofs.Provision.Clock
import Tickwise.Proofs.Provision.Frame
import Tickwise.Proofs.Provision.Resume

/-!
# What a request comes to alone

Where no call is made to fail, a request comes to what its tokens, its pool and the chain say.  It
makes no difference which other pools there are and what is allowed, but for the numbers that are
given out in order: the address of a pool that is created, and the number of a mint.

* `Outcome.unnumbered` — an outcome without these numbers;
* `sizePosition_of_unplaced` — a position does not depend on the address of its pool;
* `Feasible.transfer` — a deposit that can be sized from one ledger can be sized from another;
* `alone`, `run_ok_iff` — what a request comes to by itself, and when it succeeds;
* `alone_congr` — which ledgers it is the same on.
-/

namespace Tickwise

theorem Table.length_put_le {κ α : Type} [DecidableEq κ] (key : κ) (a : α) (table : Table κ α) :
    (put key a table).length ≤ table.length + 1 := by
  have hkeys := congrArg List.length (keys_put key a table)
  split at hkeys
  · simp only [List.length_map] at hkeys
    omega
  · simp only [List.length_map, List.length_append, List.length_singleton] at hkeys
    omega

/-! ## Without numbers -/

/-- A pool without its address. -/
def Pool.unplaced (pool : Pool) : Pool := { pool with address := .zero }

/-- A position without the address of its pool. -/
def Position.unplaced (position : Position) : Position := { position with pool := .zero }

/-- What a mint reports, without its number and its hash. -/
def MintReceipt.unnumbered (receipt : MintReceipt) : MintReceipt :=
  { receipt with txHash := ⟨0⟩, tokenId := 0 }

/-- An outcome without what depends on how many pools and mints there were before. -/
def Outcome.unnumbered (outcome : Outcome) : Outcome :=
  ⟨outcome.pool.unplaced, outcome.position.unplaced, outcome.receipt.unnumbered⟩

/-- Pools that differ in their addresses only. -/
theorem Pool.eq_of_unplaced_eq {a b : Pool} (h : a.unplaced = b.unplaced) :
    b = { a with address := b.address } := by
  cases a
  cases b
  injection h with _ htick hspacing hfee hprice hliquidity
  subst htick hspacing hfee hprice hliquidity
  rfl

/-- A position does not depend on the address of its pool. -/
theorem sizePosition_of_unplaced {request : SizingRequest} {position : Position} {pool : Pool}
    (hpool : request.pool.unplaced = pool.unplaced) (h : sizePosition request = .ok position) :
    sizePosition { request with pool } = .ok { position with pool := pool.address } := by
  rw [Pool.eq_of_unplaced_eq hpool]
  obtain ⟨fee, pair, side, range, amount, liquidity, amounts, hfee, hpair, hside, hrange, hamount,
    hliquidity, hlimit, hamounts, rfl⟩ := sizePosition_eq_ok_iff.1 h
  refine sizePosition_eq_ok_iff.2 ⟨fee, pair, side, range, amount, liquidity, amounts, ?_⟩
  exact ⟨hfee, hpair, hside, hrange, hamount, hliquidity, hlimit, hamounts, rfl⟩

namespace Provisioner

variable {p : Provisioner} {request : PoolRequest} {plan : Plan} {pool : Pool}

/-! ## The pool that is opened -/

section Opened

variable {before opened : Ledger} {tick : ℤ}

theorem Opened.length_pools_le (h : Opened plan before opened pool) :
    opened.pools.length ≤ before.pools.length + 1 := by
  cases h with
  | found => exact Nat.le_succ _
  | created => exact Table.length_put_le _ _ _

/-- A plan opens a pool from any ledger. -/
theorem exists_opened (before : Ledger) (htick : tickAtSqrtRatio plan.sqrtPrice = .ok tick) :
    ∃ opened pool, Opened plan before opened pool := by
  rcases Ledger.standing_cases plan.key before with hstanding | ⟨_, found, -, -, -, hstanding⟩
  · obtain ⟨found, hat⟩ := Ledger.exists_poolAt?_priced
    exact ⟨_, found, .created hstanding htick hat⟩
  · exact ⟨before, found, .found hstanding⟩

/-- The pool that is opened is the one that its key gets, unless it has it already. -/
theorem Opened.eq_pricedPool (h : Opened plan before opened pool) (hdistinct : opened.Distinct)
    (htick : tickAtSqrtRatio plan.sqrtPrice = .ok tick) (hprice : plan.sqrtPrice ≠ 0) :
    pool = before.pricedPool plan.key tick plan.sqrtPrice := by
  have hsettled := h.settled hdistinct hprice
  cases h with
  | found =>
    have hcreated : before.createdPool plan.key = pool := by
      rw [Ledger.createdPool, hsettled.1, Option.getD_some]
    rw [Ledger.pricedPool, hcreated, if_pos (Pool.isInitialized_iff.2 hsettled.2)]
  | created _ htick' =>
    obtain rfl := Except.ok.inj (htick.symm.trans htick')
    exact Option.some.inj (hsettled.1.symm.trans Ledger.get?_pools_priced)

/-- But for its address, the pool that a key gets depends on the one that it has. -/
theorem unplaced_pricedPool_congr {a b : Ledger} {key : PoolKey} {sqrtPrice : ℕ}
    (h : Table.get? key a.pools = Table.get? key b.pools) :
    (a.pricedPool key tick sqrtPrice).unplaced = (b.pricedPool key tick sqrtPrice).unplaced := by
  unfold Ledger.pricedPool Ledger.createdPool
  rw [h]
  cases Table.get? key b.pools with
  | none => rfl
  | some entry => rfl

end Opened

/-! ## A request by itself -/

/-- Whether no call is made to fail on a ledger, and its pools are numbered in order with a number
left for one more. -/
structure Undisturbed (ledger : Ledger) : Prop where
  quiet : ledger.failures = []
  numbered : ledger.Numbered
  few : ledger.pools.length < 96

section Feasible

variable {start other opened : Ledger} {manager : Address} {position : Position}

/-- A deposit that can be sized from one ledger can be sized from another one that knows the same
tokens and has the same pool for it; only the address of the pool may be another. -/
theorem Feasible.transfer (h : Feasible p request start plan manager opened pool position)
    (hother : Undisturbed other) (htokens : other.tokens = start.tokens)
    (hchainId : other.chainId = start.chainId)
    (hpool : Table.get? plan.key other.pools = Table.get? plan.key start.pools) :
    ∃ reopened found, pool.unplaced = found.unplaced ∧
      Feasible p request other plan manager reopened found
        { position with pool := found.address } := by
  have hinitializable := h.ready.planned.isInitializable
  have hprice : plan.sqrtPrice ≠ 0 := (pos_of_isInitializable hinitializable).ne'
  obtain ⟨tick, -, -, htick⟩ := exists_tickAtSqrtRatio hinitializable
  obtain ⟨reopened, found, hopens⟩ := exists_opened other htick
  have hfew : reopened.pools.length ≤ 96 := hopens.length_pools_le.trans hother.few
  have hunplaced : pool.unplaced = found.unplaced := by
    rw [h.opens.eq_pricedPool ((h.opens.numbered h.numbered).distinct h.few) htick hprice,
      hopens.eq_pricedPool ((hopens.numbered hother.numbered).distinct hfew) htick hprice]
    exact unplaced_pricedPool_congr hpool.symm
  have hsized := sizePosition_of_unplaced hunplaced h.sized
  exact ⟨reopened, found, hunplaced,
    ⟨h.ready.of_eq htokens hchainId, hopens, hsized, hother.numbered, hfew⟩⟩

end Feasible

/-- What a request comes to on a ledger by itself. -/
def alone (p : Provisioner) (ledger : Ledger) (request : PoolRequest) : Option Outcome :=
  match ((p.provision request : Action Ledger Outcome).run ⟨ledger, 0, []⟩).1 with
  | .ok outcome => some outcome.unnumbered
  | .error _ => none

section Alone

variable {session later : Session Ledger} {ledger other : Ledger} {outcome : Outcome}

theorem spared_of_failures_eq_nil {before : Ledger} (h : before.failures = []) (after : Ledger) :
    before.Spared after := by
  rintro calls - ⟨call, nth, hmem, -⟩
  rw [h] at hmem
  cases hmem

/-- Where no call is made to fail, a request succeeds if its deposit can be sized. -/
theorem run_of_feasible {plan : Plan} {manager : Address} {opened : Ledger} {position : Position}
    (h : Feasible p request session.chain plan manager opened pool position)
    (hquiet : session.chain.failures = []) (hclock : 0 ≤ session.now) :
    ∃ outcome later, (p.provision request : Action Ledger Outcome).run session =
      (.ok outcome, later) ∧
      outcome.unnumbered = Outcome.unnumbered
        ⟨pool, position, opened.receipt (p.mintAt manager position 0)⟩ := by
  rcases hrun : (p.provision request : Action Ledger Outcome).run session with ⟨result, later⟩
  have hstart : Underway session.chain opened manager position session.chain := .inl rfl
  obtain ⟨deadline, rfl, -⟩ := hstart.finish h hclock (run_provision hrun)
    (spared_of_failures_eq_nil hquiet _)
  exact ⟨_, later, rfl, rfl⟩

/-- What a request that succeeds has come through, with its outcome. -/
theorem feasible_of_run (hstart : Undisturbed session.chain)
    (h : (p.provision request : Action Ledger Outcome).run session = (.ok outcome, later)) :
    ∃ plan manager opened pool position,
      Feasible p request session.chain plan manager opened pool position ∧
      outcome.unnumbered = Outcome.unnumbered
        ⟨pool, position, opened.receipt (p.mintAt manager position 0)⟩ := by
  obtain ⟨plan, manager, opened, pool, position, deadline, hready, hopens, hsized, rfl, -⟩ :=
    (run_provision h).of_ok
  exact ⟨plan, manager, opened, pool, position,
    ⟨hready, hopens, hsized, hstart.numbered, hopens.length_pools_le.trans hstart.few⟩, rfl⟩

theorem alone_eq_some_iff (hledger : Undisturbed ledger) :
    p.alone ledger request = some outcome ↔
      ∃ plan manager opened pool position,
        Feasible p request ledger plan manager opened pool position ∧
        outcome = Outcome.unnumbered
          ⟨pool, position, opened.receipt (p.mintAt manager position 0)⟩ := by
  unfold alone
  constructor
  · intro h
    rcases hrun : (p.provision request : Action Ledger Outcome).run ⟨ledger, 0, []⟩ with
      ⟨failure | done, later⟩
    · rw [hrun] at h
      cases h
    · rw [hrun] at h
      cases h
      have hstart : Undisturbed (⟨ledger, 0, []⟩ : Session Ledger).chain := hledger
      exact feasible_of_run hstart hrun
  · rintro ⟨plan, manager, opened, pool, position, hfeasible, rfl⟩
    have hstart : Feasible p request (⟨ledger, 0, []⟩ : Session Ledger).chain plan manager opened
        pool position := hfeasible
    obtain ⟨done, later, hrun, hdone⟩ := run_of_feasible hstart hledger.quiet le_rfl
    rw [hrun, ← hdone]

/-- A request that succeeds comes to what it comes to by itself. -/
theorem alone_of_run (hstart : Undisturbed session.chain)
    (h : (p.provision request : Action Ledger Outcome).run session = (.ok outcome, later)) :
    p.alone session.chain request = some outcome.unnumbered :=
  (alone_eq_some_iff hstart).2 (feasible_of_run hstart h)

/-- **When a request succeeds**: it does so by itself, and not before the epoch. -/
theorem run_ok_iff (hstart : Undisturbed session.chain) :
    (∃ outcome later, (p.provision request : Action Ledger Outcome).run session =
        (.ok outcome, later)) ↔
      0 ≤ session.now ∧ (p.alone session.chain request).isSome := by
  constructor
  · rintro ⟨outcome, later, hrun⟩
    refine ⟨now_nonneg_of_run_provision hrun, ?_⟩
    rw [alone_of_run hstart hrun]
    rfl
  · rintro ⟨hclock, hsome⟩
    obtain ⟨outcome, halone⟩ := Option.isSome_iff_exists.1 hsome
    obtain ⟨plan, manager, opened, pool, position, hfeasible, -⟩ :=
      (alone_eq_some_iff hstart).1 halone
    obtain ⟨done, later, hrun, -⟩ := run_of_feasible hfeasible hstart.quiet hclock
    exact ⟨done, later, hrun⟩

theorem alone_transfer (hledger : Undisturbed ledger) (hother : Undisturbed other)
    (htokens : other.tokens = ledger.tokens) (hchainId : other.chainId = ledger.chainId)
    (hpools : ∀ key, request.Keyed key →
      Table.get? key other.pools = Table.get? key ledger.pools)
    (h : p.alone ledger request = some outcome) : p.alone other request = some outcome := by
  obtain ⟨plan, manager, opened, pool, position, hfeasible, rfl⟩ :=
    (alone_eq_some_iff hledger).1 h
  obtain ⟨reopened, found, hunplaced, hother'⟩ :=
    hfeasible.transfer hother htokens hchainId (hpools _ hfeasible.ready.planned.keyed)
  refine (alone_eq_some_iff hother).2
    ⟨plan, manager, reopened, found, _, hother', ?_⟩
  unfold Outcome.unnumbered
  rw [hunplaced]
  rfl

/-- **A request comes to the same on all ledgers that know the same tokens and have the same pool
for it.** -/
theorem alone_congr (hledger : Undisturbed ledger) (hother : Undisturbed other)
    (htokens : other.tokens = ledger.tokens) (hchainId : other.chainId = ledger.chainId)
    (hpools : ∀ key, request.Keyed key →
      Table.get? key other.pools = Table.get? key ledger.pools) :
    p.alone other request = p.alone ledger request := by
  refine Option.ext fun outcome => ⟨?_, ?_⟩
  · exact alone_transfer hother hledger htokens.symm hchainId.symm
      fun key hkeyed => (hpools key hkeyed).symm
  · exact alone_transfer hledger hother htokens hchainId hpools

end Alone

end Provisioner

end Tickwise

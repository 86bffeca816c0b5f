import Tickwise.Proofs.Provision.Alone
import Tickwise.Proofs.Provision.Campaign

/-!
# Independent requests

Requests for different pools have nothing in common but the allowances of their tokens, and the
numbers that pools and mints are given in order.  So each of them comes to what it comes to by
itself, a batch of them leaves what they leave together, and their order is irrelevant.

* `PoolRequest.pairAndFee` — what a request's pool is found by, in any order of its tokens;
* `Adds`, `adds_of_run` — what a request that succeeds adds to a ledger;
* `AddsAll`, `AddsAll.cons` — what requests add together, one after the other;
* `provisionFrom_independent` — a batch of requests for different pools;
* `independent_batch_commutes` — the order of such a batch.
-/

namespace Tickwise

namespace PoolRequest

/-- The two tokens of a request, in any order, and its fee. -/
def pairAndFee (request : PoolRequest) : Sym2 Address × ℕ :=
  (s(request.tokenA, request.tokenB), request.fee)

variable {request other : PoolRequest} {key key' : PoolKey}

theorem Keyed.pairAndFee_eq (h : request.Keyed key) :
    request.pairAndFee = (s(key.token0, key.token1), key.fee.fee) := by
  rw [pairAndFee, h.tokens, h.fee]

/-- A request has one pool. -/
theorem Keyed.unique (h : request.Keyed key) (h' : request.Keyed key') : key = key' := by
  have hsame := h.pairAndFee_eq.symm.trans h'.pairAndFee_eq
  obtain ⟨htokens, hfee⟩ := Prod.mk.inj hsame
  obtain ⟨token0, token1, fee⟩ := key
  obtain ⟨token0', token1', fee'⟩ := key'
  have hsorted : token0 < token1 := h.sorted
  have hsorted' : token0' < token1' := h'.sorted
  have htier : fee = fee' := by
    have hok : FeeTier.ofFee fee'.fee = .ok fee := FeeTier.ofFee_eq_ok_iff.2 hfee
    rw [FeeTier.ofFee_fee] at hok
    exact (Except.ok.inj hok).symm
  rw [Sym2.eq_iff] at htokens
  obtain ⟨rfl, rfl⟩ | ⟨rfl, rfl⟩ := htokens
  · rw [htier]
  · exact absurd hsorted (Address.lt_asymm hsorted')

/-- Requests with one pool have the same pair and fee. -/
theorem pairAndFee_eq_of_keyed (h : request.Keyed key) (h' : other.Keyed key) :
    request.pairAndFee = other.pairAndFee :=
  h.pairAndFee_eq.trans h'.pairAndFee_eq.symm

end PoolRequest

namespace Provisioner

/-- The position manager of a provisioner, if it has one. -/
def manager (p : Provisioner) : Address :=
  match p.deployment.resolve .positionManager with
  | .ok address => address
  | .error _ => .zero

variable {p : Provisioner} {request : PoolRequest} {rest requests : List PoolRequest}
  {session later : Session Ledger} {start middle last : Ledger} {outcome : Outcome}
  {outcomes : List Outcome}

/-! ## One request -/

/-- What a request that succeeds adds to a ledger: its own pool, its mint, and the allowances that
it needs. -/
structure Adds (p : Provisioner) (request : PoolRequest) (before : Ledger) (outcome : Outcome)
    (after : Ledger) : Prop where
  own : ∀ key, request.Keyed key → Table.get? key after.pools = some outcome.pool
  others : ∀ key, ¬ request.Keyed key →
    Table.get? key after.pools = Table.get? key before.pools
  mints : after.mints.map MintRequest.undated =
    before.mints.map MintRequest.undated ++ [p.mintAt p.manager outcome.position 0]
  grants : before.Grants outcome.position.needs p.manager after
  fits : ∀ need ∈ outcome.position.needs, need.2 ≤ maxWord
  numbered : after.Numbered

theorem adds_of_run (hstart : Undisturbed session.chain)
    (hrun : (p.provision request : Action Ledger Outcome).run session = (.ok outcome, later)) :
    Adds p request session.chain outcome later.chain := by
  have hcourse := run_provision hrun
  obtain ⟨plan, manager, opened, pool, position, deadline, hready, hopens, hsized, rfl, hpools,
    hmints, hbooks⟩ := hcourse.of_ok
  obtain ⟨h0, h1⟩ := Position.amounts_le_maxWord hsized
  have hmanager : p.manager = manager := by
    rw [Provisioner.manager, hready.manager]
  have hnumbered := hopens.numbered hstart.numbered
  have hprice := (pos_of_isInitializable hready.planned.isInitializable).ne'
  refine
    { own := ?own
      others := ?others
      mints := ?mints
      grants := ?grants
      fits := ?fits
      numbered := hnumbered.of_pools_eq hpools }
  case own =>
    intro key hkeyed
    obtain rfl := hready.planned.keyed.unique hkeyed
    rw [hpools]
    exact (hopens.settled (hnumbered.distinct (hopens.length_pools_le.trans hstart.few))
      hprice).1
  case others =>
    intro key hkeyed
    cases hcourse.poolLeft key with
    | kept hkept => exact hkept
    | priced hown => exact absurd hown hkeyed
  case mints =>
    rw [hmints, List.map_append, hmanager]
    rfl
  case grants =>
    have hagree := Ledger.agree_of_books_eq hbooks
    have hgrants := hopens.grants (Ledger.grants_grantedTo opened manager h1 2)
    rw [hmanager]
    exact hgrants.of_eq ⟨rfl, rfl⟩ ⟨hagree.allowances, hagree.approvals⟩
  case fits =>
    simp only [Position.needs, List.mem_cons, List.not_mem_nil, or_false]
    rintro need (rfl | rfl)
    · exact h0
    · exact h1

/-! ## Many requests -/

/-- What requests add to a ledger together: each of them its own pool and its mint, as it does by
itself, and all of them the allowances that they need. -/
structure AddsAll (p : Provisioner) (requests : List PoolRequest) (start : Ledger)
    (outcomes : List Outcome) (last : Ledger) : Prop where
  alone : outcomes.map (fun outcome => some outcome.unnumbered) = requests.map (p.alone start)
  own : ∀ request ∈ requests, ∀ key, request.Keyed key →
    (Table.get? key last.pools).map Pool.unplaced = (p.alone start request).map Outcome.pool
  others : ∀ key, (∀ request ∈ requests, ¬ request.Keyed key) →
    Table.get? key last.pools = Table.get? key start.pools
  mints : last.mints.map MintRequest.undated = start.mints.map MintRequest.undated ++
    outcomes.map fun outcome => p.mintAt p.manager outcome.position 0
  grants : start.Grants (outcomes.flatMap fun outcome => outcome.position.needs) p.manager last
  fits : ∀ outcome ∈ outcomes, ∀ need ∈ outcome.position.needs, need.2 ≤ maxWord

/-- A request that succeeds before others leaves them what they come to by themselves, if their
pools are different ones. -/
theorem AddsAll.cons (hadds : Adds p request start outcome middle)
    (halone : p.alone start request = some outcome.unnumbered)
    (hsame : ∀ other ∈ rest, p.alone middle other = p.alone start other)
    (hkeys : ∀ other ∈ rest, other.pairAndFee ≠ request.pairAndFee)
    (h : AddsAll p rest middle outcomes last) :
    AddsAll p (request :: rest) start (outcome :: outcomes) last where
  alone := by
    rw [List.map_cons, List.map_cons, h.alone, halone, List.map_congr_left hsame]
  own := by
    intro asked hasked key hkeyed
    rcases List.mem_cons.1 hasked with rfl | hasked
    · have hothers : ∀ other ∈ rest, ¬ other.Keyed key := fun other hother hother' =>
        hkeys other hother (PoolRequest.pairAndFee_eq_of_keyed hother' hkeyed)
      rw [h.others key hothers, hadds.own key hkeyed, halone]
      rfl
    · rw [h.own asked hasked key hkeyed, hsame asked hasked]
  others := by
    intro key hkey
    obtain ⟨hfirst, hrest⟩ := List.forall_mem_cons.1 hkey
    rw [h.others key hrest, hadds.others key hfirst]
  mints := by
    rw [h.mints, hadds.mints, List.append_assoc]
    rfl
  grants := by
    rw [List.flatMap_cons]
    refine hadds.grants.trans h.grants ?_
    intro need hneed
    obtain ⟨other, hother, hmem⟩ := List.mem_flatMap.1 hneed
    exact h.fits other hother need hmem
  fits := List.forall_mem_cons.2 ⟨hadds.fits, h.fits⟩

/-- **A batch of requests for different pools.**  It completes when every request succeeds by
itself, and then the requests add to the ledger what they add by themselves. -/
theorem provisionFrom_independent (p : Provisioner) (index : ℕ) (requests : List PoolRequest)
    (session : Session Ledger) (hkeys : (requests.map PoolRequest.pairAndFee).Nodup)
    (hnumbered : session.chain.Numbered) (hquiet : session.chain.failures = [])
    (hfew : (p.provisionFrom index requests session).2.chain.pools.length < 96) :
    ((p.provisionFrom index requests session).1.failure = none ↔
        (requests = [] ∨ 0 ≤ session.now) ∧
          ∀ request ∈ requests, (p.alone session.chain request).isSome) ∧
      ((p.provisionFrom index requests session).1.failure = none →
        AddsAll p requests session.chain (p.provisionFrom index requests session).1.completed
          (p.provisionFrom index requests session).2.chain) := by
  have hgrows := (p.linked_attempts index requests session).grows
  have hstart : Undisturbed session.chain :=
    ⟨hquiet, hnumbered, hgrows.length_pools.trans_lt hfew⟩
  induction requests generalizing index session with
  | nil =>
    refine ⟨by simp [BatchOutcome.none], fun _ => ⟨rfl, by simp, fun _ _ => rfl, ?_, ?_, ?_⟩⟩
    · exact (List.append_nil _).symm
    · exact .nil rfl rfl
    · simp [BatchOutcome.none]
  | cons request rest ih =>
    rcases hrun : (p.provision request : Action Ledger Outcome).run session with
      ⟨failure | outcome, later⟩
    · -- the first request fails, and does so by itself
      rw [provisionFrom_cons_of_error hrun]
      have hstopped : (BatchOutcome.stopped index failure).failure ≠ none :=
        Option.some_ne_none _
      refine ⟨⟨fun h => absurd h hstopped, ?_⟩, fun h => absurd h hstopped⟩
      rintro ⟨hclock, hall⟩
      have hnow : 0 ≤ session.now := hclock.resolve_left (List.cons_ne_nil _ _)
      obtain ⟨outcome, last, hok⟩ := (run_ok_iff hstart).2
        ⟨hnow, hall request List.mem_cons_self⟩
      rw [hrun] at hok
      cases hok
    · have hlater := (linked_attempt hrun).grows
      have hquiet' : later.chain.failures = [] := hlater.failures.trans hquiet
      have hadds := adds_of_run hstart hrun
      have halone := alone_of_run hstart hrun
      have hclock := now_nonneg_of_run_provision hrun
      have hnow : later.now = session.now := by
        have hkept := p.keepsClock_provision request session
        rwa [hrun] at hkept
      rw [List.map_cons, List.nodup_cons] at hkeys
      have hdifferent : ∀ other ∈ rest, other.pairAndFee ≠ request.pairAndFee :=
        fun other hother heq => hkeys.1 (heq ▸ List.mem_map_of_mem hother)
      rw [provisionFrom_cons_of_ok hrun] at hfew ⊢
      have hrestgrows := (p.linked_attempts (index + 1) rest later).grows
      have hmiddle : Undisturbed later.chain :=
        ⟨hquiet', hadds.numbered, hrestgrows.length_pools.trans_lt hfew⟩
      -- the other requests do not see that the first was provisioned
      have hsame : ∀ other ∈ rest, p.alone later.chain other = p.alone session.chain other := by
        intro other hother
        refine alone_congr hstart hmiddle hlater.tokens hlater.chainId ?_
        intro key hkeyed
        exact hadds.others key fun hown =>
          hdifferent other hother (PoolRequest.pairAndFee_eq_of_keyed hkeyed hown)
      obtain ⟨hiff, hall⟩ := ih (index + 1) later hkeys.2 hadds.numbered hquiet' hfew hrestgrows
        hmiddle
      refine ⟨⟨fun hcomplete => ?_, fun hready => ?_⟩, fun hcomplete => ?_⟩
      · obtain ⟨-, hrest⟩ := hiff.1 hcomplete
        refine ⟨.inr hclock, List.forall_mem_cons.2 ⟨by rw [halone]; rfl, ?_⟩⟩
        intro other hother
        rw [← hsame other hother]
        exact hrest other hother
      · refine hiff.2 ⟨.inr (hnow.symm ▸ hclock), fun other hother => ?_⟩
        rw [hsame other hother]
        exact hready.2 other (List.mem_cons_of_mem _ hother)
      · exact .cons hadds halone hsame hdifferent (hall hcomplete)

/-! ## Their order -/

/-- Whether two runs leave the same, but for the numbers that pools and mints are given in order,
and the times until which the mints are valid. -/
structure SameButOrder (requests others : List PoolRequest) (outcomes outcomes' : List Outcome)
    (last last' : Ledger) : Prop where
  pools : ∀ key, (Table.get? key last.pools).map Pool.unplaced =
    (Table.get? key last'.pools).map Pool.unplaced
  allowances : ∀ key, Table.get? key last.allowances = Table.get? key last'.allowances
  approvals : last.approvals.Perm last'.approvals
  mints : (last.mints.map MintRequest.undated).Perm (last'.mints.map MintRequest.undated)
  /-- A request has the same outcome in both, wherever it stands. -/
  outcomes : ∀ (i j : ℕ) (request : PoolRequest), requests[i]? = some request →
    others[j]? = some request → ∃ outcome outcome', outcomes[i]? = some outcome ∧
      outcomes'[j]? = some outcome' ∧ outcome.unnumbered = outcome'.unnumbered

section Order

variable {others : List PoolRequest} {outcomes' : List Outcome} {last' : Ledger}

/-- The outcome of a request that stands somewhere among others is the one it has by itself. -/
theorem AddsAll.exists_outcome (h : AddsAll p requests start outcomes last) {i : ℕ}
    (hget : requests[i]? = some request) :
    ∃ outcome, outcomes[i]? = some outcome ∧ some outcome.unnumbered = p.alone start request := by
  have hat := congrArg (fun all => all[i]?) h.alone
  simp only [List.getElem?_map, hget, Option.map_some] at hat
  obtain ⟨outcome, houtcome, halone⟩ := Option.map_eq_some_iff.1 hat
  exact ⟨outcome, houtcome, halone⟩

/-- Requests in another order have the same outcomes, in another order. -/
theorem AddsAll.outcomes_perm (h : AddsAll p requests start outcomes last)
    (h' : AddsAll p others start outcomes' last') (hperm : requests.Perm others) :
    (outcomes.map Outcome.unnumbered).Perm (outcomes'.map Outcome.unnumbered) := by
  have halone : (outcomes.map fun outcome => some outcome.unnumbered).Perm
      (outcomes'.map fun outcome => some outcome.unnumbered) := by
    rw [h.alone, h'.alone]
    exact hperm.map _
  rw [← List.map_perm_map_iff (Option.some_injective Outcome), List.map_map, List.map_map]
  exact halone

/-- **What requests add together does not depend on their order.** -/
theorem AddsAll.sameButOrder (h : AddsAll p requests start outcomes last)
    (h' : AddsAll p others start outcomes' last') (hperm : requests.Perm others) :
    SameButOrder requests others outcomes outcomes' last last' := by
  have houtcomes := h.outcomes_perm h' hperm
  -- neither the needs of a position nor its mint depend on the address of its pool
  have hneeds : ∀ need, need ∈ outcomes.flatMap (fun outcome => outcome.position.needs) ↔
      need ∈ outcomes'.flatMap fun outcome => outcome.position.needs := by
    intro need
    have hmem := (houtcomes.flatMap_right fun outcome => outcome.position.needs).mem_iff
      (a := need)
    rwa [List.flatMap_map, List.flatMap_map] at hmem
  refine ⟨?_, h.grants.allowance_eq h'.grants hneeds, h.grants.approvals_perm h'.grants hneeds,
    ?_, ?_⟩
  · intro key
    by_cases hkeyed : ∃ request ∈ requests, request.Keyed key
    · obtain ⟨request, hmem, hkeyed⟩ := hkeyed
      rw [h.own request hmem key hkeyed, h'.own request (hperm.mem_iff.1 hmem) key hkeyed]
    · push Not at hkeyed
      rw [h.others key hkeyed,
        h'.others key fun request hmem => hkeyed request (hperm.mem_iff.2 hmem)]
  · have hmints := houtcomes.map fun outcome => p.mintAt p.manager outcome.position 0
    rw [List.map_map, List.map_map] at hmints
    rw [h.mints, h'.mints]
    exact hmints.append_left _
  · intro i j request hi hj
    obtain ⟨outcome, houtcome, halone⟩ := h.exists_outcome hi
    obtain ⟨outcome', houtcome', halone'⟩ := h'.exists_outcome hj
    exact ⟨outcome, outcome', houtcome, houtcome', Option.some.inj (halone.trans halone'.symm)⟩

end Order

/-- **Independent requests commute.**  Where no call is made to fail, a batch of requests for
different pools completes in one order if it does in another; and then it leaves the same pools but
for their addresses, the same allowances, the same approvals and the same mints but for their order
and their deadlines, and every request has the same outcome but for the numbers in it. -/
theorem independent_batch_commutes {xs ys : List PoolRequest} {session other : Session Ledger}
    (hbuilt : session.chain.Built) (hquiet : session.chain.failures = [])
    (hledger : other.chain = session.chain) (hclock : 0 ≤ other.now ↔ 0 ≤ session.now)
    (hkeys : (xs.map PoolRequest.pairAndFee).Nodup) (hperm : xs.Perm ys)
    (hfew : (p.provisionBatch xs session).2.chain.pools.length < 96)
    (hfew' : (p.provisionBatch ys other).2.chain.pools.length < 96) :
    ((p.provisionBatch xs session).1.failure = none ↔
        (p.provisionBatch ys other).1.failure = none) ∧
      ((p.provisionBatch xs session).1.failure = none →
        SameButOrder xs ys (p.provisionBatch xs session).1.completed
          (p.provisionBatch ys other).1.completed (p.provisionBatch xs session).2.chain
          (p.provisionBatch ys other).2.chain) := by
  have hkeys' : (ys.map PoolRequest.pairAndFee).Nodup := (hperm.map _).nodup_iff.1 hkeys
  obtain ⟨hiff, hall⟩ :=
    p.provisionFrom_independent 0 xs session hkeys hbuilt.numbered hquiet hfew
  obtain ⟨hiff', hall'⟩ := p.provisionFrom_independent 0 ys other hkeys'
    (by rw [hledger]; exact hbuilt.numbered) (by rw [hledger]; exact hquiet) hfew'
  rw [hledger] at hiff' hall'
  have hsame : (p.provisionBatch xs session).1.failure = none ↔
      (p.provisionBatch ys other).1.failure = none := by
    rw [provisionBatch, provisionBatch, hiff, hiff', hclock]
    refine and_congr (or_congr ?_ Iff.rfl) ?_
    · rw [← List.length_eq_zero_iff, ← List.length_eq_zero_iff, hperm.length_eq]
    · exact forall_congr' fun request => imp_congr hperm.mem_iff Iff.rfl
  exact ⟨hsame, fun hcomplete =>
    (hall hcomplete).sameButOrder (hall' (hsame.1 hcomplete)) hperm⟩

/-- Two requests for pools of one pair with different fees. -/
def sampleRequests : List PoolRequest :=
  [sampleRequest "1000000", { sampleRequest "1000000" with fee := 3000 }]

/-- Of each outcome, the fee of its pool and the address. -/
def poolPlaces (run : BatchOutcome) : List (ℕ × ℕ) :=
  run.completed.map fun outcome => (outcome.pool.fee, outcome.pool.address.toNat)

/-- In both orders, and a minute apart: each of the two pools is created at the address that the
other one has in the other order. -/
theorem independent_batch_commutes_sample :
    ∃ first second last last',
      sample.provisionBatch sampleRequests ⟨sampleLedger, 0, []⟩ = (first, last) ∧
      sample.provisionBatch sampleRequests.reverse ⟨sampleLedger, 60, []⟩ = (second, last') ∧
      first.failure = none ∧ second.failure = none ∧
      poolPlaces first = [(500, 0xA0), (3000, 0xA1)] ∧
      poolPlaces second = [(3000, 0xA0), (500, 0xA1)] ∧
      SameButOrder sampleRequests sampleRequests.reverse first.completed second.completed
        last.chain last'.chain := by
  have hends : ∀ run ∈ [sample.provisionBatch sampleRequests ⟨sampleLedger, 0, []⟩,
      sample.provisionBatch sampleRequests.reverse ⟨sampleLedger, 60, []⟩],
      run.1.failure = none ∧ run.2.chain.pools.length < 96 := by
    decide +kernel
  have hplaces : poolPlaces
        (sample.provisionBatch sampleRequests ⟨sampleLedger, 0, []⟩).1 =
          [(500, 0xA0), (3000, 0xA1)] ∧
      poolPlaces
        (sample.provisionBatch sampleRequests.reverse ⟨sampleLedger, 60, []⟩).1 =
          [(3000, 0xA0), (500, 0xA1)] := by
    decide +kernel
  have hkeys : (sampleRequests.map PoolRequest.pairAndFee).Nodup := by
    decide +kernel
  rcases hfirst : sample.provisionBatch sampleRequests ⟨sampleLedger, 0, []⟩ with ⟨first, last⟩
  rcases hsecond : sample.provisionBatch sampleRequests.reverse ⟨sampleLedger, 60, []⟩ with
    ⟨second, last'⟩
  rw [hfirst, hsecond] at hends hplaces
  obtain ⟨⟨hcomplete, hfew⟩, ⟨hcomplete', hfew'⟩, -⟩ :=
    (List.forall_mem_cons.1 hends).imp_right List.forall_mem_cons.1
  have hcommutes := @independent_batch_commutes sample sampleRequests sampleRequests.reverse
    ⟨sampleLedger, 0, []⟩ ⟨sampleLedger, 60, []⟩ (.empty rfl) rfl rfl (by decide) hkeys
    (List.reverse_perm _).symm (by rw [hfirst]; exact hfew) (by rw [hsecond]; exact hfew')
  rw [hfirst, hsecond] at hcommutes
  exact ⟨first, second, last, last', rfl, rfl, hcomplete, hcomplete', hplaces.1, hplaces.2,
    hcommutes.2 hcomplete⟩

end Provisioner

end Tickwise

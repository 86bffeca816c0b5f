import Tickwise.Proofs.Chain.Grants
import Tickwise.Proofs.Provision.Report

/-!
# What a provision leaves alone

A provision gives the pool of its request a price, grants the position manager allowances of its
two tokens, and makes its mint.  Wherever it is stopped, everything else in the ledger is as it was
before, and what is its own has changed as it was to change, or not at all.

* `PoolRequest.Keyed` — the pool that is a request's own;
* `Position.needs`, `grants_grantedTo` — the amounts that a deposit needs, and their grants;
* `PoolLeft`, `Course.poolLeft` — what becomes of a pool: it stays, or it is given its price;
* `Course.grants` — what becomes of allowances and approvals;
* `Framed`, `provision_frame` — all that a provision leaves.
-/

namespace Tickwise

/-- Whether the pool of a key is the one of a request: it has the two tokens, in their order, and
the fee. -/
structure PoolRequest.Keyed (request : PoolRequest) (key : PoolKey) : Prop where
  sorted : key.token0 < key.token1
  tokens : s(key.token0, key.token1) = s(request.tokenA, request.tokenB)
  fee : key.fee.fee = request.fee

/-- The tokens of the pool of a request are the two that it names. -/
theorem PoolRequest.Keyed.mem {request : PoolRequest} {key : PoolKey} (h : request.Keyed key)
    {token : Address} (htoken : token = key.token0 ∨ token = key.token1) :
    token = request.tokenA ∨ token = request.tokenB := by
  rw [← Sym2.mem_iff, ← h.tokens, Sym2.mem_iff]
  exact htoken

/-- The amounts that a deposit needs of its tokens. -/
def Position.needs (position : Position) : List (Address × ℕ) :=
  [(position.token0.address, position.amounts.amount0),
    (position.token1.address, position.amounts.amount1)]

/-- The first grants of a position grant the first of the amounts that it needs. -/
theorem Ledger.grants_grantedTo {position : Position} (ledger : Ledger) (manager : Address)
    (h1 : position.amounts.amount1 ≤ maxWord) (count : ℕ) :
    Grants ledger (position.needs.take count) manager
      (ledger.grantedTo manager position count) := by
  rcases count with _ | _ | count
  · exact .nil rfl rfl
  · exact grants_granted _ _ _ _
  · have hneeds : position.needs.take (count + 1 + 1) =
        [(position.token0.address, position.amounts.amount0)] ++
          [(position.token1.address, position.amounts.amount1)] := by
      simp [Position.needs]
    rw [hneeds]
    refine (grants_granted _ _ _ _).trans (grants_granted _ _ _ _) ?_
    simpa using h1

namespace Provisioner

variable {p : Provisioner} {request : PoolRequest} {plan : Plan} {pool : Pool}
  {before opened after : Ledger} {now : ℤ} {result : Except Failure Outcome}

/-! ## Pools -/

/-- The pool of a plan is the one of its request. -/
theorem Planned.keyed {tokens : Table Address Token} (h : Planned request tokens plan) :
    request.Keyed plan.key := by
  obtain ⟨reserves, hcheck, hfirst, hsecond, -⟩ := h.checked
  obtain ⟨hfee, hreserves, -⟩ := checkRequest_eq_ok hcheck
  refine ⟨plan.pair.sorted, ?_, FeeTier.ofFee_eq_ok_iff.1 hfee⟩
  change s(plan.pair.first.address, plan.pair.second.address) = _
  rw [← hfirst, ← hsecond]
  by_cases hlt : request.tokenA < request.tokenB
  · rw [OrderedPair.of_of_lt hlt] at hreserves
    cases hreserves
    rfl
  by_cases hgt : request.tokenB < request.tokenA
  · rw [OrderedPair.of_of_gt hgt] at hreserves
    cases hreserves
    exact Sym2.eq_swap
  · rw [Address.eq_of_not_lt hlt hgt, OrderedPair.of_self] at hreserves
    cases hreserves

/-- What becomes of the pool of a key: it stays as it is, or it is the one of the request and had
no price, and then it is given the price that is planned, at the address that it has or else at the
next one. -/
inductive PoolLeft (request : PoolRequest) (before after : Ledger) (key : PoolKey) : Prop
  | kept (h : Table.get? key after.pools = Table.get? key before.pools)
  | priced {plan : Plan} {tick : ℤ} {pool : Pool} (hkeyed : request.Keyed key)
    (hplanned : Planned request before.tokens plan)
    (htick : tickAtSqrtRatio plan.sqrtPrice = .ok tick)
    (hafter : Table.get? key after.pools = some { pool with tick, sqrtPrice := plan.sqrtPrice })
    (hunpriced : ¬ pool.isInitialized)
    (hbefore : Table.get? key before.pools = some pool ∨
      Table.get? key before.pools = none ∧ pool = before.unpricedPool key.fee)

theorem PoolLeft.of_pools_eq {key : PoolKey} {last : Ledger}
    (h : PoolLeft request before after key) (hlast : last.pools = after.pools) :
    PoolLeft request before last key := by
  cases h with
  | kept hkept =>
    refine .kept ?_
    rwa [hlast]
  | priced hkeyed hplanned htick hafter hunpriced hbefore =>
    refine .priced hkeyed hplanned htick ?_ hunpriced hbefore
    rwa [hlast]

/-- Giving a pool its price leaves the others alone, and leaves it alone if it has one. -/
theorem poolLeft_priced {tick : ℤ} (hplanned : Planned request before.tokens plan)
    (htick : tickAtSqrtRatio plan.sqrtPrice = .ok tick) (key : PoolKey) :
    PoolLeft request before (before.priced plan.key tick plan.sqrtPrice) key := by
  by_cases hkey : key = plan.key
  · subst hkey
    by_cases hpriced : (before.createdPool plan.key).isInitialized
    · cases hget : Table.get? plan.key before.pools with
      | none =>
        rw [Ledger.createdPool, hget] at hpriced
        exact absurd rfl (Pool.isInitialized_iff.1 hpriced)
      | some entry =>
        rw [Ledger.createdPool, hget] at hpriced
        rw [Ledger.priced_of_isInitialized hget hpriced]
        exact .kept rfl
    · refine .priced hplanned.keyed hplanned htick ?_ hpriced ?_
      · rw [Ledger.get?_pools_priced, Ledger.pricedPool_of_not_isInitialized hpriced]
      · unfold Ledger.createdPool
        cases hget : Table.get? plan.key before.pools with
        | none => exact .inr ⟨rfl, rfl⟩
        | some entry => exact .inl rfl
  · exact .kept (Table.get?_put_of_ne hkey _ _)

theorem Opened.poolLeft (h : Opened plan before opened pool)
    (hplanned : Planned request before.tokens plan) (key : PoolKey) :
    PoolLeft request before opened key := by
  cases h with
  | found => exact .kept rfl
  | created _ htick => exact poolLeft_priced hplanned htick key

/-- Every course leaves the pools of other requests alone. -/
theorem Course.poolLeft (h : Course p request before now result after) (key : PoolKey) :
    PoolLeft request before after key := by
  cases h with
  | halted => exact .kept rfl
  | unread hready _ htick =>
    have hleft := poolLeft_priced hready.planned htick key
    exact hleft.of_pools_eq rfl
  | unsized hready hopened =>
    have hleft := hopened.poolLeft hready.planned key
    exact hleft.of_pools_eq rfl
  | sized hready hopened _ hdeposited =>
    refine (hopened.poolLeft hready.planned key).of_pools_eq ?_
    obtain ⟨calls, ⟨-, -, count, -, rfl⟩ | ⟨deadline, -, rfl⟩⟩ := hdeposited
    · exact Ledger.pools_grantedTo _ _ _ _
    · exact Ledger.pools_grantedTo _ _ _ _

/-! ## Allowances -/

/-- What a course leaves as it was before the deposit. -/
structure Untouched (before after : Ledger) : Prop where
  tokens : after.tokens = before.tokens
  chainId : after.chainId = before.chainId
  allowances : after.allowances = before.allowances
  approvals : after.approvals = before.approvals

theorem Opened.untouched (h : Opened plan before opened pool) : Untouched before opened := by
  cases h with
  | found => exact ⟨rfl, rfl, rfl, rfl⟩
  | created => exact ⟨rfl, rfl, rfl, rfl⟩

/-- Grants after a pool was opened are grants. -/
theorem Opened.grants {manager : Address} {needs : List (Address × ℕ)}
    (h : Opened plan before opened pool) (hgrants : opened.Grants needs manager after) :
    before.Grants needs manager after :=
  hgrants.of_eq ⟨h.untouched.allowances.symm, h.untouched.approvals.symm⟩ ⟨rfl, rfl⟩

/-- Every course leaves allowances and approvals alone, or it grants the first of the amounts that
its position needs. -/
theorem Course.grants (h : Course p request before now result after) :
    Untouched before after ∨
      ∃ plan manager opened pool position count,
        Target p request before plan manager opened pool position ∧
        after.tokens = before.tokens ∧ after.chainId = before.chainId ∧
        before.Grants (position.needs.take count) manager after := by
  cases h with
  | halted => exact .inl ⟨rfl, rfl, rfl, rfl⟩
  | unread => exact .inl ⟨rfl, rfl, rfl, rfl⟩
  | unsized _ hopened =>
    obtain ⟨htokens, hchainId, hallowances, happrovals⟩ := hopened.untouched
    exact .inl ⟨htokens, hchainId, hallowances, happrovals⟩
  | @sized plan manager opened _ pool position _ hready hopened hsized hdeposited =>
    obtain ⟨-, h1⟩ := Position.amounts_le_maxWord hsized
    have hgrants := fun count => hopened.grants (Ledger.grants_grantedTo opened manager h1 count)
    have huntouched : ∀ count, (opened.grantedTo manager position count).tokens = before.tokens ∧
        (opened.grantedTo manager position count).chainId = before.chainId := by
      intro count
      obtain ⟨_, _, heq⟩ := Ledger.grantedTo_eq manager position count opened
      rw [heq]
      exact ⟨hopened.untouched.tokens, hopened.untouched.chainId⟩
    obtain ⟨calls, ⟨-, -, count, -, rfl⟩ | ⟨deadline, -, rfl⟩⟩ := hdeposited
    · exact .inr ⟨plan, manager, opened, pool, position, count, ⟨hready, hopened, hsized⟩,
        (huntouched count).1, (huntouched count).2, (hgrants count).of_eq ⟨rfl, rfl⟩ ⟨rfl, rfl⟩⟩
    · exact .inr ⟨plan, manager, opened, pool, position, 2, ⟨hready, hopened, hsized⟩,
        (huntouched 2).1, (huntouched 2).2, (hgrants 2).of_eq ⟨rfl, rfl⟩ ⟨rfl, rfl⟩⟩

/-! ## The frame -/

/-- Whether the position manager may be granted an allowance of a token for a request. -/
structure Grantable (p : Provisioner) (request : PoolRequest) (spender token : Address) :
    Prop where
  manager : p.deployment.resolve .positionManager = .ok spender
  token : token = request.tokenA ∨ token = request.tokenB

/-- All that a provision leaves of a ledger, whatever it comes to. -/
structure Framed (p : Provisioner) (request : PoolRequest) (before : Ledger)
    (result : Except Failure Outcome) (after : Ledger) : Prop where
  tokens : after.tokens = before.tokens
  chainId : after.chainId = before.chainId
  /-- The pools of other keys stay, and so does the own one if it has a price; else it may be given
  the one that is planned. -/
  pools : ∀ key, PoolLeft request before after key
  /-- The owner's allowances of the two tokens for the position manager stay or are as high as they
  can be; the others stay. -/
  allowances : ∀ key, Table.get? key after.allowances = Table.get? key before.allowances ∨
    (key.owner = Ledger.owner ∧ Grantable p request key.spender key.token ∧
      Table.get? key after.allowances = some maxWord)
  /-- No more than two approvals are sent. -/
  approvals : ∃ sent, after.approvals = before.approvals ++ sent ∧ sent.length ≤ 2 ∧
    ∀ approval ∈ sent, approval.amount = maxWord ∧
      Grantable p request approval.spender approval.token
  /-- One mint is made if the provision succeeds, and none if it fails. -/
  mints : (result.isOk ∧ ∃ mint, after.mints = before.mints ++ [mint]) ∨
    ¬ result.isOk ∧ after.mints = before.mints

/-- The amounts that a position needs are of the tokens that the request names. -/
theorem Target.grantable {manager token : Address} {position : Position} {count : ℕ}
    (h : Target p request before plan manager opened pool position)
    (hnames : before.NamesTokens)
    (htoken : token ∈ (position.needs.take count).map Prod.fst) :
    Grantable p request manager token := by
  refine ⟨h.ready.manager, h.ready.planned.keyed.mem ?_⟩
  have hnamed := h.ready.planned.named hnames
  obtain ⟨htoken0, htoken1⟩ := tokens_of_sized hnamed h.sized
  obtain ⟨need, hneed, rfl⟩ := List.mem_map.1 htoken
  have hmem : need ∈ position.needs := List.mem_of_mem_take hneed
  simp only [Position.needs, List.mem_cons, List.not_mem_nil, or_false] at hmem
  rcases hmem with rfl | rfl
  · left
    rw [htoken0, hnamed.1]
    rfl
  · right
    rw [htoken1, hnamed.2]
    rfl

/-- Every course keeps to the frame. -/
theorem Course.framed (h : Course p request before now result after)
    (hnames : before.NamesTokens) : Framed p request before result after := by
  obtain ⟨htokens, hchainId, hallowances, happrovals⟩ |
    ⟨plan, manager, opened, pool, position, count, htarget, htokens, hchainId, hgrants⟩ := h.grants
  · refine ⟨htokens, hchainId, h.poolLeft, fun key => .inl (by rw [hallowances]), ?_, h.mints⟩
    exact ⟨[], by rw [happrovals, List.append_nil], Nat.zero_le _, by simp⟩
  · refine ⟨htokens, hchainId, h.poolLeft, ?_, ?_, h.mints⟩
    · intro key
      by_cases hlacks : key.owner = Ledger.owner ∧ key.spender = manager ∧
          before.Lacks (position.needs.take count) manager key.token
      · obtain ⟨token, account, spender⟩ := key
        obtain ⟨rfl, rfl, hlacking⟩ := hlacks
        have hfull := hgrants.lacked token hlacking
        obtain ⟨amount, hneed, -⟩ := hlacking
        exact .inr ⟨rfl, htarget.grantable hnames (List.mem_map.2 ⟨_, hneed, rfl⟩), hfull⟩
      · exact .inl (hgrants.kept key hlacks)
    · obtain ⟨sent, hsent, hlength, hall⟩ := hgrants.approvals_le
      refine ⟨sent, hsent, ?_, ?_⟩
      · have htwo : (position.needs.take count).length ≤ 2 := List.length_take_le' _ _
        exact hlength.trans htwo
      · intro approval hmem
        obtain ⟨hamount, rfl, htoken⟩ := hall approval hmem
        exact ⟨hamount, htarget.grantable hnames htoken⟩

/-- **A provision touches its own pool and its own allowances only.**  Whatever a request comes to,
and wherever it is stopped: tokens, the pools of other keys and all allowances but those of its two
tokens for the position manager are as they were.  Its own pool is as it was, or had no price and
has the planned one; the two allowances are as they were or as high as they can be; at most two
approvals are sent; and one mint is made if it succeeds, and none if it fails. -/
theorem provision_frame {session later : Session Ledger} (hnames : session.chain.NamesTokens)
    (hrun : (p.provision request : Action Ledger Outcome).run session = (result, later)) :
    Framed p request session.chain result later.chain :=
  (run_provision hrun).framed hnames

/-- The sample request is stopped at its mint, after it has created a pool and been granted two
allowances. -/
theorem provision_frame_sample :
    ∃ result later, (sampleLedger.failOn .mint 1).NamesTokens ∧
      sampleRun "1000000" (sampleLedger.failOn .mint 1) = (result, later) ∧ ¬ result.isOk ∧
      later.chain.pools.length = 1 ∧ later.chain.approvals.length = 2 ∧
      Framed sample (sampleRequest "1000000") (sampleLedger.failOn .mint 1) result
        later.chain := by
  have hnames : (sampleLedger.failOn .mint 1).NamesTokens := by
    have hall : ∀ entry ∈ sampleLedger.tokens, entry.2.address = entry.1 := by
      decide +kernel
    exact fun _ _ hget => hall _ (Table.mem_of_get? hget)
  have hends : ¬ (sampleRun "1000000" (sampleLedger.failOn .mint 1)).1.isOk ∧
      (sampleRun "1000000" (sampleLedger.failOn .mint 1)).2.chain.pools.length = 1 ∧
      (sampleRun "1000000" (sampleLedger.failOn .mint 1)).2.chain.approvals.length = 2 := by
    decide +kernel
  rcases hrun : sampleRun "1000000" (sampleLedger.failOn .mint 1) with ⟨result, later⟩
  rw [hrun] at hends
  exact ⟨result, later, hnames, rfl, hends.1, hends.2.1, hends.2.2, provision_frame hnames hrun⟩

end Provisioner

end Tickwise

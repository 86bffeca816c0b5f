import Tickwise.Proofs.Price.Encoded
import Tickwise.Proofs.Provision.History

/-!
# What a provision reports

The outcome of a provision is put together from a plan that was made before the pool was created,
from the pool as it is read back, and from the mint.  When a provision succeeds, its outcome is
what the ledger holds: the pool under the key of the request, with the price it had or else with
that of the reserves; the position that is sized from this pool; and the mint of that position.

* `Terms` — what a request says in the terms of a ledger;
* `MintRequest.Carries` — the mint of a position;
* `Reports`, `provision_reports` — what holds of an outcome, and that it does.
-/

namespace Tickwise

/-- What a request says in the terms of a ledger: its fee tier, its reserves by ascending address
of their tokens, the metadata of the tokens, and the reserves in base units. -/
structure Terms where
  fee : FeeTier
  reserves : OrderedPair String
  token0 : Token
  token1 : Token
  amount0 : ℕ
  amount1 : ℕ

/-- What the pool of a request is found by. -/
def Terms.key (terms : Terms) : PoolKey := Provisioner.requestKey terms.fee terms.reserves

/-- Whether terms are those of a request, with the tokens of a ledger. -/
structure Terms.Of (terms : Terms) (request : PoolRequest) (tokens : Table Address Token) :
    Prop where
  fee : FeeTier.ofFee request.fee = .ok terms.fee
  reserves : OrderedPair.of request.tokenA request.reserveA request.tokenB request.reserveB =
    .ok terms.reserves
  token0 : Table.get? terms.reserves.first.address tokens = some terms.token0
  token1 : Table.get? terms.reserves.second.address tokens = some terms.token1
  amount0 : terms.token0.parseUnits terms.reserves.first.payload = .ok terms.amount0
  amount1 : terms.token1.parseUnits terms.reserves.second.payload = .ok terms.amount1

/-- Whether a mint is that of a position: with its tokens, its fee, its ticks and its amounts, for
the owner, and with the least amounts that a slippage allows. -/
structure MintRequest.Carries (mint : MintRequest) (position : Position) (slippage : Slippage) :
    Prop where
  token0 : mint.token0 = position.token0.address
  token1 : mint.token1 = position.token1.address
  fee : mint.fee = position.fee
  tickLower : mint.tickLower = position.tickLower
  tickUpper : mint.tickUpper = position.tickUpper
  amount0Desired : mint.amount0Desired = position.amounts.amount0
  amount1Desired : mint.amount1Desired = position.amounts.amount1
  recipient : mint.recipient = Ledger.owner
  amount0Min : mint.amount0Min = slippage.least mint.amount0Desired
  amount1Min : mint.amount1Min = slippage.least mint.amount1Desired
  amount0Min_le : mint.amount0Min ≤ mint.amount0Desired
  amount1Min_le : mint.amount1Min ≤ mint.amount1Desired

namespace Provisioner

variable {p : Provisioner} {request : PoolRequest} {plan : Plan} {pool : Pool}

theorem carries_mintAt (p : Provisioner) (manager : Address) (position : Position)
    (deadline : ℕ) : (p.mintAt manager position deadline).Carries position p.slippage where
  token0 := rfl
  token1 := rfl
  fee := rfl
  tickLower := rfl
  tickUpper := rfl
  amount0Desired := rfl
  amount1Desired := rfl
  recipient := rfl
  amount0Min := rfl
  amount1Min := rfl
  amount0Min_le := Slippage.least_le _ _
  amount1Min_le := Slippage.least_le _ _

/-! ## The terms of a plan -/

theorem checkRequest_eq_ok {fee : FeeTier} {reserves : OrderedPair String}
    (h : checkRequest request = .ok (fee, reserves)) :
    FeeTier.ofFee request.fee = .ok fee ∧
      OrderedPair.of request.tokenA request.reserveA request.tokenB request.reserveB =
        .ok reserves ∧
      (request.inputToken = reserves.first.address ∨
        request.inputToken = reserves.second.address) := by
  obtain ⟨tier, hfee, h⟩ := Except.bind_eq_ok_iff.1 h
  obtain ⟨pair, hpair, h⟩ := Except.bind_eq_ok_iff.1 h
  obtain ⟨side, hside, h⟩ := Except.bind_eq_ok_iff.1 h
  obtain ⟨rfl, rfl⟩ := Prod.mk.inj (Except.ok.inj h)
  obtain ⟨-, hinput⟩ | ⟨⟨fault, hno⟩, -⟩ := sideOf_cases pair request.inputToken
  · exact ⟨hfee, hpair, hinput⟩
  · rw [hside] at hno
    cases hno

/-- The terms of a request that has a plan, and the price of the plan in them. -/
theorem Planned.exists_terms {tokens : Table Address Token} (h : Planned request tokens plan) :
    ∃ terms : Terms, terms.Of request tokens ∧ terms.key = plan.key ∧
      terms.token0 = plan.token0 ∧ terms.token1 = plan.token1 ∧
      plan.sqrtPrice = exactPrice terms.amount1 terms.amount0 := by
  obtain ⟨reserves, hcheck, hfirst, hsecond, hprice⟩ := h.checked
  obtain ⟨hfee, hreserves, -⟩ := checkRequest_eq_ok hcheck
  obtain ⟨amount0, amount1, h0, h1, hexact, -⟩ := priceReserves_eq_ok hprice
  refine ⟨⟨plan.fee, reserves, plan.token0, plan.token1, amount0, amount1⟩,
    ⟨hfee, hreserves, hfirst ▸ h.token0, hsecond ▸ h.token1, h0, h1⟩, ?_, rfl, rfl, hexact⟩
  rw [Terms.key, requestKey, Plan.key, hfirst, hsecond]

theorem Planned.named {ledger : Ledger} (h : Planned request ledger.tokens plan)
    (hnames : ledger.NamesTokens) : Named plan :=
  ⟨hnames _ _ h.token0, hnames _ _ h.token1⟩

/-- The token of a deposit is one of the two, and the other stands beside it. -/
theorem input_other_cases (plan : Plan) :
    (plan.input = plan.token0 ∧ plan.other = plan.token1) ∨
      (plan.input = plan.token1 ∧ plan.other = plan.token0) := by
  unfold Plan.input Plan.other
  split
  · exact .inl ⟨rfl, rfl⟩
  · exact .inr ⟨rfl, rfl⟩

/-- The token of a deposit is the one that the request names. -/
theorem Planned.input_eq {tokens : Table Address Token} (h : Planned request tokens plan)
    (hnamed : Named plan) :
    Table.get? request.inputToken tokens = some plan.input ∧
      plan.input.address = request.inputToken := by
  obtain ⟨reserves, hcheck, hfirst, hsecond, -⟩ := h.checked
  obtain ⟨-, -, hsides⟩ := checkRequest_eq_ok hcheck
  rw [hfirst, hsecond, ← h.inputToken] at hsides
  rw [← h.inputToken]
  unfold Plan.input
  by_cases hinput : plan.inputToken = plan.token0.address
  · rw [if_pos hinput, hinput, hnamed.1]
    exact ⟨h.token0, rfl⟩
  · rw [if_neg hinput]
    rw [hnamed.1] at hinput
    obtain heq := hsides.resolve_left hinput
    rw [heq]
    exact ⟨h.token1, hnamed.2⟩

/-! ## The pool that is opened -/

section Opened

variable {before opened : Ledger}

/-- A pool that has a price is the one that is opened. -/
theorem Opened.eq_of_priced (h : Opened plan before opened pool) (hdistinct : before.Distinct)
    {entry : Pool} (hget : Table.get? plan.key before.pools = some entry)
    (hpriced : entry.sqrtPrice ≠ 0) : pool = entry := by
  have hstanding := hdistinct.standing_eq hget (Pool.isInitialized_iff.2 hpriced)
  cases h with
  | found hfound =>
    rw [hstanding] at hfound
    exact (Progress.initialized.inj hfound).symm
  | created hnotFound =>
    rw [hstanding] at hnotFound
    cases hnotFound

/-- A pool that is given its price has that of the plan. -/
theorem Opened.sqrtPrice_eq (h : Opened plan before opened pool)
    (hdistinct : before.DistinctWithNext) (hprice : plan.sqrtPrice ≠ 0)
    (hunpriced : ∀ entry, Table.get? plan.key before.pools = some entry → entry.sqrtPrice = 0) :
    pool.sqrtPrice = plan.sqrtPrice := by
  have hnone : ∀ entry, Table.get? plan.key before.pools = some entry → ¬ entry.isInitialized :=
    fun entry hget hpriced => Pool.isInitialized_iff.1 hpriced (hunpriced entry hget)
  have hsettled := h.settled (h.distinct hdistinct) hprice
  cases h with
  | found hfound =>
    obtain ⟨hget, hpriced⟩ := hdistinct.distinct.get?_of_standing hfound
    exact absurd hpriced (hnone pool hget)
  | created =>
    have hpool := Option.some.inj (hsettled.1.symm.trans Ledger.get?_pools_priced)
    rw [hpool, Ledger.pricedPool_of_not_isInitialized (Ledger.not_isInitialized_createdPool hnone)]

end Opened

/-! ## The report -/

/-- What holds of the outcome of a request, between the ledger before and the one after. -/
structure Reports (p : Provisioner) (request : PoolRequest) (before after : Ledger)
    (outcome : Outcome) (terms : Terms) (input other : Token) (mint : MintRequest) : Prop where
  worded : terms.Of request before.tokens
  /-- The pool is the one that the ledger holds for the request. -/
  pool : Table.get? terms.key after.pools = some outcome.pool
  /-- One that had a price is as it was. -/
  kept : ∀ entry, Table.get? terms.key before.pools = some entry → entry.sqrtPrice ≠ 0 →
    outcome.pool = entry
  /-- Any other has the price of the reserves. -/
  priced : (∀ entry, Table.get? terms.key before.pools = some entry → entry.sqrtPrice = 0) →
    outcome.pool.sqrtPrice = exactPrice terms.amount1 terms.amount0
  /-- A pool can start at that price. -/
  initializable : IsInitializable (exactPrice terms.amount1 terms.amount0)
  /-- The deposit is given in one of the two tokens. -/
  given : input.address = request.inputToken
  sides : (input = terms.token0 ∧ other = terms.token1) ∨
    (input = terms.token1 ∧ other = terms.token0)
  /-- The position is sized from the pool and the deposit. -/
  position : sizePosition
    { chainId := p.deployment.chainId, pool := outcome.pool, input, other,
      amount := request.inputAmount, width := p.width } = .ok outcome.position
  /-- One mint was made, and it is that of the position. -/
  mints : after.mints = before.mints ++ [mint]
  carried : mint.Carries outcome.position p.slippage

/-- **What a provision reports is what happened.** -/
theorem provision_reports {session later : Session Ledger} {outcome : Outcome}
    (hnames : session.chain.NamesTokens) (hdistinct : session.chain.DistinctWithNext)
    (hrun : (p.provision request : Action Ledger Outcome).run session = (.ok outcome, later)) :
    ∃ terms input other mint,
      Reports p request session.chain later.chain outcome terms input other mint := by
  obtain ⟨plan, manager, opened, pool, position, deadline, hready, hopened, hsized, rfl, hpools,
    hmints, -⟩ := (run_provision hrun).of_ok
  obtain ⟨terms, hterms, hkey, htoken0, htoken1, hexact⟩ := hready.planned.exists_terms
  have hinitializable := hready.planned.isInitializable
  have hprice : plan.sqrtPrice ≠ 0 := (pos_of_isInitializable hinitializable).ne'
  refine ⟨terms, plan.input, plan.other, p.mintAt manager position deadline, ?_⟩
  refine
    { worded := hterms
      pool := ?pool
      kept := ?kept
      priced := ?priced
      initializable := hexact ▸ hinitializable
      given := (hready.planned.input_eq (hready.planned.named hnames)).2
      sides := ?sides
      position := ?position
      mints := hmints
      carried := p.carries_mintAt manager position deadline }
  case pool =>
    rw [hkey, hpools]
    exact (hopened.settled (hopened.distinct hdistinct) hprice).1
  case kept =>
    intro entry hget hpriced
    rw [hkey] at hget
    exact hopened.eq_of_priced hdistinct.distinct hget hpriced
  case priced =>
    intro hunpriced
    rw [hkey] at hunpriced
    rw [← hexact]
    exact hopened.sqrtPrice_eq hdistinct hprice hunpriced
  case sides =>
    rw [htoken0, htoken1]
    exact input_other_cases plan
  case position =>
    rw [← hready.planned.inputAmount]
    exact hsized

/-- The sample request is reported with the pool that it has created, at the price of its
reserves. -/
theorem provision_reports_sample :
    sampleLedger.NamesTokens ∧ sampleLedger.DistinctWithNext ∧
      ∃ outcome later terms input other mint,
        sampleRun "1000000" sampleLedger = (.ok outcome, later) ∧
        Reports sample (sampleRequest "1000000") sampleLedger later.chain outcome terms input other
          mint ∧
        outcome.pool.sqrtPrice = exactPrice terms.amount1 terms.amount0 := by
  have hnames : sampleLedger.NamesTokens := by
    have hall : ∀ entry ∈ sampleLedger.tokens, entry.2.address = entry.1 := by
      decide +kernel
    exact fun _ _ hget => hall _ (Table.mem_of_get? hget)
  have hdistinct : sampleLedger.DistinctWithNext := by
    unfold Ledger.DistinctWithNext
    decide +kernel
  have hok : (sampleRun "1000000" sampleLedger).1.isOk := by
    decide +kernel
  rcases hrun : sampleRun "1000000" sampleLedger with ⟨failure | outcome, later⟩
  · rw [hrun] at hok
    cases hok
  obtain ⟨terms, input, other, mint, hreports⟩ := provision_reports hnames hdistinct hrun
  exact ⟨hnames, hdistinct, outcome, later, terms, input, other, mint, rfl, hreports,
    hreports.priced fun _ hget => by cases hget⟩

end Provisioner

end Tickwise

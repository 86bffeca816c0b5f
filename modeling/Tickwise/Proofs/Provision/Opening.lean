import Tickwise.Proofs.Chain.Calls
import Tickwise.Proofs.Position.Sized
import Tickwise.Provision.Provisioner

/-!
# From a request to a pool with a price

Every step of a provision is either struck by a scheduled failure, or it does what the books of
the ledger and its own rules determine.  For each step up to the deposit one statement says
everything that it can come to: the result, the books, and the calls it has made.

* `Planned` — which plan a request has, by the tokens of a ledger;
* `run_plan_cases`, `run_verifyChain_cases`, `run_locate_cases` — the steps that read;
* `run_createPool_cases` — the step that writes.
-/

namespace Tickwise

/-- What the pool of a plan is found by. -/
def Plan.key (plan : Plan) : PoolKey :=
  ⟨plan.pair.first.address, plan.pair.second.address, plan.fee⟩

namespace Provisioner

variable {session later : Session Ledger}

/-! ## Planning -/

/-- Whether a plan is the one of a request, with the tokens of a ledger. -/
structure Planned (request : PoolRequest) (tokens : Table Address Token) (plan : Plan) : Prop where
  checked : ∃ reserves, checkRequest request = .ok (plan.fee, reserves) ∧
    reserves.first.address = plan.pair.first.address ∧
    reserves.second.address = plan.pair.second.address ∧
    priceReserves plan.token0 plan.token1 reserves.first.payload reserves.second.payload =
      .ok plan.sqrtPrice
  token0 : Table.get? plan.pair.first.address tokens = some plan.token0
  token1 : Table.get? plan.pair.second.address tokens = some plan.token1
  inputToken : plan.inputToken = request.inputToken
  inputAmount : plan.inputAmount = request.inputAmount

theorem run_readToken_cases {address : Address} {result : Except Failure Token}
    (h : (readToken address : Action Ledger Token).run session = (result, later)) :
    later = session.heard [.token] ∧
      ((∃ token, result = .ok token ∧ Table.get? address session.chain.tokens = some token) ∨
        Refused result ∧
          (session.chain.Strikes .token ∨ Table.get? address session.chain.tokens = none)) := by
  obtain ⟨inner, hinner, rfl⟩ := Action.run_within_cases h
  obtain ⟨rfl, ⟨token, rfl, hget⟩ | ⟨hrefused, hwhy⟩⟩ := Ledger.run_token_cases hinner
  · exact ⟨rfl, .inl ⟨token, rfl, hget⟩⟩
  · exact ⟨rfl, .inr ⟨hrefused.mapError_within _, hwhy⟩⟩

/-- A request has one plan at most. -/
theorem Planned.unique {request : PoolRequest} {tokens : Table Address Token} {plan other : Plan}
    (h : Planned request tokens plan) (h' : Planned request tokens other) : plan = other := by
  obtain ⟨⟨reserves, hcheck, hfirst, hsecond, hprice⟩, h0, h1, hinput, hamount⟩ := h
  obtain ⟨⟨reserves', hcheck', hfirst', hsecond', hprice'⟩, h0', h1', hinput', hamount'⟩ := h'
  rw [hcheck] at hcheck'
  obtain ⟨hfee, rfl⟩ := Prod.mk.inj (Except.ok.inj hcheck')
  obtain ⟨⟨⟨address0, token0⟩, ⟨address1, token1⟩, sorted⟩, fee, sqrtPrice, input, amount⟩ := plan
  obtain ⟨⟨⟨address0', token0'⟩, ⟨address1', token1'⟩, sorted'⟩, fee', sqrtPrice', input',
    amount'⟩ := other
  simp only [Plan.token0, Plan.token1] at *
  subst hfirst hsecond hfirst' hsecond' hinput hamount hinput' hamount' hfee
  obtain rfl := Option.some.inj (h0.symm.trans h0')
  obtain rfl := Option.some.inj (h1.symm.trans h1')
  obtain rfl := Except.ok.inj (hprice.symm.trans hprice')
  rfl

/-- A pool can start at the price of a plan. -/
theorem Planned.isInitializable {request : PoolRequest} {tokens : Table Address Token} {plan : Plan}
    (h : Planned request tokens plan) : IsInitializable plan.sqrtPrice := by
  obtain ⟨⟨reserves, -, -, -, hprice⟩, -⟩ := h
  obtain ⟨amount0, -, hprice⟩ := Except.bind_eq_ok_iff.1 hprice
  obtain ⟨amount1, -, hprice⟩ := Except.bind_eq_ok_iff.1 hprice
  obtain ⟨price, -, hprice⟩ := Except.bind_eq_ok_iff.1 hprice
  unfold ensureInitializable at hprice
  split at hprice
  · rename_i hok
    cases hprice
    exact hok
  · cases hprice

/-- What a plan takes from the reserves of its request. -/
theorem Planned.of_checkRequest {request : PoolRequest} {tokens : Table Address Token} {plan : Plan}
    {fee : FeeTier} {reserves : OrderedPair String} (h : Planned request tokens plan)
    (hcheck : checkRequest request = .ok (fee, reserves)) :
    Table.get? reserves.first.address tokens = some plan.token0 ∧
      Table.get? reserves.second.address tokens = some plan.token1 ∧
      priceReserves plan.token0 plan.token1 reserves.first.payload reserves.second.payload =
        .ok plan.sqrtPrice := by
  obtain ⟨⟨reserves', hcheck', hfirst, hsecond, hprice⟩, h0, h1, -, -⟩ := h
  rw [hcheck] at hcheck'
  obtain ⟨-, rfl⟩ := Prod.mk.inj (Except.ok.inj hcheck')
  exact ⟨hfirst ▸ h0, hsecond ▸ h1, hprice⟩

/-- A request gets its plan unless a read of a token is struck. -/
theorem run_plan_cases {request : PoolRequest} {result : Except Failure Plan}
    (h : (plan request : Action Ledger Plan).run session = (result, later)) :
    ∃ calls, later.chain = session.chain.heard calls ∧ later.now = session.now ∧
      ((∃ plan, result = .ok plan ∧ Planned request session.chain.tokens plan) ∨
        ∃ failure, result = .error failure ∧
          (failure.fault? = none ∧ session.chain.StruckBy calls ∨
            ∀ plan, ¬ Planned request session.chain.tokens plan)) := by
  rw [plan, Action.run_bind, Action.run_within, Action.run_calculate] at h
  cases hcheck : checkRequest request with
  | error fault =>
    rw [hcheck] at h
    cases h
    refine ⟨[], (Ledger.heard_nil _).symm, rfl, .inr ⟨_, rfl, .inr fun plan hplan => ?_⟩⟩
    obtain ⟨reserves, hcheck', -⟩ := hplan.checked
    rw [hcheck] at hcheck'
    cases hcheck'
  | ok checked =>
    obtain ⟨fee, reserves⟩ := checked
    simp only [hcheck, Except.mapError] at h
    obtain ⟨read0, session0, h0, h⟩ := Action.run_bind_cases h
    obtain ⟨rfl, ⟨token0, rfl, hget0⟩ | ⟨⟨failure, rfl, hfault⟩, hwhy⟩⟩ := run_readToken_cases h0
    case inr =>
      cases h
      refine ⟨[.token], rfl, rfl, .inr ⟨failure, rfl, ?_⟩⟩
      rcases hwhy with hstrikes | hnone
      · exact .inl ⟨hfault, hstrikes.struckBy⟩
      · refine .inr fun plan hplan => ?_
        exact Option.some_ne_none _ ((hplan.of_checkRequest hcheck).1.symm.trans hnone)
    obtain ⟨read1, session1, h1, h⟩ := Action.run_bind_cases h
    obtain ⟨rfl, ⟨token1, rfl, hget1⟩ | ⟨⟨failure, rfl, hfault⟩, hwhy⟩⟩ := run_readToken_cases h1
    case inr =>
      cases h
      refine ⟨[.token, .token], Ledger.heard_heard _ _ _, rfl, .inr ⟨failure, rfl, ?_⟩⟩
      rcases hwhy with hstrikes | hnone
      · exact .inl ⟨hfault, (Ledger.Strikes.struckBy_append hstrikes :)⟩
      · refine .inr fun plan hplan => ?_
        exact Option.some_ne_none _ ((hplan.of_checkRequest hcheck).2.1.symm.trans hnone)
    dsimp only at h
    refine ⟨[.token, .token], ?_⟩
    rw [Action.run_bind, Action.run_within, Action.run_calculate] at h
    cases hprice : priceReserves token0 token1 reserves.first.payload reserves.second.payload with
    | error fault =>
      rw [hprice] at h
      cases h
      refine ⟨Ledger.heard_heard _ _ _, rfl, .inr ⟨_, rfl, .inr fun plan hplan => ?_⟩⟩
      obtain ⟨hplan0, hplan1, hplanprice⟩ := hplan.of_checkRequest hcheck
      obtain rfl := Option.some.inj (hget0.symm.trans hplan0)
      obtain rfl := Option.some.inj (hget1.symm.trans hplan1)
      rw [hprice] at hplanprice
      cases hplanprice
    | ok price =>
      rw [hprice] at h
      cases h
      exact ⟨Ledger.heard_heard _ _ _, rfl, .inl ⟨_, rfl,
        ⟨reserves, hcheck, rfl, rfl, hprice⟩, hget0, hget1, rfl, rfl⟩⟩

/-! ## Looking up -/

variable {p : Provisioner} {plan : Plan}

theorem run_verifyChain_cases {result : Except Failure Unit}
    (h : (p.verifyChain : Action Ledger Unit).run session = (result, later)) :
    later = session.heard [.chainId] ∧
      ((result = .ok () ∧ session.chain.chainId = p.deployment.chainId) ∨
        Refused result ∧ (session.chain.Strikes .chainId ∨
          session.chain.chainId ≠ p.deployment.chainId)) := by
  obtain ⟨read, session0, hread, h⟩ := Action.run_bind_cases h
  obtain ⟨inner, hinner, rfl⟩ := Action.run_within_cases hread
  obtain ⟨rfl, rfl | ⟨⟨failure, rfl, hfault⟩, hstrikes⟩⟩ := Ledger.run_chainId_cases hinner
  · dsimp only [Except.mapError] at h
    split at h
    · rename_i hne
      cases h
      exact ⟨rfl, .inr ⟨refused_refusal _, .inr hne⟩⟩
    · rename_i heq
      cases h
      exact ⟨rfl, .inl ⟨rfl, not_not.1 heq⟩⟩
  · cases h
    exact ⟨rfl, .inr ⟨⟨_, rfl, hfault⟩, .inl hstrikes⟩⟩

/-- A pool that is there is read unless the read is struck. -/
theorem run_readPool_cases {address : Address} {context : String} {pool : Pool}
    {result : Except Failure Pool} (hat : session.chain.poolAt? address = some pool)
    (h : ((Chain.poolState address : Action Ledger Pool).within context).run session =
      (result, later)) :
    later = session.heard [.poolState] ∧
      (result = .ok pool ∨ Refused result ∧ session.chain.Strikes .poolState) := by
  obtain ⟨inner, hinner, rfl⟩ := Action.run_within_cases h
  obtain ⟨rfl, ⟨found, rfl, hfound⟩ | ⟨hrefused, hstrikes | hnone⟩⟩ :=
    Ledger.run_poolState_cases hinner
  · obtain rfl := Option.some.inj (hat.symm.trans hfound)
    exact ⟨rfl, .inl rfl⟩
  · exact ⟨rfl, .inr ⟨hrefused.mapError_within _, hstrikes⟩⟩
  · rw [hat] at hnone
    cases hnone

/-- The pool of a plan is found where it stands, unless a read of it is struck. -/
theorem run_locate_cases {result : Except Failure Progress}
    (h : (p.locate plan : Action Ledger Progress).run session = (result, later)) :
    ∃ calls, later.chain = session.chain.heard calls ∧ later.now = session.now ∧
      ((result = .ok (session.chain.standing plan.key) ∧
          ∃ factory, p.deployment.resolve .factory = .ok factory) ∨
        ∃ failure, result = .error failure ∧
          (failure.fault? = none ∧ session.chain.StruckBy calls ∨
            ∃ fault, p.deployment.resolve .factory = .error fault)) := by
  rw [locate, Action.run_bind, Action.run_calculate] at h
  cases hfactory : p.deployment.resolve .factory with
  | error fault =>
    rw [hfactory] at h
    cases h
    exact ⟨[], (Ledger.heard_nil _).symm, rfl, .inr ⟨_, rfl, .inr ⟨fault, rfl⟩⟩⟩
  | ok factory =>
    simp only [hfactory, Except.mapError] at h
    obtain ⟨found, session0, hfind, h⟩ := Action.run_bind_cases h
    obtain ⟨inner, hinner, rfl⟩ := Action.run_within_cases hfind
    obtain ⟨rfl, rfl | ⟨⟨failure, rfl, hfault⟩, hstrikes⟩⟩ := Ledger.run_poolAddress_cases hinner
    case inr =>
      cases h
      exact ⟨[.poolAddress], rfl, rfl, .inr ⟨_, rfl, .inl ⟨hfault, hstrikes.struckBy⟩⟩⟩
    dsimp only [Except.mapError] at h
    cases hget : Table.get? plan.key session.chain.pools with
    | none =>
      have hstanding : session.chain.standing plan.key = .notFound := by
        simp [Ledger.standing, hget]
      rw [Plan.key] at hget
      rw [hget] at h
      cases h
      exact ⟨[.poolAddress], rfl, rfl, .inl ⟨by rw [hstanding], factory, rfl⟩⟩
    | some entry =>
      obtain ⟨found, hat⟩ := Ledger.exists_poolAt?_of_get? hget
      have hstanding : session.chain.standing plan.key =
          if found.isInitialized then .initialized found else .notFound := by
        simp [Ledger.standing, hget, hat]
      rw [Plan.key] at hget
      rw [hget] at h
      obtain ⟨read, session1, hread, h⟩ := Action.run_bind_cases h
      refine ⟨[.poolAddress, .poolState], ?_⟩
      have hat' : (session.heard [.poolAddress]).chain.poolAt? entry.address = some found := hat
      obtain ⟨rfl, rfl | ⟨⟨failure, rfl, hfault⟩, hstrikes⟩⟩ := run_readPool_cases hat' hread
      · dsimp only at h
        split at h
        · rename_i hpriced
          cases h
          rw [hstanding, if_pos hpriced]
          exact ⟨Ledger.heard_heard _ _ _, rfl, .inl ⟨rfl, factory, rfl⟩⟩
        · rename_i hpriced
          cases h
          rw [hstanding, if_neg hpriced]
          exact ⟨Ledger.heard_heard _ _ _, rfl, .inl ⟨rfl, factory, rfl⟩⟩
      · cases h
        exact ⟨Ledger.heard_heard _ _ _, rfl, .inr ⟨failure, rfl,
          .inl ⟨hfault, (Ledger.Strikes.struckBy_append hstrikes :)⟩⟩⟩

/-! ## Creating -/

/-- The pool of a plan is created and priced, and read back, unless a call is struck. -/
theorem run_createPool_cases {tick : ℤ} {result : Except Failure Pool}
    (htick : tickAtSqrtRatio plan.sqrtPrice = .ok tick)
    (h : (p.createPool plan : Action Ledger Pool).run session = (result, later)) :
    later.now = session.now ∧
      ((∃ fault, p.deployment.resolve .positionManager = .error fault ∧
          result = .error (.ofFault fault) ∧ later.chain = session.chain) ∨
        (∃ manager, p.deployment.resolve .positionManager = .ok manager) ∧
          ((Refused result ∧ session.chain.StruckBy [.createAndInitializePool] ∧
              later.chain = session.chain.heard [.createAndInitializePool]) ∨
            later.chain = (session.chain.priced plan.key tick plan.sqrtPrice).heard
                [.createAndInitializePool, .poolState] ∧
              ((∃ pool, result = .ok pool ∧
                  (session.chain.priced plan.key tick plan.sqrtPrice).poolAt?
                    (session.chain.createdPool plan.key).address = some pool) ∨
                Refused result ∧
                  session.chain.StruckBy [.createAndInitializePool, .poolState]))) := by
  rw [createPool, Action.run_bind, Action.run_calculate] at h
  cases hmanager : p.deployment.resolve .positionManager with
  | error fault =>
    rw [hmanager] at h
    cases h
    exact ⟨rfl, .inl ⟨fault, rfl, rfl, rfl⟩⟩
  | ok manager =>
    simp only [hmanager, Except.mapError] at h
    obtain ⟨created, session0, hcreate, h⟩ := Action.run_bind_cases h
    obtain ⟨inner, hinner, rfl⟩ := Action.run_within_cases hcreate
    obtain ⟨⟨failure, rfl, hfault⟩, hstrikes, rfl⟩ | ⟨rfl, rfl⟩ :=
      Ledger.run_createAndInitializePool_cases plan.pair.sorted htick hinner
    · cases h
      exact ⟨rfl, .inr ⟨⟨manager, rfl⟩, .inl ⟨⟨_, rfl, hfault⟩, hstrikes.struckBy, rfl⟩⟩⟩
    · obtain ⟨read, session1, hread, h⟩ := Action.run_bind_cases h
      obtain ⟨pool, hat⟩ : ∃ pool, (session.chain.priced plan.key tick plan.sqrtPrice).poolAt?
          (session.chain.createdPool plan.key).address = some pool := Ledger.exists_poolAt?_priced
      obtain ⟨rfl, rfl | ⟨⟨failure, rfl, hfault⟩, hstrikes⟩⟩ := run_readPool_cases
        (by exact hat) hread
      · dsimp only at h
        -- the price that is kept makes a difference to the journal only
        have hdone : result = .ok pool ∧ later.now = session.now ∧ later.chain =
            (session.chain.priced plan.key tick plan.sqrtPrice).heard
              [.createAndInitializePool, .poolState] := by
          split at h
          · cases h
            exact ⟨rfl, rfl, Ledger.heard_heard _ _ _⟩
          · cases h
            exact ⟨rfl, rfl, Ledger.heard_heard _ _ _⟩
        exact ⟨hdone.2.1, .inr ⟨⟨manager, rfl⟩, .inr ⟨hdone.2.2, .inl ⟨pool, hdone.1, hat⟩⟩⟩⟩
      · cases h
        exact ⟨rfl, .inr ⟨⟨manager, rfl⟩, .inr ⟨Ledger.heard_heard _ _ _, .inr ⟨⟨_, rfl, hfault⟩,
          (Ledger.Strikes.struckBy_append hstrikes :)⟩⟩⟩⟩

end Provisioner

end Tickwise

import Tickwise.Proofs.Provision.Protocol

/-!
# Histories of a provisioner

Plans are made, looked up, advanced and provisioned in any order, and any state that was reported
for a plan may be used again, however old it is.  Whatever is done, a pool that has a price keeps
it, and every mint is sized against the pool that the ledger holds at that moment.

* `Operation`, `perform` — what can be done with a provisioner;
* `History` — one thing done after another, by the states that were reported before;
* `report_holds`, `mint_holds` — what a single step reports and mints, and
  `History.sound` — what a whole history does;
* `history_settles_prices` — prices are given once, and mints follow them.
-/

namespace Tickwise

namespace Provisioner

/-! ## What can be done -/

/-- What can be done with a provisioner. -/
inductive Operation where
  | plan (request : PoolRequest)
  | locate (plan : Plan)
  | advance (plan : Plan) (progress : Progress)
  | provision (request : PoolRequest)

/-- Does it, and reports where a plan stands if that is what comes of it. -/
def perform {σ : Type} [Chain σ] (p : Provisioner) : Operation → Action σ (Option (Plan × Progress))
  | .plan request => do
    let _ ← Provisioner.plan request
    return none
  | .locate plan => do
    let progress ← p.locate plan
    return some (plan, progress)
  | .advance plan progress => do
    let next ← p.advance plan progress
    return some (plan, next)
  | .provision request => do
    let _ ← p.provision request
    return none

/-- The plan that something is done for: the one that is given, or the one of the request. -/
def Operation.Concerns (tokens : Table Address Token) : Operation → Plan → Prop
  | .plan _, _ => False
  | .locate given, concerned => concerned = given
  | .advance given _, concerned => concerned = given
  | .provision request, concerned => Planned request tokens concerned

/-- Something that was done: what it reported, and what it said to the chain. -/
structure Step where
  operation : Operation
  reported : Option (Plan × Progress)
  exchanges : List Exchange

/-- What is reported, if nothing fails. -/
def reported : Except Failure (Option (Plan × Progress)) → Option (Plan × Progress)
  | .ok report => report
  | .error _ => none

/-- What was done with a provisioner from a ledger on, one step after the other.  A plan is
advanced from `notFound`, or from any state that an earlier step has reported for it; the clock
and the journal are as they may be. -/
inductive History (p : Provisioner) (start : Ledger) : List Step → Ledger → Prop
  | nil : History p start [] start
  | snoc {steps : List Step} {session later : Session Ledger} {operation : Operation}
    {result : Except Failure (Option (Plan × Progress))} (h : History p start steps session.chain)
    (hallowed : ∀ plan progress, operation = .advance plan progress →
      progress = .notFound ∨ ∃ step ∈ steps, step.reported = some (plan, progress))
    (hrun : (p.perform operation).run session = (result, later)) :
    History p start
      (steps ++ [⟨operation, reported result, said (p.perform operation) session⟩]) later.chain

/-! ## Pools with a price -/

/-- Whether a pool is the one that a ledger holds for a plan, and has a price. -/
def Settled (plan : Plan) (pool : Pool) (ledger : Ledger) : Prop :=
  Table.get? plan.key ledger.pools = some pool ∧ pool.sqrtPrice ≠ 0

variable {p : Provisioner} {plan : Plan} {pool : Pool} {session later : Session Ledger}

theorem settled_of_isInitialized {ledger : Ledger}
    (h : Table.get? plan.key ledger.pools = some pool ∧ pool.isInitialized) :
    Settled plan pool ledger :=
  ⟨h.1, Pool.isInitialized_iff.1 h.2⟩

theorem Settled.grows {before after : Ledger} (h : Settled plan pool before)
    (hgrows : before.Grows after) : Settled plan pool after :=
  ⟨hgrows.prices plan.key pool h.1 (Pool.isInitialized_iff.2 h.2), h.2⟩

/-- The pool that a deposit starts from is the one of the plan. -/
theorem Opened.settled {before opened : Ledger} (h : Opened plan before opened pool)
    (hdistinct : opened.Distinct) (hprice : plan.sqrtPrice ≠ 0) : Settled plan pool opened :=
  settled_of_isInitialized (hdistinct.get?_of_standing (h.standing hdistinct hprice))

/-- A pool that was created and read back is the one of the plan, with whatever price the plan
has. -/
theorem settled_of_run_createPool
    (h : (p.createPool plan : Action Ledger Pool).run session = (.ok pool, later))
    (hdistinct : later.chain.Distinct) : Settled plan pool later.chain := by
  refine settled_of_isInitialized ?_
  rw [createPool, Action.run_bind, Action.run_calculate] at h
  cases hmanager : p.deployment.resolve .positionManager with
  | error fault =>
    rw [hmanager] at h
    cases h
  | ok manager =>
    simp only [hmanager, Except.mapError] at h
    obtain ⟨created, session0, hcreate, h⟩ := Action.run_bind_cases h
    cases created with
    | error failure => cases h
    | ok address =>
      obtain ⟨entry, hget, hpriced, rfl⟩ := Ledger.get?_of_run_createAndInitializePool hcreate
      obtain ⟨found, hat⟩ := Ledger.exists_poolAt?_of_get? hget
      obtain ⟨read, session1, hread, h⟩ := Action.run_bind_cases h
      obtain ⟨rfl, rfl | ⟨⟨failure, rfl, -⟩, -⟩⟩ := run_readPool_cases hat hread
      case inr => cases h
      -- that a price was kept makes a difference to the journal only
      obtain ⟨rfl, hlater⟩ : found = pool ∧ later.chain = session0.chain.heard [.poolState] := by
        dsimp only at h
        split at h
        · cases h
          exact ⟨rfl, rfl⟩
        · cases h
          exact ⟨rfl, rfl⟩
      rw [hlater] at hdistinct ⊢
      have hself := hdistinct.poolAt?_eq hget
      rw [show (session0.chain.heard [.poolState]).poolAt? entry.address = some found from hat]
        at hself
      cases hself
      exact ⟨hget, hpriced⟩

/-! ## One step -/

/-- What a step reports as open is the pool of the plan. -/
theorem report_holds {operation : Operation} {result : Except Failure (Option (Plan × Progress))}
    (hrun : (p.perform operation : Action Ledger _).run session = (result, later))
    (hdistinct : later.chain.Distinct)
    (hreported : reported result = some (plan, .initialized pool)) :
    Settled plan pool later.chain := by
  cases result with
  | error failure => cases hreported
  | ok report =>
    obtain rfl : report = some (plan, .initialized pool) := hreported
    cases operation with
    | plan request =>
      obtain ⟨inner, last, -, h⟩ := Action.run_bind_cases hrun
      cases inner <;> cases h
    | provision request =>
      obtain ⟨inner, last, -, h⟩ := Action.run_bind_cases hrun
      cases inner <;> cases h
    | locate located =>
      obtain ⟨inner, last, hlocate, h⟩ := Action.run_bind_cases hrun
      cases inner with
      | error failure => cases h
      | ok progress =>
        cases h
        obtain ⟨calls, hledger, -, ⟨hok, -⟩ | ⟨failure, herror, -⟩⟩ := run_locate_cases hlocate
        · rw [hledger] at hdistinct ⊢
          have hstanding := (Except.ok.inj hok).symm
          exact settled_of_isInitialized (hdistinct.get?_of_standing hstanding)
        · cases herror
    | advance advanced progress =>
      obtain ⟨inner, last, hadvance, h⟩ := Action.run_bind_cases hrun
      cases inner with
      | error failure => cases h
      | ok next =>
        cases h
        cases progress with
        | notFound =>
          obtain ⟨created, last', hcreate, h⟩ := Action.run_bind_cases hadvance
          cases created with
          | error failure => cases h
          | ok read =>
            cases h
            exact settled_of_run_createPool hcreate hdistinct
        | initialized found =>
          obtain ⟨added, last', -, h⟩ := Action.run_bind_cases hadvance
          cases added <;> cases h
        | liquidityAdded outcome => cases hadvance

/-- Whether a mint is that of the position that is sized against the pool of a plan, as a ledger
holds it. -/
def Mints (p : Provisioner) (plan : Plan) (ledger : Ledger) (mint : MintRequest) : Prop :=
  ∃ pool position manager deadline, Settled plan pool ledger ∧
    sizePosition (p.sizingRequest plan pool) = .ok position ∧
    mint = p.mintAt manager position deadline

/-- Whether an exchange is no mint. -/
def Mintless (e : Exchange) : Prop := ¬ e.ask.IsMint

theorem opens_mintless : Opens Mintless := fun _ _ hmint _ => hmint

/-- Answering with what other work came to says nothing more. -/
theorem said_bind_pure {α β : Type} {work : Action Watched α} {f : α → β} :
    said (work >>= fun a => pure (f a)) session = said work session := by
  unfold said
  rw [Action.run_bind]
  rcases work.run session.watched with ⟨failure | a, last⟩ <;> rfl

theorem follows_perform (p : Provisioner) (operation : Operation) :
    Follows (p.perform operation) (p.perform operation) := by
  cases operation with
  | plan request => exact .bind (follows_plan request) fun _ => .pure _
  | locate plan => exact .bind (p.follows_locate plan) fun _ => .pure _
  | advance plan progress => exact .bind (p.follows_advance plan progress) fun _ => .pure _
  | provision request => exact .bind (p.follows_provision request) fun _ => .pure _

/-- The calls of a deposit are fixed before it begins. -/
theorem exists_depositWord (p : Provisioner) (plan : Plan) (pool : Pool) (ledger : Ledger) :
    ∃ word, ∀ manager position, p.deployment.resolve .positionManager = .ok manager →
      sizePosition (p.sizingRequest plan pool) = .ok position →
      word = depositWord manager position ledger := by
  by_cases h : ∃ manager position, p.deployment.resolve .positionManager = .ok manager ∧
      sizePosition (p.sizingRequest plan pool) = .ok position
  · obtain ⟨manager, position, hmanager, hsized⟩ := h
    refine ⟨depositWord manager position ledger, fun manager' position' hmanager' hsized' => ?_⟩
    obtain rfl := Except.ok.inj (hmanager.symm.trans hmanager')
    obtain rfl := Except.ok.inj (hsized.symm.trans hsized')
    rfl
  · exact ⟨[], fun manager position hmanager hsized =>
      absurd ⟨manager, position, hmanager, hsized⟩ h⟩

/-- Every exchange of a step into a pool is one of its deposit. -/
theorem deposits_of_mem_said {e : Exchange}
    (he : e ∈ said (p.advance plan (.initialized pool)) session) :
    p.Deposits plan pool session.chain e := by
  obtain ⟨word, hword⟩ := exists_depositWord p plan pool session.chain
  have hasks : ∀ result last,
      (p.addLiquidity plan pool : Action Watched Outcome).run session.watched = (result, last) →
      Asks session.watched result last word (p.Deposits plan pool session.chain) :=
    fun result last hadd => asks_addLiquidity hword hadd
  rw [advance, said_bind_pure] at he
  exact ((p.follows_addLiquidity plan pool).asks_said session hasks).2.2 e he

/-- Nothing but the deposit into a pool mints. -/
theorem mintless_of_mem_said {operation : Operation} {e : Exchange}
    (hother : ∀ plan pool, operation ≠ .advance plan (.initialized pool))
    (hother' : ∀ request, operation ≠ .provision request)
    (he : e ∈ said (p.perform operation) session) : Mintless e := by
  cases operation with
  | plan request =>
    have hasks : ∀ result last,
        (Provisioner.plan request : Action Watched Plan).run session.watched = (result, last) →
        Asks session.watched result last [.token, .token] Mintless :=
      fun result last hplan => asks_plan opens_mintless hplan
    rw [perform, said_bind_pure] at he
    exact ((follows_plan request).asks_said session hasks).2.2 e he
  | locate located =>
    have hasks : ∀ result last,
        (p.locate located : Action Watched Progress).run session.watched = (result, last) →
        Asks session.watched result last (locateWord located.key session.chain) Mintless :=
      fun result last hlocate => asks_locate opens_mintless hlocate
    rw [perform, said_bind_pure] at he
    exact ((p.follows_locate located).asks_said session hasks).2.2 e he
  | advance advanced progress =>
    rw [perform, said_bind_pure] at he
    cases progress with
    | notFound =>
      have hasks : ∀ result last,
          (p.createPool advanced : Action Watched Pool).run session.watched = (result, last) →
          Asks session.watched result last [.createAndInitializePool, .poolState] Mintless :=
        fun result last hcreate => asks_createPool opens_mintless (fun _ _ _ => not_false) hcreate
      rw [advance, said_bind_pure] at he
      exact ((p.follows_createPool advanced).asks_said session hasks).2.2 e he
    | initialized pool => exact absurd rfl (hother advanced pool)
    | liquidityAdded outcome => cases he
  | provision request => exact absurd rfl (hother' request)

/-- Every mint of a step is that of a plan the step is for, against its pool. -/
theorem mint_holds {operation : Operation} {result : Except Failure (Option (Plan × Progress))}
    (hrun : (p.perform operation : Action Ledger _).run session = (result, later))
    (hdistinct : later.chain.Distinct)
    (hknown : ∀ plan pool, operation = .advance plan (.initialized pool) →
      Settled plan pool session.chain)
    {e : Exchange} {mint : MintRequest} (he : e ∈ said (p.perform operation) session)
    (hmint : e.ask = .mint mint) :
    ∃ plan, operation.Concerns session.chain.tokens plan ∧ p.Mints plan e.before mint := by
  by_cases hdeposit : ∃ plan pool, operation = .advance plan (.initialized pool)
  · obtain ⟨plan, pool, rfl⟩ := hdeposit
    rw [perform, said_bind_pure] at he
    obtain ⟨hpools, manager, position, deadline, -, hsized, rfl⟩ :=
      (deposits_of_mem_said he).2 mint hmint
    obtain ⟨hget, hprice⟩ := hknown plan pool rfl
    rw [← hpools] at hget
    exact ⟨plan, rfl, pool, position, manager, deadline, ⟨hget, hprice⟩, hsized, rfl⟩
  by_cases hprovision : ∃ request, operation = .provision request
  · obtain ⟨request, rfl⟩ := hprovision
    have hlinked := (p.follows_perform (.provision request)).linked_said hrun
    obtain ⟨-, hafter⟩ := hlinked.grows_between he
    have hbefore : e.before.Distinct :=
      ((hlinked.held e he).lawful.grows.trans hafter).distinct hdistinct
    rw [perform, said_bind_pure] at he
    obtain ⟨plan, manager, opened, pool, position, deadline, htarget, hpools, rfl⟩ :=
      (provides_of_mem_said he).2 mint hmint
    rw [Ledger.Distinct, hpools] at hbefore
    obtain ⟨hget, hprice⟩ := htarget.opens.settled hbefore
      (pos_of_isInitializable htarget.ready.planned.isInitializable).ne'
    rw [← hpools] at hget
    exact ⟨plan, htarget.ready.planned, pool, position, manager, deadline, ⟨hget, hprice⟩,
      htarget.sized, rfl⟩
  · push Not at hdeposit hprovision
    have hmintless : ¬ e.ask.IsMint := mintless_of_mem_said hdeposit hprovision he
    rw [hmint] at hmintless
    exact absurd trivial hmintless

/-! ## The key of a mint -/

/-- Whether the tokens of a plan have the addresses that they stand under. -/
def Named (plan : Plan) : Prop :=
  plan.token0.address = plan.pair.first.address ∧ plan.token1.address = plan.pair.second.address

/-- A position that is sized for a plan is one of its two tokens, if they have the addresses that
they stand under. -/
theorem tokens_of_sized {position : Position} (hnamed : Named plan)
    (hsized : sizePosition (p.sizingRequest plan pool) = .ok position) :
    position.token0 = plan.token0 ∧ position.token1 = plan.token1 := by
  obtain ⟨fee, pair, side, range, amount, liquidity, amounts, -, hpair, -, -, -, -, -, -, rfl⟩ :=
    sizePosition_eq_ok_iff.1 hsized
  have hsorted : plan.token0.address < plan.token1.address := by
    rw [hnamed.1, hnamed.2]
    exact plan.pair.sorted
  change OrderedPair.of plan.input.address plan.input plan.other.address plan.other = .ok pair
    at hpair
  unfold Plan.input Plan.other at hpair
  split at hpair
  · rw [OrderedPair.of_of_lt hsorted] at hpair
    cases hpair
    exact ⟨rfl, rfl⟩
  · rw [OrderedPair.of_of_gt hsorted] at hpair
    cases hpair
    exact ⟨rfl, rfl⟩

/-- The fee of a sized position is the one of the pool. -/
theorem fee_of_sized {position : Position} (hfee : pool.fee = plan.fee.fee)
    (hsized : sizePosition (p.sizingRequest plan pool) = .ok position) :
    position.fee = plan.fee := by
  obtain ⟨fee, pair, side, range, amount, liquidity, amounts, hvalid, -, -, -, -, -, -, -, rfl⟩ :=
    sizePosition_eq_ok_iff.1 hsized
  have hread : fee.fee = pool.fee := (Pool.validate_eq_ok_iff.1 hvalid).1
  rw [hfee, ← FeeTier.ofFee_eq_ok_iff, FeeTier.ofFee_fee] at hread
  exact (Except.ok.inj hread).symm

/-- A position that is sized against the pool of a plan names that pool, if the tokens have the
addresses that they stand under and the pool has the fee that it stands under. -/
theorem key_of_sized {position : Position} (hnamed : Named plan) (hfee : pool.fee = plan.fee.fee)
    (hsized : sizePosition (p.sizingRequest plan pool) = .ok position) :
    plan.key = ⟨position.token0.address, position.token1.address, position.fee⟩ := by
  obtain ⟨htoken0, htoken1⟩ := tokens_of_sized hnamed hsized
  rw [fee_of_sized hfee hsized, htoken0, htoken1, hnamed.1, hnamed.2, Plan.key]

/-! ## Whole histories -/

variable {start ledger : Ledger} {steps : List Step}

/-- The exchanges of a history took place one after the other. -/
theorem History.linked (h : History p start steps ledger) :
    Linked start (steps.flatMap Step.exchanges) ledger := by
  induction h with
  | nil => exact .nil
  | @snoc steps session later operation result _ _ hrun ih =>
    rw [List.flatMap_append, List.flatMap_singleton]
    exact ih.append ((p.follows_perform operation).linked_said hrun)

/-- **What was reported of a pool still holds, and every mint is that of its plan**, whatever was
done and however old the states were that it was done from. -/
theorem History.sound (h : History p start steps ledger) (hdistinct : ledger.Distinct) :
    (∀ step ∈ steps, ∀ plan pool, step.reported = some (plan, .initialized pool) →
        Settled plan pool ledger) ∧
      ∀ step ∈ steps, ∀ e ∈ step.exchanges, ∀ mint, e.ask = .mint mint →
        ∃ plan, step.operation.Concerns start.tokens plan ∧ p.Mints plan e.before mint := by
  induction h with
  | nil => exact ⟨by simp, by simp⟩
  | @snoc steps session later operation result hbefore hallowed hrun ih =>
    have hgrows : session.chain.Grows later.chain :=
      ((p.follows_perform operation).linked_said hrun).grows
    obtain ⟨hreports, hmints⟩ := ih (hgrows.distinct hdistinct)
    have hknown : ∀ plan pool, operation = .advance plan (.initialized pool) →
        Settled plan pool session.chain := by
      intro plan pool hoperation
      obtain hnotFound | ⟨step, hstep, hreported⟩ := hallowed plan _ hoperation
      · cases hnotFound
      · exact hreports step hstep plan pool hreported
    refine ⟨fun step hstep plan pool hreported => ?_, fun step hstep e he mint hmint => ?_⟩
    · rcases List.mem_append.1 hstep with hearlier | hlast
      · exact (hreports step hearlier plan pool hreported).grows hgrows
      · rw [List.mem_singleton.1 hlast] at hreported
        exact report_holds hrun hdistinct hreported
    · rcases List.mem_append.1 hstep with hearlier | hlast
      · exact hmints step hearlier e he mint hmint
      · rw [List.mem_singleton.1 hlast] at he ⊢
        rw [← hbefore.linked.grows.tokens]
        exact mint_holds hrun hdistinct hknown he hmint

/-- **Prices are given once, and mints follow them.**  Whatever is done in whatever order, and
whichever calls are made to fail: as long as no two pools come to share an address, a pool that
has a price stays as it is, and each mint has the ticks and the amounts of the position that is
sized against the pool that the ledger holds for its plan at that moment.  That pool is the one
the mint names, if tokens and pool are what they stand under. -/
theorem history_settles_prices (h : History p start steps ledger) (hdistinct : ledger.Distinct) :
    Linked start (steps.flatMap Step.exchanges) ledger ∧
      (start :: (steps.flatMap Step.exchanges).map Exchange.after).Pairwise (fun before after =>
        ∀ key pool, Table.get? key before.pools = some pool → pool.sqrtPrice ≠ 0 →
          Table.get? key after.pools = some pool) ∧
      ledger.mints = start.mints ++ (steps.flatMap Step.exchanges).filterMap Exchange.minted? ∧
      ∀ step ∈ steps, ∀ e ∈ step.exchanges, ∀ mint, e.minted? = some mint →
        ∃ plan pool position, step.operation.Concerns start.tokens plan ∧
          Table.get? plan.key e.before.pools = some pool ∧ pool.sqrtPrice ≠ 0 ∧
          sizePosition (p.sizingRequest plan pool) = .ok position ∧
          mint.tickLower = position.tickLower ∧ mint.tickUpper = position.tickUpper ∧
          mint.amount0Desired = position.amounts.amount0 ∧
          mint.amount1Desired = position.amounts.amount1 ∧
          (Named plan → pool.fee = plan.fee.fee →
            plan.key = ⟨mint.token0, mint.token1, mint.fee⟩) := by
  refine ⟨h.linked, ?_, h.linked.mints, fun step hstep e he mint hmint => ?_⟩
  · refine h.linked.pairwise_grows.imp fun hgrows key pool hget hprice => ?_
    exact hgrows.prices key pool hget (by simpa [Pool.isInitialized] using hprice)
  · obtain ⟨plan, hconcerns, pool, position, manager, deadline, ⟨hget, hprice⟩, hsized, rfl⟩ :=
      (h.sound hdistinct).2 step hstep e he mint (Exchange.ask_of_minted? hmint)
    exact ⟨plan, pool, position, hconcerns, hget, hprice, hsized, rfl, rfl, rfl, rfl,
      fun hnamed hfee => key_of_sized hnamed hfee hsized⟩

/-- The mint of the sample request is sized against the pool that it has created. -/
theorem history_settles_prices_sample :
    ∃ e ∈ said (sample.perform (.provision (sampleRequest "1000000"))) ⟨sampleLedger, 0, []⟩,
      ∃ mint plan pool position, e.minted? = some mint ∧
        Planned (sampleRequest "1000000") sampleLedger.tokens plan ∧
        Table.get? plan.key e.before.pools = some pool ∧ pool.sqrtPrice ≠ 0 ∧
        sizePosition (sample.sizingRequest plan pool) = .ok position ∧
        mint.tickLower = position.tickLower ∧ mint.amount0Desired = position.amounts.amount0 := by
  have hmints : ((said (sample.perform (.provision (sampleRequest "1000000")))
      ⟨sampleLedger, 0, []⟩).filterMap Exchange.minted?).length = 1 := by
    decide +kernel
  have hdistinct : ((sample.perform (.provision (sampleRequest "1000000")) : Action Ledger _).run
      ⟨sampleLedger, 0, []⟩).2.chain.Distinct := by
    unfold Ledger.Distinct
    decide +kernel
  obtain ⟨mint, hone⟩ := List.length_eq_one_iff.1 hmints
  obtain ⟨e, he, hmint⟩ := List.mem_filterMap.1 (hone ▸ List.mem_singleton_self mint)
  rcases hrun : (sample.perform (.provision (sampleRequest "1000000")) : Action Ledger _).run
    ⟨sampleLedger, 0, []⟩ with ⟨result, later⟩
  rw [hrun] at hdistinct
  have hstart : History sample sampleLedger [] (⟨sampleLedger, 0, []⟩ : Session Ledger).chain :=
    .nil
  have hhistory := hstart.snoc (fun _ _ hadvance => by cases hadvance) hrun
  obtain ⟨-, -, -, hsized⟩ := history_settles_prices hhistory hdistinct
  obtain ⟨plan, pool, position, hplan, hget, hprice, hposition, hlower, -, h0, -⟩ :=
    hsized _ (List.mem_singleton_self _) e he mint hmint
  exact ⟨e, he, mint, plan, pool, position, hmint, hplan, hget, hprice, hposition, hlower, h0⟩

end Provisioner

end Tickwise

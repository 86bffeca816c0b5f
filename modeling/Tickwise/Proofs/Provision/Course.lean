import Tickwise.Proofs.Chain.Addresses
import Tickwise.Proofs.Provision.Deposit
import Tickwise.Proofs.Provision.Opening

/-!
# The course of a provision

A provision halts before it has written anything; or it gives the pool its price and is stopped
before the deposit; or it comes to the deposit, which runs as far as its calls let it.  This is
all that can happen, whatever the ledger holds and whichever calls are made to fail.

* `Ready` — what a request needs before anything is written;
* `Opened` — the ledger and the pool that a deposit starts from;
* `Course` — the ways a provision can go, and `run_provision` — that it goes one of them.
-/

namespace Tickwise

namespace Provisioner

/-- What holds of a request that is let through to the first transaction. -/
structure Ready (p : Provisioner) (request : PoolRequest) (ledger : Ledger) (plan : Plan)
    (manager : Address) : Prop where
  planned : Planned request ledger.tokens plan
  chainId : ledger.chainId = p.deployment.chainId
  factory : ∃ factory, p.deployment.resolve .factory = .ok factory
  manager : p.deployment.resolve .positionManager = .ok manager

theorem Ready.unique {p : Provisioner} {request : PoolRequest} {ledger : Ledger} {plan other : Plan}
    {manager another : Address} (h : Ready p request ledger plan manager)
    (h' : Ready p request ledger other another) : plan = other ∧ manager = another :=
  ⟨h.planned.unique h'.planned, Except.ok.inj (h.manager.symm.trans h'.manager)⟩

/-- The ledger and the pool that the deposit of a plan starts from: a pool that is found with a
price, or one that is given its price first. -/
inductive Opened (plan : Plan) (before : Ledger) : Ledger → Pool → Prop
  | found {pool : Pool} (h : before.standing plan.key = .initialized pool) :
    Opened plan before before pool
  | created {tick : ℤ} {pool : Pool} (h : before.standing plan.key = .notFound)
    (htick : tickAtSqrtRatio plan.sqrtPrice = .ok tick)
    (hat : (before.priced plan.key tick plan.sqrtPrice).poolAt?
      (before.createdPool plan.key).address = some pool) :
    Opened plan before (before.priced plan.key tick plan.sqrtPrice) pool

/-- A plan opens one pool. -/
theorem Opened.unique {before opened opened' : Ledger} {plan : Plan} {pool pool' : Pool}
    (h : Opened plan before opened pool) (h' : Opened plan before opened' pool') :
    opened = opened' ∧ pool = pool' := by
  cases h with
  | found hfound =>
    cases h' with
    | found hfound' =>
      rw [hfound] at hfound'
      exact ⟨rfl, Progress.initialized.inj hfound'⟩
    | created hnotFound =>
      rw [hfound] at hnotFound
      cases hnotFound
  | created hnotFound htick hat =>
    cases h' with
    | found hfound =>
      rw [hfound] at hnotFound
      cases hnotFound
    | created _ htick' hat' =>
      obtain rfl := Except.ok.inj (htick.symm.trans htick')
      exact ⟨rfl, Option.some.inj (hat.symm.trans hat')⟩

theorem Opened.mints {before opened : Ledger} {plan : Plan} {pool : Pool}
    (h : Opened plan before opened pool) :
    opened.mints = before.mints := by
  cases h <;> rfl

/-- The pool that is opened takes no address that another pool has. -/
theorem Opened.distinct {before opened : Ledger} {plan : Plan} {pool : Pool}
    (h : Opened plan before opened pool) (hdistinct : before.DistinctWithNext) :
    opened.Distinct := by
  cases h with
  | found => exact hdistinct.distinct
  | created => exact hdistinct.priced _ _ _

/-- The pools are numbered in order once another one is open. -/
theorem Opened.numbered {before opened : Ledger} {plan : Plan} {pool : Pool}
    (h : Opened plan before opened pool) (hnumbered : before.Numbered) : opened.Numbered := by
  cases h with
  | found => exact hnumbered
  | created => exact hnumbered.priced _ _ _

/-- Once it is open, a pool is found with its price. -/
theorem Opened.standing {before opened : Ledger} {plan : Plan} {pool : Pool}
    (h : Opened plan before opened pool) (hdistinct : opened.Distinct)
    (hprice : plan.sqrtPrice ≠ 0) : opened.standing plan.key = .initialized pool := by
  cases h with
  | found hfound => exact hfound
  | created hnotFound htick hat =>
    have hself := hdistinct.poolAt?_eq Ledger.get?_pools_priced
    rw [Ledger.address_pricedPool, hat] at hself
    obtain rfl := Option.some.inj hself
    rw [Ledger.standing, Ledger.get?_pools_priced, Option.bind_some, Ledger.address_pricedPool, hat]
    exact if_pos (Ledger.isInitialized_pricedPool hprice)

/-- The ways a provision can go: what it comes to, and the ledger it leaves. -/
inductive Course (p : Provisioner) (request : PoolRequest) (before : Ledger) (now : ℤ) :
    Except Failure Outcome → Ledger → Prop
  /-- Nothing has been written. -/
  | halted {failure : Failure} {calls : List Call}
    (h : failure.fault? = none ∧ before.StruckBy calls ∨
      ∀ plan manager, ¬ Ready p request before plan manager) :
    Course p request before now (.error failure) (before.heard calls)
  /-- The pool has its price, but could not be read back. -/
  | unread {plan : Plan} {manager : Address} {tick : ℤ} {failure : Failure} {calls : List Call}
    (hready : Ready p request before plan manager)
    (hstanding : before.standing plan.key = .notFound)
    (htick : tickAtSqrtRatio plan.sqrtPrice = .ok tick)
    (hfault : failure.fault? = none) (hstruck : before.StruckBy calls) :
    Course p request before now (.error failure)
      ((before.priced plan.key tick plan.sqrtPrice).heard calls)
  /-- The pool has a price, but no position can be made in it. -/
  | unsized {plan : Plan} {manager : Address} {opened : Ledger} {pool : Pool} {fault : Fault}
    {failure : Failure} {calls : List Call} (hready : Ready p request before plan manager)
    (hopened : Opened plan before opened pool)
    (hsized : sizePosition (p.sizingRequest plan pool) = .error fault)
    (hfault : failure.fault? = some fault) :
    Course p request before now (.error failure) (opened.heard calls)
  /-- The deposit has been sized. -/
  | sized {plan : Plan} {manager : Address} {opened after : Ledger} {pool : Pool}
    {position : Position} {result : Except Failure Outcome}
    (hready : Ready p request before plan manager) (hopened : Opened plan before opened pool)
    (hsized : sizePosition (p.sizingRequest plan pool) = .ok position)
    (hdeposited : Deposited p pool manager position opened now result after) :
    Course p request before now result after

/-- What a course that ends with an outcome has come through, and where it ends. -/
theorem Course.of_ok {p : Provisioner} {request : PoolRequest} {before after : Ledger} {now : ℤ}
    {outcome : Outcome} (h : Course p request before now (.ok outcome) after) :
    ∃ plan manager opened pool position deadline,
      Ready p request before plan manager ∧ Opened plan before opened pool ∧
      sizePosition (p.sizingRequest plan pool) = .ok position ∧
      outcome = ⟨pool, position, opened.receipt (p.mintAt manager position deadline)⟩ ∧
      after.pools = opened.pools ∧
      after.mints = before.mints ++ [p.mintAt manager position deadline] ∧
      after.books = ((opened.grantedTo manager position 2).minted
        (p.mintAt manager position deadline)).books := by
  cases h with
  | @sized plan manager opened _ pool position _ hready hopened hsized hdeposited =>
    obtain ⟨calls, ⟨hrefused, -⟩ | ⟨deadline, hok, rfl⟩⟩ := hdeposited
    · exact absurd hrefused (not_refused_ok _)
    · refine ⟨plan, manager, opened, pool, position, deadline, hready, hopened, hsized,
        Except.ok.inj hok, Ledger.pools_grantedTo _ _ _ _, ?_, Ledger.books_heard _ _⟩
      change (opened.grantedTo manager position 2).mints ++ _ = _
      rw [Ledger.mints_grantedTo, hopened.mints]

variable {p : Provisioner} {request : PoolRequest} {plan : Plan} {pool : Pool}
  {session later : Session Ledger}

/-! ## The last steps -/

/-- The deposit adds to the journal only. -/
theorem run_deposit_cases {result : Except Failure Outcome}
    (h : (p.deposit plan pool : Action Ledger Outcome).run session = (result, later)) :
    ∃ last, (p.addLiquidity plan pool : Action Ledger Outcome).run session = (result, last) ∧
      later.chain = last.chain := by
  obtain ⟨inner, last, hlast, h⟩ := Action.run_bind_cases h
  cases inner with
  | error failure =>
    cases h
    exact ⟨_, hlast, rfl⟩
  | ok outcome =>
    cases h
    exact ⟨_, hlast, rfl⟩

theorem Deposited.of_heard {manager : Address} {position : Position} {opened after : Ledger}
    {now : ℤ} {result : Except Failure Outcome} {calls : List Call}
    (h : Deposited p pool manager position (opened.heard calls) now result after) :
    Deposited p pool manager position opened now result after := by
  obtain ⟨more, ⟨hrefused, hwhy, count, hcount, rfl⟩ | ⟨deadline, rfl, rfl⟩⟩ := h
  · refine ⟨calls ++ more, .inl ⟨hrefused, ?_, count, hcount, ?_⟩⟩
    · exact hwhy.imp_left Ledger.StruckBy.prepend
    · rw [Ledger.heard_grantedTo, Ledger.heard_heard]
  · refine ⟨calls ++ more, .inr ⟨deadline, rfl, ?_⟩⟩
    rw [Ledger.heard_grantedTo, Ledger.heard_minted, Ledger.heard_heard]

/-- A deposit from an open pool is the rest of a course. -/
theorem course_of_run_deposit {before opened : Ledger} {manager : Address} {calls : List Call}
    {result : Except Failure Outcome} (hready : Ready p request before plan manager)
    (hopened : Opened plan before opened pool) (hchain : session.chain = opened.heard calls)
    (h : (p.deposit plan pool : Action Ledger Outcome).run session = (result, later)) :
    Course p request before session.now result later.chain := by
  obtain ⟨last, hlast, hlater⟩ := run_deposit_cases h
  rw [hlater]
  obtain ⟨fault, failure, hsized, rfl, hfault, hsame⟩ | ⟨position, hsized, hdeposited⟩ :=
    run_addLiquidity_cases hready.manager hlast
  · rw [hsame, hchain]
    exact .unsized hready hopened hsized hfault
  · rw [hchain] at hdeposited
    exact .sized hready hopened hsized hdeposited.of_heard

/-- Without a position manager a request halts. -/
theorem course_of_resolve {before : Ledger} {now : ℤ} {failure : Failure} {fault : Fault}
    {calls : List Call} (h : p.deployment.resolve .positionManager = .error fault) :
    Course p request before now (.error failure) (before.heard calls) := by
  refine .halted (.inr fun plan manager hready => ?_)
  have hmanager := hready.manager
  rw [h] at hmanager
  cases hmanager

theorem run_deposit_of_resolve {fault : Fault}
    (h : p.deployment.resolve .positionManager = .error fault) :
    (p.deposit plan pool : Action Ledger Outcome).run session =
      (.error (.ofFault fault), session) := by
  refine Action.run_bind_of_error ?_
  refine Action.run_bind_of_error ?_
  rw [Action.run_calculate, h]
  rfl

/-- From where the pool of a plan stands, the course runs to its end. -/
theorem course_of_run_finish {before : Ledger} {calls : List Call}
    {result : Except Failure Outcome} (hplanned : Planned request before.tokens plan)
    (hchainId : before.chainId = p.deployment.chainId)
    (hfactory : ∃ factory, p.deployment.resolve .factory = .ok factory)
    (hchain : session.chain = before.heard calls)
    (h : (p.finish plan (before.standing plan.key) : Action Ledger Outcome).run session =
      (result, later)) :
    Course p request before session.now result later.chain := by
  rcases Ledger.standing_cases plan.key before with hstanding | ⟨-, found, -, -, -, hstanding⟩
  · rw [hstanding] at h
    obtain ⟨inner, session0, hcreate, h⟩ := Action.run_bind_cases h
    obtain ⟨tick, -, -, htick⟩ := exists_tickAtSqrtRatio hplanned.isInitializable
    obtain ⟨hnow, ⟨fault, hmanager, rfl, hchain0⟩ | ⟨⟨manager, hmanager⟩, hcreated⟩⟩ :=
      run_createPool_cases htick hcreate
    · cases h
      rw [hchain0, hchain]
      exact course_of_resolve hmanager
    have hready : Ready p request before plan manager := ⟨hplanned, hchainId, hfactory, hmanager⟩
    rw [hchain] at hcreated
    obtain ⟨⟨failure, rfl, hfault⟩, hstruck, hchain0⟩ | ⟨hchain0, hread⟩ := hcreated
    · cases h
      rw [hchain0, Ledger.heard_heard]
      exact .halted (.inl ⟨hfault, hstruck.prepend⟩)
    rw [Ledger.heard_priced, Ledger.heard_heard] at hchain0
    obtain ⟨read, rfl, hat⟩ | ⟨⟨failure, rfl, hfault⟩, hstruck⟩ := hread
    · rw [← hnow]
      obtain ⟨noted, session1, hnote, h⟩ := Action.run_bind_cases h
      cases hnote
      have hdeposit := course_of_run_deposit hready (.created hstanding htick hat)
        (by exact hchain0) h
      exact hdeposit
    · cases h
      rw [hchain0]
      exact .unread hready hstanding htick hfault hstruck.prepend
  · rw [hstanding] at h
    cases hmanager : p.deployment.resolve .positionManager with
    | error fault =>
      rw [finish, run_deposit_of_resolve hmanager] at h
      cases h
      rw [hchain]
      exact course_of_resolve hmanager
    | ok manager =>
      have hready : Ready p request before plan manager :=
        ⟨hplanned, hchainId, hfactory, hmanager⟩
      exact course_of_run_deposit hready (.found hstanding) hchain h

/-- **A provision goes one of the ways of its course.** -/
theorem run_provision {result : Except Failure Outcome}
    (h : (p.provision request : Action Ledger Outcome).run session = (result, later)) :
    Course p request session.chain session.now result later.chain := by
  obtain ⟨inner, session0, hplan, h⟩ := Action.run_bind_cases h
  obtain ⟨calls0, hchain0, hnow0, ⟨plan, rfl, hplanned⟩ | ⟨failure, rfl, hwhy⟩⟩ :=
    run_plan_cases hplan
  case inr =>
    cases h
    rw [hchain0]
    exact .halted (hwhy.imp_right fun hnone plan manager hready => hnone plan hready.planned)
  obtain ⟨inner, session1, hverify, h⟩ := Action.run_bind_cases h
  obtain ⟨rfl, ⟨rfl, hchainId⟩ | ⟨⟨failure, rfl, hfault⟩, hwhy⟩⟩ := run_verifyChain_cases hverify
  case inr =>
    cases h
    change Course p request session.chain session.now _ (session0.chain.heard [.chainId])
    rw [hchain0] at hwhy ⊢
    rw [Ledger.heard_heard]
    refine .halted ?_
    rcases hwhy with hstrikes | hforeign
    · exact .inl ⟨hfault, hstrikes.struckBy_append⟩
    · exact .inr fun plan manager hready => hforeign hready.chainId
  obtain ⟨inner, session1, hlocate, h⟩ := Action.run_bind_cases h
  obtain ⟨calls1, hchain1, hnow1, hlocated⟩ := run_locate_cases hlocate
  have hbefore : (session0.heard [.chainId]).chain =
      session.chain.heard (calls0 ++ [.chainId]) := by
    rw [← Ledger.heard_heard, ← hchain0]
    rfl
  rw [hbefore] at hchain1 hlocated
  rw [Ledger.heard_heard] at hchain1
  obtain ⟨rfl, hfactory⟩ | ⟨failure, rfl, hwhy⟩ := hlocated
  case inr =>
    cases h
    rw [hchain1]
    refine .halted ?_
    rcases hwhy with ⟨hfault, hstruck⟩ | ⟨fault, hnone⟩
    · exact .inl ⟨hfault, hstruck.prepend⟩
    · refine .inr fun plan manager hready => ?_
      obtain ⟨factory, hfactory⟩ := hready.factory
      rw [hnone] at hfactory
      cases hfactory
  rw [Ledger.standing_eq_of_books_eq (Ledger.books_heard _ _)] at h
  have hconnected : session.chain.chainId = p.deployment.chainId := by
    rw [← hchainId, hchain0]
    rfl
  have hcourse := course_of_run_finish hplanned hconnected hfactory hchain1 h
  rw [hnow1] at hcourse
  rwa [← hnow0]

/-! ## A sample

A request on a chain that knows its two tokens and no pool. -/

/-- A provisioner with contracts on a chain. -/
def sample : Provisioner where
  deployment :=
    { network := "testnet"
      chainId := 84532
      contracts := [(.factory, .ofNat 0xFAC7), (.positionManager, .ofNat 0x9A9A)] }
  width := ⟨200, by decide⟩
  slippage := .unprotected
  deadlineSecs := 1200
  valid := rfl

/-- A token of the sample chain. -/
def sampleToken0 : Token := ⟨.ofNat 0x1111, 18, "AAA", "AAA Token"⟩

/-- The other token of the sample chain. -/
def sampleToken1 : Token := ⟨.ofNat 0x2222, 18, "BBB", "BBB Token"⟩

/-- A request at one to five, with a deposit of the first token. -/
def sampleRequest (amount : String) : PoolRequest where
  tokenA := sampleToken0.address
  tokenB := sampleToken1.address
  fee := 500
  reserveA := "5"
  reserveB := "1"
  inputToken := sampleToken0.address
  inputAmount := amount

/-- The sample chain before anything was done on it. -/
def sampleLedger : Ledger := ((Ledger.empty 84532).addToken sampleToken0).addToken sampleToken1

/-- The sample request from a ledger of the sample chain, at the epoch. -/
def sampleRun (amount : String) (ledger : Ledger) : Except Failure Outcome × Session Ledger :=
  (sample.provision (sampleRequest amount) : Action Ledger Outcome).run ⟨ledger, 0, []⟩

/-- The sample request runs through with one mint and two approvals. -/
example :
    let done := (sampleRun "1000000" sampleLedger).2.chain
    done.pools.length = 1 ∧ done.mints.length = 1 ∧ done.approvals.length = 2 := by
  decide +kernel

end Provisioner

end Tickwise

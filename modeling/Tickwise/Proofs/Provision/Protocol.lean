import Tickwise.Proofs.Provision.Asking

/-!
# The calls of a provision

A provision reads its two tokens and the id of the chain, looks for its pool, opens it if it has
no price, allows its two amounts to be taken, and mints.  A call that fails is the last one, and
so is the id of a chain that is not the one of the deployment.

* `Target` — what a request comes to when no call fails;
* `Word` — the calls of a request in their order, as the ledger fixes them;
* `asks_provision` — a provision makes the calls of its word until one fails;
* `provision_protocol` — when a provision succeeds, and all that holds of its calls.
-/

namespace Tickwise

namespace Provisioner

variable {p : Provisioner} {request : PoolRequest} {plan : Plan} {session later : Session Watched}

/-! ## What a request comes to -/

/-- What a request comes to when no call fails: its plan and the position manager, the ledger and
the pool that its deposit starts from, and its position. -/
structure Target (p : Provisioner) (request : PoolRequest) (start : Ledger) (plan : Plan)
    (manager : Address) (opened : Ledger) (pool : Pool) (position : Position) : Prop where
  ready : Ready p request start plan manager
  opens : Opened plan start opened pool
  sized : sizePosition (p.sizingRequest plan pool) = .ok position

theorem Target.unique {start opened opened' : Ledger} {plan' : Plan} {manager manager' : Address}
    {pool pool' : Pool} {position position' : Position}
    (h : Target p request start plan manager opened pool position)
    (h' : Target p request start plan' manager' opened' pool' position') :
    plan = plan' ∧ manager = manager' ∧ opened = opened' ∧ pool = pool' ∧ position = position' := by
  obtain ⟨rfl, rfl⟩ := h.ready.unique h'.ready
  obtain ⟨rfl, rfl⟩ := h.opens.unique h'.opens
  exact ⟨rfl, rfl, rfl, rfl, Except.ok.inj (h.sized.symm.trans h'.sized)⟩

/-- The pool a request is about. -/
def requestKey (fee : FeeTier) (reserves : OrderedPair String) : PoolKey :=
  ⟨reserves.first.address, reserves.second.address, fee⟩

/-- The calls of a request in their order, as far as the ledger lets it come. -/
inductive Word (p : Provisioner) (request : PoolRequest) (start : Ledger) : List Call → Prop
  /-- The chain is another one: its id is the last thing that is read. -/
  | foreign (h : start.chainId ≠ p.deployment.chainId) :
    Word p request start [.token, .token, .chainId]
  /-- No position can be made: there is nothing to deposit. -/
  | opening {fee : FeeTier} {reserves : OrderedPair String}
    (hchainId : start.chainId = p.deployment.chainId)
    (hcheck : checkRequest request = .ok (fee, reserves))
    (hnone : ∀ plan manager opened pool position,
      ¬ Target p request start plan manager opened pool position) :
    Word p request start (openingWord (requestKey fee reserves) start)
  /-- The pool is opened, and a position is deposited. -/
  | whole {plan : Plan} {manager : Address} {opened : Ledger} {pool : Pool} {position : Position}
    (htarget : Target p request start plan manager opened pool position) :
    Word p request start (openingWord plan.key start ++ depositWord manager position opened)

/-! ## The last steps -/

theorem depositWord_heard (manager : Address) (position : Position) (ledger : Ledger)
    (calls : List Call) :
    depositWord manager position (ledger.heard calls) = depositWord manager position ledger := by
  unfold depositWord
  rw [Ledger.heard_granted]
  rfl

theorem asks_deposit {pool : Pool} {word : List Call} {result : Except Failure Outcome}
    (hword : ∀ manager position, p.deployment.resolve .positionManager = .ok manager →
      sizePosition (p.sizingRequest plan pool) = .ok position →
      word = depositWord manager position session.chain.ledger)
    (h : (p.deposit plan pool : Action Watched Outcome).run session = (result, later)) :
    Asks session result later word (p.Deposits plan pool session.chain.ledger) := by
  rw [← List.append_nil word]
  refine Asks.bind word [] h (fun _ _ hadd => asks_addLiquidity hword hadd)
    fun outcome session0 _ h => ?_
  cases h
  exact Asks.quiet rfl

section Finish

variable {start : Ledger} {calls word : List Call} {good : Exchange → Prop}
  {result : Except Failure Outcome}
  (hdeposits : ∀ opened pool e, Opened plan start opened pool → p.Deposits plan pool opened e →
    good e)
  (hword : ∀ manager opened pool position, p.deployment.resolve .positionManager = .ok manager →
    Opened plan start opened pool → sizePosition (p.sizingRequest plan pool) = .ok position →
    word = depositWord manager position opened)

include hdeposits hword

/-- A deposit from an open pool asks for the calls of its position. -/
theorem asks_deposit_of_opened {opened : Ledger} {pool : Pool}
    (hopened : Opened plan start opened pool) (hledger : session.chain.ledger = opened.heard calls)
    (h : (p.deposit plan pool : Action Watched Outcome).run session = (result, later)) :
    Asks session result later word good := by
  have hasks : Asks session result later word (p.Deposits plan pool session.chain.ledger) := by
    refine asks_deposit (fun manager position hmanager hsized => ?_) h
    rw [hledger, depositWord_heard]
    exact hword manager opened pool position hmanager hopened hsized
  rw [hledger] at hasks
  exact hasks.mono fun e he => hdeposits opened pool e hopened he.of_heard

/-- From where the pool of a plan stands, it is opened and then deposited into. -/
theorem asks_finish (hgood : Opens good) (hprice : IsInitializable plan.sqrtPrice)
    (hledger : session.chain.ledger = start.heard calls)
    (h : (p.finish plan (start.standing plan.key) : Action Watched Outcome).run session =
      (result, later)) :
    Asks session result later (createWord plan.key start ++ word) good := by
  rcases Ledger.standing_cases plan.key start with hstanding | ⟨-, pool, -, -, -, hstanding⟩
  · rw [hstanding] at h
    rw [createWord, if_pos hstanding]
    obtain ⟨tick, -, -, htick⟩ := exists_tickAtSqrtRatio hprice
    refine Asks.bind _ _ h (fun _ _ hcreate => ?_) fun pool session0 hcreate h => ?_
    · exact asks_createPool hgood
        (fun manager failed after => hgood _ ⟨plan.pair.sorted, tick, htick⟩ not_false not_false)
        hcreate
    -- the pool was opened, and with it the deposit goes on
    obtain ⟨hcreate, -⟩ := (p.follows_createPool plan).conversation hcreate
    obtain ⟨-, ⟨fault, -, herror, -⟩ | ⟨-, hcreated⟩⟩ := run_createPool_cases htick hcreate
    · cases herror
    obtain ⟨⟨_, herror, -⟩, -⟩ | ⟨hledger0, ⟨read, hok, hat⟩ | ⟨⟨_, herror, -⟩, -⟩⟩ := hcreated
    · cases herror
    · obtain rfl := Except.ok.inj hok
      rw [Session.chain_unwatched, Session.chain_unwatched, hledger, Ledger.heard_priced,
        Ledger.heard_heard] at hledger0
      rw [Session.chain_unwatched, hledger] at hat
      have hopened : Opened plan start (start.priced plan.key tick plan.sqrtPrice) pool :=
        .created hstanding htick hat
      refine Asks.bind [] word h (fun _ _ hnote => ?_) fun _ session1 hnote h => ?_
      · cases hnote
        exact Asks.quiet rfl
      · cases hnote
        exact asks_deposit_of_opened hdeposits hword hopened hledger0 h
    · cases herror
  · rw [hstanding] at h
    have hfound : createWord plan.key start = [] := by
      rw [createWord, hstanding]
      rfl
    rw [hfound]
    exact asks_deposit_of_opened hdeposits hword (.found hstanding) hledger h

end Finish

/-! ## The whole provision -/

/-- Whether an exchange of a provision is good: its call has what it needs, a mint is that of the
position the request comes to, with the pools as the deposit found them, and an approval is one
that this position cannot do without. -/
structure Provides (p : Provisioner) (request : PoolRequest) (start : Ledger)
    (e : Exchange) : Prop where
  met : e.ask.Met e.before
  mint : ∀ mint, e.ask = .mint mint →
    ∃ plan manager opened pool position deadline,
      Target p request start plan manager opened pool position ∧
      e.before.pools = opened.pools ∧ mint = p.mintAt manager position deadline
  approval : ∀ token spender amount, e.ask = .approve token spender amount →
    amount = maxWord ∧ ∃ plan opened pool position needed,
      Target p request start plan spender opened pool position ∧
      position.Takes token needed ∧ e.before.allowanceOf token Ledger.owner spender < needed

theorem opens_provides {start : Ledger} : Opens (p.Provides request start) := by
  intro e hmet hmint happroval
  refine ⟨hmet, fun mint hask => ?_, fun token spender amount hask => ?_⟩
  · rw [hask] at hmint
    exact absurd trivial hmint
  · rw [hask] at happroval
    exact absurd trivial happroval

theorem Planned.key_eq {tokens : Table Address Token} {fee : FeeTier}
    {reserves : OrderedPair String} (h : Planned request tokens plan)
    (hcheck : checkRequest request = .ok (fee, reserves)) : plan.key = requestKey fee reserves := by
  obtain ⟨reserves', hcheck', hfirst, hsecond, -⟩ := h.checked
  rw [hcheck] at hcheck'
  obtain ⟨rfl, rfl⟩ := Prod.mk.inj (Except.ok.inj hcheck')
  rw [Plan.key, requestKey, hfirst, hsecond]

/-- On another chain than that of the deployment nothing follows on its id. -/
theorem asks_provision_of_foreign {result : Except Failure Outcome}
    (hforeign : session.chain.ledger.chainId ≠ p.deployment.chainId)
    (h : (p.provision request : Action Watched Outcome).run session = (result, later)) :
    Asks session result later [.token, .token, .chainId]
      (p.Provides request session.chain.ledger) := by
  refine Asks.bind [.token, .token] [.chainId] h (fun _ _ hplan => asks_plan opens_provides hplan)
    fun plan session0 hplan h => ?_
  obtain ⟨hplan, -⟩ := (follows_plan request).conversation hplan
  obtain ⟨calls0, hledger0, -⟩ := run_plan_cases hplan
  refine Asks.bind [.chainId] [] h (fun _ _ hverify => asks_verifyChain opens_provides hverify)
    fun _ session1 hverify h => ?_
  obtain ⟨hverify, -⟩ := p.follows_verifyChain.conversation hverify
  obtain ⟨-, ⟨-, hsame⟩ | ⟨⟨_, herror, -⟩, -⟩⟩ := run_verifyChain_cases hverify
  · rw [hledger0] at hsame
    exact absurd hsame hforeign
  · cases herror

/-- **A provision makes the calls of its word one by one until one fails.** -/
theorem asks_provision {word : List Call} {fee : FeeTier} {reserves : OrderedPair String}
    {result : Except Failure Outcome} (hcheck : checkRequest request = .ok (fee, reserves))
    (hchainId : session.chain.ledger.chainId = p.deployment.chainId)
    (hword : ∀ plan manager opened pool position,
      Target p request session.chain.ledger plan manager opened pool position →
      word = depositWord manager position opened)
    (h : (p.provision request : Action Watched Outcome).run session = (result, later)) :
    Asks session result later (openingWord (requestKey fee reserves) session.chain.ledger ++ word)
      (p.Provides request session.chain.ledger) := by
  have hparts : openingWord (requestKey fee reserves) session.chain.ledger ++ word =
      [.token, .token] ++ ([.chainId] ++ (locateWord (requestKey fee reserves) session.chain.ledger ++
        (createWord (requestKey fee reserves) session.chain.ledger ++ word))) := by
    simp [openingWord]
  rw [hparts]
  refine Asks.bind _ _ h (fun _ _ hplan => asks_plan opens_provides hplan)
    fun plan session0 hplan h => ?_
  obtain ⟨hplan, -⟩ := (follows_plan request).conversation hplan
  obtain ⟨calls0, hledger0, -, ⟨_, hok, hplanned⟩ | ⟨_, herror, -⟩⟩ := run_plan_cases hplan
  case inr => cases herror
  obtain rfl := Except.ok.inj hok
  rw [← hplanned.key_eq hcheck]
  refine Asks.bind _ _ h (fun _ _ hverify => asks_verifyChain opens_provides hverify)
    fun _ session1 hverify h => ?_
  obtain ⟨hverify, -⟩ := p.follows_verifyChain.conversation hverify
  obtain ⟨hlater1, -⟩ := run_verifyChain_cases hverify
  have hledger1 : session1.chain.ledger = session0.chain.ledger.heard [.chainId] :=
    congrArg Session.chain hlater1
  rw [Session.chain_unwatched, Session.chain_unwatched] at hledger0
  rw [hledger0, Ledger.heard_heard] at hledger1
  have hlocateWord : locateWord plan.key session.chain.ledger =
      locateWord plan.key session1.chain.ledger := by
    rw [hledger1]
    rfl
  rw [hlocateWord]
  refine Asks.bind _ _ h (fun _ _ hlocate => asks_locate opens_provides hlocate)
    fun progress session2 hlocate h => ?_
  obtain ⟨hlocate, -⟩ := (p.follows_locate plan).conversation hlocate
  obtain ⟨calls1, hledger2, -, ⟨hok, hfactory⟩ | ⟨_, herror, -⟩⟩ := run_locate_cases hlocate
  case inr => cases herror
  obtain rfl := Except.ok.inj hok
  rw [Session.chain_unwatched, Session.chain_unwatched, hledger1, Ledger.heard_heard] at hledger2
  rw [Session.chain_unwatched, hledger1,
    Ledger.standing_eq_of_books_eq (Ledger.books_heard _ _)] at h
  refine asks_finish (fun opened pool e hopened he => ?_) ?_ opens_provides
    hplanned.isInitializable hledger2 h
  · refine ⟨he.met, fun mint hmint => ?_, fun token spender amount happroval => ?_⟩
    · obtain ⟨hpools, manager, position, deadline, hmanager, hsized, hmade⟩ := he.mint mint hmint
      exact ⟨plan, manager, opened, pool, position, deadline,
        ⟨⟨hplanned, hchainId, hfactory, hmanager⟩, hopened, hsized⟩, hpools, hmade⟩
    · obtain ⟨hamount, position, needed, hmanager, hsized, hlacks⟩ :=
        he.approval token spender amount happroval
      exact ⟨hamount, plan, opened, pool, position, needed,
        ⟨⟨hplanned, hchainId, hfactory, hmanager⟩, hopened, hsized⟩, hlacks⟩
  · intro manager opened pool position hmanager hopened hsized
    exact hword plan manager opened pool position
      ⟨⟨hplanned, hchainId, hfactory, hmanager⟩, hopened, hsized⟩

/-! ## Requests that are refused as they stand -/

/-- Whether a request is refused as it stands: its fee has no tier, its two tokens are one, or
the token it deposits is neither of them. -/
def Unsupported (request : PoolRequest) : Prop :=
  (∀ tier : FeeTier, tier.fee ≠ request.fee) ∨ request.tokenA = request.tokenB ∨
    (request.inputToken ≠ request.tokenA ∧ request.inputToken ≠ request.tokenB)

theorem sideOf_cases (reserves : OrderedPair String) (token : Address) :
    ((∃ side, reserves.sideOf token = .ok side) ∧
        (token = reserves.first.address ∨ token = reserves.second.address)) ∨
      (∃ fault, reserves.sideOf token = .error fault) ∧
        token ≠ reserves.first.address ∧ token ≠ reserves.second.address := by
  unfold OrderedPair.sideOf
  split
  · rename_i hfirst
    exact .inl ⟨⟨_, rfl⟩, .inl hfirst.symm⟩
  · rename_i hfirst
    split
    · rename_i hsecond
      exact .inl ⟨⟨_, rfl⟩, .inr hsecond.symm⟩
    · rename_i hsecond
      exact .inr ⟨⟨_, rfl⟩, Ne.symm hfirst, Ne.symm hsecond⟩

/-- The check of a request is the check that it is not refused as it stands. -/
theorem checkRequest_cases (request : PoolRequest) :
    (Unsupported request ∧ ∃ fault, checkRequest request = .error fault) ∨
      (¬ Unsupported request ∧ ∃ fee reserves, checkRequest request = .ok (fee, reserves)) := by
  unfold checkRequest Unsupported
  cases hfee : FeeTier.ofFee request.fee with
  | error fault =>
    obtain ⟨hnone, -⟩ := FeeTier.ofFee_eq_error_iff.1 hfee
    exact .inl ⟨.inl hnone, fault, rfl⟩
  | ok fee =>
    have htier : ¬ ∀ tier : FeeTier, tier.fee ≠ request.fee := fun hnone =>
      hnone fee (FeeTier.ofFee_eq_ok_iff.1 hfee)
    by_cases heq : request.tokenA = request.tokenB
    · refine .inl ⟨.inr (.inl heq), .identicalTokens request.tokenB, ?_⟩
      rw [heq, OrderedPair.of_self]
      rfl
    · obtain ⟨reserves, hreserves, hnames⟩ : ∃ reserves, OrderedPair.of request.tokenA
          request.reserveA request.tokenB request.reserveB = .ok reserves ∧
          ∀ token, token = reserves.first.address ∨ token = reserves.second.address ↔
            token = request.tokenA ∨ token = request.tokenB := by
        by_cases hlt : request.tokenA < request.tokenB
        · exact ⟨_, OrderedPair.of_of_lt hlt _ _, fun token => Iff.rfl⟩
        · have hgt : request.tokenB < request.tokenA := by
            by_contra hge
            exact heq (Address.eq_of_not_lt hlt hge)
          exact ⟨_, OrderedPair.of_of_gt hgt _ _, fun token => Or.comm⟩
      rw [hreserves]
      obtain ⟨⟨side, hside⟩, hnamed⟩ | ⟨⟨fault, hside⟩, hnamed⟩ :=
        sideOf_cases reserves request.inputToken
      · refine .inr ⟨?_, fee, reserves, ?_⟩
        · have hinput := (hnames request.inputToken).1 hnamed
          tauto
        · simp [Except.bind_eq_ok_iff, hside]
      · refine .inl ⟨.inr (.inr ?_), fault, ?_⟩
        · have hinput := (hnames request.inputToken).not.1 (by tauto)
          tauto
        · simp only [bind, Except.bind, hside]

/-- A request that is refused as it stands fails before anything is asked. -/
theorem run_provision_of_checkRequest {σ : Type} [Chain σ] (p : Provisioner) (session : Session σ)
    {fault : Fault} (hcheck : checkRequest request = .error fault) :
    ∃ failure, (p.provision request : Action σ Outcome).run session = (.error failure, session) ∧
      failure.cause = .fault fault := by
  obtain ⟨failure, hplan, hcause⟩ : ∃ failure, (Provisioner.plan request : Action σ Plan).run
      session = (.error failure, session) ∧ failure.cause = .fault fault := by
    rw [Provisioner.plan, Action.run_bind, Action.run_within, Action.run_calculate, hcheck]
    exact ⟨_, rfl, rfl⟩
  exact ⟨failure, Action.run_bind_of_error hplan, hcause⟩

/-- Nothing is said for a request that is refused as it stands. -/
theorem said_of_unsupported {session : Session Ledger} (h : Unsupported request) :
    said (p.provision request) session = [] ∧
      ¬ ((p.provision request : Action Ledger Outcome).run session).1.isOk := by
  obtain ⟨-, fault, hcheck⟩ | ⟨hno, -⟩ := checkRequest_cases request
  · obtain ⟨failure, hrun, -⟩ := run_provision_of_checkRequest p session hcheck
    obtain ⟨failure', hwatched, -⟩ := run_provision_of_checkRequest p session.watched hcheck
    rw [said, hwatched, hrun]
    exact ⟨rfl, Bool.false_ne_true⟩
  · exact absurd h hno

/-- A provision makes the calls of its word, as far as it comes, and all are good. -/
theorem exists_word (p : Provisioner) (session : Session Ledger) (hsupported : ¬ Unsupported request) :
    ∃ word, Word p request session.chain word ∧
      ((said (p.provision request) session).map fun e => e.ask.call) <+: word ∧
      (((p.provision request : Action Ledger Outcome).run session).1.isOk →
        ((said (p.provision request) session).map fun e => e.ask.call) = word) ∧
      ∀ e ∈ said (p.provision request) session, p.Provides request session.chain e := by
  obtain ⟨hno, -⟩ | ⟨-, fee, reserves, hcheck⟩ := checkRequest_cases request
  · exact absurd hno hsupported
  by_cases hchainId : session.chain.chainId = p.deployment.chainId
  · by_cases htarget : ∃ plan manager opened pool position,
        Target p request session.chain plan manager opened pool position
    · obtain ⟨plan, manager, opened, pool, position, htarget⟩ := htarget
      refine ⟨_, .whole htarget, ?_⟩
      rw [htarget.ready.planned.key_eq hcheck]
      refine (p.follows_provision request).asks_said session fun result last hrun => ?_
      refine asks_provision hcheck hchainId (fun plan' manager' opened' pool' position' h => ?_) hrun
      obtain ⟨-, rfl, rfl, -, rfl⟩ := htarget.unique h
      rfl
    · have hnone : ∀ plan manager opened pool position,
          ¬ Target p request session.chain plan manager opened pool position :=
        fun plan manager opened pool position h =>
          htarget ⟨plan, manager, opened, pool, position, h⟩
      refine ⟨_, .opening hchainId hcheck hnone, ?_⟩
      rw [← List.append_nil (openingWord _ _)]
      refine (p.follows_provision request).asks_said session fun result last hrun => ?_
      exact asks_provision hcheck hchainId
        (fun plan manager opened pool position h => absurd h (hnone _ _ _ _ _)) hrun
  · refine ⟨_, .foreign hchainId, ?_⟩
    exact (p.follows_provision request).asks_said session fun result last hrun =>
      asks_provision_of_foreign hchainId hrun

/-- Every exchange of a provision is good. -/
theorem provides_of_mem_said {session : Session Ledger} {e : Exchange}
    (he : e ∈ said (p.provision request) session) : p.Provides request session.chain e := by
  by_cases hsupported : Unsupported request
  · rw [(said_of_unsupported hsupported).1] at he
    cases he
  · obtain ⟨-, -, -, -, hgood⟩ := exists_word p session hsupported
    exact hgood e he

/-! ## The mint of a provision -/

/-- A provision that succeeds makes one mint, and one that fails makes none. -/
theorem Course.mints {before after : Ledger} {now : ℤ} {result : Except Failure Outcome}
    (h : Course p request before now result after) :
    (result.isOk ∧ ∃ mint, after.mints = before.mints ++ [mint]) ∨
      ¬ result.isOk ∧ after.mints = before.mints := by
  cases h with
  | halted => exact .inr ⟨Bool.false_ne_true, rfl⟩
  | unread => exact .inr ⟨Bool.false_ne_true, rfl⟩
  | unsized _ hopened => exact .inr ⟨Bool.false_ne_true, (hopened.mints :)⟩
  | @sized _ manager opened _ _ position _ _ hopened _ hdeposited =>
    obtain ⟨calls, ⟨⟨failure, rfl, -⟩, -, count, -, rfl⟩ | ⟨deadline, rfl, rfl⟩⟩ := hdeposited
    · refine .inr ⟨Bool.false_ne_true, ?_⟩
      exact (Ledger.mints_grantedTo manager position count opened).trans hopened.mints
    · refine .inl ⟨rfl, p.mintAt manager position deadline, ?_⟩
      rw [← hopened.mints, ← Ledger.mints_grantedTo manager position 2 opened]
      rfl

/-! ## The protocol -/

/-- One exchange of a provision is a mint if it succeeds, and none if it fails. -/
theorem minted_said (p : Provisioner) (request : PoolRequest) (session : Session Ledger) :
    (((p.provision request : Action Ledger Outcome).run session).1.isOk ∧
        ∃ mint, (said (p.provision request) session).filterMap Exchange.minted? = [mint]) ∨
      ¬ ((p.provision request : Action Ledger Outcome).run session).1.isOk ∧
        (said (p.provision request) session).filterMap Exchange.minted? = [] := by
  have hmints := ((p.follows_provision request).conversation_said session).linked.mints
  have hcourse : Course p request session.chain session.now
      ((p.provision request : Action Ledger Outcome).run session).1
      ((p.provision request : Action Ledger Outcome).run session).2.chain := run_provision rfl
  obtain ⟨hok, mint, hone⟩ | ⟨hfailed, hnone⟩ := hcourse.mints
  · rw [hmints] at hone
    exact .inl ⟨hok, mint, List.append_cancel_left hone⟩
  · rw [hmints] at hnone
    exact .inr ⟨hfailed, List.append_right_eq_self.1 hnone⟩

/-- On another chain nothing stands behind the id. -/
theorem eq_nil_of_chainId {earlier later : List Call}
    (h : earlier ++ .chainId :: later <+: [.token, .token, .chainId]) : later = [] := by
  obtain ⟨rest, hrest⟩ := h
  rcases earlier with _ | ⟨_, _ | ⟨_, _ | ⟨_, earlier⟩⟩⟩ <;> simp_all

/-- What holds of the exchanges of a provision, which go from one ledger to another. -/
structure Orderly (p : Provisioner) (request : PoolRequest) (before after : Ledger)
    (exchanges : List Exchange) (succeeds : Bool) : Prop where
  /-- They took place, and theirs are the calls that are recorded. -/
  linked : Linked before exchanges after
  calls : after.calls = before.calls ++ exchanges.map fun e => e.ask.call
  /-- The calls are made in the order of a word, and all of them are made, with the mint at the end,
  exactly if the provision succeeds. -/
  word : ¬ Unsupported request → ∃ word, Word p request before word ∧
    (exchanges.map fun e => e.ask.call) <+: word ∧
    (succeeds ↔ (exchanges.map fun e => e.ask.call) = word ∧
      ∃ e ∈ exchanges, e.minted?.isSome)
  unsupported : Unsupported request → exchanges = [] ∧ ¬ succeeds
  /-- A call that fails is the last one. -/
  stops : ∀ earlier e later, exchanges = earlier ++ e :: later → e.failure? ≠ none →
    later = [] ∧ ¬ succeeds
  /-- The id of another chain is the last thing that is read. -/
  connected : ∀ earlier e later, exchanges = earlier ++ e :: later → e.ask = .chainId →
    before.chainId ≠ p.deployment.chainId → later = []
  mints : after.mints = before.mints ++ exchanges.filterMap Exchange.minted?
  once : succeeds → ∃ mint, exchanges.filterMap Exchange.minted? = [mint]
  never : ¬ succeeds → exchanges.filterMap Exchange.minted? = []

/-- **The call protocol of a provision.** -/
theorem provision_protocol (p : Provisioner) (request : PoolRequest) (session : Session Ledger) :
    Orderly p request session.chain
      ((p.provision request : Action Ledger Outcome).run session).2.chain
      (said (p.provision request) session)
      ((p.provision request : Action Ledger Outcome).run session).1.isOk := by
  have hsaid := (p.follows_provision request).conversation_said session
  refine
    { linked := hsaid.linked
      calls := hsaid.linked.calls
      mints := hsaid.linked.mints
      unsupported := said_of_unsupported
      word := fun hsupported => ?_
      stops := fun earlier e later hsplit hfailed => ?_
      connected := fun earlier e later hsplit hask hforeign => ?_
      once := fun hok => ?_
      never := fun hfailed => ?_ }
  · obtain ⟨word, hword, hpart, hall, -⟩ := exists_word p session hsupported
    refine ⟨word, hword, hpart, ?_, ?_⟩
    · intro hok
      obtain ⟨-, mint, hone⟩ | ⟨hfailed, -⟩ := p.minted_said request session
      · have hmem : mint ∈ (said (p.provision request) session).filterMap Exchange.minted? := by
          rw [hone]
          exact List.mem_singleton_self mint
        obtain ⟨e, he, hminted⟩ := List.mem_filterMap.1 hmem
        exact ⟨hall hok, e, he, Option.isSome_iff_exists.2 ⟨mint, hminted⟩⟩
      · exact absurd hok hfailed
    · rintro ⟨-, e, he, hminted⟩
      obtain ⟨hok, -⟩ | ⟨-, hnone⟩ := p.minted_said request session
      · exact hok
      · obtain ⟨mint, hmint⟩ := Option.isSome_iff_exists.1 hminted
        have hmem := List.mem_filterMap.2 ⟨e, he, hmint⟩
        rw [hnone] at hmem
        cases hmem
  · obtain ⟨failure, hfailure⟩ := Option.isSome_iff_exists.1 (Option.isSome_iff_ne_none.2 hfailed)
    obtain ⟨hnil, last, hlast, -⟩ := hsaid.stops earlier e later failure hsplit hfailure
    rw [hlast]
    exact ⟨hnil, Bool.false_ne_true⟩
  · by_cases hsupported : Unsupported request
    · rw [(said_of_unsupported hsupported).1] at hsplit
      simp at hsplit
    · obtain ⟨word, hword, hpart, -⟩ := exists_word p session hsupported
      rw [hsplit, List.map_append, List.map_cons, hask] at hpart
      cases hword with
      | foreign => exact List.map_eq_nil_iff.1 (eq_nil_of_chainId hpart)
      | opening hchainId => exact absurd hchainId hforeign
      | whole htarget => exact absurd htarget.ready.chainId hforeign
  · obtain ⟨-, hone⟩ | ⟨hfailed, -⟩ := p.minted_said request session
    · exact hone
    · exact absurd hok hfailed
  · obtain ⟨hok, -⟩ | ⟨-, hnone⟩ := p.minted_said request session
    · exact absurd hok hfailed
    · exact hnone

/-- The sample request makes all the calls of its word: its pool is created, and both of its
amounts have to be approved. -/
theorem provision_protocol_sample :
    Word sample (sampleRequest "1000000") sampleLedger
      [.token, .token, .chainId, .poolAddress, .createAndInitializePool, .poolState, .allowance,
        .approve, .allowance, .approve, .mint] := by
  have hsupported : ¬ Unsupported (sampleRequest "1000000") := by
    rintro (hfee | hsame | ⟨hinput, -⟩)
    · exact hfee .low rfl
    · exact absurd hsame (by decide)
    · exact hinput rfl
  have hcalls : (said (sample.provision (sampleRequest "1000000"))
      ⟨sampleLedger, 0, []⟩).map (fun e => e.ask.call) =
        [.token, .token, .chainId, .poolAddress, .createAndInitializePool, .poolState, .allowance,
          .approve, .allowance, .approve, .mint] := by
    decide +kernel
  have hok : (sampleRun "1000000" sampleLedger).1.isOk := by
    decide +kernel
  obtain ⟨word, hword, -, hdone⟩ :=
    (provision_protocol sample (sampleRequest "1000000") ⟨sampleLedger, 0, []⟩).word hsupported
  obtain ⟨rfl, -⟩ := hdone.1 hok
  rw [hcalls] at hword
  exact hword

end Provisioner

end Tickwise

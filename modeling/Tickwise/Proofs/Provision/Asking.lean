import Tickwise.Proofs.Chain.Watched
import Tickwise.Proofs.Provision.Course

/-!
# What a provision asks the chain

Which calls the steps of a provision make is fixed by the ledger they start from: as long as no
step fails they make all the calls of a word, and otherwise a part of it from its beginning.  No
step makes a call that the chain would revert.

* `Asks` — the calls of some work are a prefix of a word, and each of its exchanges is as it
  should be;
* `Asks.bind` — work in two parts asks what its parts ask;
* `openingWord`, `depositWord` — the words of what comes before a deposit, and of the deposit;
* `asks_plan` and its neighbours, `asks_addLiquidity` — the steps ask for their words.
-/

namespace Tickwise

/-! ## Asking in parts -/

section Asks

variable {α β : Type} {session later : Session Watched} {result : Except Failure α}
  {word : List Call} {good : Exchange → Prop}

/-- Whether work from one session to another has asked for the calls of a word one by one until it
failed, each in a good exchange. -/
def Asks (session : Session Watched) (result : Except Failure α) (later : Session Watched)
    (word : List Call) (good : Exchange → Prop) : Prop :=
  ∃ exchanges, later.chain.exchanges = session.chain.exchanges ++ exchanges ∧
    (exchanges.map fun e => e.ask.call) <+: word ∧
    (∀ a, result = .ok a → (exchanges.map fun e => e.ask.call) = word) ∧
    ∀ e ∈ exchanges, good e

/-- Work that makes no call. -/
theorem Asks.quiet (h : later.chain.exchanges = session.chain.exchanges) :
    Asks session result later [] good :=
  ⟨[], by simpa using h, List.prefix_refl _, fun _ _ => rfl, by simp⟩

/-- Work that fails before it makes a call. -/
theorem Asks.stop {failure : Failure} (h : later.chain.exchanges = session.chain.exchanges) :
    Asks session (.error failure : Except Failure α) later word good :=
  ⟨[], by simpa using h, List.nil_prefix, nofun, by simp⟩

theorem Asks.mono {better : Exchange → Prop} (h : Asks session result later word good)
    (himp : ∀ e, good e → better e) : Asks session result later word better := by
  obtain ⟨exchanges, hkept, hpart, hall, hgood⟩ := h
  exact ⟨exchanges, hkept, hpart, hall, fun e he => himp e (hgood e he)⟩

/-- Work that fails has asked for a part of any longer word. -/
theorem Asks.halt {failure : Failure} {more : List Call}
    (h : Asks session (.error failure : Except Failure α) later word good) :
    Asks session (.error failure : Except Failure β) later (word ++ more) good := by
  obtain ⟨exchanges, hkept, hpart, -, hgood⟩ := h
  exact ⟨exchanges, hkept, hpart.trans (List.prefix_append _ _), nofun, hgood⟩

/-- Work that goes on after other work asks for the one word behind the other. -/
theorem Asks.append {a : β} {middle : Session Watched} {more : List Call}
    (h : Asks session (.ok a : Except Failure β) middle word good)
    (hmore : Asks middle result later more good) :
    Asks session result later (word ++ more) good := by
  obtain ⟨exchanges, hkept, -, hall, hgood⟩ := h
  obtain ⟨exchanges', hkept', hpart, hall', hgood'⟩ := hmore
  refine ⟨exchanges ++ exchanges', by rw [hkept', hkept, List.append_assoc], ?_, ?_, ?_⟩
  · rw [List.map_append, hall a rfl]
    exact (List.prefix_append_right_inj _).2 hpart
  · intro b hb
    rw [List.map_append, hall a rfl, hall' b hb]
  · intro e he
    rcases List.mem_append.1 he with he | he
    · exact hgood e he
    · exact hgood' e he

/-- **Work in two parts asks what its parts ask.** -/
theorem Asks.bind (word more : List Call) {first : Action Watched β}
    {next : β → Action Watched α} (h : (first >>= next).run session = (result, later))
    (hfirst : ∀ inner middle, first.run session = (inner, middle) →
      Asks session inner middle word good)
    (hnext : ∀ a middle, first.run session = (.ok a, middle) →
      (next a).run middle = (result, later) → Asks middle result later more good) :
    Asks session result later (word ++ more) good := by
  obtain ⟨inner, middle, hinner, hrest⟩ := Action.run_bind_cases h
  have hasked := hfirst inner middle hinner
  cases inner with
  | error failure =>
    cases hrest
    exact hasked.halt
  | ok a => exact hasked.append (hnext a middle hinner hrest)

theorem Asks.within {context : String} {action : Action Watched α}
    (h : (action.within context).run session = (result, later))
    (haction : ∀ inner, action.run session = (inner, later) →
      Asks session inner later word good) : Asks session result later word good := by
  obtain ⟨inner, hinner, rfl⟩ := Action.run_within_cases h
  obtain ⟨exchanges, hkept, hpart, hall, hgood⟩ := haction inner hinner
  refine ⟨exchanges, hkept, hpart, ?_, hgood⟩
  intro a ha
  cases inner with
  | error failure => cases ha
  | ok b => exact hall b rfl

/-- A single call asks for itself. -/
theorem Asks.call (ask : Ask) {answer : Except Failure ask.Answer}
    (h : (Watched.watch ask).run session = (answer, later))
    (hgood : ∀ failed after, good ⟨ask, session.chain.ledger, failed, after⟩) :
    Asks session answer later [ask.call] good := by
  obtain ⟨-, hkept⟩ := Watched.run_watch_cases h
  refine ⟨_, hkept, List.prefix_refl _, fun _ _ => rfl, ?_⟩
  intro e he
  rw [List.mem_singleton.1 he]
  exact hgood _ _

/-- A calculation asks for nothing. -/
theorem Asks.calculate {calculated : Except Fault β} {next : β → Action Watched α}
    (h : (Action.calculate calculated >>= next).run session = (result, later))
    (hnext : ∀ b, calculated = .ok b → (next b).run session = (result, later) →
      Asks session result later word good) : Asks session result later word good := by
  rw [Action.run_bind, Action.run_calculate] at h
  cases calculated with
  | error fault =>
    cases h
    exact Asks.stop rfl
  | ok b => exact hnext b rfl h

theorem Asks.calculate_within {calculated : Except Fault β} {context : String}
    {next : β → Action Watched α}
    (h : ((Action.calculate calculated).within context >>= next).run session = (result, later))
    (hnext : ∀ b, calculated = .ok b → (next b).run session = (result, later) →
      Asks session result later word good) : Asks session result later word good := by
  rw [Action.run_bind, Action.run_within, Action.run_calculate] at h
  cases calculated with
  | error fault =>
    cases h
    exact Asks.stop rfl
  | ok b => exact hnext b rfl h

/-- What work says is what it has asked for. -/
theorem Follows.asks_said {work : Action Watched α} {work' : Action Ledger α}
    (h : Follows work work') (session : Session Ledger) {word : List Call}
    {good : Exchange → Prop} (hasks : ∀ result last, work.run session.watched = (result, last) →
      Asks session.watched result last word good) :
    ((said work session).map fun e => e.ask.call) <+: word ∧
      ((work'.run session).1.isOk → ((said work session).map fun e => e.ask.call) = word) ∧
      ∀ e ∈ said work session, good e := by
  rcases hrun : work.run session.watched with ⟨result, last⟩
  obtain ⟨hrun', -⟩ := h.conversation hrun
  obtain ⟨exchanges, hkept, hpart, hall, hgood⟩ := hasks result last hrun
  rw [Session.unwatched_watched] at hrun'
  rw [said, hrun, hrun', hkept]
  refine ⟨hpart, fun hok => ?_, hgood⟩
  cases result with
  | error failure => cases hok
  | ok a => exact hall a rfl

end Asks

/-! ## The words -/

/-- The calls that make sure of an allowance. -/
def sideWord (token spender : Address) (amount : ℕ) (ledger : Ledger) : List Call :=
  if amount = 0 then []
  else if amount ≤ ledger.allowanceOf token Ledger.owner spender then [.allowance]
  else [.allowance, .approve]

/-- The calls of a deposit: first of all the allowances of its two tokens, and then the mint. -/
def depositWord (manager : Address) (position : Position) (ledger : Ledger) : List Call :=
  sideWord position.token0.address manager position.amounts.amount0 ledger ++
    (sideWord position.token1.address manager position.amounts.amount1
      (ledger.granted position.token0.address manager position.amounts.amount0) ++ [.mint])

/-- The calls that look for a pool: its state is read if there is one. -/
def locateWord (key : PoolKey) (ledger : Ledger) : List Call :=
  if (Table.get? key ledger.pools).isSome then [.poolAddress, .poolState] else [.poolAddress]

/-- The calls that give a pool its price: none if one with a price was found. -/
def createWord (key : PoolKey) (ledger : Ledger) : List Call :=
  if ledger.standing key = .notFound then [.createAndInitializePool, .poolState] else []

/-- The calls before a deposit: the metadata of the two tokens, the id of the chain, and what it
takes to have a pool with a price. -/
def openingWord (key : PoolKey) (ledger : Ledger) : List Call :=
  [.token, .token, .chainId] ++ locateWord key ledger ++ createWord key ledger

/-- Whether a position takes an amount of a token. -/
def Position.Takes (position : Position) (token : Address) (amount : ℕ) : Prop :=
  (token = position.token0.address ∧ amount = position.amounts.amount0) ∨
    (token = position.token1.address ∧ amount = position.amounts.amount1)

namespace Provisioner

variable {p : Provisioner} {plan : Plan} {session later : Session Watched}
  {good : Exchange → Prop}

/-! ## The steps before a deposit -/

/-- Whether exchanges are good when they neither mint nor approve and their calls have what they
need. -/
def Opens (good : Exchange → Prop) : Prop :=
  ∀ e : Exchange, e.ask.Met e.before → ¬ e.ask.IsMint → ¬ e.ask.IsApproval → good e

theorem asks_readToken (hgood : Opens good) {address : Address} {result : Except Failure Token}
    (h : (readToken address : Action Watched Token).run session = (result, later)) :
    Asks session result later [.token] good := by
  refine Asks.within h fun inner hinner => ?_
  exact Asks.call (.token address) hinner fun _ _ => hgood _ trivial not_false not_false

theorem asks_plan (hgood : Opens good) {request : PoolRequest} {result : Except Failure Plan}
    (h : (Provisioner.plan request : Action Watched Plan).run session = (result, later)) :
    Asks session result later [.token, .token] good := by
  refine Asks.calculate_within h fun checked _ h => ?_
  refine Asks.bind [.token] [.token] h (fun _ _ hread => asks_readToken hgood hread)
    fun token0 session0 _ h => ?_
  refine Asks.bind [.token] [] h (fun _ _ hread => asks_readToken hgood hread)
    fun token1 session1 _ h => ?_
  refine Asks.calculate_within h fun price _ h => ?_
  cases h
  exact Asks.quiet rfl

theorem asks_verifyChain (hgood : Opens good) {result : Except Failure Unit}
    (h : (p.verifyChain : Action Watched Unit).run session = (result, later)) :
    Asks session result later [.chainId] good := by
  refine Asks.bind [.chainId] [] h (fun _ _ hread => ?_) fun chainId session0 _ h => ?_
  · refine Asks.within hread fun inner hinner => ?_
    exact Asks.call .chainId hinner fun _ _ => hgood _ trivial not_false not_false
  · split at h
    · cases h
      exact Asks.quiet rfl
    · cases h
      exact Asks.quiet rfl

theorem asks_readPool (hgood : Opens good) {address : Address} {context : String}
    {result : Except Failure Pool}
    (hfound : ∃ pool, session.chain.ledger.poolAt? address = some pool)
    (h : ((Chain.poolState address : Action Watched Pool).within context).run session =
      (result, later)) : Asks session result later [.poolState] good := by
  refine Asks.within h fun inner hinner => ?_
  exact Asks.call (.poolState address) hinner fun _ _ => hgood _ hfound not_false not_false

theorem asks_locate (hgood : Opens good) {result : Except Failure Progress}
    (h : (p.locate plan : Action Watched Progress).run session = (result, later)) :
    Asks session result later (locateWord plan.key session.chain.ledger) good := by
  refine Asks.calculate h fun factory _ h => ?_
  have hword : locateWord plan.key session.chain.ledger = [.poolAddress] ++
      if (Table.get? plan.key session.chain.ledger.pools).isSome then [.poolState] else [] := by
    unfold locateWord
    split <;> rfl
  rw [hword]
  refine Asks.bind _ _ h (fun _ _ hfind => ?_) fun found session0 hfind h => ?_
  · refine Asks.within hfind fun inner hinner => ?_
    exact Asks.call (.poolAddress ..) hinner fun _ _ => hgood _ trivial not_false not_false
  obtain ⟨hfollows, -⟩ := (Follows.within _ (.ask (.poolAddress factory plan.pair.first.address
    plan.pair.second.address plan.fee))).conversation hfind
  obtain ⟨inner, hinner, hok⟩ := Action.run_within_cases hfollows
  obtain ⟨hlater, rfl | ⟨⟨failure, rfl, -⟩, -⟩⟩ := Ledger.run_poolAddress_cases hinner
  case inr => cases hok
  obtain rfl : found = _ := Except.ok.inj hok
  have hledger : session0.chain.ledger = session.chain.ledger.heard [.poolAddress] :=
    congrArg Session.chain hlater
  rw [Session.chain_unwatched] at h
  cases hget : Table.get? plan.key session.chain.ledger.pools with
  | none =>
    rw [Plan.key] at hget
    rw [hget] at h
    cases h
    exact Asks.quiet rfl
  | some entry =>
    rw [Plan.key] at hget
    rw [hget] at h
    refine Asks.bind [.poolState] [] h (fun _ _ hread => ?_) fun pool session1 _ h => ?_
    · refine asks_readPool hgood ?_ hread
      rw [hledger]
      exact Ledger.exists_poolAt?_of_get? hget
    · split at h
      · cases h
        exact Asks.quiet rfl
      · cases h
        exact Asks.quiet rfl

theorem asks_createPool (hgood : Opens good) {result : Except Failure Pool}
    (hcreation : ∀ manager failed after, good ⟨.createAndInitializePool manager
      plan.pair.first.address plan.pair.second.address plan.fee plan.sqrtPrice,
      session.chain.ledger, failed, after⟩)
    (h : (p.createPool plan : Action Watched Pool).run session = (result, later)) :
    Asks session result later [.createAndInitializePool, .poolState] good := by
  refine Asks.calculate h fun manager _ h => ?_
  refine Asks.bind [.createAndInitializePool] [.poolState] h (fun _ _ hcreate => ?_)
    fun address session0 hcreate h => ?_
  · refine Asks.within hcreate fun inner hinner => ?_
    exact Asks.call (.createAndInitializePool ..) hinner (hcreation manager)
  obtain ⟨hcreate, -⟩ := (Follows.within _ (.ask (.createAndInitializePool manager
    plan.pair.first.address plan.pair.second.address plan.fee plan.sqrtPrice))).conversation hcreate
  obtain ⟨pool, hget, -, rfl⟩ := Ledger.get?_of_run_createAndInitializePool hcreate
  refine Asks.bind [.poolState] [] h (fun _ _ hread => ?_) fun pool session1 _ h => ?_
  · exact asks_readPool hgood (Ledger.exists_poolAt?_of_get? hget) hread
  · split at h
    · cases h
      exact Asks.quiet rfl
    · cases h
      exact Asks.quiet rfl

/-! ## The deposit -/

theorem asks_ensureAllowance (hgood : Opens good) {token : Token} {spender : Address} {amount : ℕ}
    {result : Except Failure Unit}
    (happroval : ∀ ledger failed after,
      ledger.allowanceOf token.address Ledger.owner spender < amount →
      good ⟨.approve token.address spender maxWord, ledger, failed, after⟩)
    (h : (ensureAllowance token spender amount : Action Watched Unit).run session =
      (result, later)) :
    Asks session result later (sideWord token.address spender amount session.chain.ledger)
      good := by
  rw [ensureAllowance] at h
  unfold sideWord
  by_cases hzero : amount = 0
  · rw [if_neg (not_not.2 hzero)] at h
    rw [if_pos hzero]
    cases h
    exact Asks.quiet rfl
  rw [if_pos hzero, Action.run_bind, Action.run_chain] at h
  rw [if_neg hzero]
  have hword : (if amount ≤ session.chain.ledger.allowanceOf token.address Ledger.owner spender
      then [Call.allowance] else [.allowance, .approve]) = [.allowance] ++
        if amount ≤ session.chain.ledger.allowanceOf token.address Ledger.owner spender
          then [] else [.approve] := by
    split <;> rfl
  rw [hword]
  refine Asks.bind _ _ h (fun _ _ hread => ?_) fun current session0 hread h => ?_
  · exact Asks.call (.allowance ..) hread fun _ _ => hgood _ trivial not_false not_false
  obtain ⟨hfollows, -⟩ :=
    (Follows.ask (.allowance token.address Ledger.owner spender)).conversation hread
  obtain ⟨hlater, hok | ⟨⟨failure, herror, -⟩, -⟩⟩ := Ledger.run_allowance_cases hfollows
  case inr => cases herror
  obtain rfl : current = _ := Except.ok.inj hok
  have hledger : session0.chain.ledger = session.chain.ledger.heard [.allowance] :=
    congrArg Session.chain hlater
  by_cases hcovered : amount ≤ session.chain.ledger.allowanceOf token.address Ledger.owner spender
  · rw [if_pos hcovered]
    rw [if_pos (by exact hcovered)] at h
    cases h
    exact Asks.quiet rfl
  · rw [if_neg hcovered]
    rw [if_neg (by exact hcovered)] at h
    refine Asks.bind [.approve] [] h (fun _ _ hsend => ?_) fun hash session1 _ h => ?_
    · refine Asks.call (.approve ..) hsend fun failed after => happroval _ failed after ?_
      rw [hledger]
      exact not_le.1 hcovered
    · cases h
      exact Asks.quiet rfl

/-- Making sure of an allowance, as far as it succeeds, grants it. -/
theorem ledger_of_ensureAllowance {token : Token} {spender : Address} {amount : ℕ}
    {context : String}
    (h : ((ensureAllowance token spender amount : Action Watched Unit).within context).run session =
      (.ok (), later)) :
    ∃ calls, later.chain.ledger =
      (session.chain.ledger.granted token.address spender amount).heard calls := by
  obtain ⟨hfollows, -⟩ :=
    (Follows.within context (follows_ensureAllowance token spender amount)).conversation h
  obtain ⟨inner, hinner, hok⟩ := Action.run_within_cases hfollows
  obtain ⟨-, calls, ⟨rfl, hlater⟩ | ⟨⟨failure, rfl, -⟩, -, -⟩⟩ := run_ensureAllowance_cases hinner
  · exact ⟨calls, hlater⟩
  · cases hok

/-- The mint of a position is made up without a call. -/
theorem quiet_mintRequest {manager : Address} {position : Position}
    {result : Except Failure MintRequest} (h0 : position.amounts.amount0 ≤ maxWord)
    (h1 : position.amounts.amount1 ≤ maxWord)
    (h : (p.mintRequest manager position : Action Watched MintRequest).run session =
      (result, later)) :
    later.chain = session.chain ∧
      ∀ request, result = .ok request →
        ∃ deadline, request = p.mintAt manager position deadline := by
  obtain ⟨hrun, exchanges, hkept, hsaid⟩ :=
    (p.follows_mintRequest manager position).conversation h
  obtain ⟨hlater, hrequest⟩ := run_mintRequest_cases h0 h1 hrun
  have hledger : later.chain.ledger = session.chain.ledger := congrArg Session.chain hlater
  obtain rfl : exchanges = [] := hsaid.linked.eq_nil (by rw [hledger])
  refine ⟨?_, ?_⟩
  · rw [List.append_nil] at hkept
    exact Watched.ext hledger hkept
  · rintro request rfl
    obtain ⟨deadline, hok⟩ | ⟨⟨failure, herror, -⟩, -⟩ := hrequest
    · exact ⟨deadline, Except.ok.inj hok⟩
    · cases herror

/-- Whether an exchange of a deposit is good: its call has what it needs, a mint is that of the
position that is sized against the pool, with all pools as they were at the beginning, and an
approval is one that this position cannot do without. -/
structure Deposits (p : Provisioner) (plan : Plan) (pool : Pool) (before : Ledger)
    (e : Exchange) : Prop where
  met : e.ask.Met e.before
  mint : ∀ request, e.ask = .mint request →
    e.before.pools = before.pools ∧ ∃ manager position deadline,
      p.deployment.resolve .positionManager = .ok manager ∧
      sizePosition (p.sizingRequest plan pool) = .ok position ∧
      request = p.mintAt manager position deadline
  approval : ∀ token spender amount, e.ask = .approve token spender amount →
    amount = maxWord ∧ ∃ position needed,
      p.deployment.resolve .positionManager = .ok spender ∧
      sizePosition (p.sizingRequest plan pool) = .ok position ∧
      position.Takes token needed ∧ e.before.allowanceOf token Ledger.owner spender < needed

theorem opens_deposits {pool : Pool} {before : Ledger} : Opens (p.Deposits plan pool before) := by
  intro e hmet hmint happroval
  refine ⟨hmet, fun request hask => ?_, fun token spender amount hask => ?_⟩
  · rw [hask] at hmint
    exact absurd trivial hmint
  · rw [hask] at happroval
    exact absurd trivial happroval

/-- The record of the ledger at the beginning does not matter. -/
theorem Deposits.of_heard {pool : Pool} {before : Ledger} {calls : List Call} {e : Exchange}
    (h : p.Deposits plan pool (before.heard calls) e) : p.Deposits plan pool before e :=
  ⟨h.met, h.mint, h.approval⟩

/-- An approval that a position cannot do without is one of its deposit. -/
theorem deposits_of_takes {pool : Pool} {before ledger after : Ledger} {manager : Address}
    {position : Position} {token : Address} {needed : ℕ} {failed : Option Failure}
    (hmanager : p.deployment.resolve .positionManager = .ok manager)
    (hsized : sizePosition (p.sizingRequest plan pool) = .ok position)
    (htakes : position.Takes token needed)
    (hlow : ledger.allowanceOf token Ledger.owner manager < needed) :
    p.Deposits plan pool before ⟨.approve token manager maxWord, ledger, failed, after⟩ where
  met := trivial
  mint := by
    rintro request ⟨⟩
  approval := by
    rintro asset spender amount hask
    cases hask
    exact ⟨rfl, position, needed, hmanager, hsized, htakes, hlow⟩

/-- A deposit asks for the calls of its position, and for nothing if there is none. -/
theorem asks_addLiquidity {pool : Pool} {word : List Call} {result : Except Failure Outcome}
    (hword : ∀ manager position, p.deployment.resolve .positionManager = .ok manager →
      sizePosition (p.sizingRequest plan pool) = .ok position →
      word = depositWord manager position session.chain.ledger)
    (h : (p.addLiquidity plan pool : Action Watched Outcome).run session = (result, later)) :
    Asks session result later word (p.Deposits plan pool session.chain.ledger) := by
  refine Asks.calculate h fun manager hmanager h => ?_
  refine Asks.calculate_within h fun position hsized h => ?_
  rw [hword manager position hmanager hsized]
  obtain ⟨h0, h1⟩ := Position.amounts_le_maxWord hsized
  -- two notes in the journal come first
  refine Asks.bind [] _ h (fun _ _ hwrite => ?_) fun _ noted hwrite h => ?_
  · cases hwrite
    exact Asks.quiet rfl
  cases hwrite
  refine Asks.bind [] _ h (fun _ _ hwrite => ?_) fun _ noted hwrite h => ?_
  · cases hwrite
    exact Asks.quiet rfl
  cases hwrite
  refine Asks.bind _ _ h (fun _ _ hallow => Asks.within hallow fun _ hinner =>
    asks_ensureAllowance opens_deposits
      (fun _ _ _ => deposits_of_takes hmanager hsized (.inl ⟨rfl, rfl⟩)) hinner)
    fun _ session0 hallow0 h => ?_
  obtain ⟨calls0, hledger0⟩ := ledger_of_ensureAllowance hallow0
  have hside : sideWord position.token1.address manager position.amounts.amount1
      (session.chain.ledger.granted position.token0.address manager position.amounts.amount0) =
      sideWord position.token1.address manager position.amounts.amount1 session0.chain.ledger := by
    rw [hledger0]
    rfl
  rw [hside]
  refine Asks.bind _ _ h (fun _ _ hallow => Asks.within hallow fun _ hinner =>
    asks_ensureAllowance opens_deposits
      (fun _ _ _ => deposits_of_takes hmanager hsized (.inr ⟨rfl, rfl⟩)) hinner)
    fun _ session1 hallow1 h => ?_
  obtain ⟨calls1, hledger1⟩ := ledger_of_ensureAllowance hallow1
  have hledger : session1.chain.ledger = (session.chain.ledger.grantedTo manager position 2).heard
      (calls0 ++ calls1) := by
    rw [hledger1, hledger0]
    simp only [Ledger.grantedTo, Ledger.heard_granted, Ledger.heard_heard]
  refine Asks.bind [] [.mint] h (fun _ _ hrequest => ?_) fun request session2 hrequest h => ?_
  · exact Asks.quiet (congrArg Watched.exchanges (quiet_mintRequest h0 h1 hrequest).1)
  obtain ⟨hchain, hmade⟩ := quiet_mintRequest h0 h1 hrequest
  obtain ⟨deadline, rfl⟩ := hmade request rfl
  refine Asks.bind [.mint] [] h (fun _ _ hmint => Asks.within hmint fun _ hinner => ?_)
    fun receipt session3 _ h => ?_
  · refine Asks.call (.mint _) hinner fun failed after => ⟨?_, ?_, ?_⟩
    · change session2.chain.ledger.Covers _
      rw [hchain, hledger]
      exact (Ledger.covers_grantedTo p deadline h0 h1).heard _
    · rintro request hask
      obtain rfl := Ask.mint.inj hask
      refine ⟨?_, manager, position, deadline, hmanager, hsized, rfl⟩
      change session2.chain.ledger.pools = _
      rw [hchain, hledger]
      exact Ledger.pools_grantedTo manager position 2 session.chain.ledger
    · rintro token spender amount ⟨⟩
  · cases h
    exact Asks.quiet rfl

end Provisioner

end Tickwise

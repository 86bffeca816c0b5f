import Tickwise.Proofs.Chain.Exchange
import Tickwise.Provision.Provisioner

/-!
# A chain that is watched

A chain in memory that also keeps every exchange with it.  Work that reaches its chain through
the calls alone does there what it does on the chain that nobody watches, and what was kept is
the conversation it had: one exchange after the other, from the ledger it began with to the one
it left, where nothing is said after a call that failed.

* `Watched` — the ledger and the exchanges so far, with the calls of a chain;
* `Conversation` — what is kept of some work, with how it ended;
* `Follows` — work on both chains that is built alike, and `Follows.conversation` — what holds
  of it;
* `said` — what work says to a chain, from a session on;
* `follows_provision` and its neighbours — the steps of a provision are such work.
-/

namespace Tickwise

/-- A chain in memory with the exchanges so far, oldest first. -/
@[ext] structure Watched where
  ledger : Ledger
  exchanges : List Exchange

/-- The session with the chain that nobody watches. -/
def Session.unwatched (session : Session Watched) : Session Ledger :=
  ⟨session.chain.ledger, session.now, session.journal⟩

@[simp] theorem Session.chain_unwatched (session : Session Watched) :
    session.unwatched.chain = session.chain.ledger := rfl

/-- The session with a watch from here on. -/
def Session.watched (session : Session Ledger) : Session Watched :=
  ⟨⟨session.chain, []⟩, session.now, session.journal⟩

@[simp] theorem Session.unwatched_watched (session : Session Ledger) :
    session.watched.unwatched = session := rfl

namespace Watched

/-- Asks the ledger, and keeps the exchange. -/
def watch (ask : Ask) : Action Watched ask.Answer :=
  ExceptT.mk fun session =>
    let done := ask.put.run session.unwatched
    let kept : Exchange := ⟨ask, session.chain.ledger, failure? done.1, done.2.chain⟩
    (done.1, ⟨⟨done.2.chain, session.chain.exchanges ++ [kept]⟩, done.2.now, done.2.journal⟩)

instance : Chain Watched where
  owner _ := Ledger.owner
  chainId := watch .chainId
  token address := watch (.token address)
  poolAddress factory token0 token1 fee := watch (.poolAddress factory token0 token1 fee)
  poolState pool := watch (.poolState pool)
  createAndInitializePool positionManager token0 token1 fee sqrtPrice :=
    watch (.createAndInitializePool positionManager token0 token1 fee sqrtPrice)
  allowance token owner spender := watch (.allowance token owner spender)
  approve token spender amount := watch (.approve token spender amount)
  mint request := watch (.mint request)

/-- A watched call is the call, and it is kept. -/
theorem run_watch_cases {ask : Ask} {session later : Session Watched}
    {result : Except Failure ask.Answer} (h : (watch ask).run session = (result, later)) :
    ask.put.run session.unwatched = (result, later.unwatched) ∧
      later.chain.exchanges = session.chain.exchanges ++
        [⟨ask, session.chain.ledger, failure? result, later.chain.ledger⟩] := by
  cases h
  exact ⟨rfl, rfl⟩

end Watched

/-! ## Conversations -/

/-- What some work has said to a chain: the exchanges took place one after the other, and one
that failed was the last and is the cause of the failure of the work. -/
structure Conversation {α : Type} (before : Ledger) (exchanges : List Exchange)
    (result : Except Failure α) (after : Ledger) : Prop where
  linked : Linked before exchanges after
  stops : ∀ earlier e later failure, exchanges = earlier ++ e :: later →
    e.failure? = some failure →
    later = [] ∧ ∃ last, result = .error last ∧ last.cause = failure.cause

namespace Conversation

variable {α β : Type} {before middle after : Ledger} {exchanges more : List Exchange}
  {result : Except Failure α}

theorem nil : Conversation before [] result before where
  linked := .nil
  stops := by
    intro earlier e later failure hsplit
    simp at hsplit

theorem single {e : Exchange} {failed : Except Failure e.ask.Answer} (h : e.Held)
    (hfailure : failure? failed = e.failure?) : Conversation e.before [e] failed e.after where
  linked := .cons h .nil
  stops := by
    intro earlier other later failure hsplit hother
    obtain ⟨rfl, hrest⟩ | ⟨_, rfl, hrest⟩ := List.cons_eq_append_iff.1 hsplit
    · obtain ⟨rfl, rfl⟩ := List.cons.inj hrest
      rw [hother, failure?_eq_some_iff] at hfailure
      exact ⟨rfl, failure, hfailure, rfl⟩
    · simp at hrest

/-- Two conversations make one, when the first was not stopped. -/
theorem append {a : β} (h : Conversation before exchanges (.ok a : Except Failure β) middle)
    (hmore : Conversation middle more result after) :
    Conversation before (exchanges ++ more) result after where
  linked := h.linked.append hmore.linked
  stops := by
    intro earlier e later failure hsplit hfailed
    -- the exchange is one of the second conversation, for none of the first has failed
    obtain ⟨behind, hleft, hright⟩ | ⟨front, hleft, hright⟩ := List.append_eq_append_iff.1 hsplit
    · exact hmore.stops behind e later failure hright hfailed
    · cases front with
      | nil => exact hmore.stops [] e later failure hright.symm hfailed
      | cons first front =>
        obtain ⟨rfl, -⟩ := List.cons.inj hright
        obtain ⟨-, last, hlast, -⟩ := h.stops earlier e front failure hleft hfailed
        cases hlast

/-- The conversation of work that failed is that of any work that fails with it. -/
theorem fail {failure failure' : Failure}
    (h : Conversation before exchanges (.error failure : Except Failure α) after)
    (hcause : failure'.cause = failure.cause) :
    Conversation before exchanges (.error failure' : Except Failure β) after where
  linked := h.linked
  stops := by
    intro earlier e later cause hsplit hfailed
    obtain ⟨hnil, last, hlast, heq⟩ := h.stops earlier e later cause hsplit hfailed
    cases hlast
    exact ⟨hnil, failure', rfl, hcause.trans heq⟩

theorem mapError_within {context : String} (h : Conversation before exchanges result after) :
    Conversation before exchanges (result.mapError (Failure.within context)) after := by
  cases result with
  | error failure => exact h.fail rfl
  | ok a => exact h

end Conversation

/-! ## Work that follows other work -/

/-- Work on a watched chain and work on a chain in memory that are built alike, from the calls of
a chain and from what needs no chain. -/
inductive Follows : ∀ {α : Type}, Action Watched α → Action Ledger α → Prop
  | pure {α : Type} (a : α) : Follows (Pure.pure a) (Pure.pure a)
  | write (level : Level) (text : String) : Follows (Action.write level text)
    (Action.write level text)
  | refuse {α : Type} (message : String) : Follows (Action.refuse message : Action Watched α)
    (Action.refuse message)
  | calculate {α : Type} (result : Except Fault α) : Follows (Action.calculate result)
    (Action.calculate result)
  | ask (ask : Ask) : Follows (Watched.watch ask) ask.put
  | chain {α : Type} {next : Watched → Action Watched α} {next' : Ledger → Action Ledger α}
    (h : ∀ watched, Follows (next watched) (next' watched.ledger)) :
    Follows (Action.chain >>= next) (Action.chain >>= next')
  | session {α : Type} {next : Session Watched → Action Watched α}
    {next' : Session Ledger → Action Ledger α}
    (h : ∀ session, Follows (next session) (next' session.unwatched)) :
    Follows (get >>= next) (get >>= next')
  | bind {α β : Type} {first : Action Watched α} {first' : Action Ledger α}
    {next : α → Action Watched β} {next' : α → Action Ledger β} (hfirst : Follows first first')
    (hnext : ∀ a, Follows (next a) (next' a)) : Follows (first >>= next) (first' >>= next')
  | within {α : Type} {action : Action Watched α} {action' : Action Ledger α} (context : String)
    (h : Follows action action') : Follows (action.within context) (action'.within context)

/-- **Watching changes nothing.**  Work on a watched chain comes to what it comes to when nobody
watches, and what was kept of it is its conversation. -/
theorem Follows.conversation {α : Type} {action : Action Watched α} {action' : Action Ledger α}
    (h : Follows action action') {session later : Session Watched} {result : Except Failure α}
    (hrun : action.run session = (result, later)) :
    action'.run session.unwatched = (result, later.unwatched) ∧
      ∃ exchanges, later.chain.exchanges = session.chain.exchanges ++ exchanges ∧
        Conversation session.chain.ledger exchanges result later.chain.ledger := by
  induction h generalizing session later with
  | pure a =>
    cases hrun
    exact ⟨rfl, [], by simp, .nil⟩
  | write level text =>
    cases hrun
    exact ⟨rfl, [], by simp, .nil⟩
  | refuse message =>
    cases hrun
    exact ⟨rfl, [], by simp, .nil⟩
  | calculate calculated =>
    cases calculated with
    | error fault =>
      cases hrun
      exact ⟨rfl, [], by simp, .nil⟩
    | ok a =>
      cases hrun
      exact ⟨rfl, [], by simp, .nil⟩
  | ask ask =>
    obtain ⟨hput, hkept⟩ := Watched.run_watch_cases hrun
    refine ⟨hput, _, hkept, ?_⟩
    exact Conversation.single (e := ⟨ask, session.chain.ledger, failure? result,
      later.chain.ledger⟩) ⟨_, _, result, hput, rfl, rfl, rfl⟩ rfl
  | chain _ ih =>
    rw [Action.run_bind, Action.run_chain] at hrun
    rw [Action.run_bind, Action.run_chain]
    exact ih _ hrun
  | session _ ih =>
    rw [Action.run_bind, Action.run_get] at hrun
    rw [Action.run_bind, Action.run_get]
    exact ih _ hrun
  | bind _ _ ihfirst ihnext =>
    obtain ⟨inner, middle, hfirst, hrest⟩ := Action.run_bind_cases hrun
    obtain ⟨hfirst', exchanges, hkept, hsaid⟩ := ihfirst hfirst
    cases inner with
    | error failure =>
      cases hrest
      exact ⟨Action.run_bind_of_error hfirst', exchanges, hkept, hsaid.fail rfl⟩
    | ok a =>
      obtain ⟨hnext', more, hkeptMore, hsaidMore⟩ := ihnext a hrest
      rw [hkept, List.append_assoc] at hkeptMore
      exact ⟨(Action.run_bind_of_ok hfirst').trans hnext', _, hkeptMore, hsaid.append hsaidMore⟩
  | within context _ ih =>
    obtain ⟨inner, hinner, rfl⟩ := Action.run_within_cases hrun
    obtain ⟨hinner', exchanges, hkept, hsaid⟩ := ih hinner
    refine ⟨?_, exchanges, hkept, hsaid.mapError_within⟩
    rw [Action.run_within, hinner']

/-- What work says to a chain in memory, from a session on. -/
def said {α : Type} (work : Action Watched α) (session : Session Ledger) : List Exchange :=
  (work.run session.watched).2.chain.exchanges

/-- What work says is its conversation, from the ledger it begins with to the one it leaves. -/
theorem Follows.conversation_said {α : Type} {work : Action Watched α}
    {work' : Action Ledger α} (h : Follows work work') (session : Session Ledger) :
    Conversation session.chain (said work session) (work'.run session).1
      (work'.run session).2.chain := by
  rcases hrun : work.run session.watched with ⟨result, last⟩
  obtain ⟨hrun', exchanges, hkept, hsaid⟩ := h.conversation hrun
  rw [Session.unwatched_watched] at hrun'
  rw [said, hrun, hrun', hkept]
  exact hsaid

theorem Follows.linked_said {α : Type} {work : Action Watched α} {work' : Action Ledger α}
    (h : Follows work work') {session later : Session Ledger} {result : Except Failure α}
    (hrun : work'.run session = (result, later)) :
    Linked session.chain (said work session) later.chain := by
  have hlinked := (h.conversation_said session).linked
  rwa [hrun] at hlinked

/-! ## The steps of a provision -/

namespace Provisioner

variable (p : Provisioner) (plan : Plan)

theorem follows_readToken (address : Address) :
    Follows (readToken address) (readToken address) :=
  .within _ (.ask (.token address))

theorem follows_plan (request : PoolRequest) :
    Follows (Provisioner.plan request) (Provisioner.plan request) := by
  refine .bind (.within _ (.calculate _)) fun checked => ?_
  refine .bind (follows_readToken _) fun token0 => ?_
  refine .bind (follows_readToken _) fun token1 => ?_
  refine .bind (.within _ (.calculate _)) fun sqrtPrice => ?_
  exact .bind (.write _ _) fun _ => .pure _

theorem follows_verifyChain : Follows p.verifyChain p.verifyChain := by
  refine .bind (.within _ (.ask .chainId)) fun chainId => ?_
  split
  · exact .refuse _
  · exact .pure _

theorem follows_locate : Follows (p.locate plan) (p.locate plan) := by
  refine .bind (.calculate _) fun factory => ?_
  refine .bind (.within _ (.ask (.poolAddress ..))) fun found => ?_
  cases found with
  | none => exact .bind (.write _ _) fun _ => .pure _
  | some address =>
    refine .bind (.within _ (.ask (.poolState address))) fun pool => ?_
    split
    · exact .bind (.write _ _) fun _ => .pure _
    · exact .bind (.write _ _) fun _ => .pure _

theorem follows_createPool : Follows (p.createPool plan) (p.createPool plan) := by
  refine .bind (.calculate _) fun manager => ?_
  refine .bind (.within _ (.ask (.createAndInitializePool ..))) fun address => ?_
  refine .bind (.within _ (.ask (.poolState address))) fun pool => ?_
  dsimp only
  split
  · exact .bind (.write _ _) fun _ => .pure _
  · exact .pure _

theorem follows_ensureAllowance (token : Token) (spender : Address) (amount : ℕ) :
    Follows (ensureAllowance token spender amount) (ensureAllowance token spender amount) := by
  unfold ensureAllowance
  split
  · refine .chain fun watched => ?_
    refine .bind (.ask (.allowance token.address Ledger.owner spender)) fun current => ?_
    split
    · exact .write _ _
    · exact .bind (.ask (.approve ..)) fun _ => .write _ _
  · exact .pure _

theorem follows_mintRequest (manager : Address) (position : Position) :
    Follows (p.mintRequest manager position) (p.mintRequest manager position) := by
  refine .bind (.calculate _) fun amount0Min => ?_
  refine .bind (.calculate _) fun amount1Min => ?_
  refine .chain fun watched => ?_
  refine .bind (.session fun session => ?_) fun deadline => .pure _
  change Follows (if session.now < 0 then _ else _) (if session.now < 0 then _ else _)
  split
  · exact .refuse _
  · exact .pure _

theorem follows_addLiquidity (pool : Pool) :
    Follows (p.addLiquidity plan pool) (p.addLiquidity plan pool) := by
  refine .bind (.calculate _) fun manager => ?_
  refine .bind (.within _ (.calculate _)) fun position => ?_
  refine .bind (.write _ _) fun _ => ?_
  refine .bind (.write _ _) fun _ => ?_
  refine .bind (.within _ (follows_ensureAllowance _ _ _)) fun _ => ?_
  refine .bind (.within _ (follows_ensureAllowance _ _ _)) fun _ => ?_
  refine .bind (p.follows_mintRequest manager position) fun request => ?_
  refine .bind (.within _ (.ask (.mint request))) fun receipt => ?_
  exact .bind (.write _ _) fun _ => .pure _

theorem follows_advance (progress : Progress) :
    Follows (p.advance plan progress) (p.advance plan progress) := by
  cases progress with
  | notFound => exact .bind (p.follows_createPool plan) fun _ => .pure _
  | initialized pool => exact .bind (p.follows_addLiquidity plan pool) fun _ => .pure _
  | liquidityAdded outcome => exact .pure _

theorem follows_deposit (pool : Pool) : Follows (p.deposit plan pool) (p.deposit plan pool) :=
  .bind (p.follows_addLiquidity plan pool) fun _ => .bind (.write _ _) fun _ => .pure _

theorem follows_finish (progress : Progress) :
    Follows (p.finish plan progress) (p.finish plan progress) := by
  cases progress with
  | notFound =>
    refine .bind (p.follows_createPool plan) fun pool => ?_
    exact .bind (.write _ _) fun _ => p.follows_deposit plan pool
  | initialized pool => exact p.follows_deposit plan pool
  | liquidityAdded outcome => exact .pure _

theorem follows_provision (request : PoolRequest) :
    Follows (p.provision request) (p.provision request) := by
  refine .bind (follows_plan request) fun plan => ?_
  refine .bind p.follows_verifyChain fun _ => ?_
  exact .bind (p.follows_locate plan) fun progress => p.follows_finish plan progress

end Provisioner

end Tickwise

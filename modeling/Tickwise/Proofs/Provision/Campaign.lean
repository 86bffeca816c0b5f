import Tickwise.Proofs.Chain.Allowances
import Tickwise.Proofs.Provision.Protocol
import Tickwise.Provision.BatchRun

/-!
# Approvals over many provisions

Requests are provisioned on one chain, alone and in batches, and any of them may fail.  Whatever
was allowed before, and as long as allowances change by nothing else: what a provision approves, it
approves for good.  So no token is approved twice for the same spender, and an approval is sent
only for a position that takes more of the token than is allowed at that moment.

* `Attempt`, `attempts` — a request that is provisioned, and those of a batch;
* `Campaign` — provisions and batches, one after the other;
* `Attempt.Sound`, `sound_attempt` — what holds of every attempt;
* `Frugal`, `Campaign.thrifty` — what becomes of the ledger;
* `campaign_approves_once` — one approval for a token and a spender.
-/

namespace Tickwise

namespace Provisioner

/-! ## Attempts -/

/-- A request that is provisioned: by whom, from which ledger, and what is said to the chain. -/
structure Attempt where
  provisioner : Provisioner
  request : PoolRequest
  start : Ledger
  exchanges : List Exchange

/-- The attempt at a request from a session on. -/
def attempt (p : Provisioner) (request : PoolRequest) (session : Session Ledger) : Attempt :=
  ⟨p, request, session.chain, said (p.provision request) session⟩

/-- The attempts of a batch: one for each request, up to the first that fails. -/
def attempts (p : Provisioner) : List PoolRequest → Session Ledger → List Attempt
  | [], _ => []
  | request :: rest, session =>
    p.attempt request session ::
      match (p.provision request : Action Ledger Outcome).run session with
      | (.ok _, later) => p.attempts rest later
      | (.error _, _) => []

/-- Whether an attempt needs an approval: it is of any amount and for the position manager, and the
position that the request comes to takes an amount of the token that is more than what the ledger
allows. -/
def Attempt.Needs (a : Attempt) (ledger : Ledger) (approval : Approval) : Prop :=
  approval.amount = maxWord ∧
    a.provisioner.deployment.resolve .positionManager = .ok approval.spender ∧
    ∃ plan opened pool position needed,
      Target a.provisioner a.request a.start plan approval.spender opened pool position ∧
      position.Takes approval.token needed ∧ needed ≠ 0 ∧
      ledger.allowanceOf approval.token Ledger.owner approval.spender < needed

/-- Whether what an attempt has said took place, and every approval that it asked for was needed at
that moment. -/
structure Attempt.Sound (a : Attempt) : Prop where
  linked : ∃ last, Linked a.start a.exchanges last
  needs : ∀ e ∈ a.exchanges, ∀ token spender amount, e.ask = .approve token spender amount →
    a.Needs e.before ⟨token, spender, amount⟩

variable {p : Provisioner} {request : PoolRequest} {session later : Session Ledger}

theorem linked_attempt {result : Except Failure Outcome}
    (hrun : (p.provision request : Action Ledger Outcome).run session = (result, later)) :
    Linked session.chain (p.attempt request session).exchanges later.chain :=
  (p.follows_provision request).linked_said hrun

theorem sound_attempt (p : Provisioner) (request : PoolRequest) (session : Session Ledger) :
    (p.attempt request session).Sound where
  linked := ⟨_, linked_attempt rfl⟩
  needs := by
    intro e he token spender amount hask
    obtain ⟨hamount, plan, opened, pool, position, needed, htarget, htakes, hlow⟩ :=
      (provides_of_mem_said he).approval token spender amount hask
    exact ⟨hamount, htarget.ready.manager, plan, opened, pool, position, needed, htarget, htakes,
      Nat.ne_zero_of_lt hlow, hlow⟩

/-- What a position takes of a token is a word. -/
theorem Target.takes_le_maxWord {start opened : Ledger} {plan : Plan} {manager : Address}
    {pool : Pool} {position : Position} {token : Address} {needed : ℕ}
    (h : Target p request start plan manager opened pool position)
    (htakes : position.Takes token needed) : needed ≤ maxWord := by
  obtain ⟨h0, h1⟩ := Position.amounts_le_maxWord h.sized
  obtain ⟨-, rfl⟩ | ⟨-, rfl⟩ := htakes
  · exact h0
  · exact h1

/-- A sound attempt is sparing with approvals. -/
theorem Attempt.Sound.sparing {a : Attempt} (h : a.Sound) : ∀ e ∈ a.exchanges, e.Sparing := by
  intro e he token spender amount hask
  obtain ⟨hamount, -, plan, opened, pool, position, needed, htarget, htakes, -, hlow⟩ :=
    h.needs e he token spender amount hask
  exact ⟨hamount, hlow.trans_le (htarget.takes_le_maxWord htakes)⟩

/-! ## Batches -/

theorem sound_of_mem_attempts {requests : List PoolRequest} {session : Session Ledger}
    {a : Attempt} (ha : a ∈ p.attempts requests session) : a.Sound := by
  induction requests generalizing session with
  | nil => cases ha
  | cons request rest ih =>
    rcases List.mem_cons.1 ha with rfl | hrest
    · exact sound_attempt p request session
    · split at hrest
      · exact ih hrest
      · cases hrest

/-- What the attempts of a batch say leads from the ledger before the batch to the one after. -/
theorem linked_attempts (p : Provisioner) (index : ℕ) (requests : List PoolRequest)
    (session : Session Ledger) :
    Linked session.chain ((p.attempts requests session).flatMap Attempt.exchanges)
      (p.provisionFrom index requests session).2.chain := by
  induction requests generalizing index session with
  | nil => exact .nil
  | cons request rest ih =>
    rcases hrun : (p.provision request : Action Ledger Outcome).run session with
      ⟨failure | outcome, later⟩
    · have hlinked := linked_attempt hrun
      rw [provisionFrom_cons_of_error hrun, attempts, hrun, List.flatMap_singleton]
      exact hlinked
    · rw [provisionFrom_cons_of_ok hrun, attempts, hrun, List.flatMap_cons]
      exact (linked_attempt hrun).append (ih (index + 1) later)

/-! ## Campaigns -/

/-- Provisions and batches on one chain, one after the other, with all the attempts that were made.
They may be those of different provisioners, by a clock and with a journal as they may be, and in
between anything may happen that leaves allowances and approvals alone. -/
inductive Campaign (start : Ledger) : List Attempt → Ledger → Prop
  | start : Campaign start [] start
  | provision {made : List Attempt} {session later : Session Ledger} {p : Provisioner}
    {request : PoolRequest} {result : Except Failure Outcome}
    (h : Campaign start made session.chain)
    (hrun : (p.provision request : Action Ledger Outcome).run session = (result, later)) :
    Campaign start (made ++ [p.attempt request session]) later.chain
  | batch {made : List Attempt} {session later : Session Ledger} {p : Provisioner}
    {requests : List PoolRequest} {outcome : BatchOutcome}
    (h : Campaign start made session.chain)
    (hrun : p.provisionBatch requests session = (outcome, later)) :
    Campaign start (made ++ p.attempts requests session) later.chain
  | other {made : List Attempt} {ledger after : Ledger} (h : Campaign start made ledger)
    (hallowances : after.allowances = ledger.allowances)
    (happrovals : after.approvals = ledger.approvals) : Campaign start made after

variable {start ledger : Ledger} {made : List Attempt}

/-- All that is said in a campaign. -/
def exchangesOf (made : List Attempt) : List Exchange := made.flatMap Attempt.exchanges

/-- What becomes of a ledger in a campaign: approvals are sent where they are needed, and no ledger
on the way has a lower allowance than one before it. -/
structure Frugal (start : Ledger) (exchanges : List Exchange) (ledger : Ledger) : Prop where
  approving : start.Approving (exchanges.filterMap Exchange.approved?) ledger
  allows : (start :: exchanges.map Exchange.after ++ [ledger]).Pairwise Ledger.Allows

theorem frugal_of_linked {first last : Ledger} {exchanges : List Exchange}
    (h : Linked first exchanges last) (hsparing : ∀ e ∈ exchanges, e.Sparing) :
    Frugal first exchanges last :=
  ⟨h.approving hsparing, h.pairwise_allows hsparing⟩

theorem Frugal.append {first second third : Ledger} {exchanges more : List Exchange}
    (h : Frugal first exchanges second) (h' : Frugal second more third) :
    Frugal first (exchanges ++ more) third where
  approving := by
    rw [List.filterMap_append]
    exact h.approving.trans h'.approving
  allows := by
    rw [List.map_append, ← List.cons_append, List.append_assoc]
    obtain ⟨hearlier, -, hbetween⟩ := List.pairwise_append.1 h.allows
    have hlater : (second :: (more.map Exchange.after ++ [third])).Pairwise Ledger.Allows :=
      h'.allows
    refine List.pairwise_append.2 ⟨hearlier, (List.pairwise_cons.1 hlater).2, ?_⟩
    intro before hbefore after hafter
    exact (hbetween before hbefore second (List.mem_singleton_self _)).trans
      (List.rel_of_pairwise_cons hlater hafter)

/-- What holds of the attempts from one ledger to another: each is sound, and they are frugal. -/
structure Thrifty (start : Ledger) (made : List Attempt) (ledger : Ledger) : Prop where
  sound : ∀ a ∈ made, a.Sound
  frugal : Frugal start (exchangesOf made) ledger

/-- More attempts that are sound, and take place where the others have ended. -/
theorem Thrifty.extend {more : List Attempt} {last : Ledger} (h : Thrifty start made ledger)
    (hsound : ∀ a ∈ more, a.Sound) (hlinked : Linked ledger (exchangesOf more) last) :
    Thrifty start (made ++ more) last where
  sound := List.forall_mem_append.2 ⟨h.sound, hsound⟩
  frugal := by
    have hsparing : ∀ e ∈ exchangesOf more, e.Sparing := by
      intro e he
      obtain ⟨a, ha, hmem⟩ := List.mem_flatMap.1 he
      exact (hsound a ha).sparing e hmem
    rw [exchangesOf, List.flatMap_append]
    exact h.frugal.append (frugal_of_linked hlinked hsparing)

/-- Every campaign is thrifty. -/
theorem Campaign.thrifty (h : Campaign start made ledger) : Thrifty start made ledger := by
  induction h with
  | start => exact ⟨by simp, frugal_of_linked .nil (by simp [exchangesOf])⟩
  | @provision made session later p request result _ hrun ih =>
    refine ih.extend (List.forall_mem_singleton.2 (sound_attempt p request session)) ?_
    rw [exchangesOf, List.flatMap_singleton]
    exact linked_attempt hrun
  | @batch made session later p requests outcome _ hrun ih =>
    refine ih.extend (fun a ha => sound_of_mem_attempts ha) ?_
    have hlinked := p.linked_attempts 0 requests session
    rwa [← provisionBatch, hrun] at hlinked
  | @other made ledger after _ hallowances happrovals ih =>
    refine ⟨ih.sound, ?_⟩
    have hquiet : Frugal ledger [] after :=
      ⟨.nothing happrovals hallowances, by simpa using Ledger.allows_of_allowances_eq hallowances⟩
    have hall := ih.frugal.append hquiet
    rwa [List.append_nil] at hall

/-- Every approval that was sent was needed when it was sent. -/
theorem Thrifty.needed (h : Thrifty start made ledger) {approval : Approval}
    (hsent : approval ∈ (exchangesOf made).filterMap Exchange.approved?) :
    ∃ a ∈ made, ∃ e ∈ a.exchanges, e.approved? = some approval ∧ a.Needs e.before approval := by
  obtain ⟨e, he, happroved⟩ := List.mem_filterMap.1 hsent
  obtain ⟨a, ha, hmem⟩ := List.mem_flatMap.1 he
  exact ⟨a, ha, e, hmem, happroved,
    (h.sound a ha).needs e hmem _ _ _ (Exchange.ask_of_approved? happroved)⟩

/-- **One approval for a token and a spender.**  Whatever is provisioned on a chain, alone or in
batches, with whichever calls made to fail and whatever was allowed before: no token is approved
twice for the same spender.  Every approval is of any amount, for the position manager, and is sent
when less is allowed than the position takes that is about to be minted; so was every approval that
failed.  And no allowance is ever lowered on the way. -/
theorem campaign_approves_once (h : Campaign start made ledger) :
    ∃ sent, ledger.approvals = start.approvals ++ sent ∧
      (sent.map Approval.pair).Nodup ∧
      (∀ approval ∈ sent, ∃ a ∈ made, ∃ e ∈ a.exchanges,
        e.approved? = some approval ∧ a.Needs e.before approval) ∧
      (∀ a ∈ made, a.Sound) ∧
      (start :: (exchangesOf made).map Exchange.after ++ [ledger]).Pairwise Ledger.Allows := by
  have hthrifty := h.thrifty
  exact ⟨(exchangesOf made).filterMap Exchange.approved?, hthrifty.frugal.approving.approvals,
    hthrifty.frugal.approving.once, fun approval hsent => hthrifty.needed hsent, hthrifty.sound,
    hthrifty.frugal.allows⟩

/-- Too little of the first token is allowed, the second approval fails, and then the request is
provisioned twice in a batch: there are two approvals, and two mints. -/
theorem campaign_approves_once_sample :
    ∃ start made ledger, Campaign start made ledger ∧
      start.allowanceOf sampleToken0.address Ledger.owner (.ofNat 0x9A9A) = 1 ∧
      made.length = 3 ∧ ledger.mints.length = 2 ∧ ledger.approvals.length = 2 ∧
      (ledger.approvals.map Approval.pair).Nodup ∧
      start.Allows ledger := by
  let start := (sampleLedger.setAllowance sampleToken0.address (.ofNat 0x9A9A) 1).failOn .approve 2
  let request := sampleRequest "1000000"
  let begun : Session Ledger := ⟨start, 0, []⟩
  rcases hfirst : (sample.provision request : Action Ledger Outcome).run begun with ⟨result, first⟩
  rcases hsecond : sample.provisionBatch [request, request] first with ⟨outcome, second⟩
  have hends : ([sample.attempt request begun] ++ sample.attempts [request, request] first).length =
        3 ∧ second.chain.mints.length = 2 ∧ second.chain.approvals.length = 2 := by
    obtain rfl := congrArg Prod.snd hfirst
    obtain rfl := congrArg Prod.snd hsecond
    decide +kernel
  obtain ⟨hmade, hmints, hsent⟩ := hends
  have hstart : Campaign start [] begun.chain := .start
  have hcampaign := (hstart.provision hfirst).batch hsecond
  obtain ⟨sent, happrovals, honce, -, -, hallows⟩ := campaign_approves_once hcampaign
  have hnone : start.approvals = [] := rfl
  rw [hnone, List.nil_append] at happrovals
  rw [← happrovals] at honce
  have hallowed := List.rel_of_pairwise_cons hallows
    (List.mem_append_right _ (List.mem_singleton_self _))
  exact ⟨start, _, second.chain, hcampaign, by decide +kernel, hmade, hmints, hsent, honce,
    hallowed⟩

end Provisioner

end Tickwise

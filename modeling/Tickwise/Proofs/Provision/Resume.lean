import Tickwise.Proofs.Chain.Addresses
import Tickwise.Proofs.Provision.Course

/-!
# An interrupted provision resumes

A provision that is stopped leaves its pool as it was or with its price, and some of its
allowances granted.  Each of these ledgers is one from which the same request goes on to where it
would have come without the interruption, and so is every ledger that one more failed attempt
leaves.

* `Underway` — the ledgers that an interrupted provision can leave;
* `Underway.step` — a failed attempt leaves another of them;
* `Underway.finish` — an attempt that meets no failure ends where the whole provision ends;
* `provision_resumes` — the two put together, over any number of attempts.
-/

namespace Tickwise

/-- A mint without the time until which it is valid. -/
def MintRequest.undated (request : MintRequest) : MintRequest := { request with deadline := 0 }

namespace Provisioner

/-! ## A provision that can be done -/

/-- A request whose deposit can be sized, from a ledger whose pools are numbered in order. -/
structure Feasible (p : Provisioner) (request : PoolRequest) (start : Ledger) (plan : Plan)
    (manager : Address) (opened : Ledger) (pool : Pool) (position : Position) : Prop where
  ready : Ready p request start plan manager
  opens : Opened plan start opened pool
  sized : sizePosition (p.sizingRequest plan pool) = .ok position
  numbered : start.Numbered
  few : opened.pools.length ≤ 96

/-- The ledgers that an interrupted provision can leave: nothing is written, or the pool has its
price and some of the allowances are granted. -/
def Underway (start opened : Ledger) (manager : Address) (position : Position)
    (ledger : Ledger) : Prop :=
  ledger.books = start.books ∨
    ∃ count ≤ 2, ledger.books = (opened.grantedTo manager position count).books

variable {p : Provisioner} {request : PoolRequest} {start opened ledger : Ledger} {plan : Plan}
  {manager : Address} {pool : Pool} {position : Position}

theorem Ready.of_eq {other : Ledger} (h : Ready p request start plan manager)
    (htokens : other.tokens = start.tokens) (hchainId : other.chainId = start.chainId) :
    Ready p request other plan manager where
  planned := by
    rw [htokens]
    exact h.planned
  chainId := hchainId.trans h.chainId
  factory := h.factory
  manager := h.manager

/-- Once it is open, a pool is found with its price. -/
theorem Feasible.standing_opened (h : Feasible p request start plan manager opened pool position) :
    opened.standing plan.key = .initialized pool :=
  h.opens.standing ((h.opens.numbered h.numbered).distinct h.few)
    (pos_of_isInitializable h.ready.planned.isInitializable).ne'

/-! ## One attempt -/

/-- Grants leave the pool of a plan where it stands. -/
theorem standing_grantedTo (key : PoolKey) (count : ℕ) :
    (opened.grantedTo manager position count).standing key = opened.standing key := by
  obtain ⟨_, _, heq⟩ := Ledger.grantedTo_eq manager position count opened
  rw [heq]
  rfl

/-- What an interrupted provision leaves is ready for the request as the start was. -/
theorem Underway.ready (h : Feasible p request start plan manager opened pool position)
    (hledger : Underway start opened manager position ledger) :
    Ready p request ledger plan manager := by
  rcases hledger with hstart | ⟨count, -, hbooks⟩
  · exact h.ready.of_eq (Ledger.agree_of_books_eq hstart).tokens
      (Ledger.agree_of_books_eq hstart).chainId
  · obtain ⟨_, _, heq⟩ := Ledger.grantedTo_eq manager position count opened
    rw [heq] at hbooks
    have htokens : ledger.tokens = opened.tokens := ((Ledger.agree_of_books_eq hbooks).tokens :)
    have hchainId : ledger.chainId = opened.chainId := ((Ledger.agree_of_books_eq hbooks).chainId :)
    cases h.opens with
    | found => exact h.ready.of_eq htokens hchainId
    | created => exact h.ready.of_eq htokens hchainId

/-- An attempt opens the same pool, with the allowances that are there already. -/
theorem Underway.reopen (h : Feasible p request start plan manager opened pool position)
    (hledger : Underway start opened manager position ledger) {reopened : Ledger} {found : Pool}
    (hopened : Opened plan ledger reopened found) :
    found = pool ∧ ∃ count ≤ 2,
      reopened.books = (opened.grantedTo manager position count).books := by
  rcases hledger with hstart | ⟨count, hcount, hbooks⟩
  · have hstanding := Ledger.standing_eq_of_books_eq hstart plan.key
    cases hopened with
    | found hfound =>
      rw [hstanding] at hfound
      cases h.opens with
      | found hfound' =>
        rw [hfound] at hfound'
        cases hfound'
        exact ⟨rfl, 0, by decide, hstart⟩
      | created hnotFound =>
        rw [hfound] at hnotFound
        cases hnotFound
    | @created tick _ hnotFound htick hat =>
      rw [hstanding] at hnotFound
      cases h.opens with
      | found hfound =>
        rw [hfound] at hnotFound
        cases hnotFound
      | @created tick' _ _ htick' hat' =>
        obtain rfl := Except.ok.inj (htick.symm.trans htick')
        -- both pools are read from the same books
        have hsame : (ledger.books.priced plan.key tick plan.sqrtPrice).poolAt?
            (ledger.books.createdPool plan.key).address = some found := hat
        rw [hstart] at hsame
        refine ⟨Option.some.inj (hsame.symm.trans hat'), 0, by decide, ?_⟩
        rw [Ledger.books_priced, hstart]
        rfl
  · have hstanding : ledger.standing plan.key = .initialized pool := by
      rw [Ledger.standing_eq_of_books_eq hbooks, standing_grantedTo]
      exact h.standing_opened
    cases hopened with
    | found hfound =>
      rw [hstanding] at hfound
      cases hfound
      exact ⟨rfl, count, hcount, hbooks⟩
    | created hnotFound =>
      rw [hstanding] at hnotFound
      cases hnotFound

/-- An attempt that grants allowances adds them to those that are there already. -/
theorem books_grantedTo_of_reopened {reopened : Ledger} {count more : ℕ}
    (hsized : sizePosition (p.sizingRequest plan pool) = .ok position)
    (hbooks : reopened.books = (opened.grantedTo manager position count).books) :
    (reopened.grantedTo manager position more).books =
      (opened.grantedTo manager position (max count more)).books := by
  obtain ⟨h0, h1⟩ := Position.amounts_le_maxWord hsized
  rw [Ledger.books_grantedTo, hbooks, ← Ledger.books_grantedTo, Ledger.grantedTo_grantedTo h0 h1]

/-- **A failed attempt leaves the provision underway.** -/
theorem Underway.step (h : Feasible p request start plan manager opened pool position)
    (hledger : Underway start opened manager position ledger) {now : ℤ} {failure : Failure}
    {after : Ledger} (hcourse : Course p request ledger now (.error failure) after) :
    Underway start opened manager position after := by
  have hready := hledger.ready h
  cases hcourse with
  | halted => exact hledger
  | unread hready' hnotFound htick =>
    obtain ⟨rfl, -⟩ := hready.unique hready'
    obtain ⟨found, hat⟩ := Ledger.exists_poolAt?_priced
    obtain ⟨-, hbooks⟩ := hledger.reopen h (.created hnotFound htick hat)
    exact .inr hbooks
  | unsized hready' hopened hsized =>
    obtain ⟨rfl, -⟩ := hready.unique hready'
    obtain ⟨rfl, -⟩ := hledger.reopen h hopened
    rw [h.sized] at hsized
    cases hsized
  | sized hready' hopened hsized hdeposited =>
    obtain ⟨rfl, rfl⟩ := hready.unique hready'
    obtain ⟨rfl, count, hcount, hbooks⟩ := hledger.reopen h hopened
    obtain rfl := Except.ok.inj (h.sized.symm.trans hsized)
    obtain ⟨calls, ⟨-, -, more, hmore, rfl⟩ | ⟨deadline, hok, -⟩⟩ := hdeposited
    · refine .inr ⟨max count more, max_le hcount hmore, ?_⟩
      rw [Ledger.books_heard]
      exact books_grantedTo_of_reopened h.sized hbooks
    · cases hok

/-- **An attempt that meets no failure ends where the whole provision ends.** -/
theorem Underway.finish (h : Feasible p request start plan manager opened pool position)
    (hledger : Underway start opened manager position ledger) {now : ℤ}
    {result : Except Failure Outcome} {after : Ledger} (hclock : 0 ≤ now)
    (hcourse : Course p request ledger now result after)
    (hspared : ledger.Spared after) :
    ∃ deadline,
      result = .ok ⟨pool, position, opened.receipt (p.mintAt manager position deadline)⟩ ∧
      after.books = ((opened.grantedTo manager position 2).minted
        (p.mintAt manager position deadline)).books := by
  have hready := hledger.ready h
  cases hcourse with
  | @halted _ calls hwhy =>
    rcases hwhy with ⟨-, hstruck⟩ | hnot
    · exact absurd hstruck (hspared calls rfl)
    · exact absurd hready (hnot plan manager)
  | @unread _ _ _ _ calls _ _ _ _ hstruck => exact absurd hstruck (hspared calls rfl)
  | unsized hready' hopened hsized =>
    obtain ⟨rfl, -⟩ := hready.unique hready'
    obtain ⟨rfl, -⟩ := hledger.reopen h hopened
    rw [h.sized] at hsized
    cases hsized
  | @sized _ _ reopened _ _ _ _ hready' hopened hsized hdeposited =>
    obtain ⟨rfl, rfl⟩ := hready.unique hready'
    obtain ⟨rfl, count, hcount, hbooks⟩ := hledger.reopen h hopened
    obtain rfl := Except.ok.inj (h.sized.symm.trans hsized)
    have hcalls : reopened.calls = ledger.calls := by
      cases hopened <;> rfl
    have hstruckBy : ∀ calls, reopened.StruckBy calls ↔ ledger.StruckBy calls := by
      intro calls
      cases hopened <;> rfl
    obtain ⟨calls, ⟨-, hstruck | hbefore, more, -, rfl⟩ | ⟨deadline, rfl, rfl⟩⟩ := hdeposited
    · refine absurd ((hstruckBy calls).1 hstruck) (hspared calls ?_)
      obtain ⟨_, _, heq⟩ := Ledger.grantedTo_eq manager position more reopened
      rw [heq, ← hcalls]
      rfl
    · exact absurd hclock (not_le.2 hbefore)
    · have hgranted : (reopened.grantedTo manager position 2).books =
          (opened.grantedTo manager position (max count 2)).books :=
        books_grantedTo_of_reopened h.sized hbooks
      have hmints : reopened.mints = opened.mints := by
        obtain ⟨_, _, heq⟩ := Ledger.grantedTo_eq manager position count opened
        rw [heq] at hbooks
        exact ((Ledger.agree_of_books_eq hbooks).mints :)
      refine ⟨deadline, ?_, ?_⟩
      · rw [Ledger.receipt, hmints]
        rfl
      · rw [Ledger.books_heard, Ledger.books_minted, hgranted, max_eq_right hcount,
          ← Ledger.books_minted]

/-! ## Any number of attempts -/

/-- A request that is tried again and again and fails each time.  Between two attempts the books
stay as they are, while the schedule of failures, the clock and the journal may change in any
way. -/
inductive Failing (p : Provisioner) (request : PoolRequest) (start : Ledger) : Ledger → Prop
  | untried : Failing p request start start
  | again {last : Ledger} {session later : Session Ledger} {failure : Failure}
    (h : Failing p request start last) (hbooks : session.chain.books = last.books)
    (hrun : (p.provision request : Action Ledger Outcome).run session =
      (.error failure, later)) : Failing p request start later.chain

/-- Failed attempts, however many, leave the provision underway. -/
theorem Failing.underway (h : Feasible p request start plan manager opened pool position)
    (hfailing : Failing p request start ledger) :
    Underway start opened manager position ledger := by
  induction hfailing with
  | untried => exact .inl rfl
  | @again last session later failure _ hbooks hrun ih =>
    have hbefore : Underway start opened manager position session.chain := by
      unfold Underway
      rw [hbooks]
      exact ih
    exact hbefore.step h (run_provision hrun)

/-- What a provision that succeeds has come through, and where it ends. -/
theorem Course.feasible {now : ℤ} {outcome : Outcome} {after : Ledger}
    (h : Course p request start now (.ok outcome) after) (hnumbered : start.Numbered)
    (hfew : after.pools.length ≤ 96) :
    ∃ plan manager opened pool position deadline,
      Feasible p request start plan manager opened pool position ∧
      outcome = ⟨pool, position, opened.receipt (p.mintAt manager position deadline)⟩ ∧
      after.books = ((opened.grantedTo manager position 2).minted
        (p.mintAt manager position deadline)).books := by
  obtain ⟨plan, manager, opened, pool, position, deadline, hready, hopened, hsized, houtcome,
    hpools, -, hafter⟩ := h.of_ok
  have hopenedFew : opened.pools.length ≤ 96 := by
    rw [← hpools]
    exact hfew
  exact ⟨plan, manager, opened, pool, position, deadline,
    ⟨hready, hopened, hsized, hnumbered, hopenedFew⟩, houtcome, hafter⟩

/-- **An interrupted provision resumes to the same result.**  If a request succeeds from a ledger,
then it also succeeds after any number of failed attempts from there, in an attempt that meets no
failure: with the same outcome, and the same books but for the time until which its mint is
valid. -/
theorem provision_resumes {whole done last final : Session Ledger} {outcome : Outcome}
    {result : Except Failure Outcome} {before : Ledger} (hbuilt : whole.chain.Built)
    (hwhole : (p.provision request : Action Ledger Outcome).run whole = (.ok outcome, done))
    (hfew : done.chain.pools.length < 96)
    (hfailing : Failing p request whole.chain before)
    (hbooks : last.chain.books = before.books) (hclock : 0 ≤ last.now)
    (hlast : (p.provision request : Action Ledger Outcome).run last = (result, final))
    (hspared : last.chain.Spared final.chain) :
    result = .ok outcome ∧
      final.chain.tokens = done.chain.tokens ∧
      final.chain.pools = done.chain.pools ∧
      final.chain.allowances = done.chain.allowances ∧
      final.chain.approvals = done.chain.approvals ∧
      final.chain.mints.map MintRequest.undated = done.chain.mints.map MintRequest.undated := by
  obtain ⟨plan, manager, opened, pool, position, deadline, hfeasible, rfl, hdone⟩ :=
    (run_provision hwhole).feasible hbuilt.numbered hfew.le
  have hunderway : Underway whole.chain opened manager position last.chain := by
    unfold Underway
    rw [hbooks]
    exact hfailing.underway hfeasible
  obtain ⟨deadline', hresult, hfinal⟩ :=
    hunderway.finish hfeasible hclock (run_provision hlast) hspared
  have hd := Ledger.agree_of_books_eq hdone
  have hf := Ledger.agree_of_books_eq hfinal
  refine ⟨hresult, hf.tokens.trans hd.tokens.symm, hf.pools.trans hd.pools.symm,
    hf.allowances.trans hd.allowances.symm, hf.approvals.trans hd.approvals.symm, ?_⟩
  -- the two mints are the same but for the time until which they are valid
  rw [hf.mints, hd.mints]
  change List.map _ (_ ++ _) = List.map _ (_ ++ _)
  rw [List.map_append, List.map_append]
  rfl

/-- A provision that is stopped at its first approval and then done again. -/
theorem provision_resumes_after_approval :
    ∃ outcome done failure later,
      sampleRun "1000000" sampleLedger = (.ok outcome, done) ∧
      sampleRun "1000000" (sampleLedger.failOn .approve 1) = (.error failure, later) ∧
      (sampleRun "1000000" later.chain.books).1 = .ok outcome := by
  have hsucceeds : (sampleRun "1000000" sampleLedger).1.isOk ∧
      (sampleRun "1000000" sampleLedger).2.chain.pools.length < 96 := by
    decide +kernel
  have hfails : ¬ (sampleRun "1000000" (sampleLedger.failOn .approve 1)).1.isOk := by
    decide +kernel
  rcases hwhole : sampleRun "1000000" sampleLedger with ⟨_ | outcome, done⟩
  · rw [hwhole] at hsucceeds
    cases hsucceeds.1
  rcases hfirst : sampleRun "1000000" (sampleLedger.failOn .approve 1) with ⟨failure | _, later⟩
  · rw [hwhole] at hsucceeds
    refine ⟨outcome, done, failure, later, rfl, rfl, ?_⟩
    have hspared : ∀ after, later.chain.books.Spared after := by
      rintro after calls - ⟨_, _, hmem, -⟩
      cases hmem
    have hfailing : Failing sample (sampleRequest "1000000") sampleLedger later.chain := by
      refine .again .untried ?_ hfirst
      rfl
    have hbooks : (⟨later.chain.books, 0, []⟩ : Session Ledger).chain.books = later.chain.books :=
      rfl
    exact (provision_resumes (.empty rfl) hwhole hsucceeds.2 hfailing hbooks le_rfl rfl
      (hspared _)).1
  · rw [hfirst] at hfails
    exact absurd rfl hfails

end Provisioner

end Tickwise

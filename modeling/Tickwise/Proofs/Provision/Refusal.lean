import Tickwise.Proofs.Provision.Course

/-!
# What a refused request leaves behind

Most faults of a request are found before anything is written, and then the ledger is as it was.
One kind is found late: a deposit is sized against the pool as it is read back, so a request whose
deposit cannot be sized has already created or priced its pool by then.

* `OpensUnsizable` — the requests whose fault comes too late;
* `provision_fault_keeps_ledger_iff` — they are the only ones that leave something behind, and
  what they leave is a pool, never an allowance or a mint;
* `provision_fault_leaves_pool` — there are such requests.
-/

namespace Tickwise

namespace Provisioner

/-- Whether a request creates or prices its pool, and then cannot make a position in it. -/
def OpensUnsizable (p : Provisioner) (request : PoolRequest) (ledger : Ledger) : Prop :=
  ∃ plan manager tick pool fault,
    Ready p request ledger plan manager ∧
    ledger.standing plan.key = .notFound ∧
    (∀ entry, Table.get? plan.key ledger.pools = some entry → ¬ entry.isInitialized) ∧
    tickAtSqrtRatio plan.sqrtPrice = .ok tick ∧
    (ledger.priced plan.key tick plan.sqrtPrice).poolAt?
      (ledger.createdPool plan.key).address = some pool ∧
    sizePosition (p.sizingRequest plan pool) = .error fault

variable {p : Provisioner} {request : PoolRequest} {session later : Session Ledger}

theorem sqrtPrice_ne_zero {ledger : Ledger} {plan : Plan} {manager : Address}
    (h : Ready p request ledger plan manager) : plan.sqrtPrice ≠ 0 :=
  (pos_of_isInitializable h.planned.isInitializable).ne'

/-- A fault that a course ends in leaves the books as they were, or it was found too late. -/
theorem Course.fault_cases {before after : Ledger} {now : ℤ} {failure : Failure} {fault : Fault}
    (h : Course p request before now (.error failure) after)
    (hfault : failure.fault? = some fault) :
    (after.books = before.books ∧ ¬ OpensUnsizable p request before) ∨
      ∃ plan manager tick, Ready p request before plan manager ∧
        after.books = (before.priced plan.key tick plan.sqrtPrice).books ∧
        after.pools ≠ before.pools ∧ OpensUnsizable p request before := by
  cases h with
  | halted hwhy =>
    left
    refine ⟨Ledger.books_heard _ _, ?_⟩
    rintro ⟨plan, manager, -, -, -, hready, -⟩
    rcases hwhy with ⟨hnone, -⟩ | hnot
    · rw [hnone] at hfault
      cases hfault
    · exact hnot plan manager hready
  | unread _ _ _ hnone _ =>
    rw [hnone] at hfault
    cases hfault
  | @unsized plan manager opened pool fault' failure calls hready hopened hsized _ =>
    cases hopened with
    | found hfound =>
      left
      refine ⟨Ledger.books_heard _ _, ?_⟩
      rintro ⟨other, another, -, -, -, hready', hnotFound, -⟩
      obtain ⟨rfl, -⟩ := hready.unique hready'
      rw [hfound] at hnotFound
      cases hnotFound
    | @created tick _ hnotFound htick hat =>
      by_cases hpriced : ∃ entry, Table.get? plan.key before.pools = some entry ∧
          entry.isInitialized
      · -- the entry has a price, and it is another pool at its address that has none
        obtain ⟨entry, hget, hentry⟩ := hpriced
        left
        refine ⟨?_, ?_⟩
        · rw [Ledger.books_heard, Ledger.priced_of_isInitialized hget hentry]
        · rintro ⟨other, another, -, -, -, hready', -, hunpriced, -⟩
          obtain ⟨rfl, -⟩ := hready.unique hready'
          exact hunpriced entry hget hentry
      · have hunpriced : ∀ entry, Table.get? plan.key before.pools = some entry →
            ¬ entry.isInitialized :=
          fun entry hget hentry => hpriced ⟨entry, hget, hentry⟩
        right
        exact ⟨plan, manager, tick, hready, Ledger.books_heard _ _,
          Ledger.pools_priced_ne (sqrtPrice_ne_zero hready) hunpriced,
          plan, manager, tick, pool, fault', hready, hnotFound, hunpriced, htick, hat, hsized⟩
  | sized _ _ _ hdeposited =>
    obtain ⟨calls, ⟨hrefused, -⟩ | ⟨deadline, hok, -⟩⟩ := hdeposited
    · rw [refused_error_iff.1 hrefused] at hfault
      cases hfault
    · cases hok

/-- **What a fault leaves behind.**  A request that fails with a fault leaves the ledger as it
was, unless its pool was created or priced first and then no position could be sized in it; and
even then nothing but that pool is written. -/
theorem provision_fault_keeps_ledger_iff {failure : Failure} {fault : Fault}
    (h : (p.provision request : Action Ledger Outcome).run session = (.error failure, later))
    (hfault : failure.fault? = some fault) :
    (later.chain.pools = session.chain.pools ∧
        later.chain.allowances = session.chain.allowances ∧
        later.chain.approvals = session.chain.approvals ∧
        later.chain.mints = session.chain.mints ↔
      ¬ OpensUnsizable p request session.chain) ∧
    later.chain.allowances = session.chain.allowances ∧
      later.chain.approvals = session.chain.approvals ∧
      later.chain.mints = session.chain.mints := by
  obtain ⟨hsame, hnot⟩ | ⟨plan, manager, tick, hready, hpriced, hpools, hopens⟩ :=
    (run_provision h).fault_cases hfault
  · have hagree := Ledger.agree_of_books_eq hsame
    exact ⟨⟨fun _ => hnot,
      fun _ => ⟨hagree.pools, hagree.allowances, hagree.approvals, hagree.mints⟩⟩,
      hagree.allowances, hagree.approvals, hagree.mints⟩
  · have hagree := Ledger.agree_of_books_eq hpriced
    exact ⟨⟨fun hkept => absurd hkept.1 hpools, fun hnot => absurd hopens hnot⟩,
      hagree.allowances, hagree.approvals, hagree.mints⟩

/-! ## A deposit that cannot be made -/

/-- A negative deposit is refused, and the pool is there. -/
theorem run_negative_deposit : ∃ failure later,
    sampleRun "-1" sampleLedger = (.error failure, later) ∧
      failure.fault? = some (.invalidAmount "-1" "AAA" .negative) ∧
      later.chain.pools.length = 1 := by
  have hfault : (match (sampleRun "-1" sampleLedger).1 with
      | .ok _ => none
      | .error failure => failure.fault?) = some (.invalidAmount "-1" "AAA" .negative) := by
    decide +kernel
  have hpools : (sampleRun "-1" sampleLedger).2.chain.pools.length = 1 := by
    decide +kernel
  rcases hrun : sampleRun "-1" sampleLedger with ⟨failure | outcome, later⟩
  · rw [hrun] at hfault hpools
    exact ⟨failure, later, rfl, hfault, hpools⟩
  · rw [hrun] at hfault
    cases hfault

/-- A fault can leave a pool behind. -/
theorem provision_fault_leaves_pool :
    ¬ ∀ (p : Provisioner) (request : PoolRequest) (session later : Session Ledger)
        (failure : Failure) (fault : Fault),
      (p.provision request : Action Ledger Outcome).run session = (.error failure, later) →
      failure.fault? = some fault →
      later.chain.pools = session.chain.pools := by
  intro hall
  obtain ⟨failure, later, hrun, hfault, hpools⟩ := run_negative_deposit
  rw [hall _ _ _ _ _ _ hrun hfault] at hpools
  exact absurd hpools (by decide)

theorem opensUnsizable_negative_deposit :
    OpensUnsizable sample (sampleRequest "-1") sampleLedger := by
  obtain ⟨failure, later, hrun, hfault, hpools⟩ := run_negative_deposit
  by_contra hnot
  have hkept := (provision_fault_keeps_ledger_iff hrun hfault).1.2 hnot
  rw [hkept.1] at hpools
  exact absurd hpools (by decide)

end Provisioner

end Tickwise

import Tickwise.Proofs.Chain.Exchange
import Tickwise.Proofs.Provision.Course

/-!
# The clock of a provision

The clock is read once, when a mint is made up, and never changed.  So a provision leaves the clock
as it was, and it mints nothing while the clock stands before the epoch.

* `KeepsClock` — work that leaves the clock as it is, put together from its parts;
* `keepsClock_put`, `keepsClock_provision` — a call does, and so does a provision;
* `now_nonneg_of_run_provision` — nothing is minted before the epoch.
-/

namespace Tickwise

/-! ## Work that keeps the clock -/

/-- Whether some work leaves the clock as it is, however it ends. -/
def KeepsClock {α : Type} (action : Action Ledger α) : Prop :=
  ∀ session, (action.run session).2.now = session.now

namespace KeepsClock

variable {α β : Type}

theorem pure (a : α) : KeepsClock (Pure.pure a : Action Ledger α) := fun _ => rfl

theorem chain : KeepsClock (Action.chain : Action Ledger Ledger) := fun _ => rfl

theorem info (text : String) : KeepsClock (Action.info text : Action Ledger Unit) := fun _ => rfl

theorem calculate (result : Except Fault α) :
    KeepsClock (Action.calculate result : Action Ledger α) := by
  intro session
  rw [Action.run_calculate]

theorem within {action : Action Ledger α} (h : KeepsClock action) (context : String) :
    KeepsClock (action.within context) := by
  intro session
  rw [Action.run_within]
  exact h session

theorem bind {first : Action Ledger α} {next : α → Action Ledger β} (h : KeepsClock first)
    (hnext : ∀ a, KeepsClock (next a)) : KeepsClock (first >>= next) := by
  intro session
  have hfirst := h session
  rw [Action.run_bind]
  rcases hrun : first.run session with ⟨failure | a, later⟩
  · rw [hrun] at hfirst
    exact hfirst
  · rw [hrun] at hfirst
    exact (hnext a later).trans hfirst

end KeepsClock

/-! ## Calls -/

namespace Ledger

theorem keepsClock_record (call : Call) : KeepsClock (record call) := by
  intro session
  rw [run_record]
  dsimp only
  split <;> rfl

theorem keepsClock_found {α : Type} (missing : String) (value : Option α) :
    KeepsClock (found missing value) := by
  intro session
  cases value <;> rfl

theorem keepsClock_createPool (key : PoolKey) (sqrtPrice : ℕ) :
    KeepsClock (createPool key sqrtPrice) := by
  intro session
  unfold createPool
  split
  · rfl
  · simp only [Action.run_bind, Action.run_chain, Action.run_change]
    split
    · rw [Action.run_bind, Action.run_calculate]
      cases tickAtSqrtRatio sqrtPrice <;> rfl
    · rfl

theorem keepsClock_makeMint (request : MintRequest) : KeepsClock (makeMint request) := by
  intro session
  rcases hrun : (makeMint request).run session with ⟨result, later⟩
  obtain ⟨-, rfl⟩ | ⟨-, rfl⟩ := run_makeMint_cases hrun
  · rfl
  · rfl

end Ledger

/-- **A call leaves the clock as it is**, whatever is asked. -/
theorem keepsClock_put (ask : Ask) : KeepsClock ask.put := by
  have hrecord := Ledger.keepsClock_record ask.call
  cases ask with
  | chainId => exact hrecord.bind fun _ => .bind .chain fun _ => .pure _
  | token address => exact hrecord.bind fun _ => .bind .chain fun _ => Ledger.keepsClock_found _ _
  | poolAddress => exact hrecord.bind fun _ => .bind .chain fun _ => .pure _
  | poolState pool => exact hrecord.bind fun _ => .bind .chain fun _ => Ledger.keepsClock_found _ _
  | createAndInitializePool => exact hrecord.bind fun _ => Ledger.keepsClock_createPool _ _
  | allowance => exact hrecord.bind fun _ => .bind .chain fun _ => .pure _
  | approve => exact hrecord.bind fun _ => fun _ => rfl
  | mint request => exact hrecord.bind fun _ => Ledger.keepsClock_makeMint request

/-! ## Provisions -/

namespace Provisioner

variable {p : Provisioner} {request : PoolRequest} {plan : Plan} {pool : Pool}

theorem keepsClock_plan (request : PoolRequest) :
    KeepsClock (Provisioner.plan request : Action Ledger Plan) := by
  intro session
  rcases hrun : (Provisioner.plan request : Action Ledger Plan).run session with ⟨result, later⟩
  obtain ⟨_, -, hnow, -⟩ := run_plan_cases hrun
  exact hnow

theorem keepsClock_verifyChain (p : Provisioner) :
    KeepsClock (p.verifyChain : Action Ledger Unit) := by
  intro session
  rcases hrun : (p.verifyChain : Action Ledger Unit).run session with ⟨result, later⟩
  obtain ⟨rfl, -⟩ := run_verifyChain_cases hrun
  rfl

theorem keepsClock_locate (p : Provisioner) (plan : Plan) :
    KeepsClock (p.locate plan : Action Ledger Progress) := by
  intro session
  rcases hrun : (p.locate plan : Action Ledger Progress).run session with ⟨result, later⟩
  obtain ⟨_, -, hnow, -⟩ := run_locate_cases hrun
  exact hnow

theorem keepsClock_createPool (p : Provisioner) (plan : Plan) :
    KeepsClock (p.createPool plan : Action Ledger Pool) := by
  refine .bind (.calculate _) fun manager => ?_
  refine .bind (.within (keepsClock_put (.createAndInitializePool _ _ _ _ _)) _) fun address => ?_
  refine .bind (.within (keepsClock_put (.poolState address)) _) fun pool => ?_
  split
  · exact .bind (.info _) fun _ => .pure _
  · exact .pure _

theorem keepsClock_ensureAllowance (token : Token) (spender : Address) (amount : ℕ) :
    KeepsClock (ensureAllowance token spender amount : Action Ledger Unit) := by
  intro session
  rcases hrun : (ensureAllowance token spender amount : Action Ledger Unit).run session with
    ⟨result, later⟩
  exact (run_ensureAllowance_cases hrun).1

theorem keepsClock_mintRequest (p : Provisioner) (manager : Address) (position : Position) :
    KeepsClock (p.mintRequest manager position : Action Ledger MintRequest) := by
  refine .bind (.calculate _) fun minimum0 => ?_
  refine .bind (.calculate _) fun minimum1 => ?_
  refine .bind .chain fun ledger => ?_
  refine .bind ?_ fun deadline => .pure _
  intro session
  rw [deadline, Action.run_bind, Action.run_get]
  dsimp only
  split <;> rfl

theorem keepsClock_deposit (p : Provisioner) (plan : Plan) (pool : Pool) :
    KeepsClock (p.deposit plan pool : Action Ledger Outcome) := by
  refine .bind ?_ fun outcome => .bind (.info _) fun _ => .pure _
  refine .bind (.calculate _) fun manager => ?_
  refine .bind (.within (.calculate _) _) fun position => ?_
  refine .bind (fun _ => rfl) fun _ => ?_
  refine .bind (fun _ => rfl) fun _ => ?_
  refine .bind (.within (keepsClock_ensureAllowance _ _ _) _) fun _ => ?_
  refine .bind (.within (keepsClock_ensureAllowance _ _ _) _) fun _ => ?_
  refine .bind (p.keepsClock_mintRequest manager position) fun mint => ?_
  refine .bind (.within (keepsClock_put (.mint mint)) _) fun receipt => ?_
  exact .bind (.info _) fun _ => .pure _

/-- **A provision leaves the clock as it is.** -/
theorem keepsClock_provision (p : Provisioner) (request : PoolRequest) :
    KeepsClock (p.provision request : Action Ledger Outcome) := by
  refine .bind (keepsClock_plan request) fun plan => ?_
  refine .bind p.keepsClock_verifyChain fun _ => ?_
  refine .bind (p.keepsClock_locate plan) fun progress => ?_
  cases progress with
  | notFound =>
    refine .bind (p.keepsClock_createPool plan) fun pool => ?_
    exact .bind (.info _) fun _ => p.keepsClock_deposit plan pool
  | initialized pool => exact p.keepsClock_deposit plan pool
  | liquidityAdded outcome => exact .pure _

/-! ## Before the epoch -/

section Epoch

variable {session later : Session Ledger}

/-- A part of some work that keeps the clock, and the work behind it. -/
theorem exists_run_of_run_bind {α β : Type} {first : Action Ledger α}
    {next : α → Action Ledger β} {b : β} (hkeeps : KeepsClock first)
    (h : (first >>= next).run session = (.ok b, later)) :
    ∃ a middle, middle.now = session.now ∧ first.run session = (.ok a, middle) ∧
      (next a).run middle = (.ok b, later) := by
  obtain ⟨a, middle, hfirst, hnext⟩ := Action.run_bind_eq_ok_iff.1 h
  have hnow := hkeeps session
  rw [hfirst] at hnow
  exact ⟨a, middle, hnow, hfirst, hnext⟩

/-- A mint is not made up before the epoch. -/
theorem now_nonneg_of_run_mintRequest {manager : Address} {position : Position}
    {mint : MintRequest} (h : (p.mintRequest manager position : Action Ledger MintRequest).run
      session = (.ok mint, later)) : 0 ≤ session.now := by
  obtain ⟨minimum0, session0, hnow0, -, h⟩ := exists_run_of_run_bind (.calculate _) h
  obtain ⟨minimum1, session1, hnow1, -, h⟩ := exists_run_of_run_bind (.calculate _) h
  obtain ⟨ledger, session2, hnow2, -, h⟩ := exists_run_of_run_bind .chain h
  obtain ⟨deadline, session3, hdeadline, -⟩ := Action.run_bind_eq_ok_iff.1 h
  rw [← hnow0, ← hnow1, ← hnow2]
  rw [Provisioner.deadline, Action.run_bind, Action.run_get] at hdeadline
  by_contra hearly
  dsimp only at hdeadline
  rw [if_pos (not_le.1 hearly)] at hdeadline
  cases hdeadline

/-- A deposit is not made before the epoch. -/
theorem now_nonneg_of_run_deposit {outcome : Outcome}
    (h : (p.deposit plan pool : Action Ledger Outcome).run session = (.ok outcome, later)) :
    0 ≤ session.now := by
  obtain ⟨_, _, h, -⟩ := Action.run_bind_eq_ok_iff.1 h
  obtain ⟨manager, session0, hnow0, -, h⟩ := exists_run_of_run_bind (.calculate _) h
  obtain ⟨position, session1, hnow1, -, h⟩ :=
    exists_run_of_run_bind (.within (.calculate _) _) h
  obtain ⟨_, session2, hnow2, -, h⟩ := exists_run_of_run_bind (fun _ => rfl) h
  obtain ⟨_, session3, hnow3, -, h⟩ := exists_run_of_run_bind (fun _ => rfl) h
  obtain ⟨_, session4, hnow4, -, h⟩ :=
    exists_run_of_run_bind (.within (keepsClock_ensureAllowance _ _ _) _) h
  obtain ⟨_, session5, hnow5, -, h⟩ :=
    exists_run_of_run_bind (.within (keepsClock_ensureAllowance _ _ _) _) h
  obtain ⟨mint, session6, hmint, -⟩ := Action.run_bind_eq_ok_iff.1 h
  rw [← hnow0, ← hnow1, ← hnow2, ← hnow3, ← hnow4, ← hnow5]
  exact now_nonneg_of_run_mintRequest hmint

/-- **Nothing is provisioned before the epoch.** -/
theorem now_nonneg_of_run_provision {outcome : Outcome}
    (h : (p.provision request : Action Ledger Outcome).run session = (.ok outcome, later)) :
    0 ≤ session.now := by
  obtain ⟨plan, session0, hnow0, -, h⟩ := exists_run_of_run_bind (keepsClock_plan request) h
  obtain ⟨_, session1, hnow1, -, h⟩ := exists_run_of_run_bind p.keepsClock_verifyChain h
  obtain ⟨progress, session2, hnow2, hlocate, h⟩ :=
    exists_run_of_run_bind (p.keepsClock_locate plan) h
  rw [← hnow0, ← hnow1, ← hnow2]
  cases progress with
  | notFound =>
    obtain ⟨pool, session3, hnow3, -, h⟩ :=
      exists_run_of_run_bind (p.keepsClock_createPool plan) h
    obtain ⟨_, session4, hnow4, -, h⟩ := exists_run_of_run_bind (.info _) h
    rw [← hnow3, ← hnow4]
    exact now_nonneg_of_run_deposit h
  | initialized pool => exact now_nonneg_of_run_deposit h
  | liquidityAdded outcome =>
    -- a pool is never found to be provisioned
    obtain ⟨_, -, -, ⟨hok, -⟩ | ⟨_, herror, -⟩⟩ := run_locate_cases hlocate
    · rcases Ledger.standing_cases plan.key session1.chain with
        hstanding | ⟨_, _, -, -, -, hstanding⟩
      · rw [hstanding] at hok
        cases hok
      · rw [hstanding] at hok
        cases hok
    · cases herror

end Epoch

end Provisioner

end Tickwise

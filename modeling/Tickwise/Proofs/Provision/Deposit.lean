import Tickwise.Proofs.Chain.Calls
import Tickwise.Proofs.Position.Sized
import Tickwise.Provision.Provisioner

/-!
# From a pool with a price to a position

The deposit is sized before anything is written.  After that its two allowances and its mint
follow, and none of them can be refused: a deposit that was sized is stopped by a scheduled
failure or by the clock, and by nothing else.

* `Slippage.least`, `Provisioner.mintAt` — what a mint asks for;
* `Ledger.grantedTo` — the ledger after the first allowances of a position;
* `run_addLiquidity_cases` — everything that a deposit can come to.
-/

namespace Tickwise

/-! ## What a mint asks for -/

/-- The least amount a mint may take of a desired one. -/
def Slippage.least : Slippage → ℕ → ℕ
  | unprotected, _ => 0
  | tolerance bps, desired => desired * (whole - bps) / whole

/-- The least amount of a word is found under every slippage that a provisioner can have. -/
theorem Slippage.minimum_eq_ok {slippage : Slippage} {desired : ℕ}
    (hvalid : slippage.validate = .ok ()) (hdesired : desired ≤ maxWord) :
    slippage.minimum desired = .ok (slippage.least desired) := by
  refine Except.bind_eq_ok_iff.2 ⟨(), hvalid, ?_⟩
  cases slippage with
  | unprotected => rfl
  | tolerance bps =>
    refine mulDiv_eq_ok_iff.2 ⟨by decide, ?_, rfl⟩
    exact ((share_le desired bps).trans hdesired).trans_lt (by decide)

theorem Slippage.least_le (slippage : Slippage) (desired : ℕ) :
    slippage.least desired ≤ desired := by
  cases slippage with
  | unprotected => exact Nat.zero_le _
  | tolerance bps => exact share_le desired bps

namespace Provisioner

/-- The mint of a position that stays valid until a deadline. -/
def mintAt (p : Provisioner) (manager : Address) (position : Position) (deadline : ℕ) :
    MintRequest :=
  { positionManager := manager
    token0 := position.token0.address
    token1 := position.token1.address
    fee := position.fee
    tickLower := position.tickLower
    tickUpper := position.tickUpper
    amount0Desired := position.amounts.amount0
    amount1Desired := position.amounts.amount1
    amount0Min := p.slippage.least position.amounts.amount0
    amount1Min := p.slippage.least position.amounts.amount1
    recipient := Ledger.owner
    deadline }

variable {p : Provisioner} {session later : Session Ledger} {manager : Address}
  {position : Position}

/-- The mint of a position with amounts that are words is made up unless the clock stands before
the epoch. -/
theorem run_mintRequest_cases {result : Except Failure MintRequest}
    (h0 : position.amounts.amount0 ≤ maxWord) (h1 : position.amounts.amount1 ≤ maxWord)
    (h : (p.mintRequest manager position : Action Ledger MintRequest).run session =
      (result, later)) :
    later = session ∧ ((∃ deadline, result = .ok (p.mintAt manager position deadline)) ∨
      Refused result ∧ session.now < 0) := by
  have hmin0 := Slippage.minimum_eq_ok p.valid h0
  have hmin1 := Slippage.minimum_eq_ok p.valid h1
  rw [mintRequest, Action.run_bind, Action.run_calculate, hmin0] at h
  simp only [Except.mapError] at h
  rw [Action.run_bind, Action.run_calculate, hmin1] at h
  simp only [Except.mapError] at h
  rw [Action.run_bind, Action.run_chain] at h
  obtain ⟨inner, session0, hdeadline, h⟩ := Action.run_bind_cases h
  rw [deadline, Action.run_bind, Action.run_get] at hdeadline
  dsimp only at hdeadline
  by_cases hnow : session.now < 0
  · rw [if_pos hnow] at hdeadline
    cases hdeadline
    cases h
    exact ⟨rfl, .inr ⟨refused_refusal _, hnow⟩⟩
  · rw [if_neg hnow] at hdeadline
    cases hdeadline
    cases h
    exact ⟨rfl, .inl ⟨_, rfl⟩⟩

/-! ## The allowances -/

/-- An allowance covers the amount afterwards, unless a call is struck. -/
theorem run_ensureAllowance_cases {token : Token} {spender : Address} {amount : ℕ}
    {result : Except Failure Unit}
    (h : (ensureAllowance token spender amount : Action Ledger Unit).run session =
      (result, later)) :
    later.now = session.now ∧ ∃ calls,
      (result = .ok () ∧
          later.chain = (session.chain.granted token.address spender amount).heard calls) ∨
        (Refused result ∧ later.chain = session.chain.heard calls ∧
          session.chain.StruckBy calls) := by
  rw [ensureAllowance] at h
  by_cases hzero : amount = 0
  · rw [if_neg (not_not.2 hzero)] at h
    cases h
    have hcovered : amount ≤ session.chain.allowanceOf token.address Ledger.owner spender :=
      hzero ▸ Nat.zero_le _
    exact ⟨rfl, [], .inl ⟨rfl, by rw [Ledger.granted_of_le hcovered, Ledger.heard_nil]⟩⟩
  rw [if_pos hzero, Action.run_bind, Action.run_chain] at h
  obtain ⟨read, session0, hread, h⟩ := Action.run_bind_cases h
  obtain ⟨rfl, rfl | ⟨hrefused, hstrikes⟩⟩ := Ledger.run_allowance_cases hread
  case inr =>
    obtain ⟨failure, rfl, hfault⟩ := hrefused
    cases h
    exact ⟨rfl, [.allowance], .inr ⟨⟨failure, rfl, hfault⟩, rfl, hstrikes.struckBy⟩⟩
  dsimp only at h
  split at h
  · rename_i hcovered
    cases h
    refine ⟨rfl, [.allowance], .inl ⟨rfl, ?_⟩⟩
    rw [Ledger.granted_of_le hcovered]
    rfl
  · rename_i hcovered
    obtain ⟨sent, session1, hsend, h⟩ := Action.run_bind_cases h
    obtain ⟨⟨failure, rfl, hfault⟩, hstrikes, rfl⟩ | ⟨⟨hash, rfl⟩, rfl⟩ :=
      Ledger.run_approve_cases hsend
    · cases h
      exact ⟨rfl, [.allowance, .approve], .inr ⟨⟨failure, rfl, hfault⟩, Ledger.heard_heard _ _ _,
        (Ledger.Strikes.struckBy_append hstrikes :)⟩⟩
    · cases h
      refine ⟨rfl, [.allowance, .approve], .inl ⟨rfl, ?_⟩⟩
      rw [Ledger.granted_of_lt (not_le.1 hcovered)]
      exact Ledger.heard_heard [.allowance] [.approve]
        (session.chain.approved token.address spender maxWord)

end Provisioner

namespace Ledger

/-- The ledger after the first allowances that a position needs: none, that of token0, or both. -/
def grantedTo (manager : Address) (position : Position) : ℕ → Ledger → Ledger
  | 0, ledger => ledger
  | 1, ledger => ledger.granted position.token0.address manager position.amounts.amount0
  | _, ledger =>
    (ledger.granted position.token0.address manager position.amounts.amount0).granted
      position.token1.address manager position.amounts.amount1

/-- Grants bear on allowances and approvals alone. -/
theorem grantedTo_eq (manager : Address) (position : Position) (count : ℕ) (ledger : Ledger) :
    ∃ allowances approvals,
      ledger.grantedTo manager position count = { ledger with allowances, approvals } := by
  rcases count with _ | _ | count
  · exact ⟨_, _, rfl⟩
  · exact granted_eq _ _ _ _
  · obtain ⟨_, _, h0⟩ :=
      granted_eq position.token0.address manager position.amounts.amount0 ledger
    obtain ⟨allowances, approvals, h1⟩ :=
      granted_eq position.token1.address manager position.amounts.amount1
        (ledger.granted position.token0.address manager position.amounts.amount0)
    exact ⟨allowances, approvals, h1.trans (by rw [h0])⟩

@[simp] theorem pools_grantedTo (manager : Address) (position : Position) (count : ℕ)
    (ledger : Ledger) : (ledger.grantedTo manager position count).pools = ledger.pools := by
  obtain ⟨_, _, heq⟩ := grantedTo_eq manager position count ledger
  rw [heq]

@[simp] theorem mints_grantedTo (manager : Address) (position : Position) (count : ℕ)
    (ledger : Ledger) : (ledger.grantedTo manager position count).mints = ledger.mints := by
  obtain ⟨_, _, heq⟩ := grantedTo_eq manager position count ledger
  rw [heq]

theorem receipt_grantedTo (manager : Address) (position : Position) (count : ℕ) (ledger : Ledger)
    (request : MintRequest) :
    (ledger.grantedTo manager position count).receipt request = ledger.receipt request := by
  rw [receipt, mints_grantedTo]
  rfl

section GrantedTo

variable {manager : Address} {position : Position} {count : ℕ} {ledger : Ledger}

@[simp] theorem books_grantedTo : (ledger.grantedTo manager position count).books =
    ledger.books.grantedTo manager position count := by
  rcases count with _ | _ | count
  · rfl
  · exact books_granted
  · exact books_granted.trans (by rw [books_granted]; rfl)

@[simp] theorem heard_grantedTo (calls : List Call) :
    (ledger.heard calls).grantedTo manager position count =
      (ledger.grantedTo manager position count).heard calls := by
  rcases count with _ | _ | count
  · rfl
  · exact heard_granted calls
  · simp only [grantedTo, heard_granted]

/-- Allowances that were granted are not granted again. -/
theorem grantedTo_grantedTo (h0 : position.amounts.amount0 ≤ maxWord)
    (h1 : position.amounts.amount1 ≤ maxWord) (more : ℕ) :
    (ledger.grantedTo manager position count).grantedTo manager position more =
      ledger.grantedTo manager position (max count more) := by
  have hkept : ∀ l : Ledger,
      ((l.granted position.token0.address manager position.amounts.amount0).granted
        position.token1.address manager position.amounts.amount1).granted
          position.token0.address manager position.amounts.amount0 =
      (l.granted position.token0.address manager position.amounts.amount0).granted
        position.token1.address manager position.amounts.amount1 := fun l =>
    granted_of_le ((le_allowanceOf_granted h0).trans
      (allowanceOf_le_granted h1 ⟨position.token0.address, owner, manager⟩))
  rcases count with _ | _ | count
  · rw [Nat.zero_max]
    rfl
  · rcases more with _ | _ | more
    · rfl
    · exact granted_granted h0
    · rw [show max (0 + 1) (more + 1 + 1) = more + 1 + 1 by omega]
      simp only [grantedTo, granted_granted h0]
  · rcases more with _ | _ | more
    · rfl
    · exact hkept ledger
    · rw [show max (count + 1 + 1) (more + 1 + 1) = max count more + 1 + 1 by omega]
      simp only [grantedTo, hkept, granted_granted h1]

/-- Both allowances cover the mint of the position. -/
theorem covers_grantedTo (p : Provisioner) (deadline : ℕ)
    (h0 : position.amounts.amount0 ≤ maxWord) (h1 : position.amounts.amount1 ≤ maxWord) :
    (ledger.grantedTo manager position 2).Covers (p.mintAt manager position deadline) where
  allowance0 := (le_allowanceOf_granted h0).trans
    (allowanceOf_le_granted h1 ⟨position.token0.address, owner, manager⟩)
  allowance1 := le_allowanceOf_granted h1
  minimum0 := Slippage.least_le _ _
  minimum1 := Slippage.least_le _ _

end GrantedTo

end Ledger

namespace Provisioner

/-! ## The deposit -/

variable {p : Provisioner} {plan : Plan} {pool : Pool} {session later : Session Ledger}
  {manager : Address}

/-- What a deposit has come to, once its position is sized: it is stopped with some of its
allowances granted, or it is minted. -/
def Deposited (p : Provisioner) (pool : Pool) (manager : Address) (position : Position)
    (before : Ledger) (now : ℤ) (result : Except Failure Outcome) (after : Ledger) : Prop :=
  ∃ calls,
    (Refused result ∧ (before.StruckBy calls ∨ now < 0) ∧
        ∃ count ≤ 2, after = (before.grantedTo manager position count).heard calls) ∨
      ∃ deadline,
        result = .ok ⟨pool, position, before.receipt (p.mintAt manager position deadline)⟩ ∧
        after = ((before.grantedTo manager position 2).minted
          (p.mintAt manager position deadline)).heard calls

/-- A deposit is refused by the library before it has changed anything, or it is sized, and then
only a struck call or the clock can stop it. -/
theorem run_addLiquidity_cases {result : Except Failure Outcome}
    (hmanager : p.deployment.resolve .positionManager = .ok manager)
    (h : (p.addLiquidity plan pool : Action Ledger Outcome).run session = (result, later)) :
    (∃ fault failure, sizePosition (p.sizingRequest plan pool) = .error fault ∧
        result = .error failure ∧ failure.fault? = some fault ∧ later.chain = session.chain) ∨
      ∃ position, sizePosition (p.sizingRequest plan pool) = .ok position ∧
        Deposited p pool manager position session.chain session.now result later.chain := by
  rw [addLiquidity, Action.run_bind, Action.run_calculate, hmanager] at h
  simp only [Except.mapError] at h
  rw [Action.run_bind, Action.run_within, Action.run_calculate] at h
  cases hsized : sizePosition (p.sizingRequest plan pool) with
  | error fault =>
    rw [hsized] at h
    cases h
    exact .inl ⟨fault, _, rfl, rfl, rfl, rfl⟩
  | ok position =>
    refine .inr ⟨position, rfl, ?_⟩
    obtain ⟨h0, h1⟩ := Position.amounts_le_maxWord hsized
    simp only [hsized, Except.mapError] at h
    rw [Action.run_bind, Action.run_write] at h
    dsimp only at h
    rw [Action.run_bind, Action.run_debug] at h
    dsimp only at h
    obtain ⟨named0, session0, hnamed0, h⟩ := Action.run_bind_cases h
    obtain ⟨allow0, hallow0, rfl⟩ := Action.run_within_cases hnamed0
    obtain ⟨hnow0, calls0, ⟨rfl, hchain0⟩ | ⟨⟨failure, rfl, hfault⟩, hchain0, hstruck⟩⟩ :=
      run_ensureAllowance_cases hallow0
    case inr =>
      cases h
      exact ⟨calls0, .inl ⟨⟨_, rfl, hfault⟩, .inl hstruck, 0, by decide, hchain0⟩⟩
    obtain ⟨named1, session1, hnamed1, h⟩ := Action.run_bind_cases h
    obtain ⟨allow1, hallow1, rfl⟩ := Action.run_within_cases hnamed1
    obtain ⟨hnow1, calls1, ⟨rfl, hchain1⟩ | ⟨⟨failure, rfl, hfault⟩, hchain1, hstruck⟩⟩ :=
      run_ensureAllowance_cases hallow1
    case inr =>
      cases h
      rw [hchain0] at hchain1 hstruck
      rw [Ledger.heard_heard] at hchain1
      exact ⟨calls0 ++ calls1, .inl ⟨⟨_, rfl, hfault⟩,
        .inl (Ledger.struckBy_granted.1 (Ledger.StruckBy.prepend hstruck)), 1, by decide, hchain1⟩⟩
    rw [hchain0, Ledger.heard_granted, Ledger.heard_heard] at hchain1
    rw [hnow0] at hnow1
    obtain ⟨asked, session2, hrequest, h⟩ := Action.run_bind_cases h
    obtain ⟨rfl, ⟨deadline, rfl⟩ | ⟨⟨failure, rfl, hfault⟩, hclock⟩⟩ :=
      run_mintRequest_cases h0 h1 hrequest
    case inr =>
      cases h
      exact ⟨calls0 ++ calls1, .inl ⟨⟨_, rfl, hfault⟩, .inr (hnow1 ▸ hclock), 2, le_rfl, hchain1⟩⟩
    obtain ⟨named2, session3, hnamed2, h⟩ := Action.run_bind_cases h
    obtain ⟨minted, hminted, rfl⟩ := Action.run_within_cases hnamed2
    have hcovers : session2.chain.Covers (p.mintAt manager position deadline) := by
      rw [hchain1]
      exact (Ledger.covers_grantedTo p deadline h0 h1).heard _
    obtain ⟨⟨failure, rfl, hfault⟩, hstrikes, rfl⟩ | ⟨rfl, rfl⟩ :=
      Ledger.run_mint_cases hcovers hminted
    · cases h
      have hstruck := hstrikes.struckBy
      rw [hchain1] at hstruck
      refine ⟨calls0 ++ calls1 ++ [.mint], .inl ⟨⟨_, rfl, hfault⟩, .inl ?_, 2, le_rfl, ?_⟩⟩
      · exact Ledger.struckBy_granted.1
          (Ledger.struckBy_granted.1 (Ledger.StruckBy.prepend hstruck))
      · change session2.chain.heard [.mint] = _
        rw [hchain1, Ledger.heard_heard]
        rfl
    · cases h
      refine ⟨calls0 ++ calls1 ++ [.mint], .inr ⟨deadline, ?_, ?_⟩⟩
      · rw [hchain1]
        exact congrArg (fun r => Except.ok (Outcome.mk pool position r))
          (Ledger.receipt_grantedTo manager position 2 session.chain _)
      · change (session2.chain.minted _).heard [.mint] = _
        rw [hchain1, Ledger.heard_minted, Ledger.heard_heard]
        rfl

end Provisioner

end Tickwise

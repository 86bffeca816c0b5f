import Mathlib
import Tickwise.Proofs.Chain.PoolReading

/-!
# What a mint is said to have added

A position manager tells by an event what a mint has added, among the logs of the transaction.
Any contract that is called in between can write the same log, and the first log that reads as the
event is taken, whoever wrote it.  So a mint reports the event of its position manager unless
another contract's comes first and tells something else.

* `LiquidityIncrease.toLog`, `ofLog?_toLog` — the log of an event, as any contract can write it;
* `LiquidityIncrease.Forged` — a first event that another contract emitted;
* `first?_eq_firstOf?` — without one, the first event is the contract's own;
* `Node.mint_reports_manager_iff` — when that is what a mint reports, and what it reports else;
* `Node.token_event_reported` — a mint that reports the event of a token.
-/

namespace Tickwise

open Abi

namespace LiquidityIncrease

/-! ## The log of an event -/

/-- The log that tells of an event. -/
def toLog (emitter : Address) (increase : LiquidityIncrease) : Log :=
  { emitter
    topics := [increaseLiquidityTopic, increase.tokenId]
    data := encode ([increase.liquidity, increase.amount0, increase.amount1].map Value.word) }

/-- A log is read as the event that it tells of, whichever contract wrote it. -/
theorem ofLog?_toLog (emitter : Address) {increase : LiquidityIncrease}
    (hliquidity : increase.liquidity < pow2 128) (h0 : increase.amount0 < pow2 256)
    (h1 : increase.amount1 < pow2 256) : ofLog? (increase.toLog emitter) = some increase := by
  have hword : increase.liquidity < pow2 256 := hliquidity.trans (by decide)
  have hfirst := wordAt?_encode_words_of_lt hword
    (rfl : [increase.liquidity, increase.amount0, increase.amount1][0]? = some increase.liquidity)
  have hsecond := wordAt?_encode_words_of_lt h0
    (rfl : [increase.liquidity, increase.amount0, increase.amount1][1]? = some increase.amount0)
  have hthird := wordAt?_encode_words_of_lt h1
    (rfl : [increase.liquidity, increase.amount0, increase.amount1][2]? = some increase.amount1)
  rw [Nat.zero_mul] at hfirst
  rw [Nat.one_mul] at hsecond
  have hlow : low 128 increase.liquidity = increase.liquidity := Nat.mod_eq_of_lt hliquidity
  unfold ofLog? toLog
  dsimp only
  rw [hfirst, hsecond, hthird]
  simp [hlow]

/-! ## Whose event comes first -/

/-- The first event that one contract emitted. -/
def firstOf? (emitter : Address) (logs : List Log) : Option LiquidityIncrease :=
  first? (logs.filter (·.emitter = emitter))

/-- The first log that reads as an event was written by another contract, and tells of this one. -/
inductive Forged (manager : Address) : List Log → LiquidityIncrease → Prop
  | here {log : Log} {rest : List Log} {told : LiquidityIncrease} :
      log.emitter ≠ manager → ofLog? log = some told → Forged manager (log :: rest) told
  | later {log : Log} {rest : List Log} {told : LiquidityIncrease} :
      ofLog? log = none → Forged manager rest told → Forged manager (log :: rest) told

variable {manager : Address} {logs : List Log} {told : LiquidityIncrease}

theorem first?_cons_of_none {log : Log} (h : ofLog? log = none) :
    first? (log :: logs) = first? logs := by
  rw [first?, List.findSome?_cons, h, first?]

theorem first?_cons_of_some {log : Log} (h : ofLog? log = some told) :
    first? (log :: logs) = some told := by
  rw [first?, List.findSome?_cons, h]

/-- A forged event is the one that is taken. -/
theorem Forged.first?_eq (h : Forged manager logs told) : first? logs = some told := by
  induction h with
  | here _ hread => exact first?_cons_of_some hread
  | later hread _ ih => exact (first?_cons_of_none hread).trans ih

/-- Without a forged event, the one that is taken is the contract's own. -/
theorem first?_eq_firstOf? (h : ∀ told, ¬ Forged manager logs told) :
    first? logs = firstOf? manager logs := by
  induction logs with
  | nil => rfl
  | cons log rest ih =>
    cases hread : ofLog? log with
    | some told =>
      have hown : log.emitter = manager := by
        by_contra hforeign
        exact h told (.here hforeign hread)
      rw [firstOf?, List.filter_cons_of_pos (by simpa using hown), first?_cons_of_some hread,
        first?_cons_of_some hread]
    | none =>
      have hrest := ih fun told hforged => h told (.later hread hforged)
      rw [first?_cons_of_none hread, hrest, firstOf?, firstOf?, List.filter_cons]
      split
      · rw [first?_cons_of_none hread]
      · rfl

/-- The event that is taken is the contract's own exactly when no forged one tells anything else. -/
theorem first?_eq_some_iff_of_firstOf? {own : LiquidityIncrease}
    (hown : firstOf? manager logs = some own) :
    first? logs = some own ↔ ∀ told, Forged manager logs told → told = own := by
  constructor
  · intro hfirst told hforged
    exact Option.some.inj (hforged.first?_eq.symm.trans hfirst)
  · intro hsame
    by_cases hforged : ∃ told, Forged manager logs told
    · obtain ⟨told, htold⟩ := hforged
      rw [htold.first?_eq, hsame told htold]
    · rw [first?_eq_firstOf? (not_exists.1 hforged), hown]

/-- Where the contract emitted none, an event is taken exactly when there is a forged one. -/
theorem first?_eq_none_iff_of_firstOf? (hnone : firstOf? manager logs = none) :
    first? logs = none ↔ ∀ told, ¬ Forged manager logs told := by
  constructor
  · intro hfirst told hforged
    exact Option.some_ne_none told (hforged.first?_eq.symm.trans hfirst)
  · intro hforged
    rw [first?_eq_firstOf? hforged, hnone]

/-- What a mint reports by an event of its transaction. -/
def receipt (hash : TxHash) (increase : LiquidityIncrease) : MintReceipt :=
  { txHash := hash
    tokenId := increase.tokenId
    liquidity := increase.liquidity
    amount0 := increase.amount0
    amount1 := increase.amount1 }

theorem receipt_inj {hash : TxHash} {a b : LiquidityIncrease}
    (h : a.receipt hash = b.receipt hash) : a = b := by
  cases a
  cases b
  simpa [receipt] using h

end LiquidityIncrease

open LiquidityIncrease

namespace Node

/-! ## What a mint reports -/

/-- A transaction that was not reverted is noted, and what became of it is known. -/
theorem run_transact (contract : Address) (method : Method) (arguments : List Value)
    {session : Session Node} {confirmation : Confirmation}
    (hconfirmed : session.chain.confirmation = some confirmation)
    (hsucceeded : confirmation.succeeded = true) :
    ∃ later, (transact contract method arguments).run session = (.ok confirmation, later) := by
  refine ⟨{ session with chain := { session.chain with
    requests := session.chain.requests ++ [.transact contract (method.callData arguments)] } }, ?_⟩
  simp only [transact, note, answered, Action.run_bind, Action.run_change, Action.run_chain,
    hconfirmed, hsucceeded, Action.run_pure, not_true_eq_false, if_false]

/-- A mint takes the first event among the logs of its transaction. -/
theorem run_mint (request : MintRequest) {session : Session Node} {confirmation : Confirmation}
    (hlower : FitsSigned 24 request.tickLower) (hupper : FitsSigned 24 request.tickUpper)
    (hconfirmed : session.chain.confirmation = some confirmation)
    (hsucceeded : confirmation.succeeded = true) :
    ∃ later, (Chain.mint request : Action Node MintReceipt).run session =
      (match first? confirmation.logs with
        | some increase => .ok (increase.receipt confirmation.hash)
        | none => .error (.refusal
            s!"mint {confirmation.hash} emitted no IncreaseLiquidity event"), later) := by
  obtain ⟨later, hsent⟩ := run_transact request.positionManager .mint
    [.tuple [.address request.token0, .address request.token1, .word request.fee.fee,
      .word (signed request.tickLower), .word (signed request.tickUpper),
      .word request.amount0Desired, .word request.amount1Desired, .word request.amount0Min,
      .word request.amount1Min, .address request.recipient, .word request.deadline]]
    hconfirmed hsucceeded
  refine ⟨later, ?_⟩
  change (sendMint request).run session = _
  rw [sendMint, Action.run_bind_of_ok (run_tickWord hlower session),
    Action.run_bind_of_ok (run_tickWord hupper session)]
  dsimp only
  rw [Action.run_bind_of_ok hsent]
  cases first? confirmation.logs with
  | some increase => rfl
  | none => rfl

/-- **A mint reports its position manager's event unless another contract's comes before it.**  It
reports that event exactly when no forged one tells anything else, and a forged one otherwise.
Where the position manager emitted none, it fails exactly when nobody else emitted one either. -/
theorem mint_reports_manager_iff (request : MintRequest) {session : Session Node}
    {confirmation : Confirmation} (hlower : FitsSigned 24 request.tickLower)
    (hupper : FitsSigned 24 request.tickUpper)
    (hconfirmed : session.chain.confirmation = some confirmation)
    (hsucceeded : confirmation.succeeded = true) :
    ∃ result later, (Chain.mint request : Action Node MintReceipt).run session = (result, later) ∧
      (∀ own, firstOf? request.positionManager confirmation.logs = some own →
        (result = .ok (own.receipt confirmation.hash) ↔
          ∀ told, Forged request.positionManager confirmation.logs told → told = own)) ∧
      (firstOf? request.positionManager confirmation.logs = none →
        (result = .error (.refusal
            s!"mint {confirmation.hash} emitted no IncreaseLiquidity event") ↔
          ∀ told, ¬ Forged request.positionManager confirmation.logs told)) ∧
      ∀ told, Forged request.positionManager confirmation.logs told →
        result = .ok (told.receipt confirmation.hash) := by
  obtain ⟨later, hrun⟩ := run_mint request hlower hupper hconfirmed hsucceeded
  refine ⟨_, later, hrun, fun own hown => ?_, fun hnone => ?_, fun told hforged => ?_⟩
  · rw [← first?_eq_some_iff_of_firstOf? hown]
    cases hfirst : first? confirmation.logs with
    | some increase =>
      constructor
      · intro hsame
        rw [receipt_inj (Except.ok.inj hsame)]
      · intro hsame
        rw [Option.some.inj hsame]
    | none => simp
  · rw [← first?_eq_none_iff_of_firstOf? hnone]
    cases first? confirmation.logs with
    | some increase => simp
    | none => simp
  · rw [hforged.first?_eq]

/-! ## A mint that reports the event of a token -/

/-- A mint of a pair whose first token logs an event of its own. -/
def preemptedMint : MintRequest where
  positionManager := .ofNat 0x9a9a
  token0 := .ofNat 0x1111111111111111111111111111111111111111
  token1 := .ofNat 0x2222222222222222222222222222222222222222
  fee := .low
  tickLower := -18100
  tickUpper := -14100
  amount0Desired := 1000000000000000000000000
  amount1Desired := 200917979363517164388486
  amount0Min := 0
  amount1Min := 0
  recipient := .ofNat 0x5aaeb6053f3e94c9b9a09f33669435e7ef1beaed
  deadline := 1700000000

/-- What the position manager tells. -/
def managerEvent : LiquidityIncrease := ⟨7, 1234567, 1000, 200⟩

/-- What the token tells before it. -/
def tokenEvent : LiquidityIncrease := ⟨8, 1, 2, 3⟩

/-- The transaction with both events. -/
def preemptedConfirmation : Confirmation where
  hash := ⟨0xabc⟩
  succeeded := true
  logs := [tokenEvent.toLog preemptedMint.token0, managerEvent.toLog preemptedMint.positionManager]

/-- A node that confirms it. -/
def preemptedSession : Session Node :=
  ⟨{ silent with confirmation := some preemptedConfirmation }, 0, []⟩

theorem forged_tokenEvent :
    Forged preemptedMint.positionManager preemptedConfirmation.logs tokenEvent :=
  .here (by decide) (ofLog?_toLog _ (by decide) (by decide) (by decide))

theorem firstOf?_preempted :
    firstOf? preemptedMint.positionManager preemptedConfirmation.logs = some managerEvent :=
  first?_cons_of_some (ofLog?_toLog _ (by decide) (by decide) (by decide))

/-- The position manager has told of its event, and the token's is reported. -/
theorem mint_after_token_event :
    FitsSigned 24 preemptedMint.tickLower ∧ FitsSigned 24 preemptedMint.tickUpper ∧
      preemptedSession.chain.confirmation = some preemptedConfirmation ∧
      preemptedConfirmation.succeeded = true ∧
      ∃ later, (Chain.mint preemptedMint : Action Node MintReceipt).run preemptedSession =
        (.ok (tokenEvent.receipt ⟨0xabc⟩), later) := by
  have hlower : FitsSigned 24 preemptedMint.tickLower := by decide
  have hupper : FitsSigned 24 preemptedMint.tickUpper := by decide
  have hconfirmed : preemptedSession.chain.confirmation = some preemptedConfirmation := rfl
  obtain ⟨result, later, hrun, -, -, hforged⟩ :=
    mint_reports_manager_iff preemptedMint hlower hupper hconfirmed rfl
  have hresult : result = .ok (tokenEvent.receipt ⟨0xabc⟩) := hforged _ forged_tokenEvent
  rw [hresult] at hrun
  exact ⟨hlower, hupper, hconfirmed, rfl, later, hrun⟩

/-- A mint does not always report the event of its position manager. -/
theorem token_event_reported :
    ¬ ∀ (request : MintRequest) (session : Session Node) (confirmation : Confirmation)
        (own : LiquidityIncrease), FitsSigned 24 request.tickLower →
      FitsSigned 24 request.tickUpper → session.chain.confirmation = some confirmation →
      confirmation.succeeded = true →
      firstOf? request.positionManager confirmation.logs = some own →
      ∃ later, (Chain.mint request : Action Node MintReceipt).run session =
        (.ok (own.receipt confirmation.hash), later) := by
  intro hall
  obtain ⟨later, hown⟩ := hall preemptedMint preemptedSession preemptedConfirmation managerEvent
    (by decide) (by decide) rfl rfl firstOf?_preempted
  have hconfirmed : preemptedSession.chain.confirmation = some preemptedConfirmation := rfl
  obtain ⟨later', hrun⟩ := run_mint preemptedMint (by decide) (by decide) hconfirmed rfl
  rw [hown, forged_tokenEvent.first?_eq] at hrun
  have hsame : managerEvent = tokenEvent := receipt_inj (Except.ok.inj (Prod.mk.inj hrun).1)
  exact absurd hsame (by decide)

end Node

end Tickwise

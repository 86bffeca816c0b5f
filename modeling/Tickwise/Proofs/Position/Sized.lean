import Mathlib
import Tickwise.Position.Sizing

/-!
# What a sized position is made of

A position comes out of a sizing when each of its parts does.  The parts are taken apart here
once, so that what is said of positions elsewhere need not go through the sizing again.

* `sizePosition_eq_ok_iff` — when a request can be sized, and to which position;
* `pair_of_sideOf` — which of the two tokens the given amount is of;
* `Position.amounts_le_maxWord` — the amounts of a sized position are words.
-/

namespace Tickwise

theorem Except.bind_eq_ok_iff {ε α β : Type} {first : Except ε α} {next : α → Except ε β} {b : β} :
    (first >>= next) = .ok b ↔ ∃ a, first = .ok a ∧ next a = .ok b := by
  cases first with
  | error e => exact ⟨nofun, nofun⟩
  | ok a => exact ⟨fun h => ⟨a, rfl, h⟩, fun ⟨_, h, hnext⟩ => by cases h; exact hnext⟩

/-! ## The parts of a sizing -/

/-- The position of its parts. -/
def SizingRequest.position (request : SizingRequest) (fee : FeeTier) (pair : OrderedPair Token)
    (range : PriceRange) (liquidity : ℕ) (amounts : MintAmounts) : Position :=
  { chainId := request.chainId
    pool := request.pool.address
    fee
    token0 := pair.first.payload
    token1 := pair.second.payload
    tickLower := range.tickLower
    tickUpper := range.tickUpper
    liquidity
    amounts }

/-- A request is sized when its pool, its pair, its range and its amount are sound, and the
liquidity fits. -/
theorem sizePosition_eq_ok_iff {request : SizingRequest} {position : Position} :
    sizePosition request = .ok position ↔
      ∃ fee pair side range amount liquidity amounts,
        request.pool.validate = .ok fee ∧
        OrderedPair.of request.input.address request.input request.other.address request.other =
          .ok pair ∧
        pair.sideOf request.input.address = .ok side ∧
        request.pool.range request.width = .ok range ∧
        (pair.side side).payload.parseUnits request.amount = .ok amount ∧
        liquidityFor request.pool range side (pair.side side).payload.symbol amount =
          .ok liquidity ∧
        liquidity < liquidityLimit ∧
        mintAmounts request.pool range liquidity = .ok amounts ∧
        position = request.position fee pair range liquidity amounts := by
  unfold sizePosition
  simp only [Except.bind_eq_ok_iff]
  constructor
  · rintro ⟨fee, hfee, pair, hpair, side, hside, range, hrange, amount, hamount, liquidity,
      hliquidity, h⟩
    split at h
    · cases h
    · rename_i hlimit
      obtain ⟨amounts, hamounts, h⟩ := Except.bind_eq_ok_iff.1 h
      cases h
      exact ⟨fee, pair, side, range, amount, liquidity, amounts, hfee, hpair, hside, hrange,
        hamount, hliquidity, not_le.1 hlimit, hamounts, rfl⟩
  · rintro ⟨fee, pair, side, range, amount, liquidity, amounts, hfee, hpair, hside, hrange,
      hamount, hliquidity, hlimit, hamounts, rfl⟩
    refine ⟨fee, hfee, pair, hpair, side, hside, range, hrange, amount, hamount, liquidity,
      hliquidity, ?_⟩
    rw [if_neg (not_le.2 hlimit)]
    exact Except.bind_eq_ok_iff.2 ⟨amounts, hamounts, rfl⟩

/-- The given amount is of token0 when its token has the lower address, and of token1 when the
other has. -/
theorem pair_of_sideOf {α : Type} {input other : Address} {a b : α} {pair : OrderedPair α}
    {side : Side} (hpair : OrderedPair.of input a other b = .ok pair)
    (hside : pair.sideOf input = .ok side) :
    (side = .first ∧ pair.first = ⟨input, a⟩ ∧ pair.second = ⟨other, b⟩) ∨
      (side = .second ∧ pair.first = ⟨other, b⟩ ∧ pair.second = ⟨input, a⟩) := by
  rcases lt_trichotomy input.toNat other.toNat with hlt | heq | hgt
  · rw [OrderedPair.of_of_lt hlt] at hpair
    cases hpair
    rw [OrderedPair.sideOf_first] at hside
    cases hside
    exact .inl ⟨rfl, rfl, rfl⟩
  · obtain rfl := Address.eq_of_toNat_eq heq
    rw [OrderedPair.of_self] at hpair
    cases hpair
  · rw [OrderedPair.of_of_gt hgt] at hpair
    cases hpair
    rw [OrderedPair.sideOf_second] at hside
    cases hside
    exact .inr ⟨rfl, rfl, rfl⟩

/-! ## The size of amounts -/

theorem mulDivUp_le_maxWord {a b denominator n : ℕ} (h : mulDivUp a b denominator = .ok n) :
    n ≤ maxWord := by
  obtain ⟨-, hlt, rfl⟩ := mulDivUp_eq_ok_iff.1 h
  exact Nat.le_sub_one_of_lt hlt

theorem ceilDiv_le_self {a b : ℕ} (hb : 0 < b) : ceilDiv a b ≤ a :=
  (ceilDiv_le_iff hb).2 (Nat.le_mul_of_pos_right a hb)

theorem amount0Delta_up_le_maxWord {a b liquidity n : ℕ}
    (h : amount0Delta a b liquidity .up = .ok n) : n ≤ maxWord := by
  unfold amount0Delta at h
  dsimp only at h
  split at h
  · cases h
  · rename_i hlower
    obtain ⟨inner, hinner, houter⟩ := Except.bind_eq_ok_iff.1 h
    obtain ⟨-, rfl⟩ := divUp_eq_ok_iff.1 houter
    exact (ceilDiv_le_self (Nat.pos_of_ne_zero hlower)).trans (mulDivUp_le_maxWord hinner)

/-- What a mint takes of each token is a word. -/
theorem mintAmounts_le_maxWord {pool : Pool} {range : PriceRange} {liquidity : ℕ}
    {amounts : MintAmounts} (h : mintAmounts pool range liquidity = .ok amounts) :
    amounts.amount0 ≤ maxWord ∧ amounts.amount1 ≤ maxWord := by
  unfold mintAmounts at h
  split at h
  · obtain ⟨amount0, h0, h⟩ := Except.bind_eq_ok_iff.1 h
    cases h
    exact ⟨amount0Delta_up_le_maxWord h0, Nat.zero_le _⟩
  split at h
  · obtain ⟨amount0, h0, h⟩ := Except.bind_eq_ok_iff.1 h
    obtain ⟨amount1, h1, h⟩ := Except.bind_eq_ok_iff.1 h
    cases h
    exact ⟨amount0Delta_up_le_maxWord h0, mulDivUp_le_maxWord h1⟩
  · obtain ⟨amount1, h1, h⟩ := Except.bind_eq_ok_iff.1 h
    cases h
    exact ⟨Nat.zero_le _, mulDivUp_le_maxWord h1⟩

theorem Position.amounts_le_maxWord {request : SizingRequest} {position : Position}
    (h : sizePosition request = .ok position) :
    position.amounts.amount0 ≤ maxWord ∧ position.amounts.amount1 ≤ maxWord := by
  obtain ⟨fee, pair, side, range, amount, liquidity, amounts, -, -, -, -, -, -, -, hamounts, rfl⟩ :=
    sizePosition_eq_ok_iff.1 h
  exact mintAmounts_le_maxWord hamounts

end Tickwise

import Mathlib
import Tickwise.Amount.Delta
import Tickwise.Pair

/-!
# Amounts are rounded once

The amount of token0 is divided by one price and then by the other, and rounded both times.  Two
roundings in one direction are one rounding of the whole fraction, so both amounts are the exact
rational number rounded down or up, and what a mint pays in is at most a unit above what a burn pays
out.

* `Rounding.div`, `Rounding.round` — a quotient and a rational number, rounded in either direction;
* `Rounding.div_div`, `Rounding.div_eq_round` — two roundings are one, of the exact quotient;
* `exactDelta` — the amount that a liquidity holds between two prices in either order;
* `amount0Delta_eq_round`, `amount1Delta_eq_narrow` — what each calculation answers;
* `amountDelta_rounds_once` — both amounts in both directions, and how far they are apart.
-/

namespace Tickwise

/-! ## Rounding -/

/-- A quotient rounded to a whole number. -/
def Rounding.div : Rounding → ℕ → ℕ → ℕ
  | .down, a, b => a / b
  | .up, a, b => ceilDiv a b

/-- A rational number rounded to a whole one. -/
def Rounding.round : Rounding → ℚ → ℕ
  | .down, x => ⌊x⌋₊
  | .up, x => ⌈x⌉₊

/-- The calculation that rounds a product over a denominator. -/
def Rounding.calculation : Rounding → Calculation
  | .down => .mulDiv
  | .up => .mulDivUp

section Rounding

variable {a b c n : ℕ}

theorem ceilDiv_ceilDiv (hb : 0 < b) (hc : 0 < c) :
    ceilDiv (ceilDiv a b) c = ceilDiv a (b * c) := by
  refine eq_of_forall_ge_iff ?_
  intro n
  rw [ceilDiv_le_iff hc, ceilDiv_le_iff hb, ceilDiv_le_iff (Nat.mul_pos hb hc), Nat.mul_assoc,
    Nat.mul_comm c]

theorem ceilDiv_eq_ceil (hb : 0 < b) : ceilDiv a b = ⌈(a : ℚ) / b⌉₊ := by
  have hpos : (0 : ℚ) < b := by exact_mod_cast hb
  refine eq_of_forall_ge_iff ?_
  intro n
  rw [ceilDiv_le_iff hb, Nat.ceil_le, div_le_iff₀ hpos]
  exact_mod_cast Iff.rfl

/-- Two roundings in one direction are one. -/
theorem Rounding.div_div (rounding : Rounding) (hb : 0 < b) (hc : 0 < c) :
    rounding.div (rounding.div a b) c = rounding.div a (b * c) := by
  cases rounding with
  | down => exact Nat.div_div_eq_div_mul a b c
  | up => exact ceilDiv_ceilDiv hb hc

/-- A rounded quotient is the exact quotient, rounded. -/
theorem Rounding.div_eq_round (rounding : Rounding) (hb : 0 < b) :
    rounding.div a b = rounding.round ((a : ℚ) / b) := by
  cases rounding with
  | down => exact (Nat.floor_div_eq_div a b).symm
  | up => exact ceilDiv_eq_ceil hb

/-- A quotient that a whole number bounds is bounded by it after rounding. -/
theorem Rounding.div_le (rounding : Rounding) (hb : 0 < b) (h : a ≤ n * b) :
    rounding.div a b ≤ n := by
  cases rounding with
  | down => exact Nat.div_le_of_le_mul (by rwa [Nat.mul_comm])
  | up => exact (ceilDiv_le_iff hb).2 h

/-- Rounding up is not below rounding down, and at most one above. -/
theorem Rounding.round_down_le_round_up (x : ℚ) :
    Rounding.round .down x ≤ Rounding.round .up x ∧
      Rounding.round .up x ≤ Rounding.round .down x + 1 :=
  ⟨Nat.floor_le_ceil x, Nat.ceil_le_floor_add_one x⟩

end Rounding

/-! ## Exact amounts -/

/-- The amount of a token that a liquidity holds between two prices, in either order. -/
def exactDelta : Side → ℕ → ℕ → ℕ → ℚ
  | .first, a, b, liquidity => liquidity * q96 * |(b : ℚ) - a| / (a * b)
  | .second, a, b, liquidity => liquidity * |(b : ℚ) - a| / q96

/-- The calculated amount of either token. -/
def amountDelta : Side → ℕ → ℕ → ℕ → Rounding → Except Fault ℕ
  | .first => amount0Delta
  | .second => amount1Delta

section Amounts

variable {a b liquidity taken : ℕ} (rounding : Rounding)

theorem cast_max_sub_min (a b : ℕ) : ((max a b - min a b : ℕ) : ℚ) = |(b : ℚ) - a| := by
  rw [Nat.cast_sub min_le_max, Nat.cast_max, Nat.cast_min, max_sub_min_eq_abs]

/-- The amount of token0 by two divisions, the first of which has to fit. -/
theorem amount0Delta_eq_map (ha : 0 < a) (hb : 0 < b) :
    amount0Delta a b liquidity rounding =
      (narrow rounding.calculation
        (rounding.div (liquidity * q96 * (max a b - min a b)) (max a b))).map
          fun n => rounding.div n (min a b) := by
  have hmin : min a b ≠ 0 := (lt_min ha hb).ne'
  have hmax : max a b ≠ 0 := (lt_max_of_lt_left ha).ne'
  cases rounding with
  | down =>
    simp only [amount0Delta, mulDiv, if_neg hmin, if_neg hmax, Rounding.calculation, Rounding.div]
    cases narrow .mulDiv (liquidity * q96 * (max a b - min a b) / max a b) with
    | error fault => rfl
    | ok n => rfl
  | up =>
    simp only [amount0Delta, mulDivUp, divUp, if_neg hmin, if_neg hmax, Rounding.calculation,
      Rounding.div]
    cases narrow .mulDivUp (ceilDiv (liquidity * q96 * (max a b - min a b)) (max a b)) with
    | error fault => rfl
    | ok n => rfl

/-- The amount of token0 is rounded once. -/
theorem amount0Delta_eq_ok (ha : 0 < a) (hb : 0 < b)
    (h : amount0Delta a b liquidity rounding = .ok taken) :
    taken = rounding.div (liquidity * q96 * (max a b - min a b)) (a * b) := by
  rw [amount0Delta_eq_map rounding ha hb] at h
  cases hfirst : narrow rounding.calculation
      (rounding.div (liquidity * q96 * (max a b - min a b)) (max a b)) with
  | error fault =>
    rw [hfirst] at h
    cases h
  | ok n =>
    rw [hfirst] at h
    obtain ⟨-, rfl⟩ := narrow_eq_ok_iff.1 hfirst
    injection h with htaken
    rw [← htaken, ← max_mul_min a b]
    exact rounding.div_div (lt_max_of_lt_left ha) (lt_min ha hb)

theorem mul_q96_lt_wordLimit (hliquidity : liquidity < liquidityLimit) :
    liquidity * q96 < wordLimit :=
  calc liquidity * q96 ≤ liquidityLimit * q96 := Nat.mul_le_mul_right _ hliquidity.le
    _ < wordLimit := by decide

/-- The amount of token0 always fits, already after its first division. -/
theorem amount0Delta_eq_div (ha : 0 < a) (hb : 0 < b) (hliquidity : liquidity < liquidityLimit) :
    amount0Delta a b liquidity rounding =
      .ok (rounding.div (liquidity * q96 * (max a b - min a b)) (a * b)) := by
  have hmax : 0 < max a b := lt_max_of_lt_left ha
  have hquotient : rounding.div (liquidity * q96 * (max a b - min a b)) (max a b) ≤
      liquidity * q96 := rounding.div_le hmax (Nat.mul_le_mul_left _ (Nat.sub_le _ _))
  have hfirst : narrow rounding.calculation
      (rounding.div (liquidity * q96 * (max a b - min a b)) (max a b)) = .ok _ :=
    narrow_eq_ok_iff.2 ⟨hquotient.trans_lt (mul_q96_lt_wordLimit hliquidity), rfl⟩
  rw [amount0Delta_eq_map rounding ha hb, hfirst, ← max_mul_min a b,
    ← rounding.div_div hmax (lt_min ha hb)]
  rfl

theorem round_exactDelta_first (ha : 0 < a) (hb : 0 < b) :
    rounding.round (exactDelta .first a b liquidity) =
      rounding.div (liquidity * q96 * (max a b - min a b)) (a * b) := by
  rw [rounding.div_eq_round (Nat.mul_pos ha hb)]
  simp only [exactDelta, ← cast_max_sub_min, Nat.cast_mul]

/-- **The amount of token0 is the exact one, rounded.** -/
theorem amount0Delta_eq_round (ha : 0 < a) (hb : 0 < b) (hliquidity : liquidity < liquidityLimit) :
    amount0Delta a b liquidity rounding =
      .ok (rounding.round (exactDelta .first a b liquidity)) := by
  rw [round_exactDelta_first rounding ha hb, amount0Delta_eq_div rounding ha hb hliquidity]

/-- The width of a range is at most the product of its prices, so that its amount of token0 has no more
bits than its liquidity and 96 of the price. -/
theorem round_exactDelta_first_lt (ha : 0 < a) (hb : 0 < b)
    (hliquidity : liquidity < liquidityLimit) :
    rounding.round (exactDelta .first a b liquidity) < wordLimit := by
  have hwidth : max a b - min a b ≤ a * b :=
    calc max a b - min a b ≤ max a b := Nat.sub_le _ _
      _ ≤ max a b * min a b := Nat.le_mul_of_pos_right _ (lt_min ha hb)
      _ = a * b := max_mul_min a b
  rw [round_exactDelta_first rounding ha hb]
  exact (rounding.div_le (Nat.mul_pos ha hb) (Nat.mul_le_mul_left _ hwidth)).trans_lt
    (mul_q96_lt_wordLimit hliquidity)

theorem round_exactDelta_second (a b liquidity : ℕ) :
    rounding.round (exactDelta .second a b liquidity) =
      rounding.div (liquidity * (max a b - min a b)) q96 := by
  rw [rounding.div_eq_round (by decide), Nat.cast_mul, cast_max_sub_min]
  rfl

/-- **The amount of token1 is the exact one, rounded**, when that fits. -/
theorem amount1Delta_eq_narrow (a b liquidity : ℕ) :
    amount1Delta a b liquidity rounding =
      narrow rounding.calculation (rounding.round (exactDelta .second a b liquidity)) := by
  have hunit : q96 ≠ 0 := by decide
  rw [round_exactDelta_second]
  cases rounding with
  | down =>
    rw [amount1Delta, mulDiv, if_neg hunit]
    rfl
  | up =>
    rw [amount1Delta, mulDivUp, if_neg hunit]
    rfl

/-- The amount of token1 fits between prices of 160 bits. -/
theorem amount1Delta_eq_round (ha : a < 2 ^ 160) (hb : b < 2 ^ 160)
    (hliquidity : liquidity < liquidityLimit) :
    amount1Delta a b liquidity rounding =
      .ok (rounding.round (exactDelta .second a b liquidity)) := by
  have hwidth : max a b - min a b ≤ 2 ^ 160 := (Nat.sub_le _ _).trans (max_lt ha hb).le
  have hproduct : liquidity * (max a b - min a b) ≤ pow2 192 * q96 :=
    calc liquidity * (max a b - min a b) ≤ liquidityLimit * 2 ^ 160 :=
          Nat.mul_le_mul hliquidity.le hwidth
      _ = pow2 192 * q96 := by decide
  have hfits : rounding.round (exactDelta .second a b liquidity) < wordLimit := by
    rw [round_exactDelta_second]
    exact (rounding.div_le (by decide) hproduct).trans_lt (by decide)
  rw [amount1Delta_eq_narrow]
  exact narrow_eq_ok_iff.2 ⟨hfits, rfl⟩

/-- Between prices that a pool can have, both amounts are found. -/
theorem amountDelta_eq_round (side : Side) (ha : 0 < a) (hb : 0 < b) (ha' : a < 2 ^ 160)
    (hb' : b < 2 ^ 160) (hliquidity : liquidity < liquidityLimit) :
    amountDelta side a b liquidity rounding =
      .ok (rounding.round (exactDelta side a b liquidity)) := by
  cases side with
  | first => exact amount0Delta_eq_round rounding ha hb hliquidity
  | second => exact amount1Delta_eq_round rounding ha' hb' hliquidity

/-- What an amount of either token is, when there is one. -/
theorem eq_round_of_amountDelta {side : Side} (ha : 0 < a) (hb : 0 < b)
    (hliquidity : liquidity < liquidityLimit)
    (h : amountDelta side a b liquidity rounding = .ok taken) :
    taken = rounding.round (exactDelta side a b liquidity) := by
  cases side with
  | first =>
    have heq : amount0Delta a b liquidity rounding = .ok taken := h
    rw [amount0Delta_eq_round rounding ha hb hliquidity] at heq
    cases heq
    rfl
  | second =>
    have heq : amount1Delta a b liquidity rounding = .ok taken := h
    rw [amount1Delta_eq_narrow] at heq
    exact (narrow_eq_ok_iff.1 heq).2.symm

end Amounts

/-- **Both amounts are the exact ones rounded once, in favour of the pool.**  Between two prices in
either order the amount of token0 is always found and fits, and the amount of token1 unless it does not
fit in 256 bits; and what a mint pays in is what a burn pays out, or one unit more. -/
theorem amountDelta_rounds_once {a b liquidity : ℕ} (ha : 0 < a) (hb : 0 < b)
    (hliquidity : liquidity < liquidityLimit) :
    amount0Delta a b liquidity .down = .ok ⌊exactDelta .first a b liquidity⌋₊ ∧
    amount0Delta a b liquidity .up = .ok ⌈exactDelta .first a b liquidity⌉₊ ∧
    ⌈exactDelta .first a b liquidity⌉₊ < wordLimit ∧
    (amount1Delta a b liquidity .down =
      if ⌊exactDelta .second a b liquidity⌋₊ < wordLimit then
        .ok ⌊exactDelta .second a b liquidity⌋₊
      else .error (.mathOverflow .mulDiv)) ∧
    (amount1Delta a b liquidity .up =
      if ⌈exactDelta .second a b liquidity⌉₊ < wordLimit then
        .ok ⌈exactDelta .second a b liquidity⌉₊
      else .error (.mathOverflow .mulDivUp)) ∧
    ∀ side burnt minted, amountDelta side a b liquidity .down = .ok burnt →
      amountDelta side a b liquidity .up = .ok minted → burnt ≤ minted ∧ minted ≤ burnt + 1 := by
  refine ⟨amount0Delta_eq_round .down ha hb hliquidity, amount0Delta_eq_round .up ha hb hliquidity,
    round_exactDelta_first_lt .up ha hb hliquidity, amount1Delta_eq_narrow .down a b liquidity,
    amount1Delta_eq_narrow .up a b liquidity, ?_⟩
  intro side burnt minted hburnt hminted
  rw [eq_round_of_amountDelta .down ha hb hliquidity hburnt,
    eq_round_of_amountDelta .up ha hb hliquidity hminted]
  exact Rounding.round_down_le_round_up _

/-- The greatest price first, the greatest liquidity, and an amount of token1 that does not fit. -/
theorem amountDelta_rounds_once_of_widest :
    0 < maxWord ∧ 0 < 3 ∧ liquidityLimit - 1 < liquidityLimit ∧
      amount0Delta maxWord 3 (liquidityLimit - 1) .down =
        .ok ⌊exactDelta .first maxWord 3 (liquidityLimit - 1)⌋₊ ∧
      amount0Delta maxWord 3 (liquidityLimit - 1) .up =
        .ok ⌈exactDelta .first maxWord 3 (liquidityLimit - 1)⌉₊ ∧
      amount1Delta maxWord 3 (liquidityLimit - 1) .up = .error (.mathOverflow .mulDivUp) := by
  have ha : 0 < maxWord := by decide
  have hliquidity : liquidityLimit - 1 < liquidityLimit := by decide
  obtain ⟨hdown, hup, -, -, -, -⟩ := amountDelta_rounds_once ha (by decide : 0 < 3) hliquidity
  exact ⟨ha, by decide, hliquidity, hdown, hup, by decide⟩

end Tickwise

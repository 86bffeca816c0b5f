import Tickwise.Proofs.Amount.Exact

/-!
# Splitting a range or a liquidity

The exact amounts between two prices add up to the amount between the outer ones at any price in
between, and the amounts of two liquidities to the amount of their sum.  Each amount is rounded once,
so that the parts together are a unit away from the whole at most, and always on the side of the pool.

* `Rounding.Splits`, `Rounding.splits_round` — a rounded sum against its rounded parts;
* `exactDelta_add_range`, `exactDelta_add_liquidity` — exact amounts are additive in both ways;
* `amountDelta_splits` — the calculated amounts of a range, a liquidity and their parts.
-/

namespace Tickwise

/-- How the rounded parts of an amount are related to the whole: together they are never less than what
is paid in at once nor more than what is paid out at once, and a unit away from it at most. -/
def Rounding.Splits : Rounding → (whole first second : ℕ) → Prop
  | .up, whole, first, second => whole ≤ first + second ∧ first + second ≤ whole + 1
  | .down, whole, first, second => whole ≤ first + second + 1 ∧ first + second ≤ whole

section Rounding

variable {x y : ℚ}

theorem ceil_add_ceil_le (hx : 0 ≤ x) (hy : 0 ≤ y) : ⌈x⌉₊ + ⌈y⌉₊ ≤ ⌈x + y⌉₊ + 1 := by
  have hfirst : (⌈x⌉₊ : ℚ) < x + 1 := Nat.ceil_lt_add_one hx
  have hsecond : (⌈y⌉₊ : ℚ) < y + 1 := Nat.ceil_lt_add_one hy
  have hwhole : x + y ≤ ⌈x + y⌉₊ := Nat.le_ceil (x + y)
  have hlt : ((⌈x⌉₊ + ⌈y⌉₊ : ℕ) : ℚ) < (⌈x + y⌉₊ + 2 : ℕ) := by
    push_cast
    linarith
  exact Nat.le_of_lt_succ (by exact_mod_cast hlt)

theorem floor_add_le (x y : ℚ) : ⌊x + y⌋₊ ≤ ⌊x⌋₊ + ⌊y⌋₊ + 1 := by
  have hfirst : x < ⌊x⌋₊ + 1 := Nat.lt_floor_add_one x
  have hsecond : y < ⌊y⌋₊ + 1 := Nat.lt_floor_add_one y
  have hlt : x + y < (⌊x⌋₊ + ⌊y⌋₊ + 2 : ℕ) := by
    push_cast
    linarith
  exact Nat.le_of_lt_succ ((Nat.floor_lt' (Nat.succ_ne_zero _)).2 hlt)

theorem floor_add_floor_le (hx : 0 ≤ x) (hy : 0 ≤ y) : ⌊x⌋₊ + ⌊y⌋₊ ≤ ⌊x + y⌋₊ := by
  apply Nat.le_floor
  push_cast
  exact add_le_add (Nat.floor_le hx) (Nat.floor_le hy)

/-- The parts of an amount, rounded like the whole. -/
theorem Rounding.splits_round (rounding : Rounding) (hx : 0 ≤ x) (hy : 0 ≤ y) :
    rounding.Splits (rounding.round (x + y)) (rounding.round x) (rounding.round y) := by
  cases rounding with
  | up => exact ⟨Nat.ceil_add_le x y, ceil_add_ceil_le hx hy⟩
  | down => exact ⟨floor_add_le x y, floor_add_floor_le hx hy⟩

end Rounding

/-! ## Exact amounts are additive -/

section Exact

variable {a b c : ℕ}

theorem exactDelta_nonneg (side : Side) (a b liquidity : ℕ) : 0 ≤ exactDelta side a b liquidity := by
  cases side <;> unfold exactDelta <;> positivity

/-- The amounts of two adjoining ranges are the amount of both together. -/
theorem exactDelta_add_range (side : Side) (ha : 0 < a) (hab : a ≤ b) (hbc : b ≤ c)
    (liquidity : ℕ) :
    exactDelta side a c liquidity = exactDelta side a b liquidity + exactDelta side b c liquidity := by
  cases side with
  | first =>
    have ha' : (a : ℚ) ≠ 0 := by exact_mod_cast ha.ne'
    have hb' : (b : ℚ) ≠ 0 := by exact_mod_cast (ha.trans_le hab).ne'
    have hc' : (c : ℚ) ≠ 0 := by exact_mod_cast (ha.trans_le (hab.trans hbc)).ne'
    rw [exactDelta_first hab, exactDelta_first hbc, exactDelta_first (hab.trans hbc)]
    unfold exactAmount0
    field_simp
    ring
  | second =>
    rw [exactDelta_second hab, exactDelta_second hbc, exactDelta_second (hab.trans hbc)]
    unfold exactAmount1
    ring

/-- The amounts of two liquidities are the amount of both together. -/
theorem exactDelta_add_liquidity (side : Side) (a b first second : ℕ) :
    exactDelta side a b (first + second) =
      exactDelta side a b first + exactDelta side a b second := by
  cases side with
  | first =>
    simp only [exactDelta, Nat.cast_add]
    ring
  | second =>
    simp only [exactDelta, Nat.cast_add]
    ring

end Exact

/-- **Splitting neither gains nor loses.**  For either token and either rounding, the amounts of a
range that is split at a price in between, and the amounts of a liquidity that is split in two, are
found like the amount of the whole, and differ from it by at most a unit in favour of the pool. -/
theorem amountDelta_splits (side : Side) (rounding : Rounding) {a b c : ℕ} (ha : 0 < a) (hab : a ≤ b)
    (hbc : b ≤ c) (hc : c < 2 ^ 160) :
    (∀ liquidity < liquidityLimit, ∃ whole lower upper,
      amountDelta side a c liquidity rounding = .ok whole ∧
      amountDelta side a b liquidity rounding = .ok lower ∧
      amountDelta side b c liquidity rounding = .ok upper ∧
      rounding.Splits whole lower upper) ∧
    ∀ first second, first + second < liquidityLimit → ∃ whole part rest,
      amountDelta side a c (first + second) rounding = .ok whole ∧
      amountDelta side a c first rounding = .ok part ∧
      amountDelta side a c second rounding = .ok rest ∧
      rounding.Splits whole part rest := by
  have hb : 0 < b := ha.trans_le hab
  have hb' : b < 2 ^ 160 := hbc.trans_lt hc
  have ha' : a < 2 ^ 160 := hab.trans_lt hb'
  have hc0 : 0 < c := hb.trans_le hbc
  constructor
  · intro liquidity hliquidity
    refine ⟨_, _, _, amountDelta_eq_round rounding side ha hc0 ha' hc hliquidity,
      amountDelta_eq_round rounding side ha hb ha' hb' hliquidity,
      amountDelta_eq_round rounding side hb hc0 hb' hc hliquidity, ?_⟩
    rw [exactDelta_add_range side ha hab hbc]
    exact rounding.splits_round (exactDelta_nonneg side a b _) (exactDelta_nonneg side b c _)
  · intro first second hsum
    have hfirst : first < liquidityLimit := (Nat.le_add_right _ _).trans_lt hsum
    have hsecond : second < liquidityLimit := (Nat.le_add_left _ _).trans_lt hsum
    refine ⟨_, _, _, amountDelta_eq_round rounding side ha hc0 ha' hc hsum,
      amountDelta_eq_round rounding side ha hc0 ha' hc hfirst,
      amountDelta_eq_round rounding side ha hc0 ha' hc hsecond, ?_⟩
    rw [exactDelta_add_liquidity]
    exact rounding.splits_round (exactDelta_nonneg side a c _) (exactDelta_nonneg side a c _)

/-- A range from the lowest price to the highest that is split next to its end, and the greatest
liquidity split in two. -/
theorem amountDelta_splits_of_widest :
    0 < 1 ∧ 1 ≤ 2 ^ 160 - 2 ∧ 2 ^ 160 - 2 ≤ 2 ^ 160 - 1 ∧ 2 ^ 160 - 1 < 2 ^ 160 ∧
      liquidityLimit - 1 < liquidityLimit ∧
      (∃ whole lower upper,
        amountDelta .first 1 (2 ^ 160 - 1) (liquidityLimit - 1) .up = .ok whole ∧
        amountDelta .first 1 (2 ^ 160 - 2) (liquidityLimit - 1) .up = .ok lower ∧
        amountDelta .first (2 ^ 160 - 2) (2 ^ 160 - 1) (liquidityLimit - 1) .up = .ok upper ∧
        whole ≤ lower + upper ∧ lower + upper ≤ whole + 1) ∧
      ∃ whole part rest,
        amountDelta .first 1 (2 ^ 160 - 1) (1 + (liquidityLimit - 2)) .up = .ok whole ∧
        amountDelta .first 1 (2 ^ 160 - 1) 1 .up = .ok part ∧
        amountDelta .first 1 (2 ^ 160 - 1) (liquidityLimit - 2) .up = .ok rest ∧
        whole ≤ part + rest ∧ part + rest ≤ whole + 1 := by
  have hab : 1 ≤ 2 ^ 160 - 2 := by decide
  have hbc : 2 ^ 160 - 2 ≤ 2 ^ 160 - 1 := by decide
  have hc : 2 ^ 160 - 1 < 2 ^ 160 := by decide
  have hliquidity : liquidityLimit - 1 < liquidityLimit := by decide
  obtain ⟨hrange, hsum⟩ := amountDelta_splits .first .up Nat.one_pos hab hbc hc
  exact ⟨Nat.one_pos, hab, hbc, hc, hliquidity, hrange _ hliquidity, hsum _ _ (by decide)⟩

end Tickwise

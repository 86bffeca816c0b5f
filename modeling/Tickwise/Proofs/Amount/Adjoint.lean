import Tickwise.Proofs.Amount.Exact

/-!
# Liquidity and amounts are adjoint

The liquidity that an amount backs is rounded down once, however wide the product that it is worked
out from, and the amount that a liquidity takes is rounded up.  Each is therefore the adjoint of the
other: a liquidity takes at most an amount exactly when the amount backs it.

* `exactLiquidity0`, `exactLiquidity1` — the liquidity that an amount backs, rounded down once;
* `liquidityForAmount0_eq_narrow`, `liquidityForAmount1_eq_narrow` — it is found whenever it fits;
* `exists_amount0Delta_up`, `exists_amount1Delta_up` — the amount of a liquidity always fits;
* `liquidity_amount_adjoint` — the two against each other, for prices in either order.
-/

namespace Tickwise

/-! ## Exact liquidities -/

/-- The greatest liquidity that an amount of token0 backs between two prices. -/
def exactLiquidity0 (a b amount : ℕ) : ℕ := ⌊(amount * a * b : ℚ) / (q96 * |(b : ℚ) - a|)⌋₊

/-- The greatest liquidity that an amount of token1 backs between two prices. -/
def exactLiquidity1 (a b amount : ℕ) : ℕ := ⌊(amount * q96 : ℚ) / |(b : ℚ) - a|⌋₊

variable {a b amount liquidity : ℕ}

theorem exactLiquidity0_comm (a b amount : ℕ) :
    exactLiquidity0 a b amount = exactLiquidity0 b a amount := by
  rw [exactLiquidity0, exactLiquidity0, abs_sub_comm, mul_right_comm]

theorem exactLiquidity1_comm (a b amount : ℕ) :
    exactLiquidity1 a b amount = exactLiquidity1 b a amount := by
  rw [exactLiquidity1, exactLiquidity1, abs_sub_comm]

theorem abs_sub_eq_cast (hab : a < b) : |(b : ℚ) - a| = (b - a : ℕ) := by
  rw [abs_cast_sub_cast hab.le, Nat.cast_sub hab.le]

theorem exactLiquidity0_eq_div (hab : a < b) (amount : ℕ) :
    exactLiquidity0 a b amount = amount * a * b / (q96 * (b - a)) := by
  rw [exactLiquidity0, abs_sub_eq_cast hab]
  exact_mod_cast Nat.floor_div_eq_div (K := ℚ) (amount * a * b) (q96 * (b - a))

theorem exactLiquidity1_eq_div (hab : a < b) (amount : ℕ) :
    exactLiquidity1 a b amount = amount * q96 / (b - a) := by
  rw [exactLiquidity1, abs_sub_eq_cast hab]
  exact_mod_cast Nat.floor_div_eq_div (K := ℚ) (amount * q96) (b - a)

/-! ## From an amount to its liquidity -/

theorem liquidityForAmount0_comm (a b amount : ℕ) :
    liquidityForAmount0 a b amount = liquidityForAmount0 b a amount := by
  rw [liquidityForAmount0, liquidityForAmount0, min_comm, max_comm]

theorem liquidityForAmount1_comm (a b amount : ℕ) :
    liquidityForAmount1 a b amount = liquidityForAmount1 b a amount := by
  rw [liquidityForAmount1, liquidityForAmount1, min_comm, max_comm]

theorem pow2_add (m n : ℕ) : pow2 (m + n) = pow2 m * pow2 n := Nat.pow_add 2 m n

/-- Two words have 512 bits together. -/
theorem pow2_512 : pow2 512 = wordLimit * wordLimit := by
  have hsum : 512 = 256 + 256 := rfl
  rw [hsum, pow2_add, wordLimit]

/-- A product of more than 512 bits stands for a liquidity of more than 256. -/
theorem wordLimit_le_exactLiquidity0 (hab : a < b) (hb : b < 2 ^ 160)
    (hwide : pow2 512 ≤ amount * a * b) : wordLimit ≤ exactLiquidity0 a b amount := by
  have hwidth : 0 < q96 * (b - a) := Nat.mul_pos (by decide) (Nat.sub_pos_of_lt hab)
  have hunit : q96 * (b - a) ≤ wordLimit :=
    calc q96 * (b - a) ≤ q96 * 2 ^ 160 := Nat.mul_le_mul_left _ (by omega)
      _ = wordLimit := by decide
  rw [pow2_512] at hwide
  rw [exactLiquidity0_eq_div hab, Nat.le_div_iff_mul_le hwidth]
  exact (Nat.mul_le_mul_left _ hunit).trans hwide

/-- The liquidity of an amount of token0 is found whenever it fits in 256 bits. -/
theorem liquidityForAmount0_eq_narrow (hab : a < b) (hb : b < 2 ^ 160) (amount : ℕ) :
    liquidityForAmount0 a b amount =
      narrow .liquidityForAmount0 (exactLiquidity0 a b amount) := by
  obtain ⟨hmin, hmax⟩ := min_max_of_lt hab
  simp only [liquidityForAmount0, hmin, hmax, if_neg hab.ne]
  by_cases hwide : pow2 512 ≤ amount * a * b
  · have hlimit := wordLimit_le_exactLiquidity0 hab hb hwide
    rw [if_neg (not_lt.2 hwide), narrow, if_neg (not_lt.2 hlimit)]
  · rw [if_pos (not_le.1 hwide), exactLiquidity0_eq_div hab]

/-- The liquidity of an amount of token1 is found whenever it fits in 256 bits. -/
theorem liquidityForAmount1_eq_narrow (hab : a < b) (amount : ℕ) :
    liquidityForAmount1 a b amount = narrow .mulDiv (exactLiquidity1 a b amount) := by
  obtain ⟨hmin, hmax⟩ := min_max_of_lt hab
  rw [liquidityForAmount1, hmin, hmax, mulDiv, if_neg (Nat.sub_pos_of_lt hab).ne',
    exactLiquidity1_eq_div hab]

/-! ## From a liquidity to its amount -/

theorem amount0Delta_comm (a b liquidity : ℕ) (rounding : Rounding) :
    amount0Delta a b liquidity rounding = amount0Delta b a liquidity rounding := by
  simp only [amount0Delta, min_comm a b, max_comm a b]

theorem amount1Delta_comm (a b liquidity : ℕ) (rounding : Rounding) :
    amount1Delta a b liquidity rounding = amount1Delta b a liquidity rounding := by
  simp only [amount1Delta, min_comm a b, max_comm a b]

/-- The amount of token0 that a liquidity takes always fits. -/
theorem exists_amount0Delta_up (ha : 0 < a) (hab : a < b) (hliquidity : liquidity < liquidityLimit) :
    ∃ taken, amount0Delta a b liquidity .up = .ok taken :=
  ⟨_, amount0Delta_eq_div .up ha (ha.trans hab) hliquidity⟩

/-- The amount of token1 that a liquidity takes always fits. -/
theorem exists_amount1Delta_up (hab : a < b) (hb : b < 2 ^ 160)
    (hliquidity : liquidity < liquidityLimit) :
    ∃ taken, amount1Delta a b liquidity .up = .ok taken :=
  ⟨_, amount1Delta_eq_round .up (hab.trans hb) hb hliquidity⟩

/-- A liquidity takes at most an amount of token0 exactly when the amount backs it. -/
theorem amount0Delta_up_le_iff_le_exactLiquidity0 (ha : 0 < a) (hab : a < b) {taken : ℕ}
    (h : amount0Delta a b liquidity .up = .ok taken) (amount : ℕ) :
    taken ≤ amount ↔ liquidity ≤ exactLiquidity0 a b amount := by
  have hwidth : 0 < q96 * (b - a) := Nat.mul_pos (by decide) (Nat.sub_pos_of_lt hab)
  rw [amount0Delta_up_le_iff ha hab h, exactLiquidity0_eq_div hab, Nat.le_div_iff_mul_le hwidth,
    Nat.mul_assoc amount]

/-- A liquidity takes at most an amount of token1 exactly when the amount backs it. -/
theorem amount1Delta_up_le_iff_le_exactLiquidity1 (hab : a < b) {taken : ℕ}
    (h : amount1Delta a b liquidity .up = .ok taken) (amount : ℕ) :
    taken ≤ amount ↔ liquidity ≤ exactLiquidity1 a b amount := by
  rw [amount1Delta_up_le_iff hab h, exactLiquidity1_eq_div hab,
    Nat.le_div_iff_mul_le (Nat.sub_pos_of_lt hab)]

/-! ## The adjunction -/

/-- The lower price first. -/
theorem liquidity_amount_adjoint_of_lt (ha : 0 < a) (hab : a < b) (hb : b < 2 ^ 160)
    (hliquidity : liquidity < liquidityLimit) (amount : ℕ) :
    liquidityForAmount0 a b amount =
        narrow .liquidityForAmount0 (exactLiquidity0 a b amount) ∧
      liquidityForAmount1 a b amount = narrow .mulDiv (exactLiquidity1 a b amount) ∧
      (∃ taken, amount0Delta a b liquidity .up = .ok taken ∧
        (taken ≤ amount ↔ liquidity ≤ exactLiquidity0 a b amount)) ∧
      ∃ taken, amount1Delta a b liquidity .up = .ok taken ∧
        (taken ≤ amount ↔ liquidity ≤ exactLiquidity1 a b amount) := by
  obtain ⟨taken0, h0⟩ := exists_amount0Delta_up ha hab hliquidity
  obtain ⟨taken1, h1⟩ := exists_amount1Delta_up hab hb hliquidity
  exact ⟨liquidityForAmount0_eq_narrow hab hb amount, liquidityForAmount1_eq_narrow hab amount,
    ⟨taken0, h0, amount0Delta_up_le_iff_le_exactLiquidity0 ha hab h0 amount⟩,
    taken1, h1, amount1Delta_up_le_iff_le_exactLiquidity1 hab h1 amount⟩

/-- **Liquidity and amounts are adjoint.**  Between two different prices in either order, the
liquidity that an amount backs is the exact one rounded down, or an overflow when that does not fit
in 256 bits; and a liquidity takes at most the amount, rounded up, exactly when it is at most the
liquidity that the amount backs. -/
theorem liquidity_amount_adjoint {a b liquidity : ℕ} (ha : 0 < a) (hb : 0 < b) (hne : a ≠ b)
    (ha' : a < 2 ^ 160) (hb' : b < 2 ^ 160) (hliquidity : liquidity < liquidityLimit)
    (amount : ℕ) :
    (liquidityForAmount0 a b amount =
      if exactLiquidity0 a b amount < wordLimit then .ok (exactLiquidity0 a b amount)
      else .error (.mathOverflow .liquidityForAmount0)) ∧
    (liquidityForAmount1 a b amount =
      if exactLiquidity1 a b amount < wordLimit then .ok (exactLiquidity1 a b amount)
      else .error (.mathOverflow .mulDiv)) ∧
    (∃ taken, amount0Delta a b liquidity .up = .ok taken ∧
      (taken ≤ amount ↔ liquidity ≤ exactLiquidity0 a b amount)) ∧
    ∃ taken, amount1Delta a b liquidity .up = .ok taken ∧
      (taken ≤ amount ↔ liquidity ≤ exactLiquidity1 a b amount) := by
  rcases Nat.lt_or_gt_of_ne hne with hlt | hgt
  · exact liquidity_amount_adjoint_of_lt ha hlt hb' hliquidity amount
  · rw [liquidityForAmount0_comm, liquidityForAmount1_comm, amount0Delta_comm, amount1Delta_comm,
      exactLiquidity0_comm, exactLiquidity1_comm]
    exact liquidity_amount_adjoint_of_lt hb hgt ha' hliquidity amount

/-- The highest price first, and an amount whose product with both does not fit in 512 bits. -/
theorem liquidity_amount_adjoint_of_wide_product :
    0 < 2 ^ 160 - 1 ∧ 0 < 2 ^ 159 ∧ 2 ^ 160 - 1 ≠ 2 ^ 159 ∧ 2 ^ 160 - 1 < 2 ^ 160 ∧
      2 ^ 159 < 2 ^ 160 ∧ liquidityLimit - 1 < liquidityLimit ∧
      (liquidityForAmount0 (2 ^ 160 - 1) (2 ^ 159) maxWord =
        if exactLiquidity0 (2 ^ 160 - 1) (2 ^ 159) maxWord < wordLimit then
          .ok (exactLiquidity0 (2 ^ 160 - 1) (2 ^ 159) maxWord)
        else .error (.mathOverflow .liquidityForAmount0)) ∧
      ∃ taken, amount1Delta (2 ^ 160 - 1) (2 ^ 159) (liquidityLimit - 1) .up = .ok taken ∧
        (taken ≤ maxWord ↔
          liquidityLimit - 1 ≤ exactLiquidity1 (2 ^ 160 - 1) (2 ^ 159) maxWord) := by
  have ha : 0 < 2 ^ 160 - 1 := by decide
  have hb : 0 < 2 ^ 159 := by decide
  have hne : 2 ^ 160 - 1 ≠ 2 ^ 159 := by decide
  have ha' : 2 ^ 160 - 1 < 2 ^ 160 := by decide
  have hb' : 2 ^ 159 < 2 ^ 160 := by decide
  have hliquidity : liquidityLimit - 1 < liquidityLimit := by decide
  obtain ⟨h0, -, -, h1⟩ := liquidity_amount_adjoint ha hb hne ha' hb' hliquidity maxWord
  exact ⟨ha, hb, hne, ha', hb', hliquidity, h0, h1⟩

end Tickwise

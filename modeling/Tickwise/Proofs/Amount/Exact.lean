import Tickwise.Amount.Liquidity
import Tickwise.Proofs.Amount.SingleRounding

/-!
# Exact amounts, and how far rounding is from them

The liquidity that an amount backs is rounded down, and what a mint of that liquidity takes is
rounded up, for token0 even twice.  Together the two never take more than the amount, and they
waste less of it than one more unit of liquidity would cost.

* `exactAmount0`, `exactAmount1` — the amounts of a liquidity as rational numbers;
* `rounded_bounds` — the one argument, for both tokens;
* `amount0_of_liquidityForAmount0`, `amount1_of_liquidityForAmount1` — what follows for each.
-/

namespace Tickwise

/-- The amount of token0 that a liquidity holds between two square-root prices. -/
def exactAmount0 (lower upper liquidity : ℕ) : ℚ :=
  liquidity * q96 * (upper - lower) / (lower * upper)

/-- The amount of token1 that a liquidity holds between two square-root prices. -/
def exactAmount1 (lower upper liquidity : ℕ) : ℚ := liquidity * (upper - lower) / q96

section Ordered

variable {lower upper liquidity : ℕ}

theorem abs_cast_sub_cast (h : lower ≤ upper) : |(upper : ℚ) - lower| = upper - lower := by
  have hcast : (lower : ℚ) ≤ upper := by exact_mod_cast h
  exact abs_of_nonneg (sub_nonneg.2 hcast)

theorem exactDelta_first (h : lower ≤ upper) :
    exactDelta .first lower upper liquidity = exactAmount0 lower upper liquidity := by
  rw [exactDelta, abs_cast_sub_cast h, exactAmount0]

theorem exactDelta_second (h : lower ≤ upper) :
    exactDelta .second lower upper liquidity = exactAmount1 lower upper liquidity := by
  rw [exactDelta, abs_cast_sub_cast h, exactAmount1]

end Ordered

/-- A liquidity that is rounded down from an amount, and the amount that is rounded up from it
again.  A unit of liquidity is worth `width / unit`. -/
theorem rounded_bounds {amount width unit liquidity taken : ℕ} (hwidth : 0 < width)
    (hliquidity : amount * unit / width = liquidity)
    (htaken : ∀ n, taken ≤ n ↔ liquidity * width ≤ n * unit) :
    taken ≤ amount ∧ amount * unit < (liquidity + 1) * width ∧ (width ≤ unit → taken = amount) := by
  have hfloor : liquidity * width ≤ amount * unit := by
    rw [← hliquidity]
    exact Nat.div_mul_le_self _ _
  have hnext : amount * unit < (liquidity + 1) * width := by
    rw [← hliquidity, Nat.mul_comm (_ + 1)]
    exact Nat.lt_mul_div_succ _ hwidth
  have hle : taken ≤ amount := (htaken amount).2 hfloor
  refine ⟨hle, hnext, fun hcheap => ?_⟩
  by_contra hne
  -- one more unit of the token would still be within the amount, and it backs more liquidity
  have hstep : (taken + 1) * unit ≤ amount * unit :=
    Nat.mul_le_mul_right _ (by omega)
  have hcovered : liquidity * width ≤ taken * unit := (htaken taken).1 le_rfl
  rw [Nat.add_mul, Nat.one_mul] at hstep hnext
  omega

section Bounds

variable {a b amount liquidity taken : ℕ}

theorem min_max_of_lt (h : a < b) : min a b = a ∧ max a b = b :=
  ⟨min_eq_left h.le, max_eq_right h.le⟩

/-- The amount of token0 rounded up, as the least number of units that cover it. -/
theorem amount0Delta_up_le_iff (ha : 0 < a) (hab : a < b)
    (h : amount0Delta a b liquidity .up = .ok taken) (n : ℕ) :
    taken ≤ n ↔ liquidity * (q96 * (b - a)) ≤ n * (a * b) := by
  have hb : 0 < b := ha.trans hab
  obtain ⟨hmin, hmax⟩ := min_max_of_lt hab
  have htaken := amount0Delta_eq_ok .up ha hb h
  rw [hmin, hmax, Nat.mul_assoc] at htaken
  rw [htaken]
  exact ceilDiv_le_iff (Nat.mul_pos ha hb)

theorem amount1Delta_up_le_iff (hab : a < b) (h : amount1Delta a b liquidity .up = .ok taken)
    (n : ℕ) : taken ≤ n ↔ liquidity * (b - a) ≤ n * q96 := by
  obtain ⟨hmin, hmax⟩ := min_max_of_lt hab
  simp only [amount1Delta, hmin, hmax] at h
  obtain ⟨-, -, rfl⟩ := mulDivUp_eq_ok_iff.1 h
  exact ceilDiv_le_iff (by decide)

/-- **What a mint takes of token0**, when its liquidity was found from an amount of token0. -/
theorem amount0_of_liquidityForAmount0 (ha : 0 < a) (hab : a < b)
    (hliquidity : liquidityForAmount0 a b amount = .ok liquidity)
    (htaken : amount0Delta a b liquidity .up = .ok taken) :
    taken ≤ amount ∧ (amount : ℚ) < exactAmount0 a b (liquidity + 1) ∧
      (exactAmount0 a b 1 ≤ 1 → taken = amount) := by
  obtain ⟨hmin, hmax⟩ := min_max_of_lt hab
  have hfloor : amount * (a * b) / (q96 * (b - a)) = liquidity := by
    simp only [liquidityForAmount0, hmin, hmax, if_neg hab.ne] at hliquidity
    split at hliquidity
    · rw [← Nat.mul_assoc]
      exact (narrow_eq_ok_iff.1 hliquidity).2
    · cases hliquidity
  have hwidth : 0 < q96 * (b - a) := Nat.mul_pos (by decide) (Nat.sub_pos_of_lt hab)
  have hunit : (0 : ℚ) < a * b := by
    exact_mod_cast Nat.mul_pos ha (ha.trans hab)
  obtain ⟨hle, hnext, hall⟩ :=
    rounded_bounds hwidth hfloor (amount0Delta_up_le_iff ha hab htaken)
  have hcast : ((q96 * (b - a) : ℕ) : ℚ) = q96 * (b - a) := by
    rw [Nat.cast_mul, Nat.cast_sub hab.le]
  refine ⟨hle, ?_, fun hcheap => hall ?_⟩
  · rw [exactAmount0, lt_div_iff₀ hunit, mul_assoc (_ : ℚ) (q96 : ℚ), ← hcast]
    exact_mod_cast hnext
  · rw [exactAmount0, div_le_one hunit, Nat.cast_one, one_mul, ← hcast] at hcheap
    exact_mod_cast hcheap

/-- **What a mint takes of token1**, when its liquidity was found from an amount of token1. -/
theorem amount1_of_liquidityForAmount1 (hab : a < b)
    (hliquidity : liquidityForAmount1 a b amount = .ok liquidity)
    (htaken : amount1Delta a b liquidity .up = .ok taken) :
    taken ≤ amount ∧ (amount : ℚ) < exactAmount1 a b (liquidity + 1) ∧
      (exactAmount1 a b 1 ≤ 1 → taken = amount) := by
  obtain ⟨hmin, hmax⟩ := min_max_of_lt hab
  have hfloor : amount * q96 / (b - a) = liquidity := by
    simp only [liquidityForAmount1, hmin, hmax] at hliquidity
    exact (mulDiv_eq_ok_iff.1 hliquidity).2.2
  have hunit : (0 : ℚ) < q96 := by exact_mod_cast (by decide : 0 < q96)
  obtain ⟨hle, hnext, hall⟩ :=
    rounded_bounds (Nat.sub_pos_of_lt hab) hfloor (amount1Delta_up_le_iff hab htaken)
  have hcast : ((b - a : ℕ) : ℚ) = b - a := Nat.cast_sub hab.le
  refine ⟨hle, ?_, fun hcheap => hall ?_⟩
  · rw [exactAmount1, lt_div_iff₀ hunit, ← hcast]
    exact_mod_cast hnext
  · rw [exactAmount1, div_le_one hunit, Nat.cast_one, one_mul, ← hcast] at hcheap
    exact_mod_cast hcheap

end Bounds

end Tickwise

import Mathlib
import Tickwise.Decimal
import Tickwise.Power

/-!
# The value of a decimal

A decimal stands for its coefficient times a power of ten.  Its digits and its scale alone say how
large the value is, up to a factor of ten.

* `Decimal.value` — the rational number a decimal stands for;
* `lt_pow_digitCount`, `pow_digitCount_sub_one_le` — the size of a number by its digits;
* `Decimal.value_lt`, `Decimal.le_value` — the size of a value by its digits and its scale.
-/

namespace Tickwise

/-! ## Counting digits -/

theorem digitCount_pos (n : ℕ) : 0 < digitCount n := Nat.length_toDigits_pos

theorem digitCount_le_iff {n k : ℕ} (hk : 0 < k) : digitCount n ≤ k ↔ n < 10 ^ k :=
  Nat.length_toDigits_le_iff (by norm_num) hk

theorem lt_pow_digitCount (n : ℕ) : n < 10 ^ digitCount n :=
  (digitCount_le_iff (digitCount_pos n)).1 le_rfl

theorem pow_digitCount_sub_one_le {n : ℕ} (hn : 0 < n) : 10 ^ (digitCount n - 1) ≤ n := by
  have hpos := digitCount_pos n
  by_cases hone : digitCount n = 1
  · rw [hone, Nat.sub_self, pow_zero]
    exact hn
  · by_contra hlt
    have hfewer := (digitCount_le_iff (by omega)).2 (not_le.1 hlt)
    omega

/-! ## Values -/

theorem cast_pow10 (n : ℕ) : ((pow10 n : ℕ) : ℚ) = 10 ^ n := Nat.cast_pow 10 n

namespace Decimal

/-- The rational number a decimal stands for. -/
def value (d : Decimal) : ℚ := d.coefficient * 10 ^ (-d.scale)

variable {d : Decimal}

theorem ten_zpow_pos (n : ℤ) : (0 : ℚ) < 10 ^ n := zpow_pos (by norm_num) n

@[simp] theorem value_eq_zero_iff : d.value = 0 ↔ d.coefficient = 0 := by
  simp [value, (ten_zpow_pos _).ne']

theorem value_nonneg_iff : 0 ≤ d.value ↔ 0 ≤ d.coefficient := by
  rw [value, mul_nonneg_iff_of_pos_right (ten_zpow_pos _)]
  exact_mod_cast Iff.rfl

@[simp] theorem value_neg_iff : d.value < 0 ↔ d.coefficient < 0 := by
  rw [← not_le, ← not_le, value_nonneg_iff]

theorem value_pos_iff : 0 < d.value ↔ 0 < d.coefficient := by
  rw [value, mul_pos_iff_of_pos_right (ten_zpow_pos _)]
  exact_mod_cast Iff.rfl

theorem value_of_nonneg (h : 0 ≤ d.coefficient) :
    d.value = d.coefficient.natAbs * 10 ^ (-d.scale) := by
  rw [value, Nat.cast_natAbs, abs_of_nonneg h]

/-- A value is below the power of ten that has one digit more. -/
theorem value_lt (h : 0 ≤ d.coefficient) : d.value < 10 ^ (d.digitCount - d.scale) := by
  have hdigits : (d.coefficient.natAbs : ℚ) < 10 ^ d.digitCount := by
    exact_mod_cast lt_pow_digitCount d.coefficient.natAbs
  calc d.value = d.coefficient.natAbs * 10 ^ (-d.scale) := value_of_nonneg h
    _ < 10 ^ d.digitCount * 10 ^ (-d.scale) := mul_lt_mul_of_pos_right hdigits (ten_zpow_pos _)
    _ = 10 ^ (d.digitCount - d.scale) := by
      rw [← zpow_natCast, ← zpow_add₀ (by norm_num), sub_eq_add_neg]

/-- A value is at least the power of ten that has as many digits. -/
theorem le_value (h : 0 < d.coefficient) : 10 ^ (d.digitCount - 1 - d.scale) ≤ d.value := by
  have hpos : 0 < d.digitCount := digitCount_pos _
  have hdigits : (10 : ℚ) ^ (d.digitCount - 1) ≤ d.coefficient.natAbs := by
    exact_mod_cast pow_digitCount_sub_one_le (Int.natAbs_pos.2 h.ne')
  calc (10 : ℚ) ^ (d.digitCount - 1 - d.scale)
      = 10 ^ (d.digitCount - 1) * 10 ^ (-d.scale) := by
        rw [← zpow_natCast, Nat.cast_pred hpos, ← zpow_add₀ (by norm_num), sub_eq_add_neg]
    _ ≤ d.coefficient.natAbs * 10 ^ (-d.scale) :=
      mul_le_mul_of_nonneg_right hdigits (ten_zpow_pos _).le
    _ = d.value := (value_of_nonneg h.le).symm

end Decimal

end Tickwise

import Mathlib
import Tickwise.Decimal.Quotient
import Tickwise.Proofs.Decimal.Value

/-!
# Quotients in decimal digits are rounded once

A long division keeps the digits of the numerator, scaled by a power of ten, and the remainder
that belongs to them.  So the quotient is the scaled ratio rounded half up, at a scale where either
nothing is left over or a hundred digits stand.

* `LongDivision.Keeps` — what each digit of a long division preserves;
* `quotient_eq_round` — the quotient as the scaled ratio, rounded once;
* `abs_value_quotient_sub_le` — so it is half a unit of its hundredth digit off at most.
-/

namespace Tickwise.Decimal

/-! ## Long division -/

/-- A division of `a` by `b` in progress: its digits are those of the numerator at its scale, and
what is left over is the remainder. -/
structure LongDivision.Keeps (a b : ℕ) (s : LongDivision) : Prop where
  quotient_eq : s.quotient = a * 10 ^ s.scale / b
  remainder_eq : s.remainder = 10 * (a * 10 ^ s.scale % b)

namespace LongDivision

variable {a b : ℕ} {s : LongDivision}

/-- One more digit. -/
theorem Keeps.digit (hb : 0 < b) (h : s.Keeps a b) :
    Keeps a b ⟨10 * s.quotient + s.remainder / b, s.scale + 1, 10 * (s.remainder % b)⟩ := by
  have hscaled : a * 10 ^ (s.scale + 1) = 10 * (a * 10 ^ s.scale) := by ring
  constructor
  · show 10 * s.quotient + s.remainder / b = a * 10 ^ (s.scale + 1) / b
    calc 10 * s.quotient + s.remainder / b
        = (b * (10 * (a * 10 ^ s.scale / b)) + 10 * (a * 10 ^ s.scale % b)) / b := by
          rw [Nat.mul_add_div hb, h.quotient_eq, h.remainder_eq]
      _ = 10 * (b * (a * 10 ^ s.scale / b) + a * 10 ^ s.scale % b) / b := by ring_nf
      _ = a * 10 ^ (s.scale + 1) / b := by rw [Nat.div_add_mod, hscaled]
  · show 10 * (s.remainder % b) = 10 * (a * 10 ^ (s.scale + 1) % b)
    rw [h.remainder_eq, Nat.mul_mod_mod, hscaled]

/-- More digits: the count that was asked for, or fewer with nothing left over. -/
theorem Keeps.extend (hb : 0 < b) (h : s.Keeps a b) (count : ℕ) :
    (s.extend b count).Keeps a b ∧ ∃ k ≤ count, (s.extend b count).scale = s.scale + k ∧
      ((s.extend b count).remainder = 0 ∨ k = count) := by
  -- on the digits that are asked for, from whatever state keeps the division
  induction count generalizing s with
  | zero => exact ⟨h, 0, le_rfl, rfl, .inr rfl⟩
  | succ count ih =>
    rw [LongDivision.extend]
    by_cases hrest : s.remainder = 0
    · rw [if_pos hrest]
      exact ⟨h, 0, Nat.zero_le _, rfl, .inl hrest⟩
    · rw [if_neg hrest]
      obtain ⟨hkeeps, k, hk, hscale, hend⟩ := ih (h.digit hb)
      refine ⟨hkeeps, k + 1, Nat.succ_le_succ hk, ?_, hend.imp_right (congrArg (· + 1))⟩
      rw [hscale]
      ring

end LongDivision

/-- The numerator is scaled until it reaches the denominator. -/
theorem le_mul_ten_pow_leadingShift {a b : ℕ} (ha : 0 < a) : b ≤ a * 10 ^ leadingShift a b := by
  fun_induction leadingShift a b with
  | case1 a h ih =>
    calc b ≤ 10 * a * 10 ^ leadingShift (10 * a) b := ih (by omega)
      _ = a * 10 ^ (leadingShift (10 * a) b + 1) := by ring
  | case2 a h =>
    rw [pow_zero, mul_one]
    omega

theorem leadingShift_of_le {a b : ℕ} (h : b ≤ a) : leadingShift a b = 0 := by
  rw [leadingShift, dif_neg fun hlt => not_lt.2 h hlt.2]

/-- And not any further. -/
theorem mul_ten_pow_leadingShift_lt {a b : ℕ} (h : a < b) : a * 10 ^ leadingShift a b < 10 * b := by
  fun_induction leadingShift a b with
  | case1 a hlt ih =>
    have hscaled : a * 10 ^ (leadingShift (10 * a) b + 1) =
        10 * a * 10 ^ leadingShift (10 * a) b := by
      ring
    rw [hscaled]
    by_cases hmore : 10 * a < b
    · exact ih hmore
    · rw [leadingShift_of_le (not_lt.1 hmore), pow_zero, mul_one]
      omega
  | case2 a hlt =>
    rw [pow_zero, mul_one]
    omega

/-! ## Rounding half up -/

/-- The digit after the last one decides the rounding. -/
theorem round_div_eq {m b : ℕ} (hb : 0 < b) :
    round ((m : ℚ) / b) = ((m / b + if 5 ≤ 10 * (m % b) / b then 1 else 0 : ℕ) : ℤ) := by
  have hpos : (0 : ℚ) < b := by exact_mod_cast hb
  have hsplit : (m : ℚ) / b = (m / b : ℕ) + (m % b : ℕ) / b := by
    rw [div_eq_iff hpos.ne', add_mul, div_mul_cancel₀ _ hpos.ne']
    exact_mod_cast (Nat.div_add_mod' m b).symm
  have hlt : m % b < b := Nat.mod_lt m hb
  have hhalf : 5 ≤ 10 * (m % b) / b ↔ b ≤ 2 * (m % b) := by
    rw [Nat.le_div_iff_mul_le hb]
    omega
  rw [hsplit, round_natCast_add, Nat.cast_add, add_right_inj, round_eq, Int.floor_eq_iff,
    div_add_div _ _ hpos.ne' two_ne_zero, le_div_iff₀ (by positivity), div_lt_iff₀ (by positivity)]
  simp only [hhalf]
  split
  · rename_i hup
    have hup' : (b : ℚ) ≤ 2 * (m % b : ℕ) := by exact_mod_cast hup
    have hlt' : ((m % b : ℕ) : ℚ) < b := by exact_mod_cast hlt
    push_cast
    constructor <;> linarith
  · rename_i hdown
    have hdown' : 2 * ((m % b : ℕ) : ℚ) < b := by exact_mod_cast not_le.1 hdown
    push_cast
    constructor <;> linarith [Nat.cast_nonneg (α := ℚ) (m % b)]

/-- A number of at least `unit` is rounded by half of that share of it at most. -/
theorem abs_round_sub_le {x unit : ℚ} (hunit : 0 < unit) (h : unit ≤ x) :
    |(round x : ℚ) - x| ≤ x * (1 / (2 * unit)) :=
  calc |(round x : ℚ) - x| = |x - round x| := abs_sub_comm _ _
    _ ≤ 1 / 2 := abs_sub_round x
    _ = unit * (1 / (2 * unit)) := by field_simp
    _ ≤ x * (1 / (2 * unit)) := mul_le_mul_of_nonneg_right h (by positivity)

/-! ## The quotient -/

section Quotient

variable {a b : ℕ}

/-- Every power of ten that a numerator is scaled by is one digit more of the quotient. -/
theorem digitCount_scaled {x : ℕ} (hpos : 0 < x / b) (k : ℕ) :
    Tickwise.digitCount (x * 10 ^ k / b) = Tickwise.digitCount (x / b) + k := by
  have hb : 0 < b := Nat.pos_of_ne_zero fun hzero => by simp [hzero] at hpos
  have hdigits := digitCount_pos (x / b)
  have hscaled := digitCount_pos (x * 10 ^ k / b)
  have hlow : 10 ^ (Tickwise.digitCount (x / b) + k - 1) ≤ x * 10 ^ k / b :=
    calc 10 ^ (Tickwise.digitCount (x / b) + k - 1)
        = 10 ^ k * 10 ^ (Tickwise.digitCount (x / b) - 1) := by
          rw [← pow_add]
          congr 1
          omega
      _ ≤ 10 ^ k * (x / b) := Nat.mul_le_mul_left _ (pow_digitCount_sub_one_le hpos)
      _ ≤ x * 10 ^ k / b := by
        rw [mul_comm x]
        exact Nat.mul_div_le_mul_div_assoc _ _ _
  have hhigh : x * 10 ^ k / b < 10 ^ (Tickwise.digitCount (x / b) + k) := by
    rw [Nat.div_lt_iff_lt_mul hb]
    calc x * 10 ^ k < (x / b + 1) * b * 10 ^ k :=
          Nat.mul_lt_mul_of_pos_right (Nat.lt_mul_of_div_lt (Nat.lt_succ_self _) hb) (by positivity)
      _ ≤ 10 ^ Tickwise.digitCount (x / b) * b * 10 ^ k := by
          gcongr
          exact lt_pow_digitCount _
      _ = 10 ^ (Tickwise.digitCount (x / b) + k) * b := by ring
  refine le_antisymm ((digitCount_le_iff (by omega)).2 hhigh) (not_lt.1 fun hfewer => ?_)
  have hlt := (digitCount_le_iff (by omega)).1 (Nat.le_sub_one_of_lt hfewer)
  exact not_lt.2 hlow hlt

/-- The digits that a long division begins with are at most those of the ratio, or one. -/
theorem digitCount_first_le (h : Tickwise.digitCount (a / b) ≤ precision) :
    Tickwise.digitCount (a * 10 ^ leadingShift a b / b) ≤ precision := by
  rcases le_or_gt b a with hle | hlt
  · rwa [leadingShift_of_le hle, pow_zero, mul_one]
  · have hdigit : a * 10 ^ leadingShift a b / b < 10 ^ 1 :=
      Nat.div_lt_of_lt_mul ((mul_ten_pow_leadingShift_lt hlt).trans_eq (by ring))
    exact ((digitCount_le_iff one_pos).2 hdigit).trans (by decide)

/-- The digits of a quotient, at a scale where nothing is left over or all of them stand. -/
theorem quotient_eq_digits (ha : 0 < a) (hb : 0 < b) (hne : a ≠ b) :
    ∃ scale : ℕ, quotient a b =
        ⟨(a * 10 ^ scale / b + if 5 ≤ 10 * (a * 10 ^ scale % b) / b then 1 else 0 : ℕ), scale⟩ ∧
      (b ∣ a * 10 ^ scale ∨ precision ≤ Tickwise.digitCount (a * 10 ^ scale / b)) ∧
      (Tickwise.digitCount (a / b) ≤ precision →
        Tickwise.digitCount (a * 10 ^ scale / b) ≤ precision) := by
  set shift := leadingShift a b
  have hkept : LongDivision.Keeps a b ⟨a * pow10 shift / b, shift, 10 * (a * pow10 shift % b)⟩ :=
    ⟨rfl, rfl⟩
  obtain ⟨hkeeps, k, hk, hscale, hend⟩ :=
    hkept.extend hb (precision - Tickwise.digitCount (a * pow10 shift / b))
  set last := LongDivision.extend b (precision - Tickwise.digitCount (a * pow10 shift / b)) _
  have hpos : 0 < a * 10 ^ shift / b := Nat.div_pos (le_mul_ten_pow_leadingShift ha) hb
  have hdigits : Tickwise.digitCount (a * 10 ^ last.scale / b) =
      Tickwise.digitCount (a * 10 ^ shift / b) + k := by
    rw [hscale, pow_add, ← mul_assoc, digitCount_scaled hpos]
  refine ⟨last.scale, ?_, ?_, fun hfew => ?_⟩
  · rw [quotient, if_neg ha.ne', if_neg hne, ← hkeeps.quotient_eq, ← hkeeps.remainder_eq]
  · -- the division has stopped early, or has made up for the digits it began without
    rcases hend with hexact | hall
    · have hrest := hkeeps.remainder_eq
      exact .inl (Nat.dvd_of_mod_eq_zero (by omega))
    · refine .inr ?_
      rw [hdigits, hall]
      exact le_add_tsub
  · have hfirst : Tickwise.digitCount (a * 10 ^ shift / b) ≤ precision := digitCount_first_le hfew
    rw [hdigits]
    exact (Nat.add_le_add_left hk _).trans_eq (Nat.add_sub_cancel' hfirst)

/-- **A quotient is the scaled ratio, rounded half up once.**  At its scale nothing is left over, or
the ratio has all its digits before the point. -/
theorem quotient_eq_round (ha : 0 < a) (hb : 0 < b) :
    ∃ scale digits : ℕ, quotient a b = ⟨digits, scale⟩ ∧
      (digits : ℤ) = round (((a * 10 ^ scale : ℕ) : ℚ) / b) ∧
      (b ∣ a * 10 ^ scale ∨ 10 ^ (precision - 1) ≤ a * 10 ^ scale / b) ∧
      (Tickwise.digitCount (a / b) ≤ precision → digits ≤ 10 ^ precision) := by
  by_cases hone : a = b
  · subst hone
    have hself : ((a * 10 ^ 0 : ℕ) : ℚ) / a = (1 : ℕ) := by
      have hne : (a : ℚ) ≠ 0 := by exact_mod_cast ha.ne'
      rw [pow_zero, mul_one, div_self hne, Nat.cast_one]
    refine ⟨0, 1, ?_, ?_, .inl ⟨1, by ring⟩, fun _ => Nat.one_le_pow _ _ (by norm_num)⟩
    · rw [quotient, if_neg ha.ne', if_pos rfl]
      rfl
    · rw [hself, round_natCast]
  obtain ⟨scale, hquotient, hend, hfew⟩ := quotient_eq_digits ha hb hone
  refine ⟨scale, _, hquotient, (round_div_eq hb).symm, hend.imp_right fun hall => ?_, fun h => ?_⟩
  · by_contra hlt
    have hless := (digitCount_le_iff (by decide)).2 (not_le.1 hlt)
    exact absurd (hall.trans hless) (by decide)
  · -- rounding up can reach the next power of ten
    have hlt := (digitCount_le_iff (by decide)).1 (hfew h)
    split
    · exact hlt
    · exact hlt.le

/-- A quotient has no more digits than it is carried to, but for the one that rounding can add. -/
theorem digitCount_quotient_le (hb : 0 < b) (h : Tickwise.digitCount (a / b) ≤ precision) :
    (quotient a b).digitCount ≤ precision + 1 := by
  rcases Nat.eq_zero_or_pos a with rfl | ha
  · rw [quotient, if_pos rfl]
    decide
  · obtain ⟨scale, digits, hquotient, -, -, hfew⟩ := quotient_eq_round ha hb
    rw [hquotient, Decimal.digitCount, Int.natAbs_natCast, digitCount_le_iff (Nat.succ_pos _)]
    exact (hfew h).trans_lt (Nat.pow_lt_pow_right (by norm_num) (Nat.lt_succ_self _))

/-- **A quotient is half a unit of its last digit off at most.** -/
theorem abs_value_quotient_sub_le (hb : 0 < b) :
    |(quotient a b).value - a / b| ≤ a / b * (1 / (2 * 10 ^ (precision - 1))) := by
  have hposb : (0 : ℚ) < b := by exact_mod_cast hb
  rcases Nat.eq_zero_or_pos a with rfl | ha
  · rw [quotient, if_pos rfl]
    simp [value, ofNat]
  obtain ⟨scale, digits, hquotient, hround, hend, -⟩ := quotient_eq_round ha hb
  set ratio : ℚ := ((a * 10 ^ scale : ℕ) : ℚ) / b with hratio
  have hunit : (a : ℚ) / b = ratio * 10 ^ (-(scale : ℤ)) := by
    rw [hratio, zpow_neg, zpow_natCast]
    push_cast
    field_simp
  have hvalue : (quotient a b).value = round ratio * 10 ^ (-(scale : ℤ)) := by
    rw [hquotient, value, ← hround]
  have hoff : |(round ratio : ℚ) - ratio| ≤ ratio * (1 / (2 * 10 ^ (precision - 1))) := by
    rcases hend with ⟨n, hn⟩ | hmany
    · have hwhole : ratio = n := by
        rw [hratio, hn, Nat.cast_mul, mul_div_cancel_left₀ _ hposb.ne']
      rw [hwhole, round_natCast, Int.cast_natCast, sub_self, abs_zero]
      positivity
    · have hlarge : (10 : ℚ) ^ (precision - 1) ≤ ratio :=
        calc (10 : ℚ) ^ (precision - 1) ≤ (a * 10 ^ scale / b : ℕ) := by exact_mod_cast hmany
          _ ≤ ratio := Nat.cast_div_le
      exact abs_round_sub_le (by positivity) hlarge
  have hscale : (0 : ℚ) < 10 ^ (-(scale : ℤ)) := ten_zpow_pos _
  rw [hvalue, hunit, ← sub_mul, abs_mul, abs_of_pos hscale, mul_right_comm]
  exact mul_le_mul_of_nonneg_right hoff hscale.le

end Quotient

end Tickwise.Decimal

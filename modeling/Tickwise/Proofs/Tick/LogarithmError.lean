import Tickwise.Proofs.Tick.LogarithmWord
import Tickwise.Proofs.Tick.SqrtRatio

/-!
# How far the logarithm is off

The fourteen bits fall short of the true logarithm by less than one part in `2 ^ 14`, and the
scale to the base of ticks is right to a few parts in `10 ^ 9`.  The error bounds that are taken
off and put on leave room for both, so the two candidates enclose the true tick.

* `log_ratio_bounds` — the bits found so far, and what the rest of the ratio is still worth;
* `tickLowCandidate_mul_le`, `lt_tickHighCandidate_mul` — the two candidates against the true
  logarithm of the price;
* `tickHighCandidate_bounds` — they are one tick apart at most.
-/

namespace Tickwise

namespace LogState

/-! ## The bits and the rest -/

/-- What is left of the ratio, on a scale on which a doubling is worth `log 2`. -/
noncomputable def rest (s : LogState) : ℝ := Real.log s.r.toNat - 127 * Real.log 2

/-- Cutting a large number back to a whole number hardly changes its logarithm. -/
theorem log_floor_bounds {n : ℕ} {y : ℝ} (hn : 2 ^ 127 ≤ n) (hle : n ≤ y) (hlt : y < n + 1) :
    Real.log n ≤ Real.log y ∧ Real.log y ≤ Real.log n + 1 / 2 ^ 127 := by
  have hn' : (2 : ℝ) ^ 127 ≤ n := by exact_mod_cast hn
  have hn0 : (0 : ℝ) < n := lt_of_lt_of_le (by positivity) hn'
  have hy0 : 0 < y := by linarith
  refine ⟨Real.log_le_log hn0 hle, ?_⟩
  have hquot : y / n ≤ 1 + 1 / 2 ^ 127 :=
    calc y / n ≤ (n + 1) / n := div_le_div_of_nonneg_right hlt.le hn0.le
      _ = 1 + 1 / n := by field_simp
      _ ≤ 1 + 1 / 2 ^ 127 := by linarith [one_div_le_one_div_of_le (by positivity) hn']
  have hlog := Real.log_le_sub_one_of_pos (div_pos hy0 hn0)
  rw [Real.log_div hy0.ne' hn0.ne'] at hlog
  linarith

/-- What is left at the start, beside the whole part of the logarithm. -/
theorem rest_start_bounds {ratio : ℕ} (h0 : 0 < ratio) (h : ratio < 2 ^ 256) :
    (start ratio).rest ≤ Real.log ratio - ratio.log2 * Real.log 2 ∧
      Real.log ratio - ratio.log2 * Real.log 2 ≤ (start ratio).rest + 1 / 2 ^ 127 := by
  have hr0 : (ratio : ℝ) ≠ 0 := by exact_mod_cast h0.ne'
  obtain ⟨hle, hlt⟩ := natDiv_bounds (ratio * 2 ^ 127) (d := 2 ^ ratio.log2) (by positivity)
  rw [← toNat_r_start h] at hle hlt
  have hlog : Real.log ((ratio * 2 ^ 127 : ℕ) / (2 ^ ratio.log2 : ℕ)) =
      Real.log ratio + 127 * Real.log 2 - ratio.log2 * Real.log 2 := by
    rw [Nat.cast_mul, Nat.cast_pow, Nat.cast_pow, Nat.cast_ofNat,
      Real.log_div (by positivity) (by positivity), Real.log_mul hr0 (by positivity),
      Real.log_pow, Real.log_pow]
    norm_num
  obtain ⟨h1, h2⟩ := log_floor_bounds (holds_start h0 h).le_r hle hlt
  rw [hlog] at h1 h2
  unfold rest
  exact ⟨by linarith, by linarith⟩

/-- What is left lies between one and two on its scale. -/
theorem Holds.rest_bounds {s : LogState} {clear : ℕ} {value : ℤ} (h : s.Holds clear value) :
    0 ≤ s.rest ∧ s.rest ≤ Real.log 2 := by
  have hlow : (2 : ℝ) ^ 127 ≤ s.r.toNat := by exact_mod_cast h.le_r
  have hhigh : (s.r.toNat : ℝ) ≤ 2 ^ 128 := by exact_mod_cast h.r_lt.le
  have h1 := Real.log_le_log (by positivity) hlow
  have h2 := Real.log_le_log (lt_of_lt_of_le (by positivity) hlow) hhigh
  rw [Real.log_pow, Nat.cast_ofNat] at h1 h2
  unfold rest
  exact ⟨by linarith, by linarith⟩

/-- A step doubles what is left, less the bit that it finds. -/
theorem Holds.rest_step_bounds {s : LogState} {position : ℕ} {value : ℤ}
    (h : s.Holds (position + 1) value) :
    (s.step position).rest ≤ 2 * s.rest - s.bit * Real.log 2 ∧
      2 * s.rest - s.bit * Real.log 2 ≤ (s.step position).rest + 1 / 2 ^ 127 := by
  have hr0 : (s.r.toNat : ℝ) ≠ 0 := by
    have := h.le_r
    exact_mod_cast (by omega : s.r.toNat ≠ 0)
  obtain ⟨hle, hlt⟩ := natDiv_bounds (s.r.toNat * s.r.toNat) (d := 2 ^ (127 + s.bit))
    (by positivity)
  rw [← h.toNat_r_step position] at hle hlt
  have hlog : Real.log ((s.r.toNat * s.r.toNat : ℕ) / (2 ^ (127 + s.bit) : ℕ)) =
      2 * Real.log s.r.toNat - (127 + s.bit) * Real.log 2 := by
    rw [Nat.cast_mul, Nat.cast_pow, Nat.cast_ofNat,
      Real.log_div (mul_ne_zero hr0 hr0) (by positivity), Real.log_mul hr0 hr0, Real.log_pow]
    push_cast
    ring
  obtain ⟨h1, h2⟩ := log_floor_bounds h.step.le_r hle hlt
  rw [hlog] at h1 h2
  unfold rest
  exact ⟨by linarith, by linarith⟩

/-- **The bits found so far and the rest make up the logarithm**, but for a few units of the
precision that the squares are cut back to. -/
theorem log_ratio_bounds {ratio : ℕ} (h0 : 0 < ratio) (h : ratio < 2 ^ 256) {k : ℕ}
    (hk : k ≤ 63) :
    logAfter ratio k / 2 ^ 64 * Real.log 2 + (after ratio k).rest / 2 ^ k ≤
        Real.log ratio - 128 * Real.log 2 ∧
      Real.log ratio - 128 * Real.log 2 ≤
        logAfter ratio k / 2 ^ 64 * Real.log 2 + (after ratio k).rest / 2 ^ k +
          (k + 1) / 2 ^ 127 := by
  induction k with
  | zero =>
    obtain ⟨h1, h2⟩ := rest_start_bounds h0 h
    have hlog : (logAfter ratio 0 : ℝ) / 2 ^ 64 = ratio.log2 - 128 := by
      simp only [logAfter]
      push_cast
      norm_num
    have hafter : after ratio 0 = start ratio := rfl
    rw [hlog, hafter, pow_zero, div_one, Nat.cast_zero, zero_add]
    exact ⟨by linarith, by linarith⟩
  | succ k ih =>
    obtain ⟨h1, h2⟩ := ih (by omega)
    have hholds := holds_after h0 h (k := k) (by omega)
    rw [show 64 - k = 63 - k + 1 by omega] at hholds
    obtain ⟨h3, h4⟩ := hholds.rest_step_bounds
    rw [← after_succ] at h3 h4
    -- the bit at `63 - k` has the weight `2 ^ (-(k + 1))`
    have hweight : (2 : ℝ) ^ (63 - k) / 2 ^ 64 = 1 / 2 ^ (k + 1) := by
      rw [div_eq_div_iff (by positivity) (by positivity), one_mul, ← pow_add]
      congr 1
      omega
    have hlog : (logAfter ratio (k + 1) : ℝ) / 2 ^ 64 * Real.log 2 =
        logAfter ratio k / 2 ^ 64 * Real.log 2 +
          (after ratio k).bit * Real.log 2 / 2 ^ (k + 1) := by
      simp only [logAfter]
      push_cast
      rw [add_div, mul_div_assoc, hweight]
      ring
    have hpos : (0 : ℝ) < 2 ^ (k + 1) := by positivity
    have h3' := div_le_div_of_nonneg_right h3 hpos.le
    have h4' := div_le_div_of_nonneg_right h4 hpos.le
    have hrest : (after ratio k).rest / 2 ^ k = 2 * (after ratio k).rest / 2 ^ (k + 1) := by
      rw [pow_succ]
      field_simp
    have hsmall : 1 / 2 ^ 127 / (2 : ℝ) ^ (k + 1) ≤ 1 / 2 ^ 127 :=
      div_le_self (by positivity) (one_le_pow₀ one_le_two)
    rw [hrest] at h1 h2
    rw [hlog]
    push_cast
    rw [sub_div] at h3' h4'
    rw [add_div] at h4'
    exact ⟨by linarith, by linarith⟩

end LogState

/-! ## The logarithm of a price -/

/-- The logarithm of a price to the base 2, in units of `2 ^ (-64)`, as the loop finds it. -/
def tickLog (price : ℕ) : ℤ := LogState.logAfter (price * 2 ^ 32) 14

variable {price : ℕ}

theorem two_pow_le_of_isInitializable (h : IsInitializable price) : 2 ^ 32 ≤ price :=
  le_trans (by decide) h.1

theorem lt_two_pow_of_isInitializable (h : IsInitializable price) : price < 2 ^ 160 :=
  h.2.trans_le (by decide)

theorem holds_of_isInitializable (h : IsInitializable price) {k : ℕ} (hk : k ≤ 64) :
    (LogState.after (price * 2 ^ 32) k).Holds (64 - k) (LogState.logAfter (price * 2 ^ 32) k) := by
  have hlow := two_pow_le_of_isInitializable h
  have hhigh := lt_two_pow_of_isInitializable h
  exact LogState.holds_after (by omega) (by omega) hk

/-- **The loop falls short of the logarithm by less than its last bit.** -/
theorem log_price_bounds (h : IsInitializable price) :
    tickLog price / 2 ^ 64 * Real.log 2 ≤ Real.log price - 96 * Real.log 2 ∧
      Real.log price - 96 * Real.log 2 ≤
        tickLog price / 2 ^ 64 * Real.log 2 + Real.log 2 / 2 ^ 14 + 15 / 2 ^ 127 := by
  have hlow := two_pow_le_of_isInitializable h
  have hhigh := lt_two_pow_of_isInitializable h
  have hp0 : (price : ℝ) ≠ 0 := by exact_mod_cast (by omega : price ≠ 0)
  have hratio : 0 < price * 2 ^ 32 ∧ price * 2 ^ 32 < 2 ^ 256 := by omega
  obtain ⟨h1, h2⟩ := LogState.log_ratio_bounds hratio.1 hratio.2 (k := 14) (by omega)
  have hlog : Real.log ((price * 2 ^ 32 : ℕ) : ℝ) = Real.log price + 32 * Real.log 2 := by
    rw [Nat.cast_mul, Nat.cast_pow, Nat.cast_ofNat, Real.log_mul hp0 (by positivity), Real.log_pow]
    norm_num
  obtain ⟨h3, h4⟩ := (holds_of_isInitializable h (k := 14) (by omega)).rest_bounds
  have h3' := div_nonneg h3 (by positivity : (0 : ℝ) ≤ 2 ^ 14)
  have h4' := div_le_div_of_nonneg_right h4 (by positivity : (0 : ℝ) ≤ 2 ^ 14)
  rw [hlog] at h1 h2
  push_cast at h2
  exact ⟨by unfold tickLog; linarith, by unfold tickLog; linarith⟩

/-- The loop's logarithm of a price has at most 71 bits. -/
theorem abs_tickLog_le (h : IsInitializable price) : |tickLog price| ≤ 65 * 2 ^ 64 := by
  obtain ⟨h1, h2⟩ := log_price_bounds h
  have hlog2 : 0 < Real.log 2 := Real.log_pos one_lt_two
  have hlow : 32 * Real.log 2 ≤ Real.log price := by
    rw [← Nat.cast_ofNat (R := ℝ) (n := 32), ← Real.log_pow]
    exact Real.log_le_log (by positivity) (by exact_mod_cast two_pow_le_of_isInitializable h)
  have hhigh : Real.log price ≤ 160 * Real.log 2 := by
    rw [← Nat.cast_ofNat (R := ℝ) (n := 160), ← Real.log_pow]
    refine Real.log_le_log ?_ (by exact_mod_cast (lt_two_pow_of_isInitializable h).le)
    exact_mod_cast (by have := two_pow_le_of_isInitializable h; omega : 0 < price)
  have hle : (tickLog price : ℝ) / 2 ^ 64 ≤ 64 :=
    le_of_mul_le_mul_right (by linarith) hlog2
  have hge : -65 ≤ (tickLog price : ℝ) / 2 ^ 64 := by
    refine le_of_mul_le_mul_right ?_ hlog2
    have := Real.log_two_gt_d9
    linarith
  rw [div_le_iff₀ (by positivity)] at hle
  rw [le_div_iff₀ (by positivity)] at hge
  refine abs_le.2 ⟨?_, ?_⟩
  · exact_mod_cast (by linarith : (-(65 * 2 ^ 64) : ℝ) ≤ tickLog price)
  · exact_mod_cast (by linarith : (tickLog price : ℝ) ≤ 65 * 2 ^ 64)

/-! ## The scale of ticks -/

theorem log_tickRoot_bounds :
    1 / 20001 ≤ Real.log tickRoot ∧ Real.log tickRoot ≤ 1 / 20001 + 1.3e-13 := by
  have hlog : Real.log tickRoot =
      1 / 2 * Real.log ((1 + 1 / 20001) / (1 - 1 / 20001)) := by
    rw [tickRoot, Real.log_sqrt (by norm_num)]
    norm_num
    ring
  have hlow := Real.sum_range_le_log_div (x := 1 / 20001) (by norm_num) (by norm_num) 1
  have hhigh := Real.log_div_le_sum_range_add (x := 1 / 20001) (by norm_num) (by norm_num) 1
  rw [hlog]
  norm_num at hlow hhigh ⊢
  exact ⟨by linarith, by linarith⟩

theorem toInt_logScale : logScale.toInt = 0x3627a301d71055774c85 := by decide

theorem toInt_lowerError : lowerError.toInt = 0x28f6481ab7f045a5af012a19d003aaa := by decide

theorem toInt_upperError : upperError.toInt = 0xdb2df09e81959a81455e260799a0632f := by decide

/-- The scale from base 2 to the base of ticks, as a real number. -/
noncomputable def realScale : ℝ := logScale.toInt / 2 ^ 64

/-- The scale is right to a few parts in `10 ^ 9`. -/
theorem abs_realScale_mul_sub_le : |realScale * Real.log tickRoot - Real.log 2| ≤ 3e-9 := by
  obtain ⟨hlow, hhigh⟩ := log_tickRoot_bounds
  have h1 := Real.log_two_gt_d9
  have h2 := Real.log_two_lt_d9
  have h0 : 0 ≤ realScale := by
    rw [realScale, toInt_logScale]
    norm_num
  have h3 : realScale * (1 / 20001) ≤ realScale * Real.log tickRoot :=
    mul_le_mul_of_nonneg_left hlow h0
  have h4 : realScale * Real.log tickRoot ≤ realScale * (1 / 20001 + 1.3e-13) :=
    mul_le_mul_of_nonneg_left hhigh h0
  have h5 : (0.6931471799 : ℝ) ≤ realScale * (1 / 20001) := by
    rw [realScale, toInt_logScale]
    norm_num
  have h6 : realScale * (1 / 20001 + 1.3e-13) ≤ 0.6931471818 := by
    rw [realScale, toInt_logScale]
    norm_num
  exact abs_le.2 ⟨by linarith, by linarith⟩

/-! ## The candidates -/

/-- The word of the logarithm stands for its number. -/
theorem log2Word_of_isInitializable (h : IsInitializable price) :
    log2Word (price * pow2 32) = BitVec.ofInt 256 (tickLog price) := by
  rw [LogState.log2Word_eq]
  exact (holds_of_isInitializable h (k := 14) (by omega)).log_eq

/-- The scaled logarithm on its word. -/
theorem scaledLog_eq (h : IsInitializable price) :
    log2Word (price * pow2 32) * logScale = BitVec.ofInt 256 (tickLog price * logScale.toInt) := by
  rw [BitVec.ofInt_mul, BitVec.ofInt_toInt, log2Word_of_isInitializable h]

/-- The scaled logarithm stays far below the end of its word. -/
theorem scaledLog_bounds (h : IsInitializable price) :
    -2 ^ 158 ≤ tickLog price * logScale.toInt ∧ tickLog price * logScale.toInt < 2 ^ 158 := by
  have hsize := abs_le.1 (abs_tickLog_le h)
  rw [toInt_logScale]
  omega

theorem scaledLog_sub_lowerError_eq (h : IsInitializable price) :
    log2Word (price * pow2 32) * logScale - lowerError =
      BitVec.ofInt 256 (tickLog price * logScale.toInt - lowerError.toInt) := by
  rw [scaledLog_eq h, Int.sub_eq_add_neg, BitVec.ofInt_add, BitVec.ofInt_neg, BitVec.ofInt_toInt,
    ← BitVec.sub_eq_add_neg]

theorem scaledLog_add_upperError_eq (h : IsInitializable price) :
    log2Word (price * pow2 32) * logScale + upperError =
      BitVec.ofInt 256 (tickLog price * logScale.toInt + upperError.toInt) := by
  rw [scaledLog_eq h, BitVec.ofInt_add, BitVec.ofInt_toInt]

theorem tickLowCandidate_eq (h : IsInitializable price) :
    tickLowCandidate price = (tickLog price * logScale.toInt - lowerError.toInt) / 2 ^ 128 := by
  obtain ⟨hmin, hmax⟩ := scaledLog_bounds h
  rw [tickLowCandidate, scaledLog_sub_lowerError_eq h, wholePart_ofInt] <;>
    rw [toInt_lowerError] <;> linarith

theorem tickHighCandidate_eq (h : IsInitializable price) :
    tickHighCandidate price = (tickLog price * logScale.toInt + upperError.toInt) / 2 ^ 128 := by
  obtain ⟨hmin, hmax⟩ := scaledLog_bounds h
  rw [tickHighCandidate, scaledLog_add_upperError_eq h, wholePart_ofInt] <;>
    rw [toInt_upperError] <;> linarith

/-- The scaled logarithm against the true one. -/
theorem abs_tickLog_mul_sub_le (h : IsInitializable price) :
    |tickLog price / 2 ^ 64 * (realScale * Real.log tickRoot) -
      tickLog price / 2 ^ 64 * Real.log 2| ≤ 2e-7 := by
  have hsize : |(tickLog price : ℝ) / 2 ^ 64| ≤ 65 := by
    rw [abs_div, abs_of_pos (by positivity : (0 : ℝ) < 2 ^ 64), div_le_iff₀ (by positivity)]
    exact_mod_cast abs_tickLog_le h
  rw [← mul_sub, abs_mul]
  calc |(tickLog price : ℝ) / 2 ^ 64| * |realScale * Real.log tickRoot - Real.log 2|
      ≤ 65 * 3e-9 := mul_le_mul hsize abs_realScale_mul_sub_le (abs_nonneg _) (by norm_num)
    _ ≤ 2e-7 := by norm_num

/-- **The lower candidate is at a price below the given one.** -/
theorem tickLowCandidate_mul_le (h : IsInitializable price) :
    tickLowCandidate price * Real.log tickRoot ≤ Real.log price - 96 * Real.log 2 - 1e-7 := by
  obtain ⟨hlog, -⟩ := log_price_bounds h
  obtain ⟨-, hscale⟩ := abs_le.1 (abs_tickLog_mul_sub_le h)
  obtain ⟨hroot, -⟩ := log_tickRoot_bounds
  have hfloor : (tickLowCandidate price : ℝ) ≤
      tickLog price / 2 ^ 64 * realScale - lowerError.toInt / 2 ^ 128 := by
    have hdiv : tickLowCandidate price * 2 ^ 128 ≤
        tickLog price * logScale.toInt - lowerError.toInt := by
      rw [tickLowCandidate_eq h]
      exact Int.ediv_mul_le _ (by norm_num)
    have hdiv' : (tickLowCandidate price : ℝ) * 2 ^ 128 ≤
        tickLog price * logScale.toInt - lowerError.toInt := by exact_mod_cast hdiv
    rw [← le_div_iff₀ (by positivity)] at hdiv'
    refine hdiv'.trans_eq ?_
    rw [realScale]
    ring
  have herror : (4.9e-7 : ℝ) ≤ lowerError.toInt / 2 ^ 128 * Real.log tickRoot :=
    calc (4.9e-7 : ℝ) ≤ lowerError.toInt / 2 ^ 128 * (1 / 20001) := by
          rw [toInt_lowerError]
          norm_num
      _ ≤ lowerError.toInt / 2 ^ 128 * Real.log tickRoot := by
          refine mul_le_mul_of_nonneg_left hroot ?_
          rw [toInt_lowerError]
          norm_num
  have hmul := mul_le_mul_of_nonneg_right hfloor (by linarith only [hroot] : 0 ≤ Real.log tickRoot)
  rw [sub_mul, mul_assoc (_ / _)] at hmul
  linarith only [hmul, herror, hlog, hscale]

/-- **The tick after the higher candidate is at a price above the given one.** -/
theorem lt_tickHighCandidate_mul (h : IsInitializable price) :
    Real.log price - 96 * Real.log 2 + 1e-7 <
      (tickHighCandidate price + 1) * Real.log tickRoot := by
  obtain ⟨-, hlog⟩ := log_price_bounds h
  obtain ⟨hscale, -⟩ := abs_le.1 (abs_tickLog_mul_sub_le h)
  obtain ⟨hroot, -⟩ := log_tickRoot_bounds
  have hroot0 : 0 < Real.log tickRoot := by linarith only [hroot]
  have hfloor : tickLog price / 2 ^ 64 * realScale + upperError.toInt / 2 ^ 128 <
      (tickHighCandidate price : ℝ) + 1 := by
    have hdiv : tickLog price * logScale.toInt + upperError.toInt <
        (tickHighCandidate price + 1) * 2 ^ 128 := by
      rw [tickHighCandidate_eq h]
      exact Int.lt_ediv_add_one_mul_self _ (by norm_num)
    have hdiv' : (tickLog price : ℝ) * logScale.toInt + upperError.toInt <
        (tickHighCandidate price + 1) * 2 ^ 128 := by exact_mod_cast hdiv
    rw [← div_lt_iff₀ (by positivity)] at hdiv'
    refine lt_of_eq_of_lt ?_ hdiv'
    rw [realScale]
    ring
  -- the last bit of the logarithm is worth somewhat less than the error that is put on
  have herror : (4.28063e-5 : ℝ) ≤ upperError.toInt / 2 ^ 128 * Real.log tickRoot :=
    calc (4.28063e-5 : ℝ) ≤ upperError.toInt / 2 ^ 128 * (1 / 20001) := by
          rw [toInt_upperError]
          norm_num
      _ ≤ upperError.toInt / 2 ^ 128 * Real.log tickRoot := by
          refine mul_le_mul_of_nonneg_left hroot ?_
          rw [toInt_upperError]
          norm_num
  have hbit : Real.log 2 / 2 ^ 14 + 15 / 2 ^ 127 ≤ 4.23064e-5 :=
    calc Real.log 2 / 2 ^ 14 + 15 / 2 ^ 127 ≤ 0.6931471808 / 2 ^ 14 + 15 / 2 ^ 127 := by
          gcongr
          exact Real.log_two_lt_d9.le
      _ ≤ 4.23064e-5 := by norm_num
  have hmul := mul_lt_mul_of_pos_right hfloor hroot0
  rw [add_mul, mul_assoc (_ / _)] at hmul
  linarith only [hmul, herror, hbit, hlog, hscale]

/-- The candidates are the same tick or neighbours. -/
theorem tickHighCandidate_bounds (h : IsInitializable price) :
    tickLowCandidate price ≤ tickHighCandidate price ∧
      tickHighCandidate price ≤ tickLowCandidate price + 1 := by
  rw [tickLowCandidate_eq h, tickHighCandidate_eq h, toInt_lowerError, toInt_upperError]
  omega

end Tickwise

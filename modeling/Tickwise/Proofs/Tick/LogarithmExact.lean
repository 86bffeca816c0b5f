import Tickwise.Proofs.Tick.LogarithmError

/-!
# The logarithm on words is the logarithm in numbers

Nothing is lost on the way from a price to its two candidates.  The square of what is left of the
ratio stays below the end of its word, each bit is set where the word is still clear, the scaled
logarithm with its error bounds is a signed number of 256 bits, and its whole part one of 32 bits.

* `LogState.found`, `LogState.StepExact` — the bit that a step finds, and what the step keeps;
* `LogState.Holds.stepExact` — every step keeps it;
* `LogState.logAfter_eq_sum` — the logarithm is its whole part and the sum of the bits;
* `Narrows`, `narrows_ofInt` — a word that stands for a number, down to its narrowed whole part;
* `tick_logarithm_exact` — the whole way from a price to its candidates.
-/

namespace Tickwise

namespace LogState

/-! ## One step -/

/-- The word of the bit that the next step finds. -/
def found (s : LogState) : Word := ((s.r * s.r) >>> 127) >>> 128

/-- A step at a position is exact. -/
structure StepExact (s : LogState) (position : ℕ) : Prop where
  /-- The square fits its word. -/
  toNat_square : (s.r * s.r).toNat = s.r.toNat * s.r.toNat
  /-- What is found is a bit. -/
  found_bit : s.found = 0 ∨ s.found = 1
  /-- The logarithm has no bit yet at the position. -/
  clear : s.log.getLsbD position = false
  /-- The bit is added by being set. -/
  log_step : (s.step position).log = s.log + s.found <<< position

variable {s : LogState} {position : ℕ} {log : ℤ}

theorem Holds.found_eq {clear : ℕ} (h : s.Holds clear log) :
    s.found = BitVec.ofNat 256 s.bit :=
  h.square_shiftRight

theorem Holds.toNat_found {clear : ℕ} (h : s.Holds clear log) : s.found.toNat = s.bit := by
  have hbit := h.bit_le_one
  rw [h.found_eq, BitVec.toNat_ofNat, Nat.mod_eq_of_lt (by omega)]

/-- A multiple of a power of two has no bits below it. -/
theorem getLsbD_ofInt_of_dvd {n : ℤ} {k i : ℕ} (h : 2 ^ k ∣ n) (hi : i < k) :
    (BitVec.ofInt 256 n).getLsbD i = false := by
  obtain ⟨m, rfl⟩ := h
  rw [mul_comm, ← ofInt_shiftLeft, BitVec.getLsbD_shiftLeft]
  simp [hi]

/-- **Every step is exact.** -/
theorem Holds.stepExact (h : s.Holds (position + 1) log) : s.StepExact position := by
  refine ⟨?square, ?bit, ?clear, ?step⟩
  case square => rw [BitVec.toNat_mul, Nat.mod_eq_of_lt h.mul_self_lt]
  case bit =>
    rw [h.found_eq]
    rcases Nat.le_one_iff_eq_zero_or_eq_one.1 h.bit_le_one with hbit | hbit <;> simp [hbit]
  case clear =>
    rw [h.log_eq]
    exact getLsbD_ofInt_of_dvd h.dvd_log (Nat.lt_succ_self position)
  case step =>
    have hbit : s.found <<< position = BitVec.ofInt 256 (s.bit * 2 ^ position) := by
      rw [h.found_eq, ← BitVec.ofInt_natCast, ofInt_shiftLeft]
    rw [h.step.log_eq, BitVec.ofInt_add, ← h.log_eq, hbit]

/-! ## All steps -/

/-- The logarithm is its whole part and the bits that were found, each at its position. -/
theorem logAfter_eq_sum {ratio : ℕ} (h0 : 0 < ratio) (h : ratio < 2 ^ 256) {k : ℕ} (hk : k ≤ 64) :
    logAfter ratio k = ((ratio.log2 : ℤ) - 128) * 2 ^ 64 +
      ∑ i ∈ Finset.range k, ((after ratio i).found.toNat : ℤ) * 2 ^ (63 - i) := by
  induction k with
  | zero => simp [logAfter]
  | succ k ih =>
    have hstate := holds_after h0 h (k := k) (by omega)
    rw [logAfter, ih (by omega), Finset.sum_range_succ, hstate.toNat_found, add_assoc]

end LogState

/-! ## Candidates -/

/-- A word stands for a number of 256 bits with a sign, and is narrowed to the whole part of the
number, which has 32 bits with a sign. -/
structure Narrows (w : Word) (n : ℤ) : Prop where
  fits : FitsSigned 256 n
  toInt_eq : w.toInt = n
  whole_fits : FitsSigned 32 (n / 2 ^ 128)
  toInt_shifted : (w.sshiftRight 128).toInt = n / 2 ^ 128
  wholePart_eq : wholePart w = n / 2 ^ 128

theorem toInt_ofInt_of_fits {n : ℤ} (h : FitsSigned 256 n) : (BitVec.ofInt 256 n).toInt = n :=
  BitVec.toInt_ofInt_eq_self (by decide) h.1 h.2

theorem narrows_ofInt {n : ℤ} (hlow : -2 ^ 159 ≤ n) (hhigh : n < 2 ^ 159) :
    Narrows (BitVec.ofInt 256 n) n := by
  have hfits : FitsSigned 256 n := by
    constructor
    · exact le_trans (by decide) hlow
    · exact lt_of_lt_of_le hhigh (by decide)
  have hwhole : FitsSigned 32 (n / 2 ^ 128) := by
    show -(2 ^ 31 : ℤ) ≤ n / 2 ^ 128 ∧ n / 2 ^ 128 < (2 ^ 31 : ℤ)
    omega
  refine ⟨hfits, toInt_ofInt_of_fits hfits, hwhole, ?_, wholePart_ofInt hlow hhigh⟩
  rw [BitVec.toInt_sshiftRight, toInt_ofInt_of_fits hfits, Int.shiftRight_eq_div_pow]
  rfl

variable {price : ℕ}

theorem toInt_log2Word (h : IsInitializable price) :
    (log2Word (price * pow2 32)).toInt = tickLog price := by
  have hsize := abs_le.1 (abs_tickLog_le h)
  rw [log2Word_of_isInitializable h]
  apply toInt_ofInt_of_fits
  show -(2 ^ 255 : ℤ) ≤ tickLog price ∧ tickLog price < (2 ^ 255 : ℤ)
  omega

/-! ## From a price to its candidates -/

/-- The way from a price to the candidates for its tick loses nothing on its words. -/
structure ExactLogarithm (price : ℕ) : Prop where
  /-- The price with 32 more fractional bits is a word. -/
  ratio_lt : price * pow2 32 < wordLimit
  /-- What is left of the ratio keeps its size, from the start to the last of the fourteen steps. -/
  size : ∀ k ≤ 14, 2 ^ 127 ≤ (LogState.after (price * pow2 32) k).r.toNat ∧
    (LogState.after (price * pow2 32) k).r.toNat < 2 ^ 128
  /-- Each step squares without loss and sets a bit that was clear. -/
  step : ∀ k < 14, (LogState.after (price * pow2 32) k).StepExact (63 - k)
  /-- The word of the logarithm is its whole part and the sum of the bits, with a sign. -/
  toInt_log : (log2Word (price * pow2 32)).toInt =
    (((price * pow2 32).log2 : ℤ) - 128) * 2 ^ 64 +
      ∑ k ∈ Finset.range 14,
        ((LogState.after (price * pow2 32) k).found.toNat : ℤ) * 2 ^ (63 - k)
  /-- The scaled logarithm is a number of 256 bits with a sign. -/
  scaled_fits : FitsSigned 256 ((log2Word (price * pow2 32)).toInt * logScale.toInt)
  toInt_scaled : (log2Word (price * pow2 32) * logScale).toInt =
    (log2Word (price * pow2 32)).toInt * logScale.toInt
  /-- So is what either candidate is taken from, and the candidate is the whole part of that. -/
  low : Narrows (log2Word (price * pow2 32) * logScale - lowerError)
    ((log2Word (price * pow2 32)).toInt * logScale.toInt - lowerError.toInt)
  high : Narrows (log2Word (price * pow2 32) * logScale + upperError)
    ((log2Word (price * pow2 32)).toInt * logScale.toInt + upperError.toInt)
  /-- The candidates are the same tick or neighbours. -/
  apart : tickHighCandidate price - tickLowCandidate price = 0 ∨
    tickHighCandidate price - tickLowCandidate price = 1

/-- **The logarithm on words is the logarithm in numbers**, for every price within the bounds. -/
theorem tick_logarithm_exact (h : IsInitializable price) : ExactLogarithm price := by
  have hholds := fun k (hk : k ≤ 14) => holds_of_isInitializable h (k := k) (by omega)
  have hratio : 0 < price * 2 ^ 32 := by
    have := two_pow_le_of_isInitializable h
    omega
  have hlt : price * 2 ^ 32 < 2 ^ 256 := by
    have := lt_two_pow_of_isInitializable h
    omega
  obtain ⟨hmin, hmax⟩ := scaledLog_bounds h
  have hfits : FitsSigned 256 (tickLog price * logScale.toInt) :=
    ⟨le_trans (by decide) hmin, lt_of_lt_of_le hmax (by decide)⟩
  refine ⟨?ratio, ?size, ?step, ?log, ?fits, ?scaled, ?low, ?high, ?apart⟩
  case ratio => exact hlt
  case size =>
    intro k hk
    exact ⟨(hholds k hk).le_r, (hholds k hk).r_lt⟩
  case step =>
    intro k hk
    have hstate := hholds k hk.le
    rw [show 64 - k = 63 - k + 1 by omega] at hstate
    exact hstate.stepExact
  case log =>
    rw [toInt_log2Word h]
    exact LogState.logAfter_eq_sum hratio hlt (by omega)
  case fits => rwa [toInt_log2Word h]
  case scaled => rw [scaledLog_eq h, toInt_ofInt_of_fits hfits, toInt_log2Word h]
  case low =>
    rw [scaledLog_sub_lowerError_eq h, toInt_log2Word h]
    apply narrows_ofInt <;> rw [toInt_lowerError] <;> linarith
  case high =>
    rw [scaledLog_add_upperError_eq h, toInt_log2Word h]
    apply narrows_ofInt <;> rw [toInt_upperError] <;> linarith
  case apart =>
    obtain ⟨hlow, hhigh⟩ := tickHighCandidate_bounds h
    omega

/-- At the lowest price, where the logarithm is negative and the candidates differ. -/
theorem tick_logarithm_exact_at_minSqrtRatio :
    IsInitializable minSqrtRatio ∧ ExactLogarithm minSqrtRatio ∧
      tickLowCandidate minSqrtRatio = minTick - 1 ∧ tickHighCandidate minSqrtRatio = minTick :=
  ⟨by decide, tick_logarithm_exact (by decide), by decide, by decide⟩

end Tickwise

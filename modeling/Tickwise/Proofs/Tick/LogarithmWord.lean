import Mathlib
import Tickwise.Tick.Logarithm

/-!
# The logarithm on machine words

The base-2 logarithm of a ratio is collected bit by bit in a word of 256 bits.  This file follows
the loop on that word: what is left of the ratio keeps its size, so its square never leaves the
word, and every bit is set where the word is still clear, so the word stands for the sum of the
bits that were found.

* `LogState.Holds` — what is true of a logarithm in progress;
* `LogState.Holds.step` — each step keeps it, one position further down;
* `LogState.log2Word_eq`, `LogState.holds_after` — the state after any of the fourteen steps;
* `wholePart_ofInt` — the whole part of a signed number that is read back from its word.
-/

namespace Tickwise

/-! ## Signed numbers and their words -/

theorem ofInt_shiftLeft (n : ℤ) (k : ℕ) :
    BitVec.ofInt 256 n <<< k = BitVec.ofInt 256 (n * 2 ^ k) := by
  rw [BitVec.shiftLeft_eq_mul_twoPow, BitVec.ofInt_mul]
  congr 1
  apply BitVec.eq_of_toNat_eq
  have h : BitVec.ofInt 256 ((2 : ℤ) ^ k) = BitVec.ofNat 256 (2 ^ k) := by
    exact_mod_cast BitVec.ofInt_natCast 256 (2 ^ k)
  rw [h, BitVec.toNat_twoPow, BitVec.toNat_ofNat]

/-- Setting a bit where a word is clear adds the bit to its number. -/
theorem ofInt_or_shiftLeft {n : ℤ} {bit k : ℕ} (hbit : bit ≤ 1) (h : 2 ^ (k + 1) ∣ n) :
    BitVec.ofInt 256 n ||| (BitVec.ofNat 256 bit <<< k) = BitVec.ofInt 256 (n + bit * 2 ^ k) := by
  obtain ⟨m, rfl⟩ := h
  rw [BitVec.ofInt_add, ← ofInt_shiftLeft, BitVec.ofInt_natCast, mul_comm, ← ofInt_shiftLeft]
  refine (BitVec.add_eq_or_of_and_eq_zero _ _ ?_).symm
  rcases Nat.le_one_iff_eq_zero_or_eq_one.1 hbit with rfl | rfl
  · simp
  · rw [← BitVec.twoPow_eq, BitVec.and_twoPow]
    simp

/-- The whole part of a number with 128 fractional bits survives its narrowing to 32 bits. -/
theorem wholePart_ofInt {n : ℤ} (hlow : -2 ^ 159 ≤ n) (hhigh : n < 2 ^ 159) :
    wholePart (BitVec.ofInt 256 n) = n / 2 ^ 128 := by
  have hshift : (BitVec.ofInt 256 n).sshiftRight 128 = BitVec.ofInt 256 (n / 2 ^ 128) := by
    apply BitVec.eq_of_toInt_eq
    rw [BitVec.toInt_sshiftRight, BitVec.toInt_ofInt_eq_self (by decide) (by omega) (by omega),
      BitVec.toInt_ofInt_eq_self (by decide) (by omega) (by omega), Int.shiftRight_eq_div_pow]
    rfl
  have hmod : n / 2 ^ 128 % 2 ^ 256 % 2 ^ 32 = n / 2 ^ 128 % 2 ^ 32 :=
    Int.emod_emod_of_dvd _ (by decide)
  rw [wholePart, hshift, BitVec.toInt_setWidth, BitVec.toNat_ofInt,
    Int.toNat_of_nonneg (by omega), Int.bmod_def]
  push_cast
  omega

namespace LogState

/-! ## One bit -/

/-- The bit that the next step finds. -/
def bit (s : LogState) : ℕ := s.r.toNat * s.r.toNat / 2 ^ 255

/-- What is true of a logarithm in progress: the rest of the ratio has its size, and the word
stands for a number whose lowest bits are still clear. -/
structure Holds (s : LogState) (clear : ℕ) (log : ℤ) : Prop where
  le_r : 2 ^ 127 ≤ s.r.toNat
  r_lt : s.r.toNat < 2 ^ 128
  log_eq : s.log = BitVec.ofInt 256 log
  dvd_log : 2 ^ clear ∣ log

variable {s : LogState} {clear : ℕ} {log : ℤ}

/-- The square of what is left fits its word. -/
theorem Holds.mul_self_lt (h : s.Holds clear log) : s.r.toNat * s.r.toNat < 2 ^ 256 :=
  calc s.r.toNat * s.r.toNat < 2 ^ 128 * 2 ^ 128 := Nat.mul_lt_mul'' h.r_lt h.r_lt
    _ = 2 ^ 256 := by decide

theorem Holds.le_mul_self (h : s.Holds clear log) : 2 ^ 254 ≤ s.r.toNat * s.r.toNat :=
  calc 2 ^ 254 = 2 ^ 127 * 2 ^ 127 := by decide
    _ ≤ s.r.toNat * s.r.toNat := Nat.mul_le_mul h.le_r h.le_r

theorem Holds.bit_le_one (h : s.Holds clear log) : s.bit ≤ 1 := by
  have := h.mul_self_lt
  unfold bit
  omega

theorem Holds.toNat_square (h : s.Holds clear log) :
    ((s.r * s.r) >>> 127).toNat = s.r.toNat * s.r.toNat / 2 ^ 127 := by
  rw [BitVec.toNat_ushiftRight, BitVec.toNat_mul, Nat.mod_eq_of_lt h.mul_self_lt,
    Nat.shiftRight_eq_div_pow]

/-- The bit on its word. -/
theorem Holds.square_shiftRight (h : s.Holds clear log) :
    ((s.r * s.r) >>> 127) >>> 128 = BitVec.ofNat 256 s.bit := by
  apply BitVec.eq_of_toNat_eq
  have hbit := h.bit_le_one
  rw [BitVec.toNat_ushiftRight, h.toNat_square, Nat.shiftRight_eq_div_pow, Nat.div_div_eq_div_mul,
    BitVec.toNat_ofNat, Nat.mod_eq_of_lt (by omega)]
  rfl

/-- A step squares what is left, and halves the square if it has doubled its size. -/
theorem Holds.toNat_r_step (h : s.Holds clear log) (position : ℕ) :
    (s.step position).r.toNat = s.r.toNat * s.r.toNat / 2 ^ (127 + s.bit) := by
  have hbit := h.bit_le_one
  simp only [LogState.step]
  rw [h.square_shiftRight, BitVec.toNat_ofNat, Nat.mod_eq_of_lt (by omega),
    BitVec.toNat_ushiftRight, h.toNat_square, Nat.shiftRight_eq_div_pow, Nat.div_div_eq_div_mul,
    ← pow_add]

/-- **A step finds one more bit.**  It is set where the word is clear, so the number grows by its
value, and what is left keeps its size. -/
theorem Holds.step {position : ℕ} (h : s.Holds (position + 1) log) :
    (s.step position).Holds position (log + s.bit * 2 ^ position) := by
  have hlow := h.le_mul_self
  have hhigh := h.mul_self_lt
  have hsize : 2 ^ 127 ≤ (s.step position).r.toNat ∧ (s.step position).r.toNat < 2 ^ 128 := by
    rw [h.toNat_r_step]
    rcases Nat.le_one_iff_eq_zero_or_eq_one.1 h.bit_le_one with hbit | hbit <;>
      · rw [hbit]
        unfold bit at hbit
        omega
  refine ⟨hsize.1, hsize.2, ?_, ?_⟩
  · rw [← ofInt_or_shiftLeft h.bit_le_one h.dvd_log, ← h.log_eq, ← h.square_shiftRight]
    rfl
  · exact dvd_add ((pow_dvd_pow 2 (Nat.le_succ _)).trans h.dvd_log) (Dvd.intro_left _ rfl)

/-! ## The loop -/

/-- The state after the highest `k` fractional bits. -/
def after (ratio k : ℕ) : LogState :=
  ((List.range k).map (63 - ·)).foldl LogState.step (.start ratio)

/-- The logarithm after the highest `k` fractional bits, in units of `2 ^ (-64)`. -/
def logAfter (ratio : ℕ) : ℕ → ℤ
  | 0 => ((ratio.log2 : ℤ) - 128) * 2 ^ 64
  | k + 1 => logAfter ratio k + (after ratio k).bit * 2 ^ (63 - k)

theorem after_succ (ratio k : ℕ) : after ratio (k + 1) = (after ratio k).step (63 - k) := by
  rw [after, List.range_succ, List.map_append, List.foldl_append]
  rfl

/-- The logarithm is what fourteen steps have collected. -/
theorem log2Word_eq (ratio : ℕ) : log2Word ratio = (after ratio 14).log := rfl

/-- The ratio is scaled to one bit below `2 ^ 128`. -/
theorem toNat_r_start {ratio : ℕ} (h : ratio < 2 ^ 256) :
    (start ratio).r.toNat = ratio * 2 ^ 127 / 2 ^ ratio.log2 := by
  have hself : ratio < 2 ^ (ratio.log2 + 1) := Nat.lt_log2_self
  simp only [start]
  split
  · rename_i hmsb
    have hpow : 2 ^ ratio.log2 = 2 ^ (ratio.log2 - 127) * 2 ^ 127 := by
      rw [← pow_add, Nat.sub_add_cancel (by omega)]
    rw [BitVec.toNat_ushiftRight, BitVec.toNat_ofNat, Nat.mod_eq_of_lt h,
      Nat.shiftRight_eq_div_pow, hpow, Nat.mul_div_mul_right _ _ (by positivity)]
  · rename_i hmsb
    have hpow : 2 ^ 127 = 2 ^ (127 - ratio.log2) * 2 ^ ratio.log2 := by
      rw [← pow_add, Nat.sub_add_cancel (by omega)]
    have hlt : ratio * 2 ^ (127 - ratio.log2) < 2 ^ 256 :=
      calc ratio * 2 ^ (127 - ratio.log2) < 2 ^ (ratio.log2 + 1) * 2 ^ (127 - ratio.log2) :=
            Nat.mul_lt_mul_of_pos_right hself (by positivity)
        _ = 2 ^ 128 := by rw [← pow_add]; congr 1; omega
        _ < 2 ^ 256 := by decide
    rw [BitVec.toNat_shiftLeft, BitVec.toNat_ofNat, Nat.mod_eq_of_lt h, Nat.shiftLeft_eq,
      Nat.mod_eq_of_lt hlt, hpow, ← mul_assoc, Nat.mul_div_cancel _ (by positivity)]

theorem holds_start {ratio : ℕ} (h0 : 0 < ratio) (h : ratio < 2 ^ 256) :
    (start ratio).Holds 64 (((ratio.log2 : ℤ) - 128) * 2 ^ 64) := by
  have hself : ratio < 2 ^ (ratio.log2 + 1) := Nat.lt_log2_self
  have hself' : 2 ^ ratio.log2 ≤ ratio := Nat.log2_self_le h0.ne'
  have hpos : 0 < 2 ^ ratio.log2 := by positivity
  refine ⟨?_, ?_, ?_, Dvd.intro_left _ rfl⟩
  · rw [toNat_r_start h, Nat.le_div_iff_mul_le hpos, mul_comm]
    exact Nat.mul_le_mul_right _ hself'
  · rw [toNat_r_start h, Nat.div_lt_iff_lt_mul hpos]
    calc ratio * 2 ^ 127 < 2 ^ (ratio.log2 + 1) * 2 ^ 127 :=
          Nat.mul_lt_mul_of_pos_right hself (by positivity)
      _ = 2 ^ 128 * 2 ^ ratio.log2 := by rw [pow_succ]; ring
  · exact ofInt_shiftLeft _ _

/-- **The word stands for the bits found so far, after any number of steps.** -/
theorem holds_after {ratio : ℕ} (h0 : 0 < ratio) (h : ratio < 2 ^ 256) {k : ℕ} (hk : k ≤ 64) :
    (after ratio k).Holds (64 - k) (logAfter ratio k) := by
  induction k with
  | zero => exact holds_start h0 h
  | succ k ih =>
    have hprev := ih (by omega)
    rw [show 64 - k = 63 - k + 1 by omega] at hprev
    rw [after_succ, show 64 - (k + 1) = 63 - k by omega]
    exact hprev.step

end LogState

end Tickwise

import Mathlib
import Tickwise.Price
import Tickwise.Proofs.Decimal.Quotient
import Tickwise.Proofs.Price.Exact

/-!
# Prices and their ratios

A price stands for the ratio of its square.  Encoding loses less than one unit of the price,
decoding half a unit of the hundredth digit.  From a price of fifteen digits on, a ratio comes back
to fourteen digits; and a price that is decoded comes back as itself, or one unit lower where the
hundredth digit was rounded down.

* `OffBy` — relative errors, and how they add up;
* `le_exactSqrtPrice_iff` — the price of a ratio by the ratios of prices;
* `offBy_decodeSqrtPrice` — what decoding loses;
* `decodeSqrtPrice_encodeSqrtPrice` — a ratio, encoded and decoded;
* `encodeSqrtPrice_decodeSqrtPrice` — a price, decoded and encoded.
-/

namespace Tickwise

/-! ## Relative errors -/

/-- A number that is off another one by a share of it at most. -/
def OffBy (share exact found : ℚ) : Prop := |found - exact| ≤ exact * share

namespace OffBy

variable {e e' x x' y y' z : ℚ}

/-- Errors made one after the other. -/
theorem trans (h : OffBy e x y) (h' : OffBy e' y z) (he' : 0 ≤ e') :
    OffBy (e + e' + e * e') x z := by
  have hy : y ≤ x * (1 + e) := by
    have hupper := (abs_sub_le_iff.1 h).1
    linarith
  calc |z - x| ≤ |z - y| + |y - x| := abs_sub_le z y x
    _ ≤ y * e' + x * e := add_le_add h' h
    _ ≤ x * (1 + e) * e' + x * e := by gcongr
    _ = x * (e + e' + e * e') := by ring

/-- Errors of the factors of a product. -/
theorem mul (h : OffBy e x y) (h' : OffBy e' x' y') (hx : 0 ≤ x) (he : 0 ≤ e) (hy' : 0 ≤ y') :
    OffBy (e + e' + e * e') (x * x') (y * y') := by
  have hupper : y' ≤ x' * (1 + e') := by
    have hsub := (abs_sub_le_iff.1 h').1
    linarith
  calc |y * y' - x * x'| = |(y - x) * y' + x * (y' - x')| := by ring_nf
    _ ≤ |(y - x) * y'| + |x * (y' - x')| := abs_add_le _ _
    _ = |y - x| * y' + x * |y' - x'| := by
      rw [abs_mul, abs_mul, abs_of_nonneg hy', abs_of_nonneg hx]
    _ ≤ x * e * (x' * (1 + e')) + x * (x' * e') := by
      refine add_le_add (mul_le_mul h hupper hy' (mul_nonneg hx he)) ?_
      exact mul_le_mul_of_nonneg_left h' hx
    _ = x * x' * (e + e' + e * e') := by ring

/-- A share that is small enough. -/
theorem abs_sub_lt {bound : ℚ} (h : OffBy e x y) (hx : 0 < x) (he : e < bound) :
    |y - x| < bound * x :=
  h.trans_lt (by rw [mul_comm bound]; exact mul_lt_mul_of_pos_left he hx)

end OffBy

/-! ## The ratio of a price -/

/-- The ratio that a price stands for. -/
def ratioAt (price : ℚ) : ℚ := price ^ 2 / 2 ^ 192

theorem ratioAt_nonneg (price : ℚ) : 0 ≤ ratioAt price := by
  unfold ratioAt
  positivity

/-- The distance to the ratio of the next price. -/
theorem ratioAt_add_one (price : ℚ) :
    ratioAt (price + 1) = ratioAt price + (2 * price + 1) / 2 ^ 192 := by
  unfold ratioAt
  ring

section Ratios

variable {reserve1 reserve0 : Decimal} {price : ℕ}

/-- A price is at most that of two reserves when its ratio is at most theirs. -/
theorem le_exactSqrtPrice_iff (h1 : 0 ≤ reserve1.value) (h0 : 0 < reserve0.value) :
    price ≤ exactSqrtPrice reserve1 reserve0 ↔ ratioAt price ≤ reserve1.value / reserve0.value := by
  have hnonneg : 0 ≤ exactSquare reserve1 reserve0 := by
    unfold exactSquare
    positivity
  calc price ≤ exactSqrtPrice reserve1 reserve0
      ↔ ((price * price : ℕ) : ℚ) ≤ exactSquare reserve1 reserve0 := by
        rw [exactSqrtPrice, le_sqrtFloor_iff, Nat.le_floor_iff hnonneg]
    _ ↔ ratioAt price ≤ reserve1.value / reserve0.value := by
        rw [ratioAt, exactSquare, div_le_iff₀ (by positivity), div_mul_eq_mul_div, Nat.cast_mul, sq]

/-- The ratio of two reserves lies between those of their price and of the next one. -/
theorem ratioAt_le_of_encodeSqrtPrice (h1 : 0 < reserve1.value) (h0 : 0 < reserve0.value)
    (hdigits1 : reserve1.digitCount < 2 ^ 31) (hdigits0 : reserve0.digitCount < 2 ^ 31)
    (h : encodeSqrtPrice reserve1 reserve0 = .ok price) :
    ratioAt price ≤ reserve1.value / reserve0.value ∧
      reserve1.value / reserve0.value < ratioAt (price + 1) := by
  have hnarrow := encodeSqrtPrice_eq_narrow (Decimal.value_nonneg_iff.1 h1.le)
    (Decimal.value_pos_iff.1 h0) hdigits1 hdigits0
  obtain ⟨-, rfl⟩ := narrow_eq_ok_iff.1 (hnarrow.symm.trans h)
  refine ⟨(le_exactSqrtPrice_iff h1.le h0).1 le_rfl, not_le.1 fun hnext => ?_⟩
  have hover : exactSqrtPrice reserve1 reserve0 + 1 ≤ exactSqrtPrice reserve1 reserve0 :=
    (le_exactSqrtPrice_iff h1.le h0).2 (by exact_mod_cast hnext)
  exact absurd hover (Nat.not_succ_le_self _)

/-- A price stands for a ratio that is less than two units of it too small. -/
theorem offBy_ratioAt {ratio : ℚ} {least : ℕ} (hleast : least ≤ price)
    (hlow : ratioAt price ≤ ratio) (hhigh : ratio < ratioAt (price + 1)) :
    OffBy (2 / (least + 1)) ratio (ratioAt price) := by
  have hshort : ratio * (1 - 2 / (price + 1)) ≤ ratioAt price := by
    by_cases hsmall : (1 : ℚ) - 2 / (price + 1) < 0
    · -- two units are more than the whole of a price of zero
      have hratio : 0 ≤ ratio := (ratioAt_nonneg _).trans hlow
      exact (mul_nonpos_of_nonneg_of_nonpos hratio hsmall.le).trans (ratioAt_nonneg _)
    calc ratio * (1 - 2 / (price + 1))
        ≤ ratioAt (price + 1) * (1 - 2 / (price + 1)) :=
          mul_le_mul_of_nonneg_right hhigh.le (not_lt.1 hsmall)
      _ = ((price : ℚ) ^ 2 - 1) / 2 ^ 192 := by
          unfold ratioAt
          field_simp
          ring
      _ ≤ ratioAt price := by
          unfold ratioAt
          gcongr
          linarith
  have hunit : (2 : ℚ) / (price + 1) ≤ 2 / (least + 1) := by gcongr
  rw [OffBy, abs_sub_comm, abs_of_nonneg (sub_nonneg.2 hlow)]
  calc ratio - ratioAt price ≤ ratio * (2 / (price + 1)) := by linarith
    _ ≤ ratio * (2 / (least + 1)) :=
      mul_le_mul_of_nonneg_left hunit ((ratioAt_nonneg _).trans hlow)

end Ratios

/-! ## Decoding -/

/-- The share of a ratio that the last of its hundred digits can be off by. -/
def lastDigit : ℚ := 1 / (2 * 10 ^ (Decimal.precision - 1))

section Decoding

variable {price : ℕ}

/-- A ratio is decoded up to its hundredth digit. -/
theorem offBy_decodeSqrtPrice (price : ℕ) :
    OffBy lastDigit (ratioAt price) (decodeSqrtPrice price).value := by
  have hratio : ratioAt price = ((price * price : ℕ) : ℚ) / (pow2 192 : ℕ) := by
    rw [ratioAt, sq, Nat.cast_mul]
    norm_num
  rw [hratio]
  exact Decimal.abs_value_quotient_sub_le (by decide)

theorem value_decodeSqrtPrice_nonneg (price : ℕ) : 0 ≤ (decodeSqrtPrice price).value := by
  have hoff := (abs_sub_le_iff.1 (offBy_decodeSqrtPrice price)).2
  have hshare : ratioAt price * lastDigit ≤ ratioAt price * 1 :=
    mul_le_mul_of_nonneg_left (by norm_num [lastDigit, Decimal.precision]) (ratioAt_nonneg _)
  linarith

/-- A decoded ratio has few digits. -/
theorem digitCount_decodeSqrtPrice_lt (h : price < wordLimit) :
    (decodeSqrtPrice price).digitCount < 2 ^ 31 := by
  have hwhole : price * price / pow2 192 < 10 ^ Decimal.precision :=
    calc price * price / pow2 192 ≤ wordLimit * wordLimit / pow2 192 :=
          Nat.div_le_div_right (Nat.mul_le_mul h.le h.le)
      _ < 10 ^ Decimal.precision := by norm_num [wordLimit, Decimal.precision]
  have hfew : digitCount (price * price / pow2 192) ≤ Decimal.precision :=
    (digitCount_le_iff (by decide)).2 hwhole
  exact (Decimal.digitCount_quotient_le (by decide) hfew).trans_lt (by norm_num [Decimal.precision])

end Decoding

/-! ## A ratio, encoded and decoded -/

section RoundTrip

variable {reserve1 reserve0 : Decimal} {price : ℕ}

/-- What encoding and decoding lose together. -/
theorem offBy_decodeSqrtPrice_of_ratio {ratio : ℚ} {least : ℕ} (hleast : least ≤ price)
    (hlow : ratioAt price ≤ ratio) (hhigh : ratio < ratioAt (price + 1)) :
    OffBy (2 / (least + 1) + lastDigit + 2 / (least + 1) * lastDigit) ratio
      (decodeSqrtPrice price).value :=
  (offBy_ratioAt hleast hlow hhigh).trans (offBy_decodeSqrtPrice price)
    (by norm_num [lastDigit, Decimal.precision])

/-- **A ratio that is encoded and decoded comes back to fourteen digits.**  It lies between the
ratios of its price and the next one.  From `3 * 10 ^ 14` on, the decoded ratio is less than one
part in `10 ^ 14` off; and the decoded ratios of the two orders of the reserves multiply to one as
closely, if both prices are at least `5 * 10 ^ 14`. -/
theorem decodeSqrtPrice_encodeSqrtPrice (h1 : 0 < reserve1.value) (h0 : 0 < reserve0.value)
    (hdigits1 : reserve1.digitCount < 2 ^ 31) (hdigits0 : reserve0.digitCount < 2 ^ 31)
    (h : encodeSqrtPrice reserve1 reserve0 = .ok price) :
    ((price : ℚ) ^ 2 / 2 ^ 192 ≤ reserve1.value / reserve0.value ∧
      reserve1.value / reserve0.value < ((price : ℚ) + 1) ^ 2 / 2 ^ 192) ∧
    (3 * 10 ^ 14 ≤ price →
      |(decodeSqrtPrice price).value - reserve1.value / reserve0.value| <
        1 / 10 ^ 14 * (reserve1.value / reserve0.value)) ∧
    ∀ inverse, encodeSqrtPrice reserve0 reserve1 = .ok inverse →
      5 * 10 ^ 14 ≤ price → 5 * 10 ^ 14 ≤ inverse →
      |(decodeSqrtPrice price).value * (decodeSqrtPrice inverse).value - 1| < 1 / 10 ^ 14 := by
  have hratio : 0 < reserve1.value / reserve0.value := div_pos h1 h0
  obtain ⟨hlow, hhigh⟩ := ratioAt_le_of_encodeSqrtPrice h1 h0 hdigits1 hdigits0 h
  refine ⟨⟨hlow, hhigh⟩, fun hprice => ?_, fun inverse hinverse hprice hinverse' => ?_⟩
  · exact (offBy_decodeSqrtPrice_of_ratio hprice hlow hhigh).abs_sub_lt hratio
      (by norm_num [lastDigit, Decimal.precision])
  · obtain ⟨hlow', hhigh'⟩ := ratioAt_le_of_encodeSqrtPrice h0 h1 hdigits0 hdigits1 hinverse
    have hone : reserve1.value / reserve0.value * (reserve0.value / reserve1.value) = 1 := by
      field_simp
    have hproduct := (offBy_decodeSqrtPrice_of_ratio hprice hlow hhigh).mul
      (offBy_decodeSqrtPrice_of_ratio hinverse' hlow' hhigh') hratio.le
      (by norm_num [lastDigit, Decimal.precision]) (value_decodeSqrtPrice_nonneg inverse)
    rw [hone] at hproduct
    rw [← mul_one (1 / 10 ^ 14 : ℚ)]
    exact hproduct.abs_sub_lt one_pos (by norm_num [lastDigit, Decimal.precision])

/-- One to five, as both orders of the reserves are priced. -/
theorem decodeSqrtPrice_encodeSqrtPrice_of_one_to_five :
    (⟨1, 0⟩ : Decimal).digitCount < 2 ^ 31 ∧ (⟨5, 0⟩ : Decimal).digitCount < 2 ^ 31 ∧
      encodeSqrtPrice ⟨1, 0⟩ ⟨5, 0⟩ = .ok 35431911422859142059220343232 ∧
      encodeSqrtPrice ⟨5, 0⟩ ⟨1, 0⟩ = .ok 177159557114295710296101716160 ∧
      |(decodeSqrtPrice 35431911422859142059220343232).value - 1 / 5| < 1 / 10 ^ 14 * (1 / 5) ∧
      |(decodeSqrtPrice 35431911422859142059220343232).value *
        (decodeSqrtPrice 177159557114295710296101716160).value - 1| < 1 / 10 ^ 14 := by
  have hdigits1 : (⟨1, 0⟩ : Decimal).digitCount < 2 ^ 31 := by decide
  have hdigits5 : (⟨5, 0⟩ : Decimal).digitCount < 2 ^ 31 := by decide
  have hprice : encodeSqrtPrice ⟨1, 0⟩ ⟨5, 0⟩ = .ok 35431911422859142059220343232 := by
    decide +kernel
  have hinverse : encodeSqrtPrice ⟨5, 0⟩ ⟨1, 0⟩ = .ok 177159557114295710296101716160 := by
    decide +kernel
  obtain ⟨-, hclose, hproduct⟩ := decodeSqrtPrice_encodeSqrtPrice
    (Decimal.value_pos_iff.2 (by decide)) (Decimal.value_pos_iff.2 (by decide)) hdigits1 hdigits5
    hprice
  have hratio : (⟨1, 0⟩ : Decimal).value / (⟨5, 0⟩ : Decimal).value = 1 / 5 := by
    norm_num [Decimal.value]
  rw [hratio] at hclose
  exact ⟨hdigits1, hdigits5, hprice, hinverse, hclose (by norm_num),
    hproduct _ hinverse (by norm_num) (by norm_num)⟩

end RoundTrip

/-! ## A price, decoded and encoded -/

section Recoded

variable {price : ℕ}

/-- What decoding loses is less than the distance to the next price. -/
theorem ratioAt_mul_lastDigit_le (h : price < wordLimit) :
    ratioAt price * lastDigit ≤ price / 2 ^ 192 := by
  have hword : (price : ℚ) ≤ wordLimit := by exact_mod_cast h.le
  have hshare : (price : ℚ) * lastDigit ≤ 1 :=
    calc (price : ℚ) * lastDigit ≤ wordLimit * lastDigit :=
          mul_le_mul_of_nonneg_right hword (by norm_num [lastDigit, Decimal.precision])
      _ ≤ 1 := by norm_num [lastDigit, Decimal.precision, wordLimit]
  calc ratioAt price * lastDigit = price * (price * lastDigit) / 2 ^ 192 := by
        unfold ratioAt
        ring
    _ ≤ price * 1 / 2 ^ 192 := by gcongr
    _ = price / 2 ^ 192 := by rw [mul_one]

/-- A decoded ratio is below that of the next price. -/
theorem value_decodeSqrtPrice_lt (h : price < wordLimit) :
    (decodeSqrtPrice price).value < ratioAt (price + 1) := by
  have hoff := (abs_sub_le_iff.1 (offBy_decodeSqrtPrice price)).1
  have hloss := ratioAt_mul_lastDigit_le h
  have hnext := ratioAt_add_one price
  have hunit : (price : ℚ) / 2 ^ 192 < (2 * price + 1) / 2 ^ 192 := by
    gcongr
    linarith [Nat.cast_nonneg (α := ℚ) price]
  linarith

/-- And at least that of the price before it. -/
theorem ratioAt_pred_le_value_decodeSqrtPrice (h : price + 1 < wordLimit) :
    ratioAt price ≤ (decodeSqrtPrice (price + 1)).value := by
  have hoff := (abs_sub_le_iff.1 (offBy_decodeSqrtPrice (price + 1))).2
  have hloss := ratioAt_mul_lastDigit_le h
  have hnext : ratioAt ((price + 1 : ℕ) : ℚ) = ratioAt price + (2 * price + 1) / 2 ^ 192 := by
    rw [Nat.cast_succ, ratioAt_add_one]
  have hunit : ((price + 1 : ℕ) : ℚ) / 2 ^ 192 ≤ (2 * price + 1) / 2 ^ 192 := by
    gcongr
    push_cast
    linarith [Nat.cast_nonneg (α := ℚ) price]
  linarith

/-- **A price that is decoded and encoded loses at most one unit.**  It comes back as itself exactly
when the division by which it is decoded comes out or is rounded up, and one lower otherwise. -/
theorem encodeSqrtPrice_decodeSqrtPrice (h : price < wordLimit) :
    ∃ back, encodeSqrtPrice (decodeSqrtPrice price) (.ofNat 1) = .ok back ∧
      (back = price ∨ back + 1 = price) ∧
      (back = price ↔ (price : ℚ) ^ 2 / 2 ^ 192 ≤ (decodeSqrtPrice price).value) := by
  have hnonneg := value_decodeSqrtPrice_nonneg price
  have hone : (Decimal.ofNat 1).value = 1 := by norm_num [Decimal.value, Decimal.ofNat]
  have hle : ∀ {m : ℕ}, m ≤ exactSqrtPrice (decodeSqrtPrice price) (.ofNat 1) ↔
      ratioAt m ≤ (decodeSqrtPrice price).value := by
    intro m
    rw [le_exactSqrtPrice_iff hnonneg (by rw [hone]; exact one_pos), hone, div_one]
  -- what decoding loses reaches neither the next price nor the one before
  have hupper : exactSqrtPrice (decodeSqrtPrice price) (.ofNat 1) ≤ price := by
    refine Nat.lt_succ_iff.1 (not_le.1 fun hover => ?_)
    have hratio := hle.1 hover
    push_cast at hratio
    exact absurd hratio (not_le.2 (value_decodeSqrtPrice_lt h))
  have hlower : price ≤ exactSqrtPrice (decodeSqrtPrice price) (.ofNat 1) + 1 := by
    cases price with
    | zero => exact Nat.zero_le _
    | succ price => exact Nat.succ_le_succ (hle.2 (ratioAt_pred_le_value_decodeSqrtPrice h))
  have hencoded : encodeSqrtPrice (decodeSqrtPrice price) (.ofNat 1) =
      narrow .encodePrice (exactSqrtPrice (decodeSqrtPrice price) (.ofNat 1)) :=
    encodeSqrtPrice_eq_narrow (Decimal.value_nonneg_iff.1 hnonneg) (by decide)
      (digitCount_decodeSqrtPrice_lt h) (by decide)
  refine ⟨_, hencoded.trans (narrow_eq_ok_iff.2 ⟨hupper.trans_lt h, rfl⟩), by omega, ?_⟩
  constructor
  · intro hsame
    exact hle.1 hsame.ge
  · intro hratio
    exact le_antisymm hupper (hle.2 hratio)

/-- The greatest word is rounded down as it is decoded, and comes back one lower. -/
theorem encodeSqrtPrice_decodeSqrtPrice_at_maxWord :
    maxWord < wordLimit ∧
      encodeSqrtPrice (decodeSqrtPrice maxWord) (.ofNat 1) = .ok (maxWord - 1) := by
  have hword : maxWord < wordLimit := by decide
  obtain ⟨back, hback, hnear, hsame⟩ := encodeSqrtPrice_decodeSqrtPrice hword
  have hdecoded : decodeSqrtPrice maxWord = ⟨(maxWord * maxWord * pow10 3 / pow2 192 : ℕ), 3⟩ := by
    decide +kernel
  have hdown : ¬ (maxWord : ℚ) ^ 2 / 2 ^ 192 ≤ (decodeSqrtPrice maxWord).value := by
    rw [hdecoded]
    norm_num [Decimal.value, maxWord, wordLimit]
  obtain rfl : back = maxWord - 1 := by
    have hlower := hnear.resolve_left fun heq => hdown (hsame.1 heq)
    omega
  exact ⟨hword, hback⟩

end Recoded

end Tickwise

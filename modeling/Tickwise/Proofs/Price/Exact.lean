import Tickwise.Price
import Tickwise.Proofs.Decimal.Value

/-!
# The price of any two decimals is exact

Two reserves of whatever scale have the greatest price whose square is at most their ratio.  A ratio
that is recognised by its digits alone is far enough outside the prices that one digit more or less
does not matter, and every other ratio is small enough to be multiplied out.

* `exactSqrtPrice` — the price rounded down once, with `isGreatest_exactSqrtPrice` for what it is;
* `exactSqrtPrice_eq_zero`, `wordLimit_le_exactSqrtPrice` — what the count of digits decides;
* `encodeSqrtPrice_exact` — the price of every two decimals, and the fault when there is none.
-/

namespace Tickwise

/-! ## The exact price -/

/-- The greatest whole number whose square is at most a ratio. -/
theorem isGreatest_sqrtFloor_floor {ratio : ℚ} (h : 0 ≤ ratio) :
    IsGreatest {v : ℤ | (v : ℚ) ^ 2 ≤ ratio} (sqrtFloor ⌊ratio⌋₊) := by
  constructor
  · have hsq : sqrtFloor ⌊ratio⌋₊ * sqrtFloor ⌊ratio⌋₊ ≤ ⌊ratio⌋₊ := (sqrtFloor_bounds _).1
    calc ((sqrtFloor ⌊ratio⌋₊ : ℤ) : ℚ) ^ 2
        = (sqrtFloor ⌊ratio⌋₊ * sqrtFloor ⌊ratio⌋₊ : ℕ) := by push_cast; ring
      _ ≤ ⌊ratio⌋₊ := by exact_mod_cast hsq
      _ ≤ ratio := Nat.floor_le h
  · intro v hv
    by_cases hneg : v < 0
    · exact hneg.le.trans (Int.natCast_nonneg _)
    · obtain ⟨n, rfl⟩ := Int.eq_ofNat_of_zero_le (not_lt.1 hneg)
      have hsq : ((n * n : ℕ) : ℚ) ≤ ratio := by
        push_cast
        rw [← sq]
        exact_mod_cast hv
      exact_mod_cast le_sqrtFloor_iff.2 (Nat.le_floor hsq)

variable {reserve1 reserve0 : Decimal}

/-- The square of the price of two reserves before any rounding, in units of `2 ^ (-192)`. -/
def exactSquare (reserve1 reserve0 : Decimal) : ℚ := reserve1.value * 2 ^ 192 / reserve0.value

/-- The price of two reserves, rounded down once. -/
def exactSqrtPrice (reserve1 reserve0 : Decimal) : ℕ := sqrtFloor ⌊exactSquare reserve1 reserve0⌋₊

/-- The price is the greatest number whose square does not exceed the ratio. -/
theorem isGreatest_exactSqrtPrice (h1 : 0 ≤ reserve1.value) (h0 : 0 < reserve0.value) :
    IsGreatest {v : ℤ | (v : ℚ) ^ 2 * reserve0.value ≤ reserve1.value * 2 ^ 192}
      (exactSqrtPrice reserve1 reserve0) := by
  have hset : {v : ℤ | (v : ℚ) ^ 2 * reserve0.value ≤ reserve1.value * 2 ^ 192} =
      {v : ℤ | (v : ℚ) ^ 2 ≤ exactSquare reserve1 reserve0} := by
    ext v
    exact (le_div_iff₀ h0).symm
  rw [hset]
  exact isGreatest_sqrtFloor_floor (by unfold exactSquare; positivity)

/-! ## What the digits decide -/

/-- No reserve of token1, or a ratio sixty digits below one, has the price zero. -/
theorem exactSqrtPrice_eq_zero (h1 : 0 ≤ reserve1.coefficient) (h0 : 0 < reserve0.coefficient)
    (h : reserve1.coefficient = 0 ∨ ratioMagnitude reserve1 reserve0 ≤ -60) :
    exactSqrtPrice reserve1 reserve0 = 0 := by
  have hbelow : reserve1.value * 2 ^ 192 < reserve0.value := by
    rcases h with hzero | hsmall
    · rw [Decimal.value_eq_zero_iff.2 hzero, zero_mul]
      exact Decimal.value_pos_iff.2 h0
    have hunit : (10 : ℚ) ^ (ratioMagnitude reserve1 reserve0 + 1) * 2 ^ 192 ≤ 1 :=
      calc (10 : ℚ) ^ (ratioMagnitude reserve1 reserve0 + 1) * 2 ^ 192
          ≤ 10 ^ (-59 : ℤ) * 2 ^ 192 :=
            mul_le_mul_of_nonneg_right (zpow_le_zpow_right₀ (by norm_num) (by omega))
              (by positivity)
        _ ≤ 1 := by norm_num
    calc reserve1.value * 2 ^ 192
        < 10 ^ (reserve1.digitCount - reserve1.scale) * 2 ^ 192 :=
          mul_lt_mul_of_pos_right (Decimal.value_lt h1) (by positivity)
      _ = 10 ^ (reserve0.digitCount - 1 - reserve0.scale) *
            (10 ^ (ratioMagnitude reserve1 reserve0 + 1) * 2 ^ 192) := by
          rw [← mul_assoc, ← zpow_add₀ (by norm_num), ratioMagnitude, ratioExponent]
          congr 2
          ring
      _ ≤ 10 ^ (reserve0.digitCount - 1 - reserve0.scale) :=
          mul_le_of_le_one_right (Decimal.ten_zpow_pos _).le hunit
      _ ≤ reserve0.value := Decimal.le_value h0
  have hfloor : ⌊exactSquare reserve1 reserve0⌋₊ = 0 := by
    rw [Nat.floor_eq_zero, exactSquare, div_lt_one (Decimal.value_pos_iff.2 h0)]
    exact hbelow
  rw [exactSqrtPrice, hfloor, sqrtFloor, dif_pos rfl]

/-- A ratio of ninety-eight digits above one has a price of more than 256 bits. -/
theorem wordLimit_le_exactSqrtPrice (h1 : 0 < reserve1.coefficient)
    (h0 : 0 < reserve0.coefficient) (h : 98 ≤ ratioMagnitude reserve1 reserve0) :
    wordLimit ≤ exactSqrtPrice reserve1 reserve0 := by
  have hlarge : (wordLimit : ℚ) * wordLimit ≤
      10 ^ (ratioMagnitude reserve1 reserve0 - 1) * 2 ^ 192 :=
    calc (wordLimit : ℚ) * wordLimit ≤ 10 ^ (97 : ℤ) * 2 ^ 192 := by norm_num [wordLimit]
      _ ≤ 10 ^ (ratioMagnitude reserve1 reserve0 - 1) * 2 ^ 192 :=
          mul_le_mul_of_nonneg_right (zpow_le_zpow_right₀ (by norm_num) (by omega)) (by positivity)
  refine le_sqrtFloor_iff.2 (Nat.le_floor ?_)
  rw [exactSquare, le_div_iff₀ (Decimal.value_pos_iff.2 h0), Nat.cast_mul]
  calc (wordLimit : ℚ) * wordLimit * reserve0.value
        ≤ wordLimit * wordLimit * 10 ^ (reserve0.digitCount - reserve0.scale) :=
          mul_le_mul_of_nonneg_left (Decimal.value_lt h0.le).le (by positivity)
      _ ≤ 10 ^ (ratioMagnitude reserve1 reserve0 - 1) * 2 ^ 192 *
            10 ^ (reserve0.digitCount - reserve0.scale) :=
          mul_le_mul_of_nonneg_right hlarge (Decimal.ten_zpow_pos _).le
      _ = 10 ^ (reserve1.digitCount - 1 - reserve1.scale) * 2 ^ 192 := by
          rw [mul_right_comm, ← zpow_add₀ (by norm_num), ratioMagnitude, ratioExponent]
          congr 2
          ring
      _ ≤ reserve1.value * 2 ^ 192 :=
          mul_le_mul_of_nonneg_right (Decimal.le_value h1) (by positivity)

/-! ## The ratio multiplied out -/

theorem floor_eq_div {ratio : ℚ} {a b : ℕ} (h : ratio = a / b) : ⌊ratio⌋₊ = a / b := by
  rw [h, Nat.floor_div_eq_div]

/-- Any other ratio is rounded down to a whole number by one division. -/
theorem floor_exactSquare (h1 : 0 ≤ reserve1.coefficient) (h0 : 0 ≤ reserve0.coefficient) :
    ⌊exactSquare reserve1 reserve0⌋₊ =
      let exponent := ratioExponent reserve1 reserve0
      let numerator := reserve1.coefficient.natAbs * pow2 192
      let denominator := reserve0.coefficient.natAbs
      if 0 ≤ exponent then numerator * pow10 exponent.natAbs / denominator
      else numerator / (denominator * pow10 exponent.natAbs) := by
  have hratio : exactSquare reserve1 reserve0 =
      reserve1.coefficient.natAbs * 2 ^ 192 * 10 ^ ratioExponent reserve1 reserve0 /
        reserve0.coefficient.natAbs := by
    rw [exactSquare, Decimal.value_of_nonneg h1, Decimal.value_of_nonneg h0, ratioExponent,
      sub_eq_neg_add, zpow_add₀ (by norm_num), zpow_neg _ reserve0.scale]
    field_simp
  have hunit : ((pow2 192 : ℕ) : ℚ) = 2 ^ 192 := Nat.cast_pow 2 192
  dsimp only
  by_cases hexponent : 0 ≤ ratioExponent reserve1 reserve0
  · obtain ⟨n, hn⟩ := Int.eq_ofNat_of_zero_le hexponent
    rw [if_pos hexponent]
    refine floor_eq_div ?_
    rw [hratio, hn, Nat.cast_mul, Nat.cast_mul, hunit, Int.natAbs_natCast, cast_pow10, zpow_natCast]
  · obtain ⟨n, hn⟩ := Int.eq_ofNat_of_zero_le (by omega : 0 ≤ -ratioExponent reserve1 reserve0)
    have hnegative : ratioExponent reserve1 reserve0 = -n := by omega
    rw [if_neg hexponent]
    refine floor_eq_div ?_
    rw [hratio, hnegative, Nat.cast_mul, Nat.cast_mul, hunit, Int.natAbs_neg, Int.natAbs_natCast,
      cast_pow10, zpow_neg, zpow_natCast, ← div_eq_mul_inv, div_div, mul_comm (10 ^ n)]

/-- A ratio whose digits do not decide has an exponent that can be multiplied out. -/
theorem natAbs_ratioExponent_lt (h1 : reserve1.digitCount < 2 ^ 31)
    (h0 : reserve0.digitCount < 2 ^ 31) (hlow : -60 < ratioMagnitude reserve1 reserve0)
    (hhigh : ratioMagnitude reserve1 reserve0 < 98) :
    (ratioExponent reserve1 reserve0).natAbs < pow2 32 := by
  have hpow : pow2 32 = 4294967296 := rfl
  unfold ratioMagnitude at hlow hhigh
  omega

/-! ## The price -/

/-- Two reserves that can be priced have the exact price, if it fits. -/
theorem encodeSqrtPrice_eq_narrow (h1 : 0 ≤ reserve1.coefficient) (h0 : 0 < reserve0.coefficient)
    (hdigits1 : reserve1.digitCount < 2 ^ 31) (hdigits0 : reserve0.digitCount < 2 ^ 31) :
    encodeSqrtPrice reserve1 reserve0 = narrow .encodePrice (exactSqrtPrice reserve1 reserve0) := by
  simp only [encodeSqrtPrice, ensureNonnegative, if_neg h0.ne', if_neg (not_lt.2 h1),
    if_neg (not_lt.2 h0.le), bind, Except.bind]
  by_cases hsmall : reserve1.coefficient = 0 ∨ ratioMagnitude reserve1 reserve0 ≤ -60
  · rw [if_pos hsmall, exactSqrtPrice_eq_zero h1 h0 hsmall]
    rfl
  rw [if_neg hsmall]
  obtain ⟨hpos, hlow⟩ := not_or.1 hsmall
  by_cases hlarge : 98 ≤ ratioMagnitude reserve1 reserve0
  · have hlimit := wordLimit_le_exactSqrtPrice (lt_of_le_of_ne h1 (Ne.symm hpos)) h0 hlarge
    have hrefused : narrow .encodePrice (exactSqrtPrice reserve1 reserve0) =
        .error (.mathOverflow .encodePrice) := if_neg (not_lt.2 hlimit)
    rw [if_pos (.inl hlarge), hrefused]
    rfl
  · have hexponent := natAbs_ratioExponent_lt hdigits1 hdigits0 (not_le.1 hlow) (not_le.1 hlarge)
    rw [if_neg (not_or.2 ⟨hlarge, not_le.2 hexponent⟩), exactSqrtPrice,
      floor_exactSquare h1 h0.le]

/-- **Every two decimals have the exact price.**  The price is the greatest `v` for which
`v ^ 2 * reserve0` is at most `reserve1 * 2 ^ 192`, and the only faults are a reserve0 of zero, a
negative reserve, and a price that needs more than 256 bits. -/
theorem encodeSqrtPrice_exact (reserve1 reserve0 : Decimal)
    (hdigits1 : reserve1.digitCount < 2 ^ 31) (hdigits0 : reserve0.digitCount < 2 ^ 31) :
    ∃ price : ℕ,
      (0 ≤ reserve1.value → 0 < reserve0.value →
        IsGreatest {v : ℤ | (v : ℚ) ^ 2 * reserve0.value ≤ reserve1.value * 2 ^ 192} price) ∧
      encodeSqrtPrice reserve1 reserve0 =
        if reserve0.value = 0 then .error (.zeroDenominator reserve1)
        else if reserve1.value < 0 then
          .error (.invalidAmount reserve1.text "reserve" .negativeReserve)
        else if reserve0.value < 0 then
          .error (.invalidAmount reserve0.text "reserve" .negativeReserve)
        else if price < wordLimit then .ok price
        else .error (.mathOverflow .encodePrice) := by
  refine ⟨exactSqrtPrice reserve1 reserve0, isGreatest_exactSqrtPrice, ?_⟩
  simp only [Decimal.value_eq_zero_iff, Decimal.value_neg_iff]
  by_cases hzero : reserve0.coefficient = 0
  · simp [encodeSqrtPrice, hzero, throw, throwThe, MonadExceptOf.throw, bind, Except.bind]
  by_cases hneg1 : reserve1.coefficient < 0
  · simp [encodeSqrtPrice, ensureNonnegative, hzero, hneg1, bind, Except.bind]
  by_cases hneg0 : reserve0.coefficient < 0
  · simp [encodeSqrtPrice, ensureNonnegative, hzero, hneg1, hneg0, bind, Except.bind]
  rw [if_neg hzero, if_neg hneg1, if_neg hneg0]
  exact encodeSqrtPrice_eq_narrow (not_lt.1 hneg1) (by omega) hdigits1 hdigits0

/-- A ratio of ninety-six digits above one, whose digits do not decide yet. -/
theorem encodeSqrtPrice_exact_of_large_ratio :
    (⟨1, -96⟩ : Decimal).digitCount < 2 ^ 31 ∧ (⟨1, 0⟩ : Decimal).digitCount < 2 ^ 31 ∧
      ∃ price : ℕ,
        IsGreatest {v : ℤ | (v : ℚ) ^ 2 * Decimal.value ⟨1, 0⟩ ≤ Decimal.value ⟨1, -96⟩ * 2 ^ 192}
          price ∧
        encodeSqrtPrice ⟨1, -96⟩ ⟨1, 0⟩ =
          if price < wordLimit then .ok price else .error (.mathOverflow .encodePrice) := by
  have hdigits1 : (⟨1, -96⟩ : Decimal).digitCount < 2 ^ 31 := by decide
  have hdigits0 : (⟨1, 0⟩ : Decimal).digitCount < 2 ^ 31 := by decide
  have h1 : 0 < Decimal.value ⟨1, -96⟩ := Decimal.value_pos_iff.2 (by decide)
  have h0 : 0 < Decimal.value ⟨1, 0⟩ := Decimal.value_pos_iff.2 (by decide)
  obtain ⟨price, hgreatest, hprice⟩ := encodeSqrtPrice_exact ⟨1, -96⟩ ⟨1, 0⟩ hdigits1 hdigits0
  rw [if_neg h0.ne', if_neg (not_lt.2 h1.le), if_neg (not_lt.2 h0.le)] at hprice
  exact ⟨hdigits1, hdigits0, price, hgreatest h1.le h0, hprice⟩

end Tickwise

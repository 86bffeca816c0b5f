import Tickwise.Proofs.Tick.LogarithmError

/-!
# The tick at a price is the greatest tick at or below it

The price at a tick and the logarithm of a price are each known up to an error.  A tick at or
below the price is at most the higher candidate, and the tick above it is past the lower one, so
the comparison with the price at the higher candidate finds the greatest tick at or below.

* `le_tickHighCandidate`, `tickLowCandidate_lt` — the candidates enclose every tick that may be
  meant;
* `tickAtSqrtRatio_eq_ok_iff` — what the tick at a price is;
* `tick_price_inverse` — the two conversions are inverse to each other.
-/

namespace Tickwise

variable {price : ℕ} {tick : ℤ}

/-! ## Prices at ticks on the logarithmic scale -/

theorem log_ratio_eq (tick : ℤ) :
    Real.log (2 ^ 128 * tickRoot ^ tick) = 128 * Real.log 2 + tick * Real.log tickRoot := by
  rw [Real.log_mul (by positivity) (zpow_ne_zero _ tickRoot_pos.ne'), Real.log_pow,
    Real.log_zpow, Nat.cast_ofNat]

/-- A tick at or below a price has at most its logarithm. -/
theorem mul_log_le_of_priceAtTick_le (ht : InTickBounds tick) (h0 : 0 < price)
    (h : priceAtTick tick ≤ price) :
    tick * Real.log tickRoot ≤ Real.log price - 96 * Real.log 2 + 1 / 2 ^ 55 := by
  have hp0 : (0 : ℝ) < price := by exact_mod_cast h0
  have hword : (ratioWord tick : ℝ) ≤ price * 2 ^ 32 := by
    exact_mod_cast (ceilDiv_le_iff (by decide)).1 h
  obtain ⟨herror, -⟩ := abs_le.1 (abs_ratioWord_sub_le ht)
  have hratio0 : 0 < 2 ^ 128 * tickRoot ^ tick :=
    mul_pos (by positivity) (zpow_pos tickRoot_pos tick)
  have hratio : 2 ^ 128 * tickRoot ^ tick ≤ price * 2 ^ 32 * (1 + 1 / 2 ^ 55) := by linarith
  have hlog := Real.log_le_log hratio0 hratio
  rw [log_ratio_eq, Real.log_mul (by positivity) (by positivity),
    Real.log_mul (by positivity) (by positivity), Real.log_pow, Nat.cast_ofNat] at hlog
  have hslack := Real.log_le_sub_one_of_pos (by positivity : (0 : ℝ) < 1 + 1 / 2 ^ 55)
  linarith

/-- A tick above a price has at least its logarithm. -/
theorem le_mul_log_of_lt_priceAtTick (ht : InTickBounds tick) (h0 : 0 < price)
    (h : price < priceAtTick tick) :
    Real.log price - 96 * Real.log 2 ≤ tick * Real.log tickRoot + 1 / 2 ^ 56 := by
  have hp0 : (0 : ℝ) < price := by exact_mod_cast h0
  have hword : (price * 2 ^ 32 : ℝ) ≤ ratioWord tick := by
    have : price * 2 ^ 32 < ratioWord tick := by
      rw [← not_le, ← ceilDiv_le_iff (by decide)]
      exact not_le.2 h
    exact_mod_cast this.le
  obtain ⟨-, herror⟩ := abs_le.1 (abs_ratioWord_sub_le ht)
  have hratio : (price * 2 ^ 32 : ℝ) ≤ 2 ^ 128 * tickRoot ^ tick * (1 + 1 / 2 ^ 56) := by linarith
  have hlog := Real.log_le_log (by positivity) hratio
  have hratio0 : 2 ^ 128 * tickRoot ^ tick ≠ 0 :=
    mul_ne_zero (by positivity) (zpow_ne_zero _ tickRoot_pos.ne')
  rw [Real.log_mul (by positivity) (by positivity), Real.log_mul hratio0 (by positivity),
    log_ratio_eq, Real.log_pow, Nat.cast_ofNat] at hlog
  have hslack := Real.log_le_sub_one_of_pos (by positivity : (0 : ℝ) < 1 + 1 / 2 ^ 56)
  linarith

/-! ## The candidates enclose the tick -/

theorem log_tickRoot_pos : 0 < Real.log tickRoot := by
  linarith [log_tickRoot_bounds.1]

theorem pos_of_isInitializable (h : IsInitializable price) : 0 < price :=
  lt_of_lt_of_le (by positivity) (two_pow_le_of_isInitializable h)

/-- A tick at or below the price is at most the higher candidate. -/
theorem le_tickHighCandidate (h : IsInitializable price) (ht : InTickBounds tick)
    (hle : priceAtTick tick ≤ price) : tick ≤ tickHighCandidate price := by
  have htick := mul_log_le_of_priceAtTick_le ht (pos_of_isInitializable h) hle
  have hhigh := lt_tickHighCandidate_mul h
  have hmul : tick * Real.log tickRoot < (tickHighCandidate price + 1) * Real.log tickRoot := by
    refine lt_of_le_of_lt htick (lt_of_le_of_lt ?_ hhigh)
    norm_num
  have : (tick : ℝ) < tickHighCandidate price + 1 := lt_of_mul_lt_mul_right hmul log_tickRoot_pos.le
  exact Int.lt_add_one_iff.1 (by exact_mod_cast this)

/-- A tick above the price is above the lower candidate. -/
theorem tickLowCandidate_lt (h : IsInitializable price) (ht : InTickBounds tick)
    (hlt : price < priceAtTick tick) : tickLowCandidate price < tick := by
  have htick := le_mul_log_of_lt_priceAtTick ht (pos_of_isInitializable h) hlt
  have hlow := tickLowCandidate_mul_le h
  have hmul : tickLowCandidate price * Real.log tickRoot < tick * Real.log tickRoot := by
    have : (1 : ℝ) / 2 ^ 56 < 1e-7 := by norm_num
    linarith
  exact_mod_cast lt_of_mul_lt_mul_right hmul log_tickRoot_pos.le

/-! ## The greatest tick at or below a price -/

/-- Every price within the bounds is between the prices at two neighbouring ticks. -/
theorem exists_tick_le_lt (h : IsInitializable price) :
    ∃ tick, minTick ≤ tick ∧ tick < maxTick ∧ priceAtTick tick ≤ price ∧
      price < priceAtTick (tick + 1) := by
  have hbound : ∃ b : ℤ, ∀ t, InTickBounds t ∧ priceAtTick t ≤ price → t ≤ b :=
    ⟨maxTick, fun t ht => ht.1.2⟩
  have hsome : ∃ t, InTickBounds t ∧ priceAtTick t ≤ price :=
    ⟨minTick, by decide, priceAtTick_minTick ▸ h.1⟩
  obtain ⟨tick, ⟨hin, hle⟩, hgreatest⟩ := Int.exists_greatest_of_bdd hbound hsome
  have hne : tick ≠ maxTick := by
    rintro rfl
    exact absurd hle (not_le.2 (priceAtTick_maxTick ▸ h.2))
  have hlt : tick < maxTick := lt_of_le_of_ne hin.2 hne
  refine ⟨tick, hin.1, hlt, hle, not_le.1 fun hnext => ?_⟩
  have := hgreatest (tick + 1) ⟨⟨by linarith [hin.1], hlt⟩, hnext⟩
  omega

/-- The tick at a price is the one whose price is at most the given one while that of the next
is not. -/
theorem tickAtSqrtRatio_of_le_lt (h : IsInitializable price) (hmin : minTick ≤ tick)
    (hmax : tick < maxTick) (hle : priceAtTick tick ≤ price)
    (hlt : price < priceAtTick (tick + 1)) : tickAtSqrtRatio price = .ok tick := by
  have hnext : InTickBounds (tick + 1) := ⟨by omega, hmax⟩
  have hlow : tickLowCandidate price ≤ tick :=
    Int.lt_add_one_iff.1 (tickLowCandidate_lt h hnext hlt)
  have hhigh : tick ≤ tickHighCandidate price := le_tickHighCandidate h ⟨hmin, hmax.le⟩ hle
  have hnear := (tickHighCandidate_bounds h).2
  rw [tickAtSqrtRatio, if_neg (not_not.2 h)]
  by_cases heq : tickLowCandidate price = tickHighCandidate price
  · have : tickLowCandidate price = tick := by omega
    rw [if_pos heq, this]
    rfl
  rcases hhigh.eq_or_lt with hchosen | hchosen
  · have hprice : sqrtRatioAtTick (tickHighCandidate price) =
        .ok (priceAtTick (tickHighCandidate price)) :=
      sqrtRatioAtTick_of_inTickBounds ⟨by omega, by omega⟩
    have : priceAtTick (tickHighCandidate price) ≤ price := hchosen ▸ hle
    simp [heq, hprice, this, hchosen]
  · have hcandidate : tickHighCandidate price = tick + 1 := by omega
    have hprice := sqrtRatioAtTick_of_inTickBounds hnext
    have : tickLowCandidate price = tick := by omega
    simp [hcandidate, hprice, this, not_le.2 hlt]

/-- Every price within the bounds has a tick. -/
theorem exists_tickAtSqrtRatio (h : IsInitializable price) :
    ∃ tick, minTick ≤ tick ∧ tick < maxTick ∧ tickAtSqrtRatio price = .ok tick := by
  obtain ⟨tick, hmin, hmax, hle, hlt⟩ := exists_tick_le_lt h
  exact ⟨tick, hmin, hmax, tickAtSqrtRatio_of_le_lt h hmin hmax hle hlt⟩

/-- **What the tick at a price is.** -/
theorem tickAtSqrtRatio_eq_ok_iff :
    tickAtSqrtRatio price = .ok tick ↔ IsInitializable price ∧ minTick ≤ tick ∧ tick < maxTick ∧
      priceAtTick tick ≤ price ∧ price < priceAtTick (tick + 1) := by
  constructor
  · intro hok
    have h : IsInitializable price := by
      by_contra h
      rw [tickAtSqrtRatio, if_pos h] at hok
      cases hok
    obtain ⟨t, hmin, hmax, hle, hlt⟩ := exists_tick_le_lt h
    have ht := tickAtSqrtRatio_of_le_lt h hmin hmax hle hlt
    obtain rfl : t = tick := Except.ok.inj (ht.symm.trans hok)
    exact ⟨h, hmin, hmax, hle, hlt⟩
  · rintro ⟨h, hmin, hmax, hle, hlt⟩
    exact tickAtSqrtRatio_of_le_lt h hmin hmax hle hlt

/-! ## The conversions are inverse -/

theorem priceAtTick_le_priceAtTick {s t : ℤ} (hs : InTickBounds s) (ht : InTickBounds t)
    (hst : s ≤ t) : priceAtTick s ≤ priceAtTick t := by
  rcases hst.eq_or_lt with rfl | hlt
  · exact le_rfl
  · exact (priceAtTick_lt_priceAtTick hs ht hlt).le

/-- A pool can start at the price of any tick but the highest. -/
theorem isInitializable_priceAtTick (hmin : minTick ≤ tick) (hmax : tick < maxTick) :
    IsInitializable (priceAtTick tick) := by
  have hin : InTickBounds tick := ⟨hmin, hmax.le⟩
  constructor
  · rw [← priceAtTick_minTick]
    exact priceAtTick_le_priceAtTick (by decide) hin hmin
  · rw [← priceAtTick_maxTick]
    exact priceAtTick_lt_priceAtTick hin (by decide) hmax

/-- No tick above the found one has a price at or below the given one. -/
theorem le_of_priceAtTick_le {other : ℤ} (hmin : minTick ≤ tick) (hother : InTickBounds other)
    (hle : priceAtTick other ≤ price) (hlt : price < priceAtTick (tick + 1)) : other ≤ tick := by
  by_contra hgt
  have hnext : InTickBounds (tick + 1) := ⟨by omega, by have := hother.2; omega⟩
  have := priceAtTick_le_priceAtTick hnext hother (by omega)
  omega

/-- **Ticks and prices convert into each other.**  Every price that a pool can start at has a
tick, the greatest one at or below it; prices increase strictly with ticks; and the tick at the
price of a tick is that tick. -/
theorem tick_price_inverse :
    (∀ price, IsInitializable price → ∃ tick lower upper,
      tickAtSqrtRatio price = .ok tick ∧ minTick ≤ tick ∧ tick < maxTick ∧
      sqrtRatioAtTick tick = .ok lower ∧ sqrtRatioAtTick (tick + 1) = .ok upper ∧
      lower ≤ price ∧ price < upper ∧
      ∀ other p, sqrtRatioAtTick other = .ok p → p ≤ price → other ≤ tick) ∧
    (∀ s t, minTick ≤ s → s < t → t ≤ maxTick →
      ∃ p q, sqrtRatioAtTick s = .ok p ∧ sqrtRatioAtTick t = .ok q ∧ p < q) ∧
    (∀ tick, minTick ≤ tick → tick < maxTick →
      ∃ price, sqrtRatioAtTick tick = .ok price ∧ tickAtSqrtRatio price = .ok tick) := by
  refine ⟨?greatest, ?increasing, ?returns⟩
  case greatest =>
    intro price h
    obtain ⟨tick, hmin, hmax, hle, hlt⟩ := exists_tick_le_lt h
    refine ⟨tick, priceAtTick tick, priceAtTick (tick + 1),
      tickAtSqrtRatio_of_le_lt h hmin hmax hle hlt, hmin, hmax,
      sqrtRatioAtTick_of_inTickBounds ⟨hmin, hmax.le⟩,
      sqrtRatioAtTick_of_inTickBounds ⟨by omega, hmax⟩, hle, hlt, ?_⟩
    intro other p hp hle'
    obtain ⟨hother, rfl⟩ := sqrtRatioAtTick_eq_ok_iff.1 hp
    exact le_of_priceAtTick_le hmin hother hle' hlt
  case increasing =>
    intro s t hmin hst hmax
    have hs : InTickBounds s := ⟨hmin, by omega⟩
    have ht : InTickBounds t := ⟨by omega, hmax⟩
    exact ⟨priceAtTick s, priceAtTick t, sqrtRatioAtTick_of_inTickBounds hs,
      sqrtRatioAtTick_of_inTickBounds ht, priceAtTick_lt_priceAtTick hs ht hst⟩
  case returns =>
    intro tick hmin hmax
    have hin : InTickBounds tick := ⟨hmin, hmax.le⟩
    have hnext : InTickBounds (tick + 1) := ⟨by omega, hmax⟩
    exact ⟨priceAtTick tick, sqrtRatioAtTick_of_inTickBounds hin,
      tickAtSqrtRatio_of_le_lt (isInitializable_priceAtTick hmin hmax) hmin hmax le_rfl
        (priceAtTick_lt_priceAtTick hin hnext (by omega))⟩

/-- At the price one, and at the tick of that price. -/
theorem tick_price_inverse_at_one :
    (IsInitializable q96 ∧ ∃ tick, tickAtSqrtRatio q96 = .ok tick ∧ minTick ≤ tick) ∧
    (∃ p q, sqrtRatioAtTick 0 = .ok p ∧ sqrtRatioAtTick 1 = .ok q ∧ p < q) ∧
    ∃ price, sqrtRatioAtTick 0 = .ok price ∧ tickAtSqrtRatio price = .ok 0 := by
  have hone : IsInitializable q96 := by decide
  obtain ⟨tick, -, -, htick, hmin, -⟩ := tick_price_inverse.1 q96 hone
  exact ⟨⟨hone, tick, htick, hmin⟩,
    tick_price_inverse.2.1 0 1 (by decide) (by decide) (by decide),
    tick_price_inverse.2.2 0 (by decide) (by decide)⟩

end Tickwise

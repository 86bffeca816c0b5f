import Tickwise.Proofs.Tick.RootTable

/-!
# Prices at ticks, and their order

Before it is rounded to a price, the ratio at a tick is within one part in `2 ^ 56` of the true
power of the root of `1.0001`, at negative ticks and at positive ones.  Neighbouring ticks are
much further apart than that, so prices increase strictly from tick to tick.

* `priceAtTick` — the price at a tick, with `sqrtRatioAtTick_eq_ok_iff` for when there is one;
* `abs_ratioWord_sub_le` — how exact the ratio is before it is rounded;
* `priceAtTick_lt_priceAtTick` — a higher tick has a higher price.
-/

namespace Tickwise

/-! ## Prices at ticks -/

/-- The ratio at a tick in units of `2 ^ (-128)`, before it is rounded to a price. -/
def ratioWord (tick : ℤ) : ℕ :=
  if 0 < tick then maxWord / (inverseRatio tick.natAbs).toNat
  else (inverseRatio tick.natAbs).toNat

/-- The square-root price at a tick within the bounds. -/
def priceAtTick (tick : ℤ) : ℕ := ceilDiv (ratioWord tick) (2 ^ 32)

theorem natAbs_le_iff_inTickBounds {tick : ℤ} :
    tick.natAbs ≤ maxTick.natAbs ↔ InTickBounds tick := by
  unfold InTickBounds minTick maxTick
  omega

/-- A tick has a price when it is within the bounds. -/
theorem sqrtRatioAtTick_eq_ok_iff {tick : ℤ} {price : ℕ} :
    sqrtRatioAtTick tick = .ok price ↔ InTickBounds tick ∧ priceAtTick tick = price := by
  rw [← natAbs_le_iff_inTickBounds, sqrtRatioAtTick]
  split
  · rename_i h
    simp only [h, true_and, Except.ok.injEq]
    exact Iff.rfl
  · rename_i h
    simp [h]

theorem sqrtRatioAtTick_of_inTickBounds {tick : ℤ} (h : InTickBounds tick) :
    sqrtRatioAtTick tick = .ok (priceAtTick tick) :=
  sqrtRatioAtTick_eq_ok_iff.2 ⟨h, rfl⟩

theorem priceAtTick_minTick : priceAtTick minTick = minSqrtRatio := by decide +kernel

theorem priceAtTick_maxTick : priceAtTick maxTick = maxSqrtRatio := by decide +kernel

/-! ## The exactness of the ratio -/

/-- Even the smallest ratio has 63 bits. -/
theorem two_pow_le_inverse {n : ℕ} (hn : n ≤ 887272) :
    (2 : ℝ) ^ 63 ≤ 2 ^ 128 * tickRoot⁻¹ ^ n := by
  have hlast : 2 ^ 63 + 40 ≤ (inverseRatio 887272).toNat := by decide +kernel
  have hlast' : (2 : ℝ) ^ 63 + 40 ≤ ((inverseRatio 887272).toNat : ℝ) := by exact_mod_cast hlast
  have herror := abs_le.1 (abs_inverseRatio_sub_le (n := 887272) (by norm_num))
  have hpow : tickRoot⁻¹ ^ 887272 ≤ tickRoot⁻¹ ^ n :=
    pow_le_pow_of_le_one isRootOf_inv_tickRoot.nonneg isRootOf_inv_tickRoot.le_one hn
  calc (2 : ℝ) ^ 63 ≤ 2 ^ 128 * tickRoot⁻¹ ^ 887272 := by linarith [herror.2]
    _ ≤ 2 ^ 128 * tickRoot⁻¹ ^ n := mul_le_mul_of_nonneg_left hpow (by positivity)

theorem one_le_tickRoot : 1 ≤ tickRoot := by linarith [lt_tickRoot]

theorem two_pow_le_ratio {tick : ℤ} (h : InTickBounds tick) :
    (2 : ℝ) ^ 63 ≤ 2 ^ 128 * tickRoot ^ tick := by
  have hpow : tickRoot⁻¹ ^ tick.natAbs ≤ tickRoot ^ tick := by
    rw [inv_pow, ← zpow_natCast, ← zpow_neg]
    exact zpow_le_zpow_right₀ one_le_tickRoot (by omega)
  exact (two_pow_le_inverse (natAbs_le_iff_inTickBounds.2 h)).trans
    (mul_le_mul_of_nonneg_left hpow (by positivity))

/-- The reciprocal of a ratio that is off by forty units, cut back to a whole number. -/
theorem abs_maxWord_div_sub_le {x : ℕ} {y : ℝ} (hxy : |(x : ℝ) - y| ≤ 40) (hy : (2 : ℝ) ^ 63 ≤ y)
    (hy' : y ≤ 2 ^ 128) :
    |((maxWord / x : ℕ) : ℝ) - 2 ^ 256 / y| ≤ 2 ^ 256 / y / 2 ^ 56 := by
  obtain ⟨hlow, hhigh⟩ := abs_le.1 hxy
  set T : ℝ := 2 ^ 256 / y with hT
  have hy0 : (0 : ℝ) < y := lt_of_lt_of_le (by positivity) hy
  have hTy : T * y = 2 ^ 256 := div_mul_cancel₀ _ hy0.ne'
  have hTlow : (2 : ℝ) ^ 128 ≤ T := by
    rw [hT, le_div_iff₀ hy0]
    calc (2 : ℝ) ^ 128 * y ≤ 2 ^ 128 * 2 ^ 128 := mul_le_mul_of_nonneg_left hy' (by positivity)
      _ = 2 ^ 256 := by norm_num
  have hx : (2 : ℝ) ^ 62 ≤ x := by linarith
  have hx0 : (0 : ℝ) < x := lt_of_lt_of_le (by positivity) hx
  have hxpos : 0 < x := by exact_mod_cast hx0
  have hq : maxWord / x * x ≤ maxWord := Nat.div_mul_le_self _ _
  have hq' : 2 ^ 256 ≤ (maxWord / x + 1) * x :=
    Nat.succ_le_of_lt (Nat.lt_mul_of_div_lt (Nat.lt_succ_self (maxWord / x)) hxpos)
  have hqR : ((maxWord / x : ℕ) : ℝ) * x ≤ 2 ^ 256 := by
    have : maxWord / x * x ≤ 2 ^ 256 := hq.trans (by decide)
    exact_mod_cast this
  have hqR' : (2 : ℝ) ^ 256 ≤ (((maxWord / x : ℕ) : ℝ) + 1) * x := by exact_mod_cast hq'
  have hslack : T * 42 ≤ T * x / 2 ^ 56 := by
    rw [le_div_iff₀ (by positivity), mul_assoc]
    exact mul_le_mul_of_nonneg_left (by linarith) (by linarith)
  refine abs_le.2 ⟨?_, ?_⟩
  · -- `x` may be forty units too large, and the quotient is cut back by less than one
    have h1 : T * (x - 40) ≤ T * y := mul_le_mul_of_nonneg_left (by linarith) (by linarith)
    have h2 : T * (1 - 1 / 2 ^ 56) * x ≤ ((maxWord / x : ℕ) : ℝ) * x := by linarith
    linarith [le_of_mul_le_mul_right h2 hx0]
  · have h1 : T * y ≤ T * (x + 40) := mul_le_mul_of_nonneg_left (by linarith) (by linarith)
    have h2 : ((maxWord / x : ℕ) : ℝ) * x ≤ T * (1 + 1 / 2 ^ 56) * x := by linarith
    linarith [le_of_mul_le_mul_right h2 hx0]

/-- **The ratio at a tick is exact to one part in `2 ^ 56`.** -/
theorem abs_ratioWord_sub_le {tick : ℤ} (h : InTickBounds tick) :
    |(ratioWord tick : ℝ) - 2 ^ 128 * tickRoot ^ tick| ≤ 2 ^ 128 * tickRoot ^ tick / 2 ^ 56 := by
  have hn : tick.natAbs ≤ 887272 := natAbs_le_iff_inTickBounds.2 h
  have herror := abs_inverseRatio_sub_le (n := tick.natAbs) (by omega)
  have hlow := two_pow_le_inverse hn
  by_cases ht : 0 < tick
  · have hpow : tickRoot ^ tick = (tickRoot⁻¹ ^ tick.natAbs)⁻¹ := by
      rw [inv_pow, inv_inv, ← zpow_natCast, Int.natAbs_of_nonneg ht.le]
    have hhigh : 2 ^ 128 * tickRoot⁻¹ ^ tick.natAbs ≤ 2 ^ 128 :=
      mul_le_of_le_one_right (by positivity)
        (pow_le_one₀ isRootOf_inv_tickRoot.nonneg isRootOf_inv_tickRoot.le_one)
    have hexact : (2 : ℝ) ^ 256 / (2 ^ 128 * tickRoot⁻¹ ^ tick.natAbs) =
        2 ^ 128 * tickRoot ^ tick := by
      rw [hpow, div_mul_eq_div_div, div_eq_mul_inv]
      norm_num
    rw [ratioWord, if_pos ht, ← hexact]
    exact abs_maxWord_div_sub_le herror hlow hhigh
  · have hpow : tickRoot ^ tick = tickRoot⁻¹ ^ tick.natAbs := by
      rw [inv_pow, ← zpow_natCast, Int.ofNat_natAbs_of_nonpos (not_lt.1 ht), zpow_neg, inv_inv]
    rw [ratioWord, if_neg ht, hpow]
    refine herror.trans ?_
    rw [le_div_iff₀ (by positivity)]
    linarith

/-! ## The order of prices -/

/-- The ratios at different ticks are further apart than a unit of price. -/
theorem ratioWord_add_le {s t : ℤ} (hs : InTickBounds s) (ht : InTickBounds t) (hst : s < t) :
    ratioWord s + 2 ^ 32 ≤ ratioWord t := by
  obtain ⟨-, hs'⟩ := abs_le.1 (abs_ratioWord_sub_le hs)
  obtain ⟨ht', -⟩ := abs_le.1 (abs_ratioWord_sub_le ht)
  set X : ℝ := 2 ^ 128 * tickRoot ^ s with hX
  have hsize : (2 : ℝ) ^ 63 ≤ X := two_pow_le_ratio hs
  have hstep : X * tickRoot ≤ 2 ^ 128 * tickRoot ^ t := by
    rw [hX, mul_assoc, ← zpow_add_one₀ tickRoot_pos.ne']
    exact mul_le_mul_of_nonneg_left (zpow_le_zpow_right₀ one_le_tickRoot (by omega))
      (by positivity)
  have hgain : X * 1.00004 ≤ X * tickRoot :=
    mul_le_mul_of_nonneg_left lt_tickRoot.le (by linarith)
  have h : (ratioWord s : ℝ) + 2 ^ 32 ≤ ratioWord t := by linarith
  exact_mod_cast h

/-- **Prices increase from tick to tick.** -/
theorem priceAtTick_lt_priceAtTick {s t : ℤ} (hs : InTickBounds s) (ht : InTickBounds t)
    (hst : s < t) : priceAtTick s < priceAtTick t := by
  have hword := ratioWord_add_le hs ht hst
  have hpos : 0 < 2 ^ 32 := by decide
  have hle : ratioWord t ≤ priceAtTick t * 2 ^ 32 := (ceilDiv_le_iff hpos).1 le_rfl
  have : priceAtTick s ≤ priceAtTick t - 1 := by
    refine (ceilDiv_le_iff hpos).2 ?_
    rw [Nat.sub_mul]
    omega
  omega

end Tickwise

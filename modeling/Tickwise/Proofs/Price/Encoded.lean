import Mathlib
import Tickwise.Price
import Tickwise.Provision.Provisioner
import Tickwise.Proofs.Position.Sized

/-!
# The price of reserves

The square root of a quotient is taken of the quotient rounded down, and comes to the same as the
root of the exact quotient rounded down once.

* `sqrtFloor_div` — the root of a quotient, exactly;
* `encodeSqrtPrice_ofNat` — the price of two whole reserves that is not zero;
* `priceReserves_eq_ok` — the price that is planned from the reserves of a request.
-/

namespace Tickwise

/-- Rounding a quotient down does not change its root rounded down. -/
theorem sqrtFloor_div {a b : ℕ} (hb : 0 < b) : sqrtFloor (a / b) = ⌊√((a : ℝ) / b)⌋₊ := by
  have hpos : (0 : ℝ) < b := by exact_mod_cast hb
  refine eq_of_forall_le_iff fun m => ?_
  calc m ≤ sqrtFloor (a / b)
      ↔ m * m * b ≤ a := by rw [le_sqrtFloor_iff, Nat.le_div_iff_mul_le hb]
    _ ↔ ((m : ℝ) * m) * b ≤ a := by exact_mod_cast Iff.rfl
    _ ↔ (m : ℝ) ^ 2 ≤ a / b := by rw [le_div_iff₀ hpos, sq]
    _ ↔ (m : ℝ) ≤ √(a / b) := (Real.le_sqrt (Nat.cast_nonneg m) (by positivity)).symm
    _ ↔ m ≤ ⌊√((a : ℝ) / b)⌋₊ := (Nat.le_floor_iff (Real.sqrt_nonneg _)).symm

/-- The square-root price of two amounts of base units, rounded down. -/
noncomputable def exactPrice (amount1 amount0 : ℕ) : ℕ :=
  ⌊√(((amount1 * 2 ^ 192 : ℕ) : ℝ) / amount0)⌋₊

/-- A price of whole reserves that is not zero is the exact one. -/
theorem encodeSqrtPrice_ofNat {amount1 amount0 price : ℕ}
    (h : encodeSqrtPrice (.ofNat amount1) (.ofNat amount0) = .ok price) (hprice : price ≠ 0) :
    price = exactPrice amount1 amount0 := by
  unfold encodeSqrtPrice at h
  split at h
  · cases h
  rename_i hzero
  have hpos : 0 < amount0 := Nat.pos_of_ne_zero fun heq => hzero (by simp [Decimal.ofNat, heq])
  obtain ⟨-, -, h⟩ := Except.bind_eq_ok_iff.1 h
  obtain ⟨-, -, h⟩ := Except.bind_eq_ok_iff.1 h
  dsimp only at h
  -- a ratio that is recognised by its digits has the price zero, or none
  split at h
  · exact absurd (Except.ok.inj h).symm hprice
  split at h
  · cases h
  obtain ⟨-, hroot⟩ := narrow_eq_ok_iff.1 h
  rw [← hroot]
  have hwhole : ratioExponent (.ofNat amount1) (.ofNat amount0) = 0 := rfl
  rw [hwhole, if_pos le_rfl]
  have hcoefficient : (Decimal.ofNat amount1).coefficient.natAbs * pow2 192 * pow10 (0 : ℤ).natAbs /
      (Decimal.ofNat amount0).coefficient.natAbs = amount1 * 2 ^ 192 / amount0 := by
    simp [Decimal.ofNat]
  rw [hcoefficient, sqrtFloor_div hpos, exactPrice]

/-- What the price of a plan is worked out from: the base units of both reserves. -/
theorem priceReserves_eq_ok {token0 token1 : Token} {reserve0 reserve1 : String} {price : ℕ}
    (h : Provisioner.priceReserves token0 token1 reserve0 reserve1 = .ok price) :
    ∃ amount0 amount1, token0.parseUnits reserve0 = .ok amount0 ∧
      token1.parseUnits reserve1 = .ok amount1 ∧ price = exactPrice amount1 amount0 ∧
      IsInitializable price := by
  obtain ⟨amount0, h0, h⟩ := Except.bind_eq_ok_iff.1 h
  obtain ⟨amount1, h1, h⟩ := Except.bind_eq_ok_iff.1 h
  obtain ⟨encoded, hencoded, h⟩ := Except.bind_eq_ok_iff.1 h
  unfold ensureInitializable at h
  split at h
  · rename_i hok
    cases h
    have hne : price ≠ 0 := by
      rintro rfl
      exact absurd hok.1 (by decide)
    exact ⟨amount0, amount1, h0, h1, encodeSqrtPrice_ofNat hencoded hne, hok⟩
  · cases h

end Tickwise

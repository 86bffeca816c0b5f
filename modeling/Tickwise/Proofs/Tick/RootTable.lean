import Mathlib
import Tickwise.Tick.SqrtRatio

/-!
# The product of tabulated roots

The ratio of a tick is a product of factors from a table, each the square of the one before it,
and every product is cut back to 128 fractional bits.  This file bounds what that costs.

* `IsRootTable` — a table whose factors are roots of a fraction, each correct to one unit;
* `toNat_mul_of_le` — a product of a ratio and a factor never leaves its word;
* `abs_applyFactors_sub_le` — each factor adds at most two units to the error;
* `abs_inverseRatio_sub_le` — so the twenty factors together cost at most forty.
-/

namespace Tickwise

/-! ## The table -/

/-- The first factor is the root of `num / den` in units of `2 ^ (-128)`, correct to one unit,
and the others are the roots of its powers by repeated squaring. -/
def IsRootTable : (num den : ℕ) → List Word → Prop
  | _, _, [] => True
  | num, den, factor :: rest =>
    factor.toNat < 2 ^ 128 ∧ (factor.toNat - 1) ^ 2 * den ≤ 2 ^ 256 * num ∧
      2 ^ 256 * num ≤ (factor.toNat + 1) ^ 2 * den ∧ IsRootTable (num ^ 2) (den ^ 2) rest

instance decidableIsRootTable :
    (num den : ℕ) → (table : List Word) → Decidable (IsRootTable num den table)
  | _, _, [] => isTrue trivial
  | num, den, factor :: rest =>
    have := decidableIsRootTable (num ^ 2) (den ^ 2) rest
    decidable_of_iff (factor.toNat < 2 ^ 128 ∧ (factor.toNat - 1) ^ 2 * den ≤ 2 ^ 256 * num ∧
      2 ^ 256 * num ≤ (factor.toNat + 1) ^ 2 * den ∧ IsRootTable (num ^ 2) (den ^ 2) rest) Iff.rfl

/-- The factors of a table are below one. -/
theorem IsRootTable.toNat_lt {table : List Word} {num den : ℕ} (h : IsRootTable num den table) :
    ∀ factor ∈ table, factor.toNat < 2 ^ 128 := by
  induction table generalizing num den with
  | nil => intro factor hfactor; cases hfactor
  | cons first rest ih =>
    obtain ⟨hfirst, -, -, hrest⟩ := h
    intro factor hfactor
    rcases List.mem_cons.1 hfactor with rfl | hlater
    · exact hfirst
    · exact ih hrest factor hlater

theorem isRootTable_rootFactors : IsRootTable 10000 10001 rootFactors := by decide +kernel

/-- `root` is the real root of a fraction of at most one. -/
structure IsRootOf (num den : ℕ) (root : ℝ) : Prop where
  nonneg : 0 ≤ root
  sq_mul : root ^ 2 * den = num
  den_pos : 0 < den
  num_le : num ≤ den

theorem IsRootOf.le_one {num den : ℕ} {root : ℝ} (h : IsRootOf num den root) : root ≤ 1 := by
  have hden : (0 : ℝ) < den := by exact_mod_cast h.den_pos
  have hnum : (num : ℝ) ≤ den := by exact_mod_cast h.num_le
  have hsq : root ^ 2 * den ≤ 1 ^ 2 * den := by rw [h.sq_mul]; linarith
  exact (sq_le_sq₀ h.nonneg zero_le_one).1 (le_of_mul_le_mul_right hsq hden)

/-- Squaring a root gives the root of the squared fraction. -/
theorem IsRootOf.sq {num den : ℕ} {root : ℝ} (h : IsRootOf num den root) :
    IsRootOf (num ^ 2) (den ^ 2) (root ^ 2) where
  nonneg := sq_nonneg root
  sq_mul := by
    push_cast
    rw [← h.sq_mul]
    ring
  den_pos := pow_pos h.den_pos 2
  num_le := Nat.pow_le_pow_left h.num_le 2

/-- A factor of the table is within one unit of the real root. -/
theorem abs_factor_sub_le {num den f : ℕ} {root : ℝ} (h : IsRootOf num den root)
    (hlow : (f - 1) ^ 2 * den ≤ 2 ^ 256 * num) (hhigh : 2 ^ 256 * num ≤ (f + 1) ^ 2 * den) :
    |(f : ℝ) - 2 ^ 128 * root| ≤ 1 := by
  have hden' : (0 : ℝ) < den := by exact_mod_cast h.den_pos
  have hlow' : ((f - 1 : ℕ) : ℝ) ^ 2 * den ≤ 2 ^ 256 * num := by exact_mod_cast hlow
  have hhigh' : (2 : ℝ) ^ 256 * num ≤ ((f : ℝ) + 1) ^ 2 * den := by exact_mod_cast hhigh
  have hnum : (2 : ℝ) ^ 256 * num = (2 ^ 128 * root) ^ 2 * den := by
    rw [← h.sq_mul]
    ring
  rw [hnum] at hlow' hhigh'
  have hpos : 0 ≤ 2 ^ 128 * root := mul_nonneg (by positivity) h.nonneg
  have h1 : ((f - 1 : ℕ) : ℝ) ≤ 2 ^ 128 * root :=
    (sq_le_sq₀ (Nat.cast_nonneg _) hpos).1 (le_of_mul_le_mul_right hlow' hden')
  have h2 : 2 ^ 128 * root ≤ (f : ℝ) + 1 :=
    (sq_le_sq₀ hpos (by positivity)).1 (le_of_mul_le_mul_right hhigh' hden')
  have h3 : (f : ℝ) ≤ ((f - 1 : ℕ) : ℝ) + 1 := by
    exact_mod_cast (by omega : f ≤ f - 1 + 1)
  exact abs_le.2 ⟨by linarith, by linarith⟩

/-! ## The product -/

/-- A ratio of at most one times a factor below one fits its word. -/
theorem toNat_mul_of_le {ratio factor : Word} (hr : ratio.toNat ≤ 2 ^ 128)
    (hf : factor.toNat < 2 ^ 128) : (ratio * factor).toNat = ratio.toNat * factor.toNat := by
  have h : ratio.toNat * factor.toNat < 2 ^ 256 :=
    calc ratio.toNat * factor.toNat ≤ 2 ^ 128 * factor.toNat := Nat.mul_le_mul_right _ hr
      _ < 2 ^ 128 * 2 ^ 128 := Nat.mul_lt_mul_of_pos_left hf (by decide)
      _ = 2 ^ 256 := by decide
  rw [BitVec.toNat_mul, Nat.mod_eq_of_lt h]

theorem toNat_mul_factor {ratio factor : Word} (hr : ratio.toNat ≤ 2 ^ 128)
    (hf : factor.toNat < 2 ^ 128) :
    ((ratio * factor) >>> 128).toNat = ratio.toNat * factor.toNat / 2 ^ 128 := by
  rw [BitVec.toNat_ushiftRight, toNat_mul_of_le hr hf, Nat.shiftRight_eq_div_pow]

/-- A factor leaves a ratio of at most one. -/
theorem toNat_mul_factor_le {ratio factor : Word} (hr : ratio.toNat ≤ 2 ^ 128)
    (hf : factor.toNat < 2 ^ 128) : ((ratio * factor) >>> 128).toNat ≤ 2 ^ 128 := by
  rw [toNat_mul_factor hr hf]
  calc ratio.toNat * factor.toNat / 2 ^ 128 ≤ ratio.toNat * 2 ^ 128 / 2 ^ 128 :=
        Nat.div_le_div_right (Nat.mul_le_mul_left _ hf.le)
    _ = ratio.toNat := Nat.mul_div_cancel _ (by positivity)
    _ ≤ 2 ^ 128 := hr

theorem natDiv_bounds (n : ℕ) {d : ℕ} (hd : 0 < d) :
    ((n / d : ℕ) : ℝ) ≤ n / d ∧ (n : ℝ) / d < (n / d : ℕ) + 1 := by
  refine ⟨Nat.cast_div_le, ?_⟩
  rw [div_lt_iff₀ (by exact_mod_cast hd)]
  exact_mod_cast Nat.lt_mul_of_div_lt (Nat.lt_succ_self _) hd

/-- Cutting a product back and the error of its factor cost a unit each. -/
theorem abs_mul_factor_sub_le {s f : ℕ} {scale root error : ℝ} (hf : f < 2 ^ 128)
    (h0 : 0 ≤ scale) (h1 : scale ≤ 1) (hs : |(s : ℝ) - 2 ^ 128 * scale| ≤ error)
    (hroot : |(f : ℝ) - 2 ^ 128 * root| ≤ 1) :
    |((s * f / 2 ^ 128 : ℕ) : ℝ) - 2 ^ 128 * (scale * root)| ≤ error + 2 := by
  have hf' : (f : ℝ) / 2 ^ 128 ≤ 1 := by
    rw [div_le_one (by positivity)]
    exact_mod_cast hf.le
  obtain ⟨hle, hlt⟩ := natDiv_bounds (s * f) (d := 2 ^ 128) (by positivity)
  rw [Nat.cast_mul, Nat.cast_pow, Nat.cast_ofNat] at hle hlt
  have hprod : |(s : ℝ) * f / 2 ^ 128 - scale * f| ≤ error := by
    have e : (s : ℝ) * f / 2 ^ 128 - scale * f = (s - 2 ^ 128 * scale) * (f / 2 ^ 128) := by
      field_simp
    rw [e, abs_mul, abs_of_nonneg (by positivity : (0 : ℝ) ≤ f / 2 ^ 128)]
    exact (mul_le_of_le_one_right (abs_nonneg _) hf').trans hs
  have hfactor : |scale * (f : ℝ) - 2 ^ 128 * (scale * root)| ≤ 1 := by
    have e : scale * (f : ℝ) - 2 ^ 128 * (scale * root) = scale * (f - 2 ^ 128 * root) := by ring
    rw [e, abs_mul, abs_of_nonneg h0]
    exact (mul_le_of_le_one_left (abs_nonneg _) h1).trans hroot
  obtain ⟨ha, ha'⟩ := abs_le.1 hprod
  obtain ⟨hb, hb'⟩ := abs_le.1 hfactor
  exact abs_le.2 ⟨by linarith, by linarith⟩

/-- **The product of a table is as exact as its length allows.**  Every factor adds at most two
units to the error of the ratio it is multiplied to. -/
theorem abs_applyFactors_sub_le :
    ∀ (table : List Word) (num den n : ℕ) (ratio : Word) (root scale error : ℝ),
      IsRootTable num den table → IsRootOf num den root → n < 2 ^ table.length →
      ratio.toNat ≤ 2 ^ 128 → 0 ≤ scale → scale ≤ 1 →
      |(ratio.toNat : ℝ) - 2 ^ 128 * scale| ≤ error →
      |((applyFactors table n ratio).toNat : ℝ) - 2 ^ 128 * (scale * root ^ n)| ≤
        error + 2 * table.length := by
  intro table
  induction table with
  | nil =>
    intro num den n ratio root scale error _ _ hn _ _ _ herror
    obtain rfl : n = 0 := by simpa using hn
    simpa [applyFactors] using herror
  | cons factor rest ih =>
    intro num den n ratio root scale error htable hroot hn hr h0 h1 herror
    obtain ⟨hf, hlow, hhigh, hrest⟩ := htable
    have hn' : n / 2 < 2 ^ rest.length := by
      rw [List.length_cons, pow_succ] at hn
      exact Nat.div_lt_of_lt_mul (by omega)
    have hpow : root ^ n = root ^ (n % 2) * (root ^ 2) ^ (n / 2) := by
      rw [← pow_mul, ← pow_add, Nat.mod_add_div]
    rw [List.length_cons, Nat.cast_add_one, applyFactors]
    -- an odd `n` takes the factor in, an even one passes it by
    rcases Nat.mod_two_eq_zero_or_one n with hbit | hbit
    · rw [if_neg (by omega)]
      have h := ih _ _ _ ratio _ scale error hrest hroot.sq hn' hr h0 h1 herror
      rw [hpow, hbit, pow_zero, one_mul]
      exact h.trans (by linarith only)
    · rw [if_pos hbit]
      have hle := toNat_mul_factor_le hr hf
      have herror' : |(((ratio * factor) >>> 128).toNat : ℝ) - 2 ^ 128 * (scale * root)| ≤
          error + 2 := by
        rw [toNat_mul_factor hr hf]
        exact abs_mul_factor_sub_le hf h0 h1 herror (abs_factor_sub_le hroot hlow hhigh)
      have h := ih _ _ _ _ _ (scale * root) (error + 2) hrest hroot.sq hn' hle
        (mul_nonneg h0 hroot.nonneg) (mul_le_one₀ h1 hroot.nonneg hroot.le_one) herror'
      rw [hpow, hbit, pow_one, ← mul_assoc scale]
      exact h.trans (by linarith only)

/-! ## The roots of the rate -/

/-- The factor between the square-root prices of neighbouring ticks. -/
noncomputable def tickRoot : ℝ := √(10001 / 10000)

theorem tickRoot_sq : tickRoot ^ 2 = 10001 / 10000 := Real.sq_sqrt (by norm_num)

theorem tickRoot_pos : 0 < tickRoot := Real.sqrt_pos.2 (by norm_num)

/-- A tick is worth more than four thousandths of a percent. -/
theorem lt_tickRoot : 1.00004 < tickRoot := Real.lt_sqrt_of_sq_lt (by norm_num)

theorem isRootOf_inv_tickRoot : IsRootOf 10000 10001 tickRoot⁻¹ where
  nonneg := (inv_pos.2 tickRoot_pos).le
  sq_mul := by
    rw [inv_pow, tickRoot_sq]
    norm_num
  den_pos := by decide
  num_le := by decide

theorem toNat_ratioOne : (BitVec.ofNat 256 (pow2 128) : Word).toNat = 2 ^ 128 := by decide

/-- The product of the twenty factors is off by at most forty units. -/
theorem abs_inverseRatio_sub_le {n : ℕ} (hn : n < 2 ^ 20) :
    |((inverseRatio n).toNat : ℝ) - 2 ^ 128 * tickRoot⁻¹ ^ n| ≤ 40 := by
  have h := abs_applyFactors_sub_le rootFactors 10000 10001 n (BitVec.ofNat 256 (pow2 128))
    tickRoot⁻¹ 1 0 isRootTable_rootFactors isRootOf_inv_tickRoot hn toNat_ratioOne.le zero_le_one le_rfl
    (by rw [toNat_ratioOne]; norm_num)
  rw [one_mul, zero_add] at h
  refine h.trans (le_of_eq ?_)
  rw [show rootFactors.length = 20 from rfl]
  norm_num

end Tickwise

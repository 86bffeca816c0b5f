import Tickwise.Proofs.Tick.SqrtRatio

/-!
# How accurate the price at a tick is

The price at a tick is the true one rounded up, to one part in `2 ^ 48` of its square, at every tick
within the bounds.  On the way there no product of words is cut off at the top: the ratio stays at
most one whatever factors have been multiplied to it.

* `applyFactors_append` — a table is gone through part by part;
* `toNat_ratioAfter_le` — the ratio after any part of the table;
* `sqrtRatioAtTick_accurate` — the price against the true power, and the products on the way.
-/

namespace Tickwise

/-! ## The products -/

/-- A table is gone through part by part, each part with the bits that are left. -/
theorem applyFactors_append (table rest : List Word) (n : ℕ) (ratio : Word) :
    applyFactors (table ++ rest) n ratio =
      applyFactors rest (n / 2 ^ table.length) (applyFactors table n ratio) := by
  induction table generalizing n ratio with
  | nil => simp [applyFactors]
  | cons factor table ih =>
    rw [List.cons_append, applyFactors, applyFactors, ih, Nat.div_div_eq_div_mul,
      List.length_cons, pow_succ']

/-- Factors below one leave a ratio of at most one. -/
theorem toNat_applyFactors_le {table : List Word} (htable : ∀ f ∈ table, f.toNat < 2 ^ 128)
    (n : ℕ) {ratio : Word} (hr : ratio.toNat ≤ 2 ^ 128) :
    (applyFactors table n ratio).toNat ≤ 2 ^ 128 := by
  induction table generalizing n ratio with
  | nil => simpa [applyFactors] using hr
  | cons factor table ih =>
    obtain ⟨hf, hrest⟩ := List.forall_mem_cons.1 htable
    rw [applyFactors]
    refine ih hrest _ ?_
    split
    · exact toNat_mul_factor_le hr hf
    · exact hr

/-- The ratio of `n` after a part of the table, from the ratio one. -/
def ratioAfter (part : List Word) (n : ℕ) : Word :=
  applyFactors part n (BitVec.ofNat 256 (pow2 128))

theorem toNat_ratioAfter_le {part : List Word} (hpart : ∀ f ∈ part, f.toNat < 2 ^ 128) (n : ℕ) :
    (ratioAfter part n).toNat ≤ 2 ^ 128 :=
  toNat_applyFactors_le hpart n toNat_ratioOne.le

/-- Wherever the table is cut, the ratio is worked out from that of the first part, and the next
product is that of the two numbers. -/
theorem inverseRatio_eq_of_cut {before after : List Word} {factor : Word}
    (hcut : rootFactors = before ++ factor :: after) (n : ℕ) :
    inverseRatio n =
        applyFactors (factor :: after) (n / 2 ^ before.length) (ratioAfter before n) ∧
      (ratioAfter before n * factor).toNat = (ratioAfter before n).toNat * factor.toNat := by
  have hfactors := isRootTable_rootFactors.toNat_lt
  rw [hcut] at hfactors
  constructor
  · rw [inverseRatio, hcut, applyFactors_append, ratioAfter]
  · refine toNat_mul_of_le (toNat_ratioAfter_le ?_ n) (hfactors factor (by simp))
    intro f hf
    exact hfactors f (List.mem_append_left _ hf)

/-! ## The true price -/

/-- The square of the true price at a tick, in units of `2 ^ (-192)`. -/
def exactSquareAtTick (tick : ℤ) : ℚ := 1.0001 ^ tick * 2 ^ 192

theorem cast_exactSquareAtTick (tick : ℤ) :
    (exactSquareAtTick tick : ℝ) = (2 ^ 96 * tickRoot ^ tick) ^ 2 := by
  have hroot : (tickRoot ^ tick) ^ 2 = (1.0001 : ℝ) ^ tick := by
    rw [← zpow_natCast, ← zpow_mul, mul_comm, zpow_mul, zpow_natCast, tickRoot_sq]
    norm_num
  rw [exactSquareAtTick, mul_pow, hroot]
  push_cast
  ring

/-- The price is the ratio in units of `2 ^ (-96)`, and less than one above it. -/
theorem priceAtTick_bounds (tick : ℤ) :
    (ratioWord tick : ℝ) ≤ priceAtTick tick * 2 ^ 32 ∧
      (priceAtTick tick - 1 : ℝ) * 2 ^ 32 ≤ ratioWord tick := by
  have hpos : 0 < 2 ^ 32 := by decide
  have hbelow : ratioWord tick ≤ priceAtTick tick * 2 ^ 32 := (ceilDiv_le_iff hpos).1 le_rfl
  have hceil : priceAtTick tick ≤ ratioWord tick / 2 ^ 32 + 1 := by
    rw [priceAtTick]
    exact ceilDiv_le_div_add_one _ _
  have habove : priceAtTick tick * 2 ^ 32 ≤ ratioWord tick + 2 ^ 32 :=
    calc priceAtTick tick * 2 ^ 32 ≤ (ratioWord tick / 2 ^ 32 + 1) * 2 ^ 32 :=
          Nat.mul_le_mul_right _ hceil
      _ = ratioWord tick / 2 ^ 32 * 2 ^ 32 + 2 ^ 32 := by rw [Nat.add_mul, Nat.one_mul]
      _ ≤ ratioWord tick + 2 ^ 32 := Nat.add_le_add_right (Nat.div_mul_le_self _ _) _
  have habove' : (priceAtTick tick * 2 ^ 32 : ℝ) ≤ ratioWord tick + 2 ^ 32 := by
    exact_mod_cast habove
  exact ⟨by exact_mod_cast hbelow, by linarith⟩

/-- The price before it is rounded up is the true one to one part in `2 ^ 56`. -/
theorem priceAtTick_near {tick : ℤ} (h : InTickBounds tick) :
    2 ^ 96 * tickRoot ^ tick * (1 - 1 / 2 ^ 56) ≤ priceAtTick tick ∧
      (priceAtTick tick : ℝ) - 1 ≤ 2 ^ 96 * tickRoot ^ tick * (1 + 1 / 2 ^ 56) := by
  obtain ⟨hlow, hhigh⟩ := abs_le.1 (abs_ratioWord_sub_le h)
  obtain ⟨hbelow, habove⟩ := priceAtTick_bounds tick
  have hscale : (2 : ℝ) ^ 128 * tickRoot ^ tick = 2 ^ 96 * tickRoot ^ tick * 2 ^ 32 := by ring
  rw [hscale] at hlow hhigh
  constructor
  · linarith
  · linarith

/-- **The square of the price is the true one to one part in `2 ^ 48`**, but for the unit by which
the price is rounded up. -/
theorem sq_priceAtTick_bounds {tick : ℤ} (h : InTickBounds tick) :
    (1 - 1 / 2 ^ 48) * exactSquareAtTick tick ≤ (priceAtTick tick : ℚ) ^ 2 ∧
      ((priceAtTick tick : ℚ) - 1) ^ 2 ≤ (1 + 1 / 2 ^ 48) * exactSquareAtTick tick := by
  obtain ⟨hlow, hhigh⟩ := priceAtTick_near h
  have hexact := cast_exactSquareAtTick tick
  have hsize : (1 : ℝ) ≤ 2 ^ 96 * tickRoot ^ tick := by
    have := two_pow_le_ratio h
    linarith
  set y : ℝ := 2 ^ 96 * tickRoot ^ tick with hy
  have hpositive : (0 : ℝ) ≤ priceAtTick tick := Nat.cast_nonneg _
  have hbelow : (1 - 1 / 2 ^ 48) * (exactSquareAtTick tick : ℝ) ≤ (priceAtTick tick : ℝ) ^ 2 := by
    rw [hexact]
    calc (1 - 1 / 2 ^ 48) * y ^ 2 ≤ (1 - 1 / 2 ^ 56) ^ 2 * y ^ 2 :=
          mul_le_mul_of_nonneg_right (by norm_num) (sq_nonneg y)
      _ = (y * (1 - 1 / 2 ^ 56)) ^ 2 := by ring
      _ ≤ (priceAtTick tick : ℝ) ^ 2 := pow_le_pow_left₀ (by norm_num; linarith) hlow 2
  have habove : ((priceAtTick tick : ℝ) - 1) ^ 2 ≤
      (1 + 1 / 2 ^ 48) * (exactSquareAtTick tick : ℝ) := by
    rw [hexact]
    calc ((priceAtTick tick : ℝ) - 1) ^ 2 ≤ (y * (1 + 1 / 2 ^ 56)) ^ 2 :=
          sq_le_sq' (by linarith) hhigh
      _ = (1 + 1 / 2 ^ 56) ^ 2 * y ^ 2 := by ring
      _ ≤ (1 + 1 / 2 ^ 48) * y ^ 2 := mul_le_mul_of_nonneg_right (by norm_num) (sq_nonneg y)
  constructor
  · refine (Rat.cast_le (K := ℝ)).1 ?_
    push_cast
    exact hbelow
  · refine (Rat.cast_le (K := ℝ)).1 ?_
    push_cast
    exact habove

/-- **The price at a tick approximates the true one.**  At every tick within the bounds there is a
price, its square is `1.0001 ^ tick` to one part in `2 ^ 48` but for the unit by which it is rounded
up, and wherever the table of factors is cut, the product that is formed next is the product of the
two numbers, with nothing cut off. -/
theorem sqrtRatioAtTick_accurate {tick : ℤ} (h : InTickBounds tick) :
    (∃ price : ℕ, sqrtRatioAtTick tick = .ok price ∧
      (1 - 1 / 2 ^ 48) * exactSquareAtTick tick ≤ (price : ℚ) ^ 2 ∧
      ((price : ℚ) - 1) ^ 2 ≤ (1 + 1 / 2 ^ 48) * exactSquareAtTick tick) ∧
    ∀ before factor after, rootFactors = before ++ factor :: after →
      inverseRatio tick.natAbs =
        applyFactors (factor :: after) (tick.natAbs / 2 ^ before.length)
          (ratioAfter before tick.natAbs) ∧
      (ratioAfter before tick.natAbs * factor).toNat =
        (ratioAfter before tick.natAbs).toNat * factor.toNat := by
  constructor
  · obtain ⟨hbelow, habove⟩ := sq_priceAtTick_bounds h
    exact ⟨priceAtTick tick, sqrtRatioAtTick_of_inTickBounds h, hbelow, habove⟩
  · intro before factor after hcut
    exact inverseRatio_eq_of_cut hcut tick.natAbs

/-- At the highest tick, and at the last factor of the table. -/
theorem sqrtRatioAtTick_accurate_at_maxTick :
    InTickBounds maxTick ∧
      (∃ price : ℕ, sqrtRatioAtTick maxTick = .ok price ∧
        (1 - 1 / 2 ^ 48) * exactSquareAtTick maxTick ≤ (price : ℚ) ^ 2 ∧
        ((price : ℚ) - 1) ^ 2 ≤ (1 + 1 / 2 ^ 48) * exactSquareAtTick maxTick) ∧
      rootFactors = rootFactors.take 19 ++ [0x48a170391f7dc42444e8fa2] ∧
      (ratioAfter (rootFactors.take 19) maxTick.natAbs * 0x48a170391f7dc42444e8fa2).toNat =
        (ratioAfter (rootFactors.take 19) maxTick.natAbs).toNat * 0x48a170391f7dc42444e8fa2 := by
  have hbounds : InTickBounds maxTick := by decide
  have hcut : rootFactors = rootFactors.take 19 ++ [0x48a170391f7dc42444e8fa2] := rfl
  obtain ⟨hprice, hproducts⟩ := sqrtRatioAtTick_accurate hbounds
  exact ⟨hbounds, hprice, hcut, (hproducts _ _ _ hcut).2⟩

end Tickwise

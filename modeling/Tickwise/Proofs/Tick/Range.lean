import Mathlib
import Tickwise.Tick.Usable

/-!
# Ranges hold the tick they are made around

The usable tick nearest to a tick is less than a spacing away, and a range reaches at least one
spacing to each side of it, so the tick itself is strictly inside.

* `nearestUsableTick_cases` — how a usable tick is found;
* `abs_nearestUsableTick_sub_lt`, `nearestUsableTick_usable` — it is near, and it is usable;
* `tickRange_lt`, `tickRange_widens` — a tick lies strictly inside its range, and a greater width
  reaches further.
-/

namespace Tickwise

/-- A tick is between the middles around its nearest multiple, and may be at the lower one. -/
theorem nearestMultiple_bounds (tick : ℤ) {spacing : ℤ} (h : 0 < spacing) :
    2 * nearestMultiple tick spacing - spacing ≤ 2 * tick ∧
      2 * tick < 2 * nearestMultiple tick spacing + spacing := by
  have hdiv := Int.ediv_mul_add_emod (2 * tick + spacing) (2 * spacing)
  have hlow := Int.emod_nonneg (2 * tick + spacing) (by omega : 2 * spacing ≠ 0)
  have hhigh := Int.emod_lt_of_pos (2 * tick + spacing) (by omega : 0 < 2 * spacing)
  have hmul : (2 * tick + spacing) / (2 * spacing) * (2 * spacing) =
      2 * nearestMultiple tick spacing := by
    rw [nearestMultiple]
    ring
  rw [hmul] at hdiv
  exact ⟨by linarith, by linarith⟩

/-- The nearest multiple is at most half a spacing away. -/
theorem two_mul_abs_nearestMultiple_sub_le {tick spacing : ℤ} (h : 0 < spacing) :
    2 * |nearestMultiple tick spacing - tick| ≤ spacing := by
  obtain ⟨hlow, hhigh⟩ := nearestMultiple_bounds tick h
  have h2 : |2 * (nearestMultiple tick spacing - tick)| ≤ spacing :=
    abs_le.2 ⟨by linarith, by linarith⟩
  rwa [abs_mul, abs_two] at h2

/-- How a usable tick is found: the nearest multiple, or its neighbour where that is no tick. -/
theorem nearestUsableTick_cases {tick spacing center : ℤ}
    (h : nearestUsableTick tick spacing = .ok center) : 0 < spacing ∧ InTickBounds tick ∧
      (nearestMultiple tick spacing < minTick ∧ center = nearestMultiple tick spacing + spacing ∨
        maxTick < nearestMultiple tick spacing ∧ center = nearestMultiple tick spacing - spacing ∨
        InTickBounds (nearestMultiple tick spacing) ∧ center = nearestMultiple tick spacing) := by
  unfold nearestUsableTick at h
  split at h
  · cases h
  rename_i hspacing
  split at h
  · cases h
  rename_i hbounds
  refine ⟨not_le.1 hspacing, not_not.1 hbounds, ?_⟩
  dsimp only at h
  split at h
  · rename_i hbelow
    cases h
    exact .inl ⟨hbelow, rfl⟩
  split at h
  · rename_i habove
    cases h
    exact .inr (.inl ⟨habove, rfl⟩)
  · rename_i hbelow habove
    cases h
    exact .inr (.inr ⟨⟨not_lt.1 hbelow, not_lt.1 habove⟩, rfl⟩)

/-- Around a tick there is always a usable one. -/
theorem exists_nearestUsableTick {tick spacing : ℤ} (hspacing : 0 < spacing)
    (htick : InTickBounds tick) : ∃ center, nearestUsableTick tick spacing = .ok center := by
  unfold nearestUsableTick
  rw [if_neg (not_le.2 hspacing), if_neg (not_not.2 htick)]
  dsimp only
  split
  · exact ⟨_, rfl⟩
  split
  · exact ⟨_, rfl⟩
  · exact ⟨_, rfl⟩

theorem inTickBounds_of_nearestUsableTick {tick spacing center : ℤ}
    (h : nearestUsableTick tick spacing = .ok center) : InTickBounds tick :=
  (nearestUsableTick_cases h).2.1

/-- The nearest usable tick is less than a spacing away. -/
theorem abs_nearestUsableTick_sub_lt {tick spacing center : ℤ}
    (h : nearestUsableTick tick spacing = .ok center) : |center - tick| < spacing := by
  obtain ⟨hpos, ⟨hmin, hmax⟩, hcases⟩ := nearestUsableTick_cases h
  have hnear : 2 * |nearestMultiple tick spacing - tick| ≤ spacing :=
    two_mul_abs_nearestMultiple_sub_le hpos
  obtain ⟨hlow, hhigh⟩ := abs_le.1 (le_refl |nearestMultiple tick spacing - tick|)
  rcases hcases with ⟨hout, rfl⟩ | ⟨hout, rfl⟩ | ⟨-, rfl⟩
  · exact abs_lt.2 ⟨by linarith, by linarith⟩
  · exact abs_lt.2 ⟨by linarith, by linarith⟩
  · exact abs_lt.2 ⟨by linarith, by linarith⟩

/-- The nearest usable tick is a multiple of the spacing, and a tick. -/
theorem nearestUsableTick_usable {tick spacing center : ℤ}
    (h : nearestUsableTick tick spacing = .ok center) : spacing ∣ center ∧ InTickBounds center := by
  obtain ⟨hpos, ⟨hmin, hmax⟩, hcases⟩ := nearestUsableTick_cases h
  have hnear : 2 * |nearestMultiple tick spacing - tick| ≤ spacing :=
    two_mul_abs_nearestMultiple_sub_le hpos
  obtain ⟨hlow, hhigh⟩ := abs_le.1 (le_refl |nearestMultiple tick spacing - tick|)
  obtain ⟨count, hcount⟩ : spacing ∣ nearestMultiple tick spacing := Dvd.intro_left _ rfl
  -- a multiple on one side of zero does not pass it with one more spacing
  rcases hcases with ⟨hout, rfl⟩ | ⟨hout, rfl⟩ | ⟨hin, rfl⟩
  · have hneg : count < 0 := by
      by_contra hnot
      have := mul_nonneg hpos.le (not_lt.1 hnot)
      unfold minTick at hout
      omega
    have hzero : spacing * (count + 1) ≤ 0 :=
      mul_nonpos_of_nonneg_of_nonpos hpos.le (by omega)
    rw [mul_add, mul_one, ← hcount] at hzero
    refine ⟨dvd_add_self_right.2 ⟨count, hcount⟩, by linarith, ?_⟩
    unfold maxTick
    omega
  · have hpositive : 0 < count := by
      by_contra hnot
      have := mul_nonpos_of_nonneg_of_nonpos hpos.le (not_lt.1 hnot)
      unfold maxTick at hout
      omega
    have hzero : 0 ≤ spacing * (count - 1) := mul_nonneg hpos.le (by omega)
    rw [mul_sub, mul_one, ← hcount] at hzero
    refine ⟨dvd_sub_self_right.2 ⟨count, hcount⟩, ?_, by linarith⟩
    unfold minTick
    omega
  · exact ⟨⟨count, hcount⟩, hin⟩

/-- A range reaches its width to both sides of the usable tick, its ends held to 32 bits. -/
theorem exists_center_of_tickRange {tick spacing tickLower tickUpper : ℤ} {width : TickWidth}
    (h : tickRange tick spacing width = .ok (tickLower, tickUpper)) :
    ∃ center, nearestUsableTick tick spacing = .ok center ∧
      tickLower = saturate32 (center - spacing * width.spacings) ∧
      tickUpper = saturate32 (center + spacing * width.spacings) := by
  unfold tickRange at h
  cases hcenter : nearestUsableTick tick spacing with
  | error fault =>
    rw [hcenter] at h
    cases h
  | ok center =>
    rw [hcenter] at h
    cases h
    exact ⟨center, rfl, rfl, rfl⟩

/-- **A tick lies strictly inside its range.** -/
theorem tickRange_lt {tick spacing tickLower tickUpper : ℤ} {width : TickWidth}
    (h : tickRange tick spacing width = .ok (tickLower, tickUpper)) :
    tickLower < tick ∧ tick < tickUpper := by
  obtain ⟨center, hcenter, rfl, rfl⟩ := exists_center_of_tickRange h
  obtain ⟨hlow, hhigh⟩ := abs_lt.1 (abs_nearestUsableTick_sub_lt hcenter)
  have hin : InTickBounds tick := inTickBounds_of_nearestUsableTick hcenter
  have hspacing : 0 < spacing := by linarith
  have hreach : spacing ≤ spacing * width.spacings :=
    le_mul_of_one_le_right hspacing.le (by exact_mod_cast width.pos)
  unfold InTickBounds minTick maxTick at hin
  unfold saturate32
  constructor
  · omega
  · omega

theorem saturate32_mono {m n : ℤ} (h : m ≤ n) : saturate32 m ≤ saturate32 n :=
  max_le_max le_rfl (min_le_min h le_rfl)

/-- A greater width reaches at least as far to both sides. -/
theorem tickRange_widens {tick spacing tickLower tickUpper tickLower' tickUpper' : ℤ}
    {width width' : TickWidth} (h : tickRange tick spacing width = .ok (tickLower, tickUpper))
    (h' : tickRange tick spacing width' = .ok (tickLower', tickUpper'))
    (hle : width.spacings ≤ width'.spacings) : tickLower' ≤ tickLower ∧ tickUpper ≤ tickUpper' := by
  obtain ⟨center, hcenter, rfl, rfl⟩ := exists_center_of_tickRange h
  obtain ⟨center', hcenter', rfl, rfl⟩ := exists_center_of_tickRange h'
  cases hcenter.symm.trans hcenter'
  obtain ⟨hpos, -, -⟩ := nearestUsableTick_cases hcenter
  have hreach : spacing * width.spacings ≤ spacing * width'.spacings :=
    mul_le_mul_of_nonneg_left (by exact_mod_cast hle) hpos.le
  exact ⟨saturate32_mono (by linarith), saturate32_mono (by linarith)⟩

end Tickwise

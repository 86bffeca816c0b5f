import Tickwise.Proofs.Tick.Range

/-!
# Ranges on machine words

A range is worked out on signed words of 64 bits and its ends are held to 32.  A spacing has up to
31 bits and a width up to 32, so their product comes within a few billion of the greatest word; but
no operation leaves the word, and an end that does not fit in 32 bits is held where no tick is.

* `fit?` — the result of an operation, when it fits in a word;
* `nearestUsableTickWord?`, `tickRangeWord?` — the calculation, one operation at a time;
* `tickRangeWord?_eq` — no operation of it leaves its word;
* `tickRange_exact` — which range comes out.
-/

namespace Tickwise

/-! ## The calculation on words -/

/-- The result of an operation on signed words, when it fits. -/
def fit? (bits : ℕ) (n : ℤ) : Option ℤ := if FitsSigned bits n then some n else none

/-- The usable tick nearest to a tick, on words of 64 bits, narrowed to 32. -/
def nearestUsableTickWord? (tick spacing : ℤ) : Option ℤ := do
  let twice ← fit? 64 (tick * 2)
  let doubled ← fit? 64 (twice + spacing)
  let period ← fit? 64 (spacing * 2)
  let count ← fit? 64 (doubled / period)
  let nearest ← fit? 64 (count * spacing)
  let usable ←
    if nearest < minTick then fit? 64 (nearest + spacing)
    else if maxTick < nearest then fit? 64 (nearest - spacing)
    else some nearest
  fit? 32 usable

/-- The range around a tick, on words of 64 bits. -/
def tickRangeWord? (tick spacing : ℤ) (width : TickWidth) : Option (ℤ × ℤ) := do
  let center ← nearestUsableTickWord? tick spacing
  let offset ← fit? 64 (spacing * width.spacings)
  let lower ← fit? 64 (center - offset)
  let upper ← fit? 64 (center + offset)
  return (saturate32 lower, saturate32 upper)

/-! ## No operation leaves its word -/

section Words

variable {tick spacing center : ℤ} {width : TickWidth}

theorem fit?_of_fitsSigned {bits : ℕ} {n : ℤ} (h : FitsSigned bits n) : fit? bits n = some n :=
  if_pos h

theorem fit?_of_abs_lt {n : ℤ} (h : |n| < 2 ^ 63) : fit? 64 n = some n :=
  fit?_of_fitsSigned ⟨(abs_lt.1 h).1.le, (abs_lt.1 h).2⟩

theorem fit?_mul_two {n : ℤ} (h : |n| < 2 ^ 32) : fit? 64 (n * 2) = some (2 * n) := by
  rw [mul_comm]
  refine fit?_of_abs_lt ?_
  rw [abs_mul, abs_two]
  linarith

/-- The nearest multiple of a spacing, and how many spacings it is, are far from leaving a word. -/
theorem abs_nearestMultiple_lt (htick : InTickBounds tick) (hpos : 0 < spacing)
    (hword : spacing < 2 ^ 31) : |nearestMultiple tick spacing| < 2 ^ 32 ∧
      |(2 * tick + spacing) / (2 * spacing)| < 2 ^ 32 := by
  have hbound : |tick| ≤ 887272 := abs_le.2 htick
  have hnear : 2 * |nearestMultiple tick spacing - tick| ≤ spacing :=
    two_mul_abs_nearestMultiple_sub_le hpos
  have hfar := abs_sub_abs_le_abs_sub (nearestMultiple tick spacing) tick
  have hnearest : |nearestMultiple tick spacing| < 2 ^ 32 := by linarith
  refine ⟨hnearest, lt_of_le_of_lt ?_ hnearest⟩
  rw [nearestMultiple, abs_mul]
  exact le_mul_of_one_le_right (abs_nonneg _) (Int.one_le_abs hpos.ne')

/-- The usable tick nearest to a tick is found without leaving a word. -/
theorem nearestUsableTickWord?_eq (hword : spacing < 2 ^ 31)
    (h : nearestUsableTick tick spacing = .ok center) :
    nearestUsableTickWord? tick spacing = some center := by
  obtain ⟨hpos, htick, hcases⟩ := nearestUsableTick_cases h
  obtain ⟨-, hcenter⟩ := nearestUsableTick_usable h
  obtain ⟨hnearest, hcount⟩ := abs_nearestMultiple_lt htick hpos hword
  have hbound : |tick| ≤ 887272 := abs_le.2 htick
  have hspacing : |spacing| < 2 ^ 31 := by rwa [abs_of_pos hpos]
  have htwice := fit?_mul_two (hbound.trans_lt (by norm_num))
  have hperiod := fit?_mul_two (hspacing.trans (by norm_num))
  have hdoubled : fit? 64 (2 * tick + spacing) = some (2 * tick + spacing) := by
    refine fit?_of_abs_lt ((abs_add_le _ _).trans_lt ?_)
    rw [abs_mul, abs_two]
    linarith
  have hquotient := fit?_of_abs_lt (hcount.trans (by norm_num))
  have hproduct : fit? 64 ((2 * tick + spacing) / (2 * spacing) * spacing) =
      some (nearestMultiple tick spacing) := fit?_of_abs_lt (hnearest.trans (by norm_num))
  have hnarrow : fit? 32 center = some center := by
    refine fit?_of_fitsSigned ⟨?_, ?_⟩
    · exact le_trans (by decide) hcenter.1
    · exact lt_of_le_of_lt hcenter.2 (by decide)
  have hmoved : fit? 64 center = some center :=
    fit?_of_abs_lt ((abs_le.2 hcenter).trans_lt (by norm_num))
  simp only [nearestUsableTickWord?, htwice, hdoubled, hperiod, hquotient, hproduct,
    Option.bind_eq_bind, Option.bind_some]
  rcases hcases with ⟨hbelow, rfl⟩ | ⟨habove, rfl⟩ | ⟨hin, rfl⟩
  · rw [if_pos hbelow, hmoved, Option.bind_some, hnarrow]
  · have hnot : ¬ nearestMultiple tick spacing < minTick := by
      unfold maxTick at habove
      unfold minTick
      omega
    rw [if_neg hnot, if_pos habove, hmoved, Option.bind_some, hnarrow]
  · rw [if_neg (not_lt.2 hin.1), if_neg (not_lt.2 hin.2), hnarrow]

/-- A range is worked out without leaving a word. -/
theorem tickRangeWord?_eq (hword : spacing < 2 ^ 31) (hwidth : width.spacings < 2 ^ 32)
    (h : nearestUsableTick tick spacing = .ok center) :
    tickRangeWord? tick spacing width =
      some (saturate32 (center - spacing * width.spacings),
        saturate32 (center + spacing * width.spacings)) := by
  obtain ⟨hpos, -, -⟩ := nearestUsableTick_cases h
  obtain ⟨-, hcenter⟩ := nearestUsableTick_usable h
  have hbound : |center| ≤ 887272 := abs_le.2 hcenter
  have hreach : |spacing * width.spacings| ≤ (2 ^ 31 - 1) * (2 ^ 32 - 1) := by
    rw [abs_of_nonneg (by positivity)]
    exact mul_le_mul (by omega) (by omega) (by positivity) (by norm_num)
  have hoffset := fit?_of_abs_lt (hreach.trans_lt (by norm_num))
  have hlower : fit? 64 (center - spacing * width.spacings) =
      some (center - spacing * width.spacings) :=
    fit?_of_abs_lt ((abs_sub _ _).trans_lt (by linarith))
  have hupper : fit? 64 (center + spacing * width.spacings) =
      some (center + spacing * width.spacings) :=
    fit?_of_abs_lt ((abs_add_le _ _).trans_lt (by linarith))
  simp only [tickRangeWord?, nearestUsableTickWord?_eq hword h, hoffset, hlower, hupper,
    Option.bind_eq_bind, Option.bind_some, Option.pure_def]

end Words

/-! ## The range that comes out -/

/-- How an end of a range is held: where it is, when that fits in 32 bits, and otherwise at the last
number that does, where no tick is. -/
def HeldAt (exact held : ℤ) : Prop :=
  if FitsSigned 32 exact then held = exact
  else (held = -2 ^ 31 ∨ held = 2 ^ 31 - 1) ∧ ¬ InTickBounds held

theorem heldAt_saturate32 (n : ℤ) : HeldAt n (saturate32 n) := by
  unfold HeldAt
  by_cases hfits : FitsSigned 32 n
  · rw [if_pos hfits]
    exact saturate32_of_fitsSigned hfits
  · rw [if_neg hfits]
    have hout : ¬ (-2147483648 ≤ n ∧ n < 2147483648) := hfits
    unfold InTickBounds minTick maxTick saturate32
    omega

/-- An end that is held at a tick is where it is held. -/
theorem HeldAt.eq_of_inTickBounds {exact held : ℤ} (h : HeldAt exact held)
    (hin : InTickBounds held) : held = exact := by
  unfold HeldAt at h
  split at h
  · exact h
  · exact absurd hin h.2

/-- **A range reaches exactly its width to both sides of the usable tick, and holds the tick.**  No
operation on the way leaves its word, an end that does not fit in 32 bits is held where no tick is,
and between ticks the ends are multiples of the spacing. -/
theorem tickRange_exact {tick spacing : ℤ} {width : TickWidth} (htick : InTickBounds tick)
    (hpos : 0 < spacing) (hword : spacing < 2 ^ 31) (hwidth : width.spacings < 2 ^ 32) :
    ∃ center lower upper,
      nearestUsableTick tick spacing = .ok center ∧
      tickRange tick spacing width = .ok (lower, upper) ∧
      tickRangeWord? tick spacing width = some (lower, upper) ∧
      HeldAt (center - spacing * width.spacings) lower ∧
      HeldAt (center + spacing * width.spacings) upper ∧
      lower < tick ∧ tick < upper ∧
      (InTickBounds lower → InTickBounds upper →
        spacing ∣ lower ∧ spacing ∣ upper ∧ upper - lower = 2 * width.spacings * spacing) := by
  obtain ⟨center, hcenter⟩ := exists_nearestUsableTick hpos htick
  have hrange : tickRange tick spacing width =
      .ok (saturate32 (center - spacing * width.spacings),
        saturate32 (center + spacing * width.spacings)) := by
    rw [tickRange, hcenter]
    rfl
  obtain ⟨hbelow, habove⟩ := tickRange_lt hrange
  have hlower := heldAt_saturate32 (center - spacing * width.spacings)
  have hupper := heldAt_saturate32 (center + spacing * width.spacings)
  refine ⟨center, _, _, hcenter, hrange, tickRangeWord?_eq hword hwidth hcenter, hlower, hupper,
    hbelow, habove, ?_⟩
  intro hlowerIn hupperIn
  obtain ⟨hdvd, -⟩ := nearestUsableTick_usable hcenter
  rw [hlower.eq_of_inTickBounds hlowerIn, hupper.eq_of_inTickBounds hupperIn]
  exact ⟨dvd_sub hdvd (dvd_mul_right _ _), dvd_add hdvd (dvd_mul_right _ _), by ring⟩

/-- The widest range of the widest spacing, whose ends nearly leave the word. -/
theorem tickRange_exact_of_widest :
    InTickBounds (-887272) ∧ (0 : ℤ) < 2147483647 ∧ (2147483647 : ℤ) < 2 ^ 31 ∧
      4294967295 < 2 ^ 32 ∧
      ∃ lower upper,
        tickRange (-887272) 2147483647 ⟨4294967295, by decide⟩ = .ok (lower, upper) ∧
        tickRangeWord? (-887272) 2147483647 ⟨4294967295, by decide⟩ = some (lower, upper) ∧
        lower < -887272 ∧ -887272 < upper := by
  have htick : InTickBounds (-887272) := by decide
  obtain ⟨-, lower, upper, -, hrange, hwords, -, -, hbelow, habove, -⟩ :=
    @tickRange_exact _ 2147483647 ⟨4294967295, by decide⟩ htick (by decide) (by decide) (by decide)
  exact ⟨htick, by decide, by decide, by decide, lower, upper, hrange, hwords, hbelow, habove⟩

end Tickwise

import Tickwise.Proofs.Tick.RangeWord

/-!
# The nearest usable tick

A pool uses the multiples of its spacing that are ticks.  The one that is found for a tick is nearer to
it than any other, and the larger of the two where two are equally near; nothing else is true of only
one of them, so a usable tick is its own nearest one and a larger tick never has a smaller one.

* `IsUsable`, `IsNearestUsable` — the ticks a pool can use, and the best of them for a tick;
* `IsNearestUsable.mono`, `IsNearestUsable.unique` — what follows from being the best;
* `isNearestUsable_of_eq_ok` — the tick that is found is the best;
* `nearestUsableTick_best` — which tick is found for which input, and how it moves with the input.
-/

namespace Tickwise

/-! ## The best usable tick -/

/-- Whether a pool with this spacing can use a tick. -/
def IsUsable (spacing tick : ℤ) : Prop := spacing ∣ tick ∧ InTickBounds tick

/-- Whether a usable tick is the nearest one to a tick, and the largest that is as near. -/
structure IsNearestUsable (tick spacing nearest : ℤ) : Prop where
  usable : IsUsable spacing nearest
  le_distance : ∀ other, IsUsable spacing other → |nearest - tick| ≤ |other - tick|
  largest : ∀ other, IsUsable spacing other → |other - tick| = |nearest - tick| → other ≤ nearest

section Nearest

variable {tick tick' spacing nearest nearest' : ℤ}

/-- Of two numbers the larger is as near to a third as the smaller, or nearer, exactly when the third
is not before the middle. -/
theorem abs_sub_le_abs_sub_iff {x y t : ℤ} (h : x < y) : |y - t| ≤ |x - t| ↔ x + y ≤ 2 * t := by
  rw [← sq_le_sq]
  constructor
  · intro hle
    have hfactor : (y - x) * (x + y) ≤ (y - x) * (2 * t) := by linarith
    exact le_of_mul_le_mul_left hfactor (sub_pos.2 h)
  · intro hle
    have hfactor : (y - x) * (x + y) ≤ (y - x) * (2 * t) :=
      mul_le_mul_of_nonneg_left hle (sub_pos.2 h).le
    linarith

/-- A larger tick has no smaller nearest one. -/
theorem IsNearestUsable.mono (h : IsNearestUsable tick spacing nearest)
    (h' : IsNearestUsable tick' spacing nearest') (hle : tick ≤ tick') : nearest ≤ nearest' := by
  by_contra hnot
  have hlt : nearest' < nearest := not_le.1 hnot
  -- the larger one is as near to the smaller tick, hence nearer to the larger tick
  have hbefore : nearest' + nearest ≤ 2 * tick :=
    (abs_sub_le_abs_sub_iff hlt).1 (h.le_distance nearest' h'.usable)
  have hnearer : |nearest - tick'| ≤ |nearest' - tick'| :=
    (abs_sub_le_abs_sub_iff hlt).2 (by linarith)
  have htie : |nearest - tick'| = |nearest' - tick'| :=
    le_antisymm hnearer (h'.le_distance nearest h.usable)
  exact hnot (h'.largest nearest h.usable htie)

/-- There is one nearest usable tick at most. -/
theorem IsNearestUsable.unique (h : IsNearestUsable tick spacing nearest)
    (h' : IsNearestUsable tick spacing nearest') : nearest = nearest' :=
  le_antisymm (h.mono h' le_rfl) (h'.mono h le_rfl)

/-- A usable tick is the nearest one to itself. -/
theorem IsUsable.isNearestUsable (h : IsUsable spacing tick) :
    IsNearestUsable tick spacing tick := by
  refine ⟨h, ?_, ?_⟩
  · intro other _
    rw [sub_self, abs_zero]
    exact abs_nonneg _
  · intro other _ htie
    rw [sub_self, abs_zero, abs_eq_zero] at htie
    linarith

/-- A usable tick is the nearest one when every other usable tick has the given tick on the far side of
the middle between the two. -/
theorem isNearestUsable_of_middle (husable : IsUsable spacing nearest)
    (hbelow : ∀ other, IsUsable spacing other → other < nearest → other + nearest ≤ 2 * tick)
    (habove : ∀ other, IsUsable spacing other → nearest < other → 2 * tick < nearest + other) :
    IsNearestUsable tick spacing nearest := by
  refine ⟨husable, ?_, ?_⟩
  · intro other hother
    rcases lt_trichotomy other nearest with hlt | rfl | hgt
    · exact (abs_sub_le_abs_sub_iff hlt).2 (hbelow other hother hlt)
    · exact le_rfl
    · by_contra hnot
      have hmiddle := (abs_sub_le_abs_sub_iff hgt).1 (not_le.1 hnot).le
      exact absurd (habove other hother hgt) (not_lt.2 hmiddle)
  · intro other hother htie
    by_contra hnot
    have hmiddle := (abs_sub_le_abs_sub_iff (not_le.1 hnot)).1 htie.le
    exact absurd (habove other hother (not_le.1 hnot)) (not_lt.2 hmiddle)

end Nearest

/-! ## The tick that is found -/

section Found

variable {tick spacing nearest : ℤ}

/-- Two multiples are at least a spacing apart. -/
theorem add_le_of_dvd_of_lt {a b : ℤ} (ha : spacing ∣ a) (hb : spacing ∣ b) (h : a < b) :
    a + spacing ≤ b := by
  have hgap : spacing ≤ b - a := Int.le_of_dvd (sub_pos.2 h) (dvd_sub hb ha)
  linarith

/-- The tick that is found is the best one. -/
theorem isNearestUsable_of_eq_ok (h : nearestUsableTick tick spacing = .ok nearest) :
    IsNearestUsable tick spacing nearest := by
  obtain ⟨hpos, -, hcases⟩ := nearestUsableTick_cases h
  have husable : IsUsable spacing nearest := nearestUsableTick_usable h
  obtain ⟨hlow, hhigh⟩ := nearestMultiple_bounds tick hpos
  refine isNearestUsable_of_middle husable ?_ ?_
  · intro other hother hlt
    have hgap : other + spacing ≤ nearest := add_le_of_dvd_of_lt hother.1 husable.1 hlt
    rcases hcases with ⟨hout, rfl⟩ | ⟨-, rfl⟩ | ⟨-, rfl⟩
    · -- below the least usable tick there is none
      exact absurd hother.2.1 (by linarith)
    · linarith
    · linarith
  · intro other hother hgt
    have hgap : nearest + spacing ≤ other := add_le_of_dvd_of_lt husable.1 hother.1 hgt
    rcases hcases with ⟨-, rfl⟩ | ⟨hout, rfl⟩ | ⟨-, rfl⟩
    · linarith
    · -- above the greatest usable tick there is none
      exact absurd hother.2.2 (by linarith)
    · linarith

/-- A tick is found for every tick and every positive spacing, and it is the best one. -/
theorem nearestUsableTick_eq_ok_iff : nearestUsableTick tick spacing = .ok nearest ↔
    0 < spacing ∧ InTickBounds tick ∧ IsNearestUsable tick spacing nearest := by
  constructor
  · intro h
    obtain ⟨hpos, hbounds, -⟩ := nearestUsableTick_cases h
    exact ⟨hpos, hbounds, isNearestUsable_of_eq_ok h⟩
  · rintro ⟨hpos, hbounds, hbest⟩
    obtain ⟨found, hfound⟩ := exists_nearestUsableTick hpos hbounds
    rw [hfound, (isNearestUsable_of_eq_ok hfound).unique hbest]

/-- A spacing that is not positive is refused, whatever the tick. -/
theorem nearestUsableTick_of_nonpos (h : spacing ≤ 0) :
    nearestUsableTick tick spacing = .error (.invalidTickSpacing spacing) := if_pos h

theorem nearestUsableTick_of_not_inTickBounds (hpos : 0 < spacing) (h : ¬ InTickBounds tick) :
    nearestUsableTick tick spacing = .error (.tickOutOfBounds tick) := by
  rw [nearestUsableTick, if_neg (not_le.2 hpos), if_pos h]

theorem nearestUsableTick_eq_invalidTickSpacing_iff :
    nearestUsableTick tick spacing = .error (.invalidTickSpacing spacing) ↔ spacing ≤ 0 := by
  constructor
  · intro h
    by_contra hnot
    have hpos : 0 < spacing := not_le.1 hnot
    by_cases hbounds : InTickBounds tick
    · obtain ⟨found, hfound⟩ := exists_nearestUsableTick hpos hbounds
      rw [hfound] at h
      cases h
    · rw [nearestUsableTick_of_not_inTickBounds hpos hbounds] at h
      cases h
  · exact nearestUsableTick_of_nonpos

theorem nearestUsableTick_eq_tickOutOfBounds_iff :
    nearestUsableTick tick spacing = .error (.tickOutOfBounds tick) ↔
      0 < spacing ∧ ¬ InTickBounds tick := by
  constructor
  · intro h
    by_cases hnonpos : spacing ≤ 0
    · rw [nearestUsableTick_of_nonpos hnonpos] at h
      cases h
    refine ⟨not_le.1 hnonpos, ?_⟩
    intro hbounds
    obtain ⟨found, hfound⟩ := exists_nearestUsableTick (not_le.1 hnonpos) hbounds
    rw [hfound] at h
    cases h
  · rintro ⟨hpos, hout⟩
    exact nearestUsableTick_of_not_inTickBounds hpos hout

end Found

/-- **The usable tick that is found is the best one there is.**  It is found for every positive spacing
and every tick, without leaving a machine word; it is nearest among the multiples that are ticks, and
the larger one of two; so a usable tick is kept, a found one is found again, and the found tick grows
with the given one. -/
theorem nearestUsableTick_best (tick spacing : ℤ) :
    (nearestUsableTick tick spacing = .error (.invalidTickSpacing spacing) ↔ spacing ≤ 0) ∧
    (nearestUsableTick tick spacing = .error (.tickOutOfBounds tick) ↔
      0 < spacing ∧ ¬ InTickBounds tick) ∧
    (0 < spacing → InTickBounds tick → ∃ nearest,
      nearestUsableTick tick spacing = .ok nearest ∧ IsNearestUsable tick spacing nearest ∧
      nearestUsableTick nearest spacing = .ok nearest ∧
      (spacing < 2 ^ 31 → nearestUsableTickWord? tick spacing = some nearest)) ∧
    (0 < spacing → IsUsable spacing tick → nearestUsableTick tick spacing = .ok tick) ∧
    ∀ tick' nearest nearest', tick ≤ tick' → nearestUsableTick tick spacing = .ok nearest →
      nearestUsableTick tick' spacing = .ok nearest' → nearest ≤ nearest' := by
  refine ⟨nearestUsableTick_eq_invalidTickSpacing_iff, nearestUsableTick_eq_tickOutOfBounds_iff,
    ?_, ?_, ?_⟩
  · intro hpos hbounds
    obtain ⟨nearest, hfound⟩ := exists_nearestUsableTick hpos hbounds
    have hbest : IsNearestUsable tick spacing nearest := isNearestUsable_of_eq_ok hfound
    refine ⟨nearest, hfound, hbest, ?_, fun hword => nearestUsableTickWord?_eq hword hfound⟩
    exact nearestUsableTick_eq_ok_iff.2 ⟨hpos, hbest.usable.2, hbest.usable.isNearestUsable⟩
  · intro hpos husable
    exact nearestUsableTick_eq_ok_iff.2 ⟨hpos, husable.2, husable.isNearestUsable⟩
  · intro tick' nearest nearest' hle hfound hfound'
    exact (isNearestUsable_of_eq_ok hfound).mono (isNearestUsable_of_eq_ok hfound') hle

/-- At the greatest tick, whose nearest multiple is beyond it. -/
theorem nearestUsableTick_best_at_maxTick :
    (0 : ℤ) < 60 ∧ InTickBounds 887272 ∧ (60 : ℤ) < 2 ^ 31 ∧ IsUsable 60 887220 ∧
      (∃ nearest, nearestUsableTick 887272 60 = .ok nearest ∧ IsNearestUsable 887272 60 nearest ∧
        nearestUsableTickWord? 887272 60 = some nearest) ∧
      nearestUsableTick 887220 60 = .ok 887220 := by
  have hbounds : InTickBounds 887272 := by decide
  have husable : IsUsable 60 887220 := ⟨by decide, by decide⟩
  obtain ⟨-, -, hfound, -, -⟩ := nearestUsableTick_best 887272 60
  obtain ⟨nearest, hnearest, hbest, -, hword⟩ := hfound (by decide) hbounds
  obtain ⟨-, -, -, hkept, -⟩ := nearestUsableTick_best 887220 60
  exact ⟨by decide, hbounds, by decide, husable, ⟨nearest, hnearest, hbest, hword (by decide)⟩,
    hkept (by decide) husable⟩

end Tickwise

import Tickwise.Fault
import Tickwise.Tick.Bounds

/-!
# Usable ticks and ranges

A pool can use the multiples of its tick spacing. A range reaches a width of spacings to both
sides of the usable tick nearest to the current one.
-/

namespace Tickwise

/-! ## The nearest usable tick -/

/-- The multiple of `spacing` nearest to `tick`, a half going up. -/
def nearestMultiple (tick spacing : Int) : Int :=
  (2 * tick + spacing) / (2 * spacing) * spacing

/-- The multiple of `spacing` within the bounds that is nearest to `tick`, a half going up. -/
def nearestUsableTick (tick spacing : Int) : Except Fault Int :=
  if spacing ≤ 0 then .error (.invalidTickSpacing spacing)
  else if ¬ InTickBounds tick then .error (.tickOutOfBounds tick)
  else
    let nearest := nearestMultiple tick spacing
    if nearest < minTick then .ok (nearest + spacing)
    else if maxTick < nearest then .ok (nearest - spacing)
    else .ok nearest

/-! ## Ranges -/

/-- How far a range reaches to each side, in tick spacings. -/
structure TickWidth where
  spacings : Nat
  pos : 0 < spacings
deriving DecidableEq

namespace TickWidth

/-- The width of a positive count. -/
def ofNat (n : Nat) : Except Fault TickWidth :=
  if h : 0 < n then .ok ⟨n, h⟩ else .error .invalidTickWidth

instance : ToString TickWidth := ⟨fun width => s!"±{width.spacings}"⟩

end TickWidth

/-- A number held to 32 bits, at the nearest end if it is outside. -/
def saturate32 (n : Int) : Int := max (-2147483648) (min n 2147483647)

/-- A number of 32 bits is held as it is. -/
theorem saturate32_of_fitsSigned {n : Int} (h : FitsSigned 32 n) : saturate32 n = n := by
  have h' : -2147483648 ≤ n ∧ n < 2147483648 := h
  unfold saturate32
  omega

/-- The lower and upper tick of the range around a tick. A bound outside the ticks' own bounds
is kept as it is, held to 32 bits. -/
def tickRange (tick spacing : Int) (width : TickWidth) : Except Fault (Int × Int) :=
  (nearestUsableTick tick spacing).map fun center =>
    let offset := spacing * width.spacings
    (saturate32 (center - offset), saturate32 (center + offset))

end Tickwise

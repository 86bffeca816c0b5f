import Tickwise.Decimal
import Tickwise.Power

/-!
# Quotients in decimal digits

The quotient of two natural numbers as a decimal of at most a hundred digits, the last one
rounded half up, and a decimal cut to a count of significant digits.
-/

namespace Tickwise.Decimal

/-- The digits a quotient is carried to. -/
def precision : Nat := 100

/-- How many times the numerator is multiplied by ten before it reaches the denominator. -/
def leadingShift (a b : Nat) : Nat :=
  if h : 0 < a ∧ a < b then leadingShift (10 * a) b + 1 else 0
termination_by b - a
decreasing_by omega

/-- A quotient in progress: the digits so far, their scale, and ten times what is left over. -/
structure LongDivision where
  quotient : Nat
  scale : Nat
  remainder : Nat

/-- At most `count` more digits of a quotient by `b`, fewer when nothing is left over. -/
def LongDivision.extend (b : Nat) : (count : Nat) → LongDivision → LongDivision
  | 0, s => s
  | count + 1, s =>
    if s.remainder = 0 then s
    else
      LongDivision.extend b count
        ⟨10 * s.quotient + s.remainder / b, s.scale + 1, 10 * (s.remainder % b)⟩

/-- The quotient `a / b` of natural numbers. It is exact when it needs at most `precision`
digits; otherwise the digit after the last one decides the rounding, half up. -/
def quotient (a b : Nat) : Decimal :=
  if a = 0 then ofNat 0
  else if a = b then ofNat 1
  else
    let shift := leadingShift a b
    let scaled := a * pow10 shift
    let first : LongDivision := ⟨scaled / b, shift, 10 * (scaled % b)⟩
    let last := first.extend b (precision - Tickwise.digitCount first.quotient)
    let up := if 5 ≤ last.remainder / b then 1 else 0
    ⟨(last.quotient + up : Nat), last.scale⟩

/-- A decimal with `count` significant digits: zeros are added after its last place, or
surplus digits are rounded away, half of the last place away from zero. -/
def withDigits (count : Nat) (d : Decimal) : Decimal :=
  let n := d.digitCount
  if n ≤ count then ⟨d.coefficient * pow10 (count - n), d.scale + (count - n : Nat)⟩
  else
    let unit := pow10 (n - count)
    let m := d.coefficient.natAbs
    let up := if unit ≤ 2 * (m % unit) then 1 else 0
    ⟨d.coefficient.sign * (m / unit + up : Nat), d.scale - (n - count : Nat)⟩

end Tickwise.Decimal

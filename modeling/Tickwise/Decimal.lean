/-!
# Decimal numbers

A decimal number is an integer coefficient and a scale, and stands for
`coefficient * 10 ^ (-scale)`. The scale is kept as written: `1.50` and `1.5` are different
decimals of one value.
-/

namespace Tickwise

/-- The count of digits of a natural number; zero has one. -/
def digitCount (n : Nat) : Nat := (Nat.toDigits 10 n).length

/-- An integer coefficient with a count of places after the decimal point. -/
structure Decimal where
  coefficient : Int
  scale : Int
deriving DecidableEq

namespace Decimal

/-- A whole number. -/
def ofNat (n : Nat) : Decimal := ⟨n, 0⟩

/-- The count of digits of the coefficient. -/
def digitCount (d : Decimal) : Nat := Tickwise.digitCount d.coefficient.natAbs

end Decimal

end Tickwise

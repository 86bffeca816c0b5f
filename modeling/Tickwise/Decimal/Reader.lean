import Tickwise.Decimal
import Tickwise.Power

/-!
# Reading decimal numbers

A written decimal is a base and, after the first `e` or `E`, an exponent. In the base the
first point separates the places; the digits may be grouped with underscores, but not begin
with one.
-/

namespace Tickwise.Decimal

/-! ## Integers -/

/-- A non-empty run of digits and underscores that does not begin with an underscore. -/
def grouped? (text : List Char) : Option Nat :=
  if text ≠ [] ∧ text.head? ≠ some '_' ∧ text.all (fun c => c.isDigit || c == '_') then
    some (Nat.ofDigitChars 10 (text.filter (· ≠ '_')) 0)
  else none

/-- A coefficient: grouped digits after at most one sign. -/
def coefficient? : List Char → Option Int
  | '-' :: rest => (grouped? rest).map fun n => -(n : Int)
  | '+' :: rest => (grouped? rest).map fun n => (n : Int)
  | text => (grouped? text).map fun n => (n : Int)

/-- A non-empty run of digits. -/
def plain? (text : List Char) : Option Nat :=
  if text ≠ [] ∧ text.all Char.isDigit then some (Nat.ofDigitChars 10 text 0) else none

/-- Plain digits after at most one sign. -/
def signed? : List Char → Option Int
  | '-' :: rest => (plain? rest).map fun n => -(n : Int)
  | '+' :: rest => (plain? rest).map fun n => (n : Int)
  | text => (plain? text).map fun n => (n : Int)

/-- An exponent: a signed integer of 128 bits. -/
def exponent? (text : List Char) : Option Int :=
  (signed? text).bind fun e => if FitsSigned 128 e then some e else none

/-! ## Base and exponent -/

/-- Whether a character begins the exponent. -/
def isExponentMark (c : Char) : Bool := c == 'e' || c == 'E'

/-- The digits of a base without its point, and the count of its places. -/
def splitPoint (base : List Char) : List Char × Nat :=
  let whole := base.takeWhile (· ≠ '.')
  let places := (base.dropWhile (· ≠ '.')).drop 1
  (whole ++ places, (places.filter (· ≠ '_')).length)

/-- Reads a decimal whose scale fits in a signed integer of 64 bits. -/
def ofText? (text : List Char) : Option Decimal := do
  let base := text.takeWhile (!isExponentMark ·)
  let tail := text.dropWhile (!isExponentMark ·)
  let exponent ← if tail = [] then some 0 else exponent? (tail.drop 1)
  let (digits, places) := splitPoint base
  let scale := (places : Int) - exponent
  if FitsSigned 64 scale then
    (coefficient? digits).map fun c => ⟨c, scale⟩
  else none

end Tickwise.Decimal

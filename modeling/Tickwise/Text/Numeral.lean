import Tickwise.Power
import Tickwise.Text.Hex

/-!
# Numbers as text

* `Numeral.ofText?` — a number of 256 bits as a person writes it: `0x`, `0o` or `0b` for the
  base, decimal without a mark, underscores anywhere after it;
* `Numeral.natural?` — a decimal number below a limit, without any of that.
-/

namespace Tickwise.Numeral

/-- The base that a text is marked with, and its digits. -/
def splitBase : List Char → Nat × List Char
  | '0' :: 'x' :: digits => (16, digits)
  | '0' :: 'X' :: digits => (16, digits)
  | '0' :: 'o' :: digits => (8, digits)
  | '0' :: 'O' :: digits => (8, digits)
  | '0' :: 'b' :: digits => (2, digits)
  | '0' :: 'B' :: digits => (2, digits)
  | digits => (10, digits)

/-- The value of a digit below the base. -/
def digit? (base : Nat) (c : Char) : Option Nat :=
  (Hex.value? c).bind fun d => if d < base then some d else none

/-- The number of a text; no digits at all are zero. -/
def ofText? (text : List Char) : Option Nat := do
  let (base, digits) := splitBase text
  let n ← (digits.filter (· ≠ '_')).foldlM (fun n c => (digit? base c).map (base * n + ·)) 0
  if n < pow2 256 then pure n else none

/-- The number below a limit that decimal digits stand for, after at most one plus sign. -/
def natural? (limit : Nat) (text : List Char) : Option Nat :=
  let digits := if text.head? = some '+' then text.drop 1 else text
  if digits ≠ [] ∧ digits.all Char.isDigit then
    (some (Nat.ofDigitChars 10 digits 0)).filter (· < limit)
  else none

end Tickwise.Numeral

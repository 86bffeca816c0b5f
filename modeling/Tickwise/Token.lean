import Tickwise.Decimal.Printer
import Tickwise.Decimal.Reader
import Tickwise.Fault
import Tickwise.Fixed
import Tickwise.Text.Blank

/-!
# Tokens

A token counts its amounts in base units, `10 ^ decimals` of which make one display unit.

* `Token.parseUnits` — the base units of an amount written in display units, exactly;
* `Token.formatUnits` — the display units of base units.
-/

namespace Tickwise

/-- What a token contract says about itself. -/
structure Token where
  address : Address
  decimals : Nat
  symbol : String
  name : String
deriving DecidableEq

/-- The digits of the greatest amount. -/
def wordDigits : Nat := 78

/-- A decimal of display units as a whole count of base units. An exponent so large that no
amount fits, or so small that no digit could be left, is refused before it is multiplied out, and
so is one that does not fit in 32 bits. -/
def Decimal.toUnits (decimals : Nat) (d : Decimal) : Except AmountProblem Nat :=
  if d.coefficient < 0 then .error .negative
  else if d.coefficient = 0 then .ok 0
  else
    let digits := d.coefficient.natAbs
    let shift := decimals - d.scale
    if wordDigits ≤ shift then .error .tooLarge
    else if (d.digitCount : Int) < -shift then .error (.tooManyPlaces decimals)
    else if pow2 32 ≤ shift.natAbs then .error .exponentTooLarge
    else
      let power := pow10 shift.natAbs
      if shift < 0 ∧ digits % power ≠ 0 then .error (.tooManyPlaces decimals)
      else
        let units := if 0 ≤ shift then digits * power else digits / power
        if units < wordLimit then .ok units else .error .tooLarge

namespace Token

/-- The base units of an amount in display units; blanks around it are ignored. -/
def parseUnits (token : Token) (amount : String) : Except Fault Nat :=
  let units := match Decimal.ofText? (Text.trim amount.toList) with
    | some d => d.toUnits token.decimals
    | none => .error .notDecimal
  units.mapError (.invalidAmount amount token.symbol)

/-- The display units of an amount in base units. -/
def formatUnits (token : Token) (units : Nat) : Decimal := ⟨units, token.decimals⟩

instance : ToString Token := ⟨fun token => s!"{token.symbol} ({token.address})"⟩

end Token

end Tickwise

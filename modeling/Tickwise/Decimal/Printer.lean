import Tickwise.Decimal

/-!
# Writing decimal numbers

Zero is `0` whatever its scale. Other decimals are written positionally, with all the places
of their scale, unless that would need many zeros: past five zeros after the point the
scientific form takes over, and past fifteen zeros of a whole number a bare exponent.
-/

namespace Tickwise.Decimal

/-- The most zeros between the point and the first digit of a positional text. -/
def leadingZeroLimit : Nat := 5

/-- The most zeros written after the digits of a whole number. -/
def trailingZeroLimit : Nat := 15

/-- A positive number with these digits and this scale. -/
def magnitudeText (digits : List Char) (scale : Int) : List Char :=
  let n : Int := digits.length
  if scale > n + leadingZeroLimit then
    let fraction := match digits.drop 1 with
      | [] => []
      | rest => '.' :: rest
    digits.take 1 ++ fraction ++ 'E' :: (toString (n - 1 - scale)).toList
  else if scale < -trailingZeroLimit then
    digits ++ 'e' :: '+' :: (toString (-scale)).toList
  else if scale ≤ 0 then
    digits ++ List.replicate (-scale).toNat '0'
  else if scale < n then
    digits.take (n - scale).toNat ++ '.' :: digits.drop (n - scale).toNat
  else
    '0' :: '.' :: List.replicate (scale - n).toNat '0' ++ digits

/-- The text of a decimal as characters. -/
def chars (d : Decimal) : List Char :=
  if d.coefficient = 0 then ['0']
  else
    let sign := if d.coefficient < 0 then ['-'] else []
    sign ++ magnitudeText (Nat.toDigits 10 d.coefficient.natAbs) d.scale

/-- The text of a decimal. -/
def text (d : Decimal) : String := String.ofList d.chars

instance : ToString Decimal := ⟨text⟩

end Tickwise.Decimal

import Tickwise.Decimal.Quotient
import Tickwise.Fixed
import Tickwise.Tick.Bounds

/-!
# Prices of reserves

A pair of reserves has the square-root price `floor (sqrt (reserve1 / reserve0) * 2 ^ 96)`.

* `sqrtFloor` — square roots rounded down, by `le_sqrtFloor_iff`;
* `encodeSqrtPrice` — the price of two decimal reserves, exact for all of them;
* `decodeSqrtPrice` — the ratio of the reserves of a price;
* `ensureInitializable` — whether a pool can start at a price.
-/

namespace Tickwise

/-- The greatest number whose square is at most `n`, found from that of a quarter of `n`. -/
def sqrtFloor (n : Nat) : Nat :=
  if h : n = 0 then 0
  else
    let r := 2 * sqrtFloor (n / 4)
    if (r + 1) * (r + 1) ≤ n then r + 1 else r
termination_by n
decreasing_by omega

/-- The root's square is at most the number, and the next square is above it. -/
theorem sqrtFloor_bounds (n : Nat) :
    sqrtFloor n * sqrtFloor n ≤ n ∧ n < (sqrtFloor n + 1) * (sqrtFloor n + 1) := by
  fun_induction sqrtFloor n with
  | case1 => decide
  | case2 n h r hle ih =>
    have he : (r + 1 + 1) * (r + 1 + 1) =
        4 * ((sqrtFloor (n / 4) + 1) * (sqrtFloor (n / 4) + 1)) := by
      grind
    exact ⟨hle, by omega⟩
  | case3 n h r hgt ih =>
    have he : r * r = 4 * (sqrtFloor (n / 4) * sqrtFloor (n / 4)) := by grind
    exact ⟨by omega, by omega⟩

/-- The root is the greatest number whose square is at most `n`. -/
theorem le_sqrtFloor_iff {m n : Nat} : m ≤ sqrtFloor n ↔ m * m ≤ n := by
  obtain ⟨hle, hlt⟩ := sqrtFloor_bounds n
  refine ⟨fun h => Nat.le_trans (Nat.mul_le_mul h h) hle, fun h => Nat.le_of_not_lt fun hm => ?_⟩
  exact absurd (Nat.lt_of_le_of_lt h hlt) (Nat.not_lt.2 (Nat.mul_le_mul hm hm))

/-- The places of the two coefficients put together: the power of ten by which their quotient
falls short of the quotient of the reserves. -/
def ratioExponent (reserve1 reserve0 : Decimal) : Int := reserve0.scale - reserve1.scale

/-- The size of a ratio in digits: it lies between the powers of ten one below and one above. -/
def ratioMagnitude (reserve1 reserve0 : Decimal) : Int :=
  reserve1.digitCount - reserve0.digitCount + ratioExponent reserve1 reserve0

/-- A reserve that is negative cannot be priced. -/
def ensureNonnegative (reserve : Decimal) : Except Fault Unit :=
  if reserve.coefficient < 0 then
    .error (.invalidAmount reserve.text "reserve" .negativeReserve)
  else .ok ()

/-- The square-root price of two reserves, rounded down. A ratio is recognised by its digits
alone when it is so small that the price is zero or so great that it does not fit. -/
def encodeSqrtPrice (reserve1 reserve0 : Decimal) : Except Fault Nat := do
  if reserve0.coefficient = 0 then throw (.zeroDenominator reserve1)
  ensureNonnegative reserve1
  ensureNonnegative reserve0
  let exponent := ratioExponent reserve1 reserve0
  let magnitude := ratioMagnitude reserve1 reserve0
  if reserve1.coefficient = 0 ∨ magnitude ≤ -60 then return 0
  if 98 ≤ magnitude ∨ pow2 32 ≤ exponent.natAbs then throw (.mathOverflow .encodePrice)
  let power := pow10 exponent.natAbs
  let numerator := reserve1.coefficient.natAbs * pow2 192
  let denominator := reserve0.coefficient.natAbs
  narrow .encodePrice <| sqrtFloor <|
    if 0 ≤ exponent then numerator * power / denominator else numerator / (denominator * power)

/-- The ratio of the reserves at a square-root price, to a hundred digits. -/
def decodeSqrtPrice (price : Nat) : Decimal := Decimal.quotient (price * price) (pow2 192)

/-- The ratio of the reserves at a square-root price, to a count of significant digits. -/
def decodeWithDigits (price digits : Nat) : Decimal := (decodeSqrtPrice price).withDigits digits

/-- A price a pool can start at. -/
def ensureInitializable (price : Nat) : Except Fault Nat :=
  if IsInitializable price then .ok price else .error (.priceOutOfBounds price)

end Tickwise

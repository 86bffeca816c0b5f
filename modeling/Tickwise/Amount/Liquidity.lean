import Tickwise.Fixed

/-!
# The liquidity an amount can back

The greatest liquidity that an amount of one token backs between two square-root prices,
given in either order.
-/

namespace Tickwise

/-- The greatest liquidity that `amount` of token0 backs:
`amount * a * b / (2 ^ 96 * (b - a))`, rounded once. The product must fit in 512 bits. -/
def liquidityForAmount0 (a b amount : Nat) : Except Fault Nat :=
  let lower := min a b
  let upper := max a b
  if lower = upper then .error .divisionByZero
  else
    let numerator := amount * lower * upper
    if numerator < pow2 512 then
      narrow .liquidityForAmount0 (numerator / (q96 * (upper - lower)))
    else .error (.mathOverflow .liquidityForAmount0)

/-- The greatest liquidity that `amount` of token1 backs: `amount * 2 ^ 96 / (b - a)`,
rounded down. -/
def liquidityForAmount1 (a b amount : Nat) : Except Fault Nat :=
  mulDiv amount q96 (max a b - min a b)

end Tickwise

import Tickwise.Fixed

/-!
# The amounts a liquidity holds

How much of each token a liquidity holds between two square-root prices, given in either
order. What a mint pays in is rounded up, what a burn pays out is rounded down.
-/

namespace Tickwise

/-- Which way an amount is rounded. -/
inductive Rounding where
  | down
  | up
deriving DecidableEq

/-- The amount of token0: `liquidity * 2 ^ 96 * (b - a) / b / a`. -/
def amount0Delta (a b liquidity : Nat) (rounding : Rounding) : Except Fault Nat := do
  let lower := min a b
  let upper := max a b
  if lower = 0 then throw .divisionByZero
  match rounding with
  | .up => divUp (← mulDivUp (liquidity * q96) (upper - lower) upper) lower
  | .down => return (← mulDiv (liquidity * q96) (upper - lower) upper) / lower

/-- The amount of token1: `liquidity * (b - a) / 2 ^ 96`. -/
def amount1Delta (a b liquidity : Nat) (rounding : Rounding) : Except Fault Nat :=
  match rounding with
  | .up => mulDivUp liquidity (max a b - min a b) q96
  | .down => mulDiv liquidity (max a b - min a b) q96

end Tickwise

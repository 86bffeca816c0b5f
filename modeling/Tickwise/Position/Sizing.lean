import Tickwise.Amount.Delta
import Tickwise.Amount.Liquidity
import Tickwise.Pair
import Tickwise.Pool
import Tickwise.Position
import Tickwise.Tick.SqrtRatio
import Tickwise.Tick.Usable

/-!
# Sizing positions

A position around the current price is sized from the amount of one of its tokens: the
liquidity is the greatest that the amount backs on its side of the price, and the amounts are
what a mint of that liquidity takes of both tokens.

* `liquidityFor` — the liquidity that the given amount backs;
* `mintAmounts` — what the mint takes, by where the price stands in the range;
* `sizePosition` — the position of a request.
-/

namespace Tickwise

/-- What a position is sized from: a pool, the token whose amount is given, the other token of
the pool, the amount in display units, and how far the range reaches. -/
structure SizingRequest where
  chainId : Nat
  pool : Pool
  input : Token
  other : Token
  amount : String
  width : TickWidth

/-- The bounds of a position, as ticks and as square-root prices. -/
structure PriceRange where
  tickLower : Int
  tickUpper : Int
  sqrtLower : Nat
  sqrtUpper : Nat
deriving DecidableEq

/-- The range around the tick of a pool; both bounds must be ticks with a price. -/
def Pool.range (pool : Pool) (width : TickWidth) : Except Fault PriceRange := do
  let (tickLower, tickUpper) ← tickRange pool.tick pool.tickSpacing width
  let sqrtLower ← sqrtRatioAtTick tickLower
  let sqrtUpper ← sqrtRatioAtTick tickUpper
  return { tickLower, tickUpper, sqrtLower, sqrtUpper }

/-- The greatest liquidity that `amount` backs on its side of the price: token0 is held above
the price, token1 below it. -/
def liquidityFor (pool : Pool) (range : PriceRange) (side : Side) (symbol : String)
    (amount : Nat) : Except Fault Nat :=
  let excluded := Fault.rangeExcludesToken symbol pool.tick range.tickLower range.tickUpper
  match side with
  | .first =>
    if range.tickUpper ≤ pool.tick then .error excluded
    else liquidityForAmount0 (max pool.sqrtPrice range.sqrtLower) range.sqrtUpper amount
  | .second =>
    if pool.tick < range.tickLower then .error excluded
    else liquidityForAmount1 range.sqrtLower (min pool.sqrtPrice range.sqrtUpper) amount

/-- What a mint of a liquidity takes of each token, rounded up. Below the range that is token0
alone, above it token1 alone. -/
def mintAmounts (pool : Pool) (range : PriceRange) (liquidity : Nat) :
    Except Fault MintAmounts := do
  if pool.tick < range.tickLower then
    return ⟨← amount0Delta range.sqrtLower range.sqrtUpper liquidity .up, 0⟩
  else if pool.tick < range.tickUpper then
    let amount0 ← amount0Delta pool.sqrtPrice range.sqrtUpper liquidity .up
    let amount1 ← amount1Delta range.sqrtLower pool.sqrtPrice liquidity .up
    return ⟨amount0, amount1⟩
  else
    return ⟨0, ← amount1Delta range.sqrtLower range.sqrtUpper liquidity .up⟩

/-- The position of a request. -/
def sizePosition (request : SizingRequest) : Except Fault Position := do
  let pool := request.pool
  let fee ← pool.validate
  let pair ← OrderedPair.of request.input.address request.input
    request.other.address request.other
  let side ← pair.sideOf request.input.address
  let range ← pool.range request.width
  let fixed := (pair.side side).payload
  let amount ← fixed.parseUnits request.amount
  let liquidity ← liquidityFor pool range side fixed.symbol amount
  if liquidityLimit ≤ liquidity then throw (.mathOverflow .positionLiquidity)
  let amounts ← mintAmounts pool range liquidity
  return {
    chainId := request.chainId
    pool := pool.address
    fee
    token0 := pair.first.payload
    token1 := pair.second.payload
    tickLower := range.tickLower
    tickUpper := range.tickUpper
    liquidity
    amounts }

end Tickwise

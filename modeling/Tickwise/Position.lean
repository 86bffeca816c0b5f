import Tickwise.Fee
import Tickwise.Journal
import Tickwise.Token

/-!
# Positions

Liquidity of a pool between two ticks, with the amounts a mint pays in for it. Tokens and
amounts stand by ascending address.
-/

namespace Tickwise

/-- What a mint takes of each token, in base units. -/
structure MintAmounts where
  amount0 : Nat
  amount1 : Nat
deriving DecidableEq

/-- A position ready to be minted. -/
structure Position where
  chainId : Nat
  pool : Address
  fee : FeeTier
  token0 : Token
  token1 : Token
  tickLower : Int
  tickUpper : Int
  liquidity : Nat
  amounts : MintAmounts
deriving DecidableEq

namespace Position

/-- The amount of one of the position's tokens. -/
def amountOf (position : Position) (token : Address) : Except Fault Nat :=
  if token = position.token0.address then .ok position.amounts.amount0
  else if token = position.token1.address then .ok position.amounts.amount1
  else .error (.tokenNotInPair token position.token0.address position.token1.address)

instance : ToString Position :=
  ⟨fun p =>
    let amount0 := p.token0.formatUnits p.amounts.amount0
    let amount1 := p.token1.formatUnits p.amounts.amount1
    s!"Position({p.token0.symbol}/{p.token1.symbol} fee {p.fee} " ++
      s!"[{p.tickLower}, {p.tickUpper}] " ++
      s!"{amount0} {p.token0.symbol} + {amount1} {p.token1.symbol})"⟩

/-- What the journal says of a position that has been sized. -/
def sizedEntry (p : Position) : Entry :=
  ⟨.debug,
    s!"liquidity::sizer: {p.token0}/{p.token1} fee {p.fee} " ++
      s!"ticks [{p.tickLower}, {p.tickUpper}] liquidity {p.liquidity} " ++
      s!"amounts {p.amounts.amount0} / {p.amounts.amount1}"⟩

end Position

end Tickwise

import Tickwise.Chain
import Tickwise.Pair
import Tickwise.Position

/-!
# Plans and progress

A plan is a request that has been checked, with the metadata of its tokens and the price it
asks for. Its pool goes from not found over initialized to provisioned; one that exists without
a price counts as not found, since creating it again gives it one.
-/

namespace Tickwise

/-- A request that has been checked. -/
structure Plan where
  /-- The tokens by ascending address. -/
  pair : OrderedPair Token
  fee : FeeTier
  /-- The price to give the pool, if it has none. -/
  sqrtPrice : Nat
  /-- The token the deposit is given in. -/
  inputToken : Address
  /-- The deposit, in display units. -/
  inputAmount : String
deriving DecidableEq

namespace Plan

/-- The token of the lower address. -/
def token0 (plan : Plan) : Token := plan.pair.first.payload

/-- The token of the higher address. -/
def token1 (plan : Plan) : Token := plan.pair.second.payload

/-- The token the deposit is given in. -/
def input (plan : Plan) : Token :=
  if plan.inputToken = plan.token0.address then plan.token0 else plan.token1

/-- The token beside the one the deposit is given in. -/
def other (plan : Plan) : Token :=
  if plan.inputToken = plan.token0.address then plan.token1 else plan.token0

instance : ToString Plan :=
  ⟨fun plan => s!"{plan.token0.symbol}/{plan.token1.symbol} fee {plan.fee}"⟩

end Plan

/-- What a provisioned pool ended with. -/
structure Outcome where
  /-- The state the position was sized against. -/
  pool : Pool
  position : Position
  receipt : MintReceipt
deriving DecidableEq

instance : ToString Outcome :=
  ⟨fun outcome =>
    s!"{outcome.position} in pool {outcome.pool.address} -> " ++
      s!"token id {outcome.receipt.tokenId} ({outcome.receipt.txHash})"⟩

/-- How far the pool of a plan has come. -/
inductive Progress where
  /-- There is no pool with a price. -/
  | notFound
  /-- The pool has a price. -/
  | initialized (pool : Pool)
  /-- A position has been minted. -/
  | liquidityAdded (outcome : Outcome)
deriving DecidableEq

namespace Progress

/-- Whether nothing is left to do. -/
def isComplete : Progress → Bool
  | liquidityAdded _ => true
  | _ => false

instance : ToString Progress :=
  ⟨fun
    | notFound => "not found"
    | initialized pool => s!"initialized at {pool.address} (tick {pool.tick})"
    | liquidityAdded outcome => s!"liquidity added, token id {outcome.receipt.tokenId}"⟩

end Progress

end Tickwise

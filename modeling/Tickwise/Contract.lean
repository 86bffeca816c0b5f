/-!
# Deployed contracts

The contracts a deployment can name.
-/

namespace Tickwise

/-- A contract the provisioner talks to. -/
inductive Contract where
  /-- Finds the pool of a pair and fee. -/
  | factory
  /-- Creates pools and mints positions. -/
  | positionManager
  /-- Executes swaps along a route. -/
  | swapRouter
deriving DecidableEq

namespace Contract

/-- All contracts. -/
def all : List Contract := [factory, positionManager, swapRouter]

/-- The name a contract is deployed under. -/
def name : Contract → String
  | factory => "UniswapV3Factory"
  | positionManager => "NonfungiblePositionManager"
  | swapRouter => "SwapRouter"

/-- The contract of a name. -/
def ofName? (name : String) : Option Contract := all.find? fun c => c.name == name

instance : ToString Contract := ⟨name⟩

end Contract

end Tickwise

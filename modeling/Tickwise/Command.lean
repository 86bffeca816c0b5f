import Tickwise.Route

/-!
# Commands

What can be asked for on the command line.
-/

namespace Tickwise

/-- A command with its arguments. Prices and amounts are kept as they are written, since
reading them is a part of the command that can fail. -/
inductive Command where
  /-- The square-root price of a ratio of reserves. -/
  | encodePrice (reserve1 reserve0 : String)
  /-- The ratio of a square-root price, to a count of significant digits. -/
  | decodePrice (sqrtPrice : String) (digits : Nat)
  /-- The packed bytes of a route. -/
  | encodePath (tokens : List Address) (fees : List Nat) (trade : TradeType)
  /-- The route of packed bytes. -/
  | decodePath (path : String) (trade : TradeType)
  /-- The size of a position in a pool on the chain. -/
  | sizePosition (token other : Address) (fee : Nat) (amount : String) (width : Nat)
  /-- The pools of a batch file. -/
  | provision (batch : String)
  /-- The version of the program. -/
  | version
deriving DecidableEq

end Tickwise

import Tickwise.Abi

/-!
# Contract methods

The methods that are called, each told to the contract by the four bytes that its signature
hashes to, and the event by which a position manager tells what it has minted.
-/

namespace Tickwise.Abi

/-- A method of a contract. -/
inductive Method where
  | name
  | symbol
  | decimals
  | allowance
  | approve
  /-- Calls of several contracts in one. -/
  | aggregate
  | getPool
  /-- The price of a pool and its tick, before all else it keeps. -/
  | slot0
  | liquidity
  | tickSpacing
  | fee
  | createPool
  | mint
deriving DecidableEq

namespace Method

/-- The signature of a method, with the kinds of its arguments. -/
def signature : Method → String
  | name => "name()"
  | symbol => "symbol()"
  | decimals => "decimals()"
  | allowance => "allowance(address,address)"
  | approve => "approve(address,uint256)"
  | aggregate => "aggregate3((address,bool,bytes)[])"
  | getPool => "getPool(address,address,uint24)"
  | slot0 => "slot0()"
  | liquidity => "liquidity()"
  | tickSpacing => "tickSpacing()"
  | fee => "fee()"
  | createPool => "createAndInitializePoolIfNecessary(address,address,uint24,uint160)"
  | mint =>
    "mint((address,address,uint24,int24,int24,uint256,uint256,uint256,uint256,address,uint256))"

/-- The first four bytes of the hash of a method's signature. -/
def selector : Method → Nat
  | name => 0x06fdde03
  | symbol => 0x95d89b41
  | decimals => 0x313ce567
  | allowance => 0xdd62ed3e
  | approve => 0x095ea7b3
  | aggregate => 0x82ad56cb
  | getPool => 0x1698ee82
  | slot0 => 0x3850c7bd
  | liquidity => 0x1a686502
  | tickSpacing => 0xd0c93a7c
  | fee => 0xddca3f43
  | createPool => 0x13ead562
  | mint => 0x88316456

/-- The name of a method in messages: its signature without the arguments. -/
def title (method : Method) : String :=
  String.ofList (method.signature.toList.takeWhile (· ≠ '('))

/-- What a contract is called with for a method. -/
def callData (method : Method) (arguments : List Value) : List UInt8 :=
  Bytes.ofNat 4 method.selector ++ encode arguments

end Method

/-- The hash of `IncreaseLiquidity(uint256,uint128,uint256,uint256)`, which is the first topic
of a log that tells of that event. -/
def increaseLiquidityTopic : Nat :=
  0x3067048beee31b25b2f1681f88dac838c8bba36af25bfb2b7cf7473a5847e35f

end Tickwise.Abi

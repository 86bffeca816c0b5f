import Tickwise.Json.Parser
import Tickwise.Json.Schema
import Tickwise.Pool
import Tickwise.Position
import Tickwise.Text.Numeral
import Tickwise.Tick.Usable

/-!
# JSON forms of the market's values

How addresses, amounts, fees, tokens, pools and positions are written in JSON, and what is read
as each of them. Addresses and amounts are written in lower-case hexadecimal; ticks, fees and
liquidity are plain numbers.
-/

namespace Tickwise

/-! ## Addresses and amounts -/

namespace Address

/-- The lower-case spelling. -/
def toJson (address : Address) : Json := .ofString address.hex

/-- Reads a spelling of any case, or the twenty bytes. -/
def ofJson? : Json → Option Address
  | .string value => value.bind fun text => ofHex? text.toList
  | .array items => do
    let bytes ← items.mapM (Json.toNat? 256)
    if bytes.length = 20 then pure (ofBytes (bytes.map UInt8.ofNat)) else none
  | _ => none

end Address

/-- An amount of 256 bits, in as many digits as it needs. -/
def wordToJson (n : Nat) : Json := .ofString (Hex.minimal n)

/-- Reads an amount from a text with a base mark, or from a number of at most 64 bits. -/
def wordOfJson? : Json → Option Nat
  | .string value => value.bind fun text => Numeral.ofText? text.toList
  | json => json.toNat? (pow2 64)

/-! ## Fees, widths and contracts -/

/-- The fee of a tier. -/
def FeeTier.toJson (tier : FeeTier) : Json := .ofNat tier.fee

/-- Reads the fee of a tier. -/
def FeeTier.ofJson? (json : Json) : Option FeeTier :=
  (json.toNat? (pow2 32)).bind fun fee => (FeeTier.ofFee fee).toOption

/-- The count of spacings. -/
def TickWidth.toJson (width : TickWidth) : Json := .ofNat width.spacings

/-- Reads a positive count of spacings. -/
def TickWidth.ofJson? (json : Json) : Option TickWidth :=
  (json.toNat? (pow2 32)).bind fun n => (TickWidth.ofNat n).toOption

/-- The name of a contract. -/
def Contract.toJson (contract : Contract) : Json := .ofString contract.name

/-- Reads the name of a contract, alone or as the one key of an object that holds nothing. -/
def Contract.ofJson? : Json → Option Contract
  | .string value => value.bind Contract.ofName?
  | .object [(key, .null)] => key.bind Contract.ofName?
  | _ => none

/-! ## Tokens, pools and positions -/

namespace Token

/-- The fields of a token. -/
def toJson (token : Token) : Json :=
  .record [
    ("address", token.address.toJson),
    ("decimals", .ofNat token.decimals),
    ("symbol", .ofString token.symbol),
    ("name", .ofString token.name)]

/-- Reads a token. -/
def ofJson? (json : Json) : Option Token := do
  match ← json.record? .ignored ["address", "decimals", "symbol", "name"] with
  | [address, decimals, symbol, name] =>
    pure {
      address := ← Address.ofJson? address
      decimals := ← decimals.toNat? 256
      symbol := ← symbol.toText?
      name := ← name.toText? }
  | _ => none

end Token

namespace Pool

/-- The fields of a pool. -/
def toJson (pool : Pool) : Json :=
  .record [
    ("address", pool.address.toJson),
    ("tick", .ofInt pool.tick),
    ("tickSpacing", .ofInt pool.tickSpacing),
    ("fee", .ofNat pool.fee),
    ("sqrtPriceX96", wordToJson pool.sqrtPrice),
    ("liquidity", .ofNat pool.liquidity)]

/-- Reads a pool. -/
def ofJson? (json : Json) : Option Pool := do
  let names := ["address", "tick", "tickSpacing", "fee", "sqrtPriceX96", "liquidity"]
  match ← json.record? .ignored names with
  | [address, tick, tickSpacing, fee, sqrtPrice, liquidity] =>
    pure {
      address := ← Address.ofJson? address
      tick := ← tick.toInt? 32
      tickSpacing := ← tickSpacing.toInt? 32
      fee := ← fee.toNat? (pow2 32)
      sqrtPrice := ← wordOfJson? sqrtPrice
      liquidity := ← liquidity.toNat? (pow2 128) }
  | _ => none

end Pool

/-- The amounts of a mint. -/
def MintAmounts.toJson (amounts : MintAmounts) : Json :=
  .record [("amount0", wordToJson amounts.amount0), ("amount1", wordToJson amounts.amount1)]

/-- The fields of a position. -/
def Position.toJson (position : Position) : Json :=
  .record [
    ("chainId", .ofNat position.chainId),
    ("pool", position.pool.toJson),
    ("fee", position.fee.toJson),
    ("token0", position.token0.toJson),
    ("token1", position.token1.toJson),
    ("tickLower", .ofInt position.tickLower),
    ("tickUpper", .ofInt position.tickUpper),
    ("liquidity", .ofNat position.liquidity),
    ("mintAmounts", position.amounts.toJson)]

end Tickwise

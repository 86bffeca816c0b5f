import Tickwise.Failure
import Tickwise.Json.Forms
import Tickwise.Provision.Slippage

/-!
# Requests to provision pools

A request names a pair of tokens, the fee and reserves that price the pool, and the deposit. A
batch holds requests with the width and the slippage that all of them share.

* `Batch.ofJson` — reads a batch; it never holds a tolerance above the whole.
-/

namespace Tickwise

/-- A pool to create, price and deposit into. The tokens stand in any order. -/
structure PoolRequest where
  tokenA : Address
  tokenB : Address
  fee : Nat
  /-- The side of `tokenA` in the ratio that is the first price. -/
  reserveA : String
  /-- The side of `tokenB` in that ratio. -/
  reserveB : String
  /-- The token the deposit is given in. -/
  inputToken : Address
  /-- The deposit, in display units. -/
  inputAmount : String
deriving DecidableEq

namespace PoolRequest

/-- The request with its two tokens exchanged. -/
def swap (request : PoolRequest) : PoolRequest :=
  { request with
    tokenA := request.tokenB
    tokenB := request.tokenA
    reserveA := request.reserveB
    reserveB := request.reserveA }

/-- The fields of a request. -/
def toJson (request : PoolRequest) : Json :=
  .record [
    ("tokenA", request.tokenA.toJson),
    ("tokenB", request.tokenB.toJson),
    ("fee", .ofNat request.fee),
    ("reserveA", .ofString request.reserveA),
    ("reserveB", .ofString request.reserveB),
    ("inputToken", request.inputToken.toJson),
    ("inputAmount", .ofString request.inputAmount)]

/-- Reads a request. -/
def ofJson? (json : Json) : Option PoolRequest := do
  let names := ["tokenA", "tokenB", "fee", "reserveA", "reserveB", "inputToken", "inputAmount"]
  match ← json.record? .ignored names with
  | [tokenA, tokenB, fee, reserveA, reserveB, inputToken, inputAmount] =>
    pure {
      tokenA := ← Address.ofJson? tokenA
      tokenB := ← Address.ofJson? tokenB
      fee := ← fee.toNat? (pow2 32)
      reserveA := ← reserveA.toText?
      reserveB := ← reserveB.toText?
      inputToken := ← Address.ofJson? inputToken
      inputAmount := ← inputAmount.toText? }
  | _ => none

end PoolRequest

/-- Requests that share a width and a slippage. -/
structure Batch where
  width : TickWidth
  slippage : Slippage
  pools : List PoolRequest
deriving DecidableEq

namespace Batch

/-- The fields of a batch. -/
def toJson (batch : Batch) : Json :=
  .record [
    ("width", batch.width.toJson),
    ("slippage", batch.slippage.toJson),
    ("pools", .array (batch.pools.map PoolRequest.toJson))]

/-- Reads a batch; it holds no other fields. -/
def ofJson? (json : Json) : Option Batch := do
  match ← json.record? .refused ["width", "slippage", "pools"] with
  | [width, slippage, pools] =>
    pure {
      width := ← TickWidth.ofJson? width
      slippage := ← Slippage.ofJson? 1 slippage
      pools := ← pools.toList? PoolRequest.ofJson? }
  | _ => none

/-- The batch of a text, with a slippage that a mint can keep to. -/
def ofText (text : String) : Except Failure Batch :=
  match (Json.parse? text).bind ofJson? with
  | none => .error ((Failure.outside "not a batch").within "invalid provisioning batch")
  | some batch => match batch.slippage.validate with
    | .ok () => .ok batch
    | .error fault => .error (.ofFault fault)

end Batch

end Tickwise

import Tickwise.Abi.Method
import Tickwise.Chain
import Tickwise.Text.Numeral

/-!
# A chain behind a node

A node answers requests about a chain and passes transactions on to it. The calls of a chain
become requests, and their results are read from what the node answers, which is known
beforehand here; every request is noted as it is sent.

* `Node` — a node with the answers it is going to give;
* `Node.readPool` — the state of a pool from the answers of its four methods;
* `LiquidityIncrease.first?` — what a mint has added, from the logs of its transaction;
* the instance of `Chain` — the requests of each call.
-/

namespace Tickwise

open Abi

/-! ## Requests and answers -/

/-- A request to a node. -/
inductive Request where
  | chainId
  /-- The data that a contract answers, without a transaction. -/
  | call (contract : Address) (data : List UInt8)
  | transact (contract : Address) (data : List UInt8)
deriving DecidableEq

/-- What a contract logs in a transaction. -/
structure Log where
  emitter : Address
  topics : List Nat
  data : List UInt8
deriving DecidableEq

/-- What has become of a transaction. -/
structure Confirmation where
  hash : TxHash
  /-- Whether the transaction was not reverted. -/
  succeeded : Bool
  logs : List Log
deriving DecidableEq

/-- A node with the answers it is going to give. An answer that is absent is a failure of the
node. -/
structure Node where
  /-- The account whose transactions the node passes on. -/
  owner : Address
  /-- The number of the chain as text. -/
  chainId : Option String
  /-- The data that calls are answered with, in order. -/
  returns : List (Option (List UInt8))
  /-- What becomes of the next transaction. -/
  confirmation : Option Confirmation
  /-- The requests received, oldest first. -/
  requests : List Request
deriving DecidableEq

/-! ## What a mint has added -/

/-- The event by which a position manager tells what a mint has added. -/
structure LiquidityIncrease where
  tokenId : Nat
  liquidity : Nat
  amount0 : Nat
  amount1 : Nat
deriving DecidableEq

namespace LiquidityIncrease

/-- The event that a log tells of, whichever contract emitted it. -/
def ofLog? (log : Log) : Option LiquidityIncrease :=
  match log.topics with
  | [topic, tokenId] => do
    guard (topic = increaseLiquidityTopic)
    let liquidity ← wordAt? 0 log.data
    let amount0 ← wordAt? wordSize log.data
    let amount1 ← wordAt? (2 * wordSize) log.data
    pure ⟨tokenId, low 128 liquidity, amount0, amount1⟩
  | _ => none

/-- The first such event among logs. -/
def first? (logs : List Log) : Option LiquidityIncrease := logs.findSome? ofLog?

end LiquidityIncrease

namespace Node

/-- A node that never answers. -/
def silent : Node := ⟨.zero, none, [], none, []⟩

/-! ## Sending requests -/

/-- An answer that has to be there. -/
def answered {α : Type} (missing : String) : Option α → Action Node α
  | some a => pure a
  | none => throw (.outside missing)

/-- Notes a request. -/
def note (request : Request) : Action Node Unit :=
  Action.change fun node => { node with requests := node.requests ++ [request] }

/-- What a contract answers to a method. -/
def call (contract : Address) (method : Method) (arguments : List Value) :
    Action Node (List UInt8) := do
  note (.call contract (method.callData arguments))
  let returns := (← Action.chain).returns
  Action.change fun node => { node with returns := returns.tail }
  answered "the call failed" (returns.head?.join)

/-- What a contract answers to a method, as `read?` reads it. -/
def ask {α : Type} (read? : List UInt8 → Option α) (contract : Address) (method : Method)
    (arguments : List Value) : Action Node α := do
  answered "the answer cannot be read" (read? (← call contract method arguments))

/-- Sends a transaction that calls a method, and waits for what becomes of it. -/
def transact (contract : Address) (method : Method) (arguments : List Value) :
    Action Node Confirmation := do
  note (.transact contract (method.callData arguments))
  let confirmation ← answered "the transaction failed" (← Action.chain).confirmation
  if ¬ confirmation.succeeded then
    Action.refuse s!"{method.title} reverted in {confirmation.hash}"
  return confirmation

/-! ## Tokens -/

/-- Where a contract answers several calls in one. -/
def multicall : Address := Address.ofNat 0xca11bde05977b3631167028862be2a173976ca11

/-- One of several calls, and whether the others go on if it fails. -/
def inner (contract : Address) (method : Method) (mayFail : Bool) : Value :=
  .tuple [.address contract, .flag mayFail, .bytes (method.callData [])]

/-- The outcome of one of several calls: whether it succeeded, and its data. -/
def innerResult? (offset : Nat) (data : List UInt8) : Option (Bool × List UInt8) := do
  let result ← behindAt? offset data
  let succeeded ← wordAt? 0 result
  pure (succeeded ≠ 0, ← bytesAt? wordSize result)

/-- The text of an inner call, empty where the contract gives none. -/
def textOr : Bool × List UInt8 → String
  | (true, data) => (text? data).getD ""
  | (false, _) => ""

/-- The metadata of a token, from the outcomes of its three calls. -/
def readToken (token : Address) :
    List (Bool × List UInt8) → Action Node Token
  | [name, symbol, decimals] => do
    let decimals ← (answered "the data is not one number" (number? decimals.2)).within
      s!"token {token} returned malformed decimals"
    if 255 < decimals then Action.refuse s!"token {token} reports {decimals} decimals"
    return { address := token, decimals, symbol := textOr symbol, name := textOr name }
  | results => Action.refuse s!"multicall returned {results.length} results for token {token}"

/-- Reads the metadata of a token in one call. A token without a name or symbol is read with
empty ones. -/
def askToken (token : Address) : Action Node Token := do
  let calls := [inner token .name true, inner token .symbol true, inner token .decimals false]
  let results ← (ask (arrayAt? innerResult? 0) multicall .aggregate [.array calls]).within
    s!"failed to read token metadata of {token}"
  let metadata ← readToken token results
  Action.debug s!"chain::alloy: Token {metadata} has {metadata.decimals} decimals"
  return metadata

/-! ## Pools -/

/-- The address in a word. -/
def addressAt? (offset : Nat) (data : List UInt8) : Option Address :=
  (wordAt? offset data).map Address.ofNat

/-- The price and the tick that a pool keeps before five other words. -/
def slot0? (data : List UInt8) : Option (Nat × Nat) := do
  let price ← wordAt? 0 data
  let tick ← wordAt? wordSize data
  let _ ← wordAt? (6 * wordSize) data
  pure (low 160 price, low 24 tick)

/-- The state of a pool from the answers of its four methods. The tick and the spacing are the
lowest 24 bits of their words, as numbers without a sign. -/
def readPool (pool : Address) : Action Node Pool := do
  let (sqrtPrice, tick) ← ask slot0? pool .slot0 []
  let liquidity ← ask (wordAt? 0) pool .liquidity []
  let spacing ← ask (wordAt? 0) pool .tickSpacing []
  let fee ← ask (wordAt? 0) pool .fee []
  return {
    address := pool
    tick
    tickSpacing := low 24 spacing
    fee := low 24 fee
    sqrtPrice
    liquidity := low 128 liquidity }

/-- Creates a pool. The same call without a transaction tells its address beforehand. -/
def createPool (positionManager token0 token1 : Address) (fee : FeeTier) (sqrtPrice : Nat) :
    Action Node Address := do
  if pow2 160 ≤ sqrtPrice then
    Action.refuse s!"sqrt price {sqrtPrice} does not fit in uint160"
  let arguments := [.address token0, .address token1, .word fee.fee, .word sqrtPrice]
  let pool ← ask (addressAt? 0) positionManager .createPool arguments
  let confirmation ← transact positionManager .createPool arguments
  Action.debug s!"chain::alloy: Pool {pool} ready in {confirmation.hash}"
  return pool

/-! ## Mints -/

/-- The word of a tick. -/
def tickWord (tick : Int) : Action Node Nat :=
  match int24? tick with
  | some n => pure n
  | none => Action.refuse s!"tick {tick} does not fit in int24"

/-- Mints a position, and reads from the logs what it has added. -/
def sendMint (request : MintRequest) : Action Node MintReceipt := do
  let lower ← tickWord request.tickLower
  let upper ← tickWord request.tickUpper
  let parameters := .tuple [.address request.token0, .address request.token1,
    .word request.fee.fee, .word lower, .word upper, .word request.amount0Desired,
    .word request.amount1Desired, .word request.amount0Min, .word request.amount1Min,
    .address request.recipient, .word request.deadline]
  let confirmation ← transact request.positionManager .mint [parameters]
  match LiquidityIncrease.first? confirmation.logs with
  | some increase =>
    return {
      txHash := confirmation.hash
      tokenId := increase.tokenId
      liquidity := increase.liquidity
      amount0 := increase.amount0
      amount1 := increase.amount1 }
  | none => Action.refuse s!"mint {confirmation.hash} emitted no IncreaseLiquidity event"

/-! ## The calls of a chain -/

/-- The id of a chain, which has 64 bits. -/
def chainId? (text : String) : Option Nat :=
  (Numeral.ofText? text.toList).filter (· < pow2 64)

instance : Chain Node where
  owner := Node.owner
  chainId := do
    note .chainId
    answered "the node does not tell the chain" ((← Action.chain).chainId.bind chainId?)
  token := askToken
  poolAddress factory token0 token1 fee := do
    let pool ← ask (addressAt? 0) factory .getPool
      [.address token0, .address token1, .word fee.fee]
    return if pool = .zero then none else some pool
  poolState := readPool
  createAndInitializePool := createPool
  allowance token owner spender :=
    ask (wordAt? 0) token .allowance [.address owner, .address spender]
  approve token spender amount := do
    return (← transact token .approve [.address spender, .word amount]).hash
  mint := sendMint

end Node

end Tickwise

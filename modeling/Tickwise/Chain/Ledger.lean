import Tickwise.Chain
import Tickwise.Table
import Tickwise.Tick.Logarithm

/-!
# A chain in memory

A ledger of tokens, pools, allowances and mints that answers the calls of a chain by the rules
of the factory, the position manager and the tokens. Every call is recorded before anything
else, and can be made to fail.

* `Ledger` — everything such a chain knows;
* `Ledger.record` — the record of a call, which fails when that was asked for;
* the instance of `Chain` — how each call reads and changes the ledger.
-/

namespace Tickwise

/-- The calls of a chain, by name. -/
inductive Call where
  | chainId
  | token
  | poolAddress
  | poolState
  | createAndInitializePool
  | allowance
  | approve
  | mint
deriving DecidableEq

namespace Call

/-- All calls. -/
def all : List Call :=
  [chainId, token, poolAddress, poolState, createAndInitializePool, allowance, approve, mint]

/-- The name of a call. -/
def name : Call → String
  | chainId => "chain_id"
  | token => "token_descriptor"
  | poolAddress => "pool_address"
  | poolState => "pool_state"
  | createAndInitializePool => "create_and_initialize_pool"
  | allowance => "allowance"
  | approve => "approve"
  | mint => "mint"

/-- The call of a name. -/
def ofName? (name : String) : Option Call := all.find? fun call => call.name == name

end Call

/-- What a pool is found by: its tokens by ascending address, and its fee. -/
structure PoolKey where
  token0 : Address
  token1 : Address
  fee : FeeTier
deriving DecidableEq

/-- What an allowance is found by. -/
structure AllowanceKey where
  token : Address
  owner : Address
  spender : Address
deriving DecidableEq

/-- An approval that was sent. -/
structure Approval where
  token : Address
  spender : Address
  amount : Nat
deriving DecidableEq

/-- Everything a chain in memory knows. -/
structure Ledger where
  chainId : Nat
  tokens : Table Address Token
  pools : Table PoolKey Pool
  allowances : Table AllowanceKey Nat
  /-- The approvals sent, oldest first. -/
  approvals : List Approval
  /-- The mints made, oldest first. -/
  mints : List MintRequest
  /-- The calls received, oldest first. -/
  calls : List Call
  /-- Which calls are to fail, each with its count among the calls of its name. -/
  failures : List (Call × Nat)
deriving DecidableEq

namespace Ledger

/-! ## Setting up -/

/-- The account that owns what a chain in memory holds. -/
def owner : Address := Address.ofNat 0x0A0A

/-- A chain that knows nothing but its id. -/
def empty (chainId : Nat) : Ledger := ⟨chainId, [], [], [], [], [], [], []⟩

/-- Knows a token, under its own address. -/
def addToken (token : Token) (ledger : Ledger) : Ledger :=
  { ledger with tokens := Table.put token.address token ledger.tokens }

/-- Sets what the owner lets a spender take. -/
def setAllowance (token spender : Address) (amount : Nat) (ledger : Ledger) : Ledger :=
  { ledger with allowances := Table.put ⟨token, owner, spender⟩ amount ledger.allowances }

/-- Makes the `nth` call of a name fail, counting from one. -/
def failOn (call : Call) (nth : Nat) (ledger : Ledger) : Ledger :=
  { ledger with failures := ledger.failures ++ [(call, nth)] }

/-- Puts a pool under a key. -/
def setPool (key : PoolKey) (pool : Pool) (ledger : Ledger) : Ledger :=
  { ledger with pools := Table.put key pool ledger.pools }

/-- The address of the next pool: a single byte that counts the pools from `0xA0`. -/
def nextPoolAddress (ledger : Ledger) : Address :=
  Address.ofNat ((0xA0 + ledger.pools.length) % 256)

/-- A pool that was created and never given a price. -/
def unpricedPool (fee : FeeTier) (ledger : Ledger) : Pool :=
  { address := ledger.nextPoolAddress
    tick := 0
    tickSpacing := fee.tickSpacing
    fee := fee.fee
    sqrtPrice := 0
    liquidity := 0 }

/-- Creates a pool without a price. -/
def seedPool (key : PoolKey) (ledger : Ledger) : Ledger :=
  ledger.setPool key (ledger.unpricedPool key.fee)

/-! ## Reading -/

/-- What a spender may take of an owner's tokens. -/
def allowanceOf (ledger : Ledger) (token owner spender : Address) : Nat :=
  (Table.get? ⟨token, owner, spender⟩ ledger.allowances).getD 0

@[simp] theorem allowanceOf_setAllowance (ledger : Ledger) (token spender : Address)
    (amount : Nat) :
    (ledger.setAllowance token spender amount).allowanceOf token owner spender = amount := by
  simp [allowanceOf, setAllowance]

/-- Setting one allowance leaves the others as they are. -/
theorem allowanceOf_setAllowance_of_ne {ledger : Ledger} {token spender : Address} {amount : Nat}
    {key : AllowanceKey} (h : key ≠ ⟨token, owner, spender⟩) :
    (ledger.setAllowance token spender amount).allowanceOf key.token key.owner key.spender =
      ledger.allowanceOf key.token key.owner key.spender := by
  rw [allowanceOf, setAllowance, Table.get?_put_of_ne h]
  rfl

/-- The pool at an address. -/
def poolAt? (ledger : Ledger) (address : Address) : Option Pool :=
  (ledger.pools.map Prod.snd).find? fun pool => pool.address = address

/-- How often a call was received. -/
def count (ledger : Ledger) (call : Call) : Nat := ledger.calls.count call

/-! ## Calls -/

/-- The ledger with a call in its record. -/
def received (call : Call) (ledger : Ledger) : Ledger :=
  { ledger with calls := ledger.calls ++ [call] }

/-- Records a call, and fails it if that was asked for. -/
def record (call : Call) : Action Ledger Unit := do
  Action.change (received call)
  let ledger ← Action.chain
  let nth := ledger.count call
  if (call, nth) ∈ ledger.failures then
    Action.refuse s!"injected failure of {call.name} #{nth}"

/-- A call is recorded whether or not it is made to fail. -/
theorem run_record (call : Call) (session : Session Ledger) :
    (record call).run session =
      let later := { session with chain := session.chain.received call }
      if (call, later.chain.count call) ∈ later.chain.failures then
        (.error (.refusal s!"injected failure of {call.name} #{later.chain.count call}"), later)
      else (.ok (), later) := by
  simp only [record, Action.run_bind, Action.run_change, Action.run_chain]
  split <;> rfl

/-- A value that the ledger has to hold. -/
def found {α : Type} (missing : String) : Option α → Action Ledger α
  | some a => pure a
  | none => Action.refuse missing

/-- Creates the pool of a key unless there is one, and gives it the price unless it has one. -/
def createPool (key : PoolKey) (sqrtPrice : Nat) : Action Ledger Address := do
  if ¬ key.token0 < key.token1 then
    Action.refuse "execution reverted: token0 must sort below token1"
  let ledger ← Action.chain
  let pool := (Table.get? key ledger.pools).getD (ledger.unpricedPool key.fee)
  Action.change (setPool key pool)
  if ¬ pool.isInitialized then
    let tick ← Action.calculate (tickAtSqrtRatio sqrtPrice)
    Action.change (setPool key { pool with tick, sqrtPrice })
  return pool.address

/-- What a mint takes of one token: the allowance must cover it, and the minimum not exceed
it. -/
def checkSide (positionManager token : Address) (desired minimum : Nat) :
    Action Ledger Unit := do
  let ledger ← Action.chain
  if ledger.allowanceOf token owner positionManager < desired then
    Action.refuse s!"execution reverted: ERC20: insufficient allowance for {token}"
  if desired < minimum then
    Action.refuse "execution reverted: Price slippage check"

/-- Makes a mint. Its hash is a single byte that counts the mints from `0xF0`. -/
def makeMint (request : MintRequest) : Action Ledger MintReceipt := do
  checkSide request.positionManager request.token0 request.amount0Desired request.amount0Min
  checkSide request.positionManager request.token1 request.amount1Desired request.amount1Min
  Action.change fun ledger => { ledger with mints := ledger.mints ++ [request] }
  let minted := (← Action.chain).mints.length
  return {
    txHash := ⟨(0xF0 + minted) % 256⟩
    tokenId := minted
    liquidity := 0
    amount0 := request.amount0Desired
    amount1 := request.amount1Desired }

/-- Sends an approval. Its hash is a single byte that counts the approvals. -/
def sendApproval (token spender : Address) (amount : Nat) : Action Ledger TxHash := do
  Action.change fun ledger =>
    { ledger.setAllowance token spender amount with
      approvals := ledger.approvals ++ [⟨token, spender, amount⟩] }
  return ⟨(← Action.chain).approvals.length % 256⟩

instance : Chain Ledger where
  owner _ := owner
  chainId := do
    record .chainId
    return (← Action.chain).chainId
  token address := do
    record .token
    found s!"no token at {address}" (Table.get? address (← Action.chain).tokens)
  poolAddress _ token0 token1 fee := do
    record .poolAddress
    return (Table.get? ⟨token0, token1, fee⟩ (← Action.chain).pools).map Pool.address
  poolState pool := do
    record .poolState
    found s!"no pool at {pool}" ((← Action.chain).poolAt? pool)
  createAndInitializePool _ token0 token1 fee sqrtPrice := do
    record .createAndInitializePool
    createPool ⟨token0, token1, fee⟩ sqrtPrice
  allowance token owner spender := do
    record .allowance
    return (← Action.chain).allowanceOf token owner spender
  approve token spender amount := do
    record .approve
    sendApproval token spender amount
  mint request := do
    record .mint
    makeMint request

end Ledger

end Tickwise

import Tickwise.Deployment
import Tickwise.Position.Sizing
import Tickwise.Price
import Tickwise.Provision.Progress
import Tickwise.Provision.Request

/-!
# Provisioning a pool

A request becomes a plan; the pool of the plan is looked up, created and priced unless it has a
price, and then deposited into. Each step is confirmed before the next begins, so a request that
failed can be run again and goes on where the pool stands.

* `Provisioner.plan` — checks a request before anything is read, and reads its tokens;
* `Provisioner.locate` — where the pool of a plan stands;
* `Provisioner.advance` — the one step from there;
* `Provisioner.provision` — a request from beginning to end.
-/

namespace Tickwise

/-- What all requests of a run share. -/
structure Provisioner where
  deployment : Deployment
  width : TickWidth
  slippage : Slippage
  /-- How long a mint stays valid, in seconds. -/
  deadlineSecs : Nat
  valid : slippage.validate = .ok ()

namespace Provisioner

/-- A provisioner with a slippage that a mint can keep to. -/
def of (deployment : Deployment) (width : TickWidth) (slippage : Slippage)
    (deadlineSecs : Nat) : Except Fault Provisioner :=
  match h : slippage.validate with
  | .ok () => .ok ⟨deployment, width, slippage, deadlineSecs, h⟩
  | .error fault => .error fault

variable {σ : Type} [Chain σ]

/-! ## Checking -/

/-- The connected chain must be the one of the deployment. -/
def verifyChain (p : Provisioner) : Action σ Unit := do
  let chainId ← (Chain.chainId : Action σ Nat).within "failed to read chain id"
  if chainId ≠ p.deployment.chainId then
    Action.refuse <|
      s!"connected to chain {chainId} but network {Text.quoted p.deployment.network} " ++
        s!"is chain {p.deployment.chainId}"

/-- The fee and the reserves of a request, by ascending address of their tokens. -/
def checkRequest (request : PoolRequest) : Except Fault (FeeTier × OrderedPair String) := do
  let fee ← FeeTier.ofFee request.fee
  let reserves ← OrderedPair.of request.tokenA request.reserveA request.tokenB request.reserveB
  let _ ← reserves.sideOf request.inputToken
  return (fee, reserves)

/-- The price of reserves that are written in units of their tokens. -/
def priceReserves (token0 token1 : Token) (reserve0 reserve1 : String) : Except Fault Nat := do
  let reserve0 ← token0.parseUnits reserve0
  let reserve1 ← token1.parseUnits reserve1
  let price ← encodeSqrtPrice (.ofNat reserve1) (.ofNat reserve0)
  ensureInitializable price

/-- The metadata of a token. -/
def readToken (address : Address) : Action σ Token :=
  (Chain.token address : Action σ Token).within s!"failed to read token metadata of {address}"

/-- Checks a request, reads the metadata of its tokens and prices its reserves. -/
def plan (request : PoolRequest) : Action σ Plan := do
  let (fee, reserves) ← (Action.calculate (checkRequest request)).within
    s!"invalid pool request {request.tokenA}/{request.tokenB} fee {request.fee}"
  let token0 ← readToken reserves.first.address
  let token1 ← readToken reserves.second.address
  let reserve0 := reserves.first.payload
  let reserve1 := reserves.second.payload
  let sqrtPrice ← (Action.calculate (priceReserves token0 token1 reserve0 reserve1)).within <|
    s!"cannot price {token0.symbol}/{token1.symbol} fee {fee} " ++
      s!"from reserves {reserve0} / {reserve1}"
  let plan : Plan := {
    pair := ⟨⟨reserves.first.address, token0⟩, ⟨reserves.second.address, token1⟩, reserves.sorted⟩
    fee
    sqrtPrice
    inputToken := request.inputToken
    inputAmount := request.inputAmount }
  Action.debug s!"provision::pool: {plan} initial sqrt price {sqrtPrice}"
  return plan

/-! ## Looking up -/

/-- Where the pool of a plan stands. -/
def locate (p : Provisioner) (plan : Plan) : Action σ Progress := do
  let factory ← Action.calculate (p.deployment.resolve .factory)
  let found ← (Chain.poolAddress factory plan.pair.first.address plan.pair.second.address
    plan.fee : Action σ _).within s!"failed to look up pool {plan}"
  match found with
  | none =>
    Action.info s!"provision::pool: {plan} has no pool yet"
    return .notFound
  | some address =>
    let pool ← (Chain.poolState address : Action σ Pool).within
      s!"failed to read pool {address} ({plan})"
    if pool.isInitialized then
      Action.info s!"provision::pool: {plan} pool {address} already priced at tick {pool.tick}"
      return .initialized pool
    else
      Action.info s!"provision::pool: {plan} pool {address} exists without a price"
      return .notFound

/-! ## Creating and pricing -/

/-- Creates and prices the pool of a plan, and reads it back: a pool that was priced before
keeps its price, and from here on the confirmed state counts. -/
def createPool (p : Provisioner) (plan : Plan) : Action σ Pool := do
  let manager ← Action.calculate (p.deployment.resolve .positionManager)
  let address ← (Chain.createAndInitializePool manager plan.pair.first.address
    plan.pair.second.address plan.fee plan.sqrtPrice : Action σ Address).within
    s!"failed to create and initialize pool {plan}"
  let pool ← (Chain.poolState address : Action σ Pool).within
    s!"failed to read pool {address} ({plan}) after initialization"
  if pool.sqrtPrice ≠ plan.sqrtPrice then
    Action.info s!"provision::pool: {plan} was already priced at {pool.sqrtPrice}, keeping it"
  return pool

/-! ## Depositing -/

/-- Lets a spender take any amount of a token, unless it may already take as much as is
needed. -/
def ensureAllowance (token : Token) (spender : Address) (amount : Nat) : Action σ Unit := do
  if amount ≠ 0 then
    let owner := Chain.owner (← Action.chain)
    let current ← Chain.allowance token.address owner spender
    if amount ≤ current then
      Action.info <|
        s!"provision::pool: {token.symbol} allowance {current} covers {amount}, " ++
          "skipping approval"
    else
      let hash ← Chain.approve token.address spender maxWord
      Action.info s!"provision::pool: Approved {token.symbol} for {spender} in {hash}"

/-- The time after which a mint of this run reverts. -/
def deadline (p : Provisioner) : Action σ Nat := do
  let now := (← get).now
  if now < 0 then Action.refuse "system clock is before the unix epoch"
  return min (now.toNat + p.deadlineSecs) (pow2 64 - 1)

/-- What a position of a plan is sized from. -/
def sizingRequest (p : Provisioner) (plan : Plan) (pool : Pool) : SizingRequest :=
  { chainId := p.deployment.chainId
    pool
    input := plan.input
    other := plan.other
    amount := plan.inputAmount
    width := p.width }

/-- The mint of a position. -/
def mintRequest (p : Provisioner) (manager : Address) (position : Position) :
    Action σ MintRequest := do
  let amount0Min ← Action.calculate (p.slippage.minimum position.amounts.amount0)
  let amount1Min ← Action.calculate (p.slippage.minimum position.amounts.amount1)
  return {
    positionManager := manager
    token0 := position.token0.address
    token1 := position.token1.address
    fee := position.fee
    tickLower := position.tickLower
    tickUpper := position.tickUpper
    amount0Desired := position.amounts.amount0
    amount1Desired := position.amounts.amount1
    amount0Min
    amount1Min
    recipient := Chain.owner (← Action.chain)
    deadline := ← p.deadline }

/-- Sizes a position against a pool, grants the allowances it needs, and mints it. -/
def addLiquidity (p : Provisioner) (plan : Plan) (pool : Pool) : Action σ Outcome := do
  let manager ← Action.calculate (p.deployment.resolve .positionManager)
  let position ← (Action.calculate (sizePosition (p.sizingRequest plan pool))).within
    s!"failed to size position for {plan}"
  Action.write position.sizedEntry.level position.sizedEntry.text
  Action.debug s!"provision::pool: Sized {position}"
  (ensureAllowance position.token0 manager position.amounts.amount0).within
    s!"failed to approve {position.token0.symbol} for {plan}"
  (ensureAllowance position.token1 manager position.amounts.amount1).within
    s!"failed to approve {position.token1.symbol} for {plan}"
  let request ← p.mintRequest manager position
  let receipt ← (Chain.mint request : Action σ MintReceipt).within
    s!"failed to mint position in {plan}"
  Action.info <|
    s!"provision::pool: Minted token id {receipt.tokenId} " ++
      s!"with liquidity {receipt.liquidity} in {receipt.txHash}"
  return { pool, position, receipt }

/-! ## From step to step -/

/-- The one step from where the pool of a plan stands. Nothing follows on a position. -/
def advance (p : Provisioner) (plan : Plan) : Progress → Action σ Progress
  | .notFound => return .initialized (← p.createPool plan)
  | .initialized pool => return .liquidityAdded (← p.addLiquidity plan pool)
  | .liquidityAdded outcome => return .liquidityAdded outcome

/-- Notes where the pool of a plan stands. -/
def note (plan : Plan) (progress : Progress) : Action σ Unit :=
  Action.info s!"provision::pool: {plan} is {progress}"

/-- The last step, into a pool with a price. -/
def deposit (p : Provisioner) (plan : Plan) (pool : Pool) : Action σ Outcome := do
  let outcome ← p.addLiquidity plan pool
  note plan (.liquidityAdded outcome)
  return outcome

/-- All the steps that are left. -/
def finish (p : Provisioner) (plan : Plan) : Progress → Action σ Outcome
  | .notFound => do
    let pool ← p.createPool plan
    note plan (.initialized pool)
    p.deposit plan pool
  | .initialized pool => p.deposit plan pool
  | .liquidityAdded outcome => return outcome

/-- Takes a request from wherever its pool stands to a position. -/
def provision (p : Provisioner) (request : PoolRequest) : Action σ Outcome := do
  let plan ← plan request
  p.verifyChain
  let progress ← p.locate plan
  p.finish plan progress

end Provisioner

end Tickwise

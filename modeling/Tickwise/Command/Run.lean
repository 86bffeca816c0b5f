import Tickwise.Chain.Node
import Tickwise.Command
import Tickwise.Command.Host
import Tickwise.Json.Pretty
import Tickwise.Price
import Tickwise.Provision.BatchRun
import Tickwise.Settings
import Tickwise.Settings.Assignment

/-!
# Running commands

What a command prints, or why it fails. Prices and routes are worked out at once. The commands
that reach a chain first check what they can, then read the settings and the deployment, and
only then call the chain.

* `Command.openWorkspace` — the settings and the deployment;
* `Command.run` — the run of a command on any host.
-/

namespace Tickwise

/-- What a command has come to. -/
structure Report where
  /-- The line that it prints, or why it failed. -/
  result : Except Failure String
  /-- What it tells about itself. -/
  journal : List Entry

namespace Command

/-! ## Prices and routes -/

/-- A reserve of a price. -/
def readReserve (name text : String) : Except Failure Decimal :=
  match Decimal.ofText? text.toList with
  | some d => .ok d
  | none => .error ((Failure.outside "not a decimal number").within
    s!"invalid {name} {Text.quoted text}")

/-- The square-root price of a ratio. -/
def encodedPrice (reserve1 reserve0 : String) : Except Failure String := do
  let r1 ← readReserve "reserve1" reserve1
  let r0 ← readReserve "reserve0" reserve0
  let price ← (encodeSqrtPrice r1 r0).mapError Failure.ofFault
  return toString price

/-- The ratio of a square-root price. -/
def decodedPrice (sqrtPrice : String) (digits : Nat) : Except Failure String :=
  match Numeral.ofText? sqrtPrice.toList with
  | some price => .ok (toString (decodeWithDigits price digits))
  | none => .error ((Failure.outside "not a number of 256 bits").within "invalid sqrt price")

/-- The packed bytes of a route. -/
def packedPath (tokens : List Address) (fees : List Nat) (trade : TradeType) :
    Except Fault String := do
  let tiers ← fees.mapM FeeTier.ofFee
  let bytes ← Tickwise.encodePath tokens tiers trade
  return "0x" ++ String.ofList (Hex.ofBytes bytes)

/-- Digits behind any number of `0x` marks. -/
def withoutMarks : List Char → List Char
  | '0' :: 'x' :: rest => withoutMarks rest
  | digits => digits

/-- The route of packed bytes. -/
def unpackedPath (path : String) (trade : TradeType) : Except Failure String :=
  match Hex.toBytes? (withoutMarks path.toList) with
  | some bytes => ((Route.decode bytes trade).map toString).mapError Failure.ofFault
  | none => .error ((Failure.outside "not pairs of digits").within "path is not valid hex")

/-! ## Settings and deployment -/

/-- What every command needs that reaches a chain. -/
structure Workspace where
  settings : Settings
  deployment : Deployment

variable {m : Type → Type} [Monad m] [Host m]

/-- The text of a file that a command cannot do without. -/
def needFile (missing path : String) : ExceptT Failure m String := do
  match ← ExceptT.lift (Host.textOf path : m _) with
  | some text => return text
  | none => throw ((Failure.outside "the file cannot be read").within missing)

/-- The settings of the variables, and of the assignments in the file `.env`. -/
def readSettings : ExceptT Failure m Settings := do
  let file ← ExceptT.lift (Host.textOf ".env" : m _)
  let assignments := (file.map Assignment.ofText).getD []
  let names := (Settings.names ++ assignments.flatMap Assignment.names).eraseDups
  let environment ← names.filterMapM fun name => do
    return (← ExceptT.lift (Host.lookUp name : m _)).map (name, ·)
  MonadExcept.ofExcept (Settings.ofEnvironment (Assignment.perform assignments environment))

/-- The deployment of the network that the settings name. -/
def readDeployment (settings : Settings) : ExceptT Failure m Deployment := do
  let path := settings.deploymentsPath
  let text ← needFile s!"cannot read deployment registry {path}" path
  let registry ← MonadExcept.ofExcept (Registry.ofText text)
  MonadExcept.ofExcept ((registry.network settings.network).mapError Failure.ofFault)

/-- Reads the settings and the deployment. -/
def openWorkspace : ExceptT Failure m Workspace := do
  let settings ← readSettings
  let deployment ← (readDeployment settings).adapt <|
    Failure.within s!"failed to load deployments for {settings.network}"
  return { settings, deployment }

/-! ## Work on a chain -/

section Work

variable {σ : Type} [Chain σ]

/-- A position of a width in the pool of two tokens, sized from an amount of one of them. -/
def sizeInPool (workspace : Workspace) (factory token other : Address) (pair : OrderedPair Unit)
    (fee : FeeTier) (amount : String) (width : TickWidth) : Action σ String := do
  let token0 := pair.first.address
  let token1 := pair.second.address
  match ← (Chain.poolAddress factory token0 token1 fee : Action σ _) with
  | none => Action.refuse <|
    s!"no pool for {token0}/{token1} fee {fee} on {workspace.settings.network}"
  | some address =>
    let pool ← (Chain.poolState address : Action σ _)
    let input ← (Chain.token token : Action σ _)
    let counterpart ← (Chain.token other : Action σ _)
    let request : SizingRequest :=
      { chainId := workspace.deployment.chainId, pool, input, other := counterpart, amount, width }
    let position ← (Action.calculate (Tickwise.sizePosition request)).within
      s!"failed to size {input.symbol}/{counterpart.symbol} fee {fee}"
    return position.toJson.pretty

/-- Provisions the pools of a batch. -/
def provisionPools (provisioner : Provisioner) (pools : List PoolRequest) : Action σ String := do
  let run ← modifyGet (provisioner.provisionBatch pools)
  let outcomes ← MonadExcept.ofExcept run.result
  return s!"{outcomes.length} pools provisioned"

end Work

/-! ## Preparing work -/

/-- The fee, the width and the pair of a position. -/
def checkSizing (token other : Address) (fee width : Nat) :
    Except Fault (FeeTier × TickWidth × OrderedPair Unit) := do
  return (← FeeTier.ofFee fee, ← TickWidth.ofNat width, ← OrderedPair.of token () other ())

/-- Checks what a position is asked for before anything is read. -/
def prepareSizing {σ : Type} [Chain σ] (token other : Address) (fee : Nat) (amount : String)
    (width : Nat) : ExceptT Failure m (Action σ String) := do
  let (fee, width, pair) ← MonadExcept.ofExcept <|
    (checkSizing token other fee width).mapError Failure.ofFault
  let workspace ← openWorkspace
  let factory ← MonadExcept.ofExcept <|
    (workspace.deployment.resolve .factory).mapError Failure.ofFault
  return sizeInPool workspace factory token other pair fee amount width

/-- The batch of a file. -/
def readBatch (path : String) : ExceptT Failure m Batch := do
  let text ← needFile s!"failed to read batch file {path}" path
  (MonadExcept.ofExcept (Batch.ofText text) : ExceptT Failure m Batch).adapt <|
    Failure.within s!"in batch file {path}"

/-- Reads a batch, and makes sure that its transactions can be signed. -/
def prepareProvision {σ : Type} [Chain σ] (path : String) :
    ExceptT Failure m (Action σ String) := do
  let batch ← readBatch path
  let workspace ← openWorkspace
  let _ ← MonadExcept.ofExcept workspace.settings.signingKey
  let provisioner ← MonadExcept.ofExcept <|
    (Provisioner.of workspace.deployment batch.width batch.slippage
      workspace.settings.deadlineSecs).mapError Failure.ofFault
  return provisionPools provisioner batch.pools

/-! ## Running -/

/-- The report of a command that is worked out at once. -/
def atOnce (result : Except Failure String) : m Report := return ⟨result, []⟩

/-- The report of work on a chain. No node is connected, so every call fails. -/
def onChain (prepare : ExceptT Failure m (Action Node String)) : m Report := do
  match ← prepare.run with
  | .error failure => return ⟨.error failure, []⟩
  | .ok work =>
    let (result, session) := work.run { chain := .silent, now := 0, journal := [] }
    return ⟨result, session.journal⟩

/-- Runs a command. -/
def run : Command → m Report
  | .encodePrice reserve1 reserve0 => atOnce (encodedPrice reserve1 reserve0)
  | .decodePrice sqrtPrice digits => atOnce (decodedPrice sqrtPrice digits)
  | .encodePath tokens fees trade =>
    atOnce ((packedPath tokens fees trade).mapError Failure.ofFault)
  | .decodePath path trade => atOnce (unpackedPath path trade)
  | .sizePosition token other fee amount width =>
    onChain (prepareSizing token other fee amount width)
  | .provision batch => onChain (prepareProvision batch)
  | .version => atOnce (.ok "sprout 0.1.0")

end Command

end Tickwise

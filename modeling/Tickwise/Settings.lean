import Tickwise.Failure
import Tickwise.Settings.Endpoint
import Tickwise.Table
import Tickwise.Text.Blank
import Tickwise.Text.Numeral

/-!
# Settings

What the commands that reach a chain are told by the environment.

* `Settings.ofEnvironment` — reads the settings, or says which one is wrong;
* `PrivateKey.ofText?` — the key of the account that pays.
-/

namespace Tickwise

/-- The order of the group in which keys are made. -/
def groupOrder : Nat := 0xFFFFFFFFFFFFFFFFFFFFFFFFFFFFFFFEBAAEDCE6AF48A03BBFD25E8CD0364141

/-- A private key: a positive number below the order of the group. -/
structure PrivateKey where
  toNat : Nat
  pos : 0 < toNat
  isLt : toNat < groupOrder

/-- Reads a key of 64 hexadecimal digits, after an optional `0x` and between blanks. -/
def PrivateKey.ofText? (text : List Char) : Option PrivateKey := do
  let digits := Hex.unmarked (Text.trim text)
  guard (digits.length = 64)
  let n ← Hex.ofDigits? digits
  if h : 0 < n ∧ n < groupOrder then some ⟨n, h.1, h.2⟩ else none

/-- What the environment says. -/
structure Settings where
  /-- The address of the node. -/
  endpoint : String
  /-- The key as it is written, if there is one. -/
  privateKey : Option String
  /-- The network whose deployment is used. -/
  network : String
  /-- The path of the deployment registry. -/
  deploymentsPath : String
  /-- How long a mint stays valid, in seconds. -/
  deadlineSecs : Nat

namespace Settings

/-- The variables that settings are read from. -/
def names : List String :=
  ["SPROUT_RPC_URL", "SPROUT_PRIVATE_KEY", "SPROUT_NETWORK", "SPROUT_DEPLOYMENTS",
    "SPROUT_DEADLINE_SECS"]

/-- The node must be given as an absolute URL. -/
def readEndpoint : Option String → Except Failure String
  | none => .error (.refusal "SPROUT_RPC_URL must be set")
  | some text =>
    if Endpoint.isAbsolute text.toList then .ok text
    else .error (.refusal "SPROUT_RPC_URL is not a valid URL")

/-- How long a mint stays valid, twenty minutes unless it is set. -/
def readDeadline : Option String → Except Failure Nat
  | none => .ok 1200
  | some text => match Numeral.natural? (pow2 64) text.toList with
    | some secs => .ok secs
    | none => .error (.refusal s!"SPROUT_DEADLINE_SECS={text} is not a number of seconds")

/-- Reads the settings. -/
def ofEnvironment (environment : Table String String) : Except Failure Settings := do
  let get (name : String) := Table.get? name environment
  return {
    endpoint := ← readEndpoint (get "SPROUT_RPC_URL")
    deadlineSecs := ← readDeadline (get "SPROUT_DEADLINE_SECS")
    privateKey := get "SPROUT_PRIVATE_KEY"
    network := (get "SPROUT_NETWORK").getD "base-sepolia"
    deploymentsPath := (get "SPROUT_DEPLOYMENTS").getD "deployments.json" }

/-- The key that transactions are signed with. -/
def signingKey (settings : Settings) : Except Failure PrivateKey :=
  match settings.privateKey with
  | none => .error (.refusal "SPROUT_PRIVATE_KEY must be set to send transactions")
  | some text => match PrivateKey.ofText? text.toList with
    | some key => .ok key
    | none => .error ((Failure.outside "no key has this text").within
      "SPROUT_PRIVATE_KEY is not a valid private key:")

end Settings

end Tickwise

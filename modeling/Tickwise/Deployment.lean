import Tickwise.Failure
import Tickwise.Json.Forms

/-!
# Deployments

The addresses at which the contracts of a network are deployed, and the registry of networks.
-/

namespace Tickwise

/-- The deployed contracts of a network. -/
structure Deployment where
  network : String
  chainId : Nat
  contracts : List (Contract × Address)
deriving DecidableEq

namespace Deployment

/-- The address of a contract. -/
def resolve (deployment : Deployment) (contract : Contract) : Except Fault Address :=
  match deployment.contracts.lookup contract with
  | some address => .ok address
  | none => .error (.unknownContract contract deployment.network)

/-- Reads a deployment; it does not hold the name of its network. -/
def ofJson? (json : Json) : Option Deployment := do
  match ← json.record? .ignored ["chainId", "contracts"] with
  | [chainId, contracts] =>
    pure {
      network := ""
      chainId := ← chainId.toNat? (pow2 64)
      contracts := ← contracts.entries? Contract.ofName? Address.ofJson? }
  | _ => none

end Deployment

/-- Deployments by the name of their network. -/
structure Registry where
  networks : List (String × Deployment)

namespace Registry

/-- The deployment of a network. -/
def network (registry : Registry) (name : String) : Except Fault Deployment :=
  match registry.networks.lookup name with
  | some deployment => .ok deployment
  | none => .error (.unknownNetwork name)

/-- Reads the networks of a registry. -/
def ofJson? (json : Json) : Option Registry := do
  let entries ← json.entries? some Deployment.ofJson?
  pure ⟨entries.map fun entry => (entry.1, { entry.2 with network := entry.1 })⟩

/-- The registry of a text. -/
def ofText (text : String) : Except Failure Registry :=
  match (Json.parse? text).bind ofJson? with
  | some registry => .ok registry
  | none => .error ((Failure.outside "not a registry").within "malformed deployment registry")

end Registry

end Tickwise

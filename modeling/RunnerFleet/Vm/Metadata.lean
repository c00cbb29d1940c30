import RunnerFleet.Json.Parser
import RunnerFleet.Json.Schema
import RunnerFleet.Vm.Error

/-!
# Runtime metadata of a bundle

What an agent learned about a VM at run time, mainly its address, so that maintenance commands find
it. The record is kept beside the disk images as a JSON document.
-/

namespace RunnerFleet

/-- The agent's view of a bundle. -/
inductive BundleState where
  | creating | booting | running | stopped | error
  deriving DecidableEq, Repr, Inhabited

namespace BundleState

def all : List BundleState := [creating, booting, running, stopped, error]

/-- The word for a bundle state. -/
def name : BundleState → String
  | creating => "creating"
  | booting => "booting"
  | running => "running"
  | stopped => "stopped"
  | error => "error"

def ofName? (s : String) : Option BundleState := all.find? (·.name == s)

end BundleState

/-- The content of a bundle's metadata document. -/
structure Metadata where
  runnerId : RunnerId
  /-- Empty until the guest has announced itself. -/
  ipAddress : String
  createdAt : Timestamp
  state : BundleState
  updatedAt : Timestamp
  deriving DecidableEq, Repr

namespace Metadata

/-- The metadata of a bundle that has just been cloned. -/
def fresh (runner : RunnerId) (now : Timestamp) : Metadata := ⟨runner, "", now, .creating, now⟩

/-- Reads the document's value. -/
def ofJson? (v : Json) : Option Metadata := do
  match ← v.pick? ["runner_id", "ip_address", "created_at", "state", "updated_at"] with
  | [runnerId, ipAddress, createdAt, state, updatedAt] =>
    return {
      runnerId := ← Json.required? Json.asText? runnerId
      ipAddress := ← Json.defaulted? Json.asText? "" ipAddress
      createdAt := ← Json.required? Json.asTimestamp? createdAt
      state := ← Json.required? (fun v => v.asWord?.bind BundleState.ofName?) state
      updatedAt := ← Json.required? Json.asTimestamp? updatedAt }
  | _ => none

/-- The document's value. -/
def toJson (m : Metadata) : Json :=
  .ofFields
    [("runner_id", .text m.runnerId), ("ip_address", .text m.ipAddress),
      ("created_at", .text m.createdAt.text), ("state", .text m.state.name),
      ("updated_at", .text m.updatedAt.text)]

end Metadata

end RunnerFleet

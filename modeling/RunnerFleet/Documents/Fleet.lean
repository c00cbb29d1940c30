import RunnerFleet.Json.Basic
import RunnerFleet.Placement
import RunnerFleet.Wire.Report

/-!
# Agents, runners and commands as JSON documents

The documents that the HTTP interface and maintenance tools show. A failure is a document with the
name of its cause and its wording.
-/

namespace RunnerFleet

/-- The document of a failure. -/
def Json.failure (cause message : String) : Json :=
  .ofFields [("error", .text cause), ("message", .text message)]

def Capacity.toJson (c : Capacity) : Json :=
  .ofFields
    [("max_runners", .ofNat c.maxRunners.toNat), ("cpu_cores", .ofNat c.cpuCores.toNat),
      ("memory_bytes", .ofNat c.memoryBytes.toNat)]

/-- The figures of a capacity in their order. -/
def Capacity.figures (c : Capacity) : Json :=
  .list [.ofNat c.maxRunners.toNat, .ofNat c.cpuCores.toNat, .ofNat c.memoryBytes.toNat]

/-- The fields of an agent's document. -/
def Agent.fields (a : Agent) : List (String × Json) :=
  [("id", .text a.id), ("hostname", .text a.hostname), ("capacity", a.capacity.toJson),
    ("status", .text a.status.name)]

def Agent.toJson (a : Agent) : Json := .ofFields a.fields

def Runner.toJson (r : Runner) : Json :=
  .ofFields
    [("id", .text r.id), ("name", .text r.name), ("agent_id", .text r.agentId),
      ("state", .text r.state.name), ("guest_state", .text r.guestState.name),
      ("ip_address", .text r.ipAddress), ("created_at", .ofNat r.createdAt.toNat),
      ("error_message", .text r.errorMessage), ("setup_script", .text r.setupScript)]

def Command.toJson : Command → Json
  | .createRunner runner name script request =>
    .ofFields
      [("kind", .text "create_runner"), ("runner_id", .text runner), ("runner_name", .text name),
        ("setup_script", .text script), ("request_id", .text request)]
  | .deleteRunner runner request =>
    .ofFields
      [("kind", .text "delete_runner"), ("runner_id", .text runner), ("request_id", .text request)]
  | .noop => .ofFields [("kind", .text "noop")]

/-- The name of a store error's cause. -/
def StoreError.cause : StoreError → String
  | agentNotFound _ => "AgentNotFound"
  | runnerNotFound _ => "RunnerNotFound"
  | cloudIdNotFound _ => "ExternalIdNotFound"
  | agentOffline _ => "AgentOffline"

def StoreError.toJson (e : StoreError) : Json :=
  .ofFields
    [("error", .text e.cause), ("message", .text e.message), ("not_found", .bool e.isNotFound)]

def PlacementError.toJson (e : PlacementError) : Json := .failure "NoAvailableAgent" e.message

namespace Wire

def RunnerRecord.toJson (r : RunnerRecord) : Json :=
  .ofFields
    [("runner_id", .text r.runnerId), ("runner_name", .text r.runnerName),
      ("agent_id", .text r.agentId), ("state", .whole r.state.toInt),
      ("ip_address", .text r.ipAddress), ("created_at_unix_ms", .ofNat r.createdAt.toNat),
      ("error_message", .text r.errorMessage), ("guest_runner_state", .whole r.guestState.toInt)]

def Snapshot.toJson (s : Snapshot) : Json :=
  .ofFields
    [("agent_id", .text s.agentId), ("active_runners", .ofNat s.activeRunners.toNat),
      ("runners", .list (s.runners.map RunnerRecord.toJson))]

/-- The command of a reply, or the failure of a reply without one. -/
def Reply.toJson (r : Reply) : Json :=
  match r.toCommand with
  | .ok c => c.toJson
  | .error e => .failure "MissingCommand" e.message

def Registration.toJson (r : Registration) : Json :=
  .ofFields [("hostname", .text r.hostname), ("capacity", .ofOption Capacity.figures r.capacity)]

def AddRequest.toJson (r : AddRequest) : Json :=
  .ofFields
    [("runner_name", .text r.runnerName), ("setup_script", .text r.setupScript),
      ("resource_type", .text r.resourceType), ("labels", .list (r.labels.map .text))]

end Wire

end RunnerFleet

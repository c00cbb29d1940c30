import RunnerFleet.Coordinator.Timeline
import RunnerFleet.Documents.Fleet
import RunnerFleet.Http.Exchange

/-!
# The coordinator's answers as JSON documents

What agents receive on their streams, what callers are answered, and the coordinator at a glance:
one line per agent and per runner.
-/

namespace RunnerFleet

/-- The load of an agent at a glance; without free slots while it is not online. -/
def Coordinator.agentRow (c : Coordinator) (a : Agent) : Json :=
  .list [.text a.id, .text a.status.name, .ofNat (c.store.activeCount a.id),
    .ofOption (fun n => .ofNat n.toNat) (c.store.availableSlots a.id).toOption,
    .ofNat (c.outbox.pending a.id), .bool (c.streams.isConnected a.id)]

/-- A runner at a glance, with the agent it is attributed to. -/
def Coordinator.runnerRow (c : Coordinator) (r : Runner) : Json :=
  .list [.text r.id, .text r.state.name, .ofOption .text (c.store.agentOfRunner r.id).toOption]

/-- All agents and all runners at a glance. -/
def Coordinator.overview (c : Coordinator) : Json :=
  .ofFields
    [("agents", .list (c.store.listAgents.map c.agentRow)),
      ("runners", .list (c.store.listRunners.map c.runnerRow))]

/-- What an agent receives on its stream. -/
def StreamItem.toJson : StreamItem → Json
  | reply r => r.toJson
  | notRegistered agent => .failure "NotFound" (notRegisteredMessage agent)
  | ended => .text "end"

def Instance.toJson (i : Instance) : Json :=
  .ofFields
    [("cloud_id", .text i.cloudId), ("shoes_type", .text Instance.kind),
      ("ip_address", .text i.ipAddress)]

/-- What the caller of a request is answered. -/
def Coordinator.Outcome.toJson : Coordinator.Outcome → Json
  | added (.ok i) => i.toJson
  | added (.error e) => .failure e.code e.message
  | deleted (.ok _) => .text "deleted"
  | deleted (.error e) => .failure e.code e.message

/-- An answer with its headers; a JSON answer without a document has `null` for it. -/
def Http.Answer.toJson (a : Http.Answer) : Json :=
  .ofFields
    [("status", .ofNat a.status), ("content_type", .ofOption .text a.contentType),
      ("allow", .ofOption .text a.allow),
      match a.body with
      | .json v => ("json", v)
      | .text s =>
        if a.contentType = some "application/json" then ("json", .null) else ("text", .text s)]

end RunnerFleet

import RunnerFleet.Decimal.Fixed
import RunnerFleet.Decimal.Shortest
import RunnerFleet.Json.Basic
import RunnerFleet.Metrics.Counters
import RunnerFleet.Metrics.Gauges

/-!
# Metrics as JSON documents

Floating-point numbers are written as texts: bounds and sums by the shortest digits that read back,
the utilization with nine places.
-/

namespace RunnerFleet

def Histogram.toJson (h : Histogram) : Json :=
  .ofFields
    [("bounds", .list (h.buckets.map fun b => .text (Decimal.shortest b.bound))),
      ("buckets", .list (h.buckets.map fun b => .ofNat b.count)),
      ("sum", .text (Decimal.shortest h.sum)), ("count", .ofNat h.count)]

/-- Counts by label. -/
def Json.ofCounts (t : Table Nat) : Json := .ofFields (t.entries.map fun e => (e.1, .ofNat e.2))

def Counters.toJson (c : Counters) : Json :=
  .ofFields
    [("add_instance", .ofCounts c.added), ("delete_instance", .ofCounts c.deleted),
      ("runner_failures", .ofCounts c.failures),
      ("add_instance_duration", c.addDuration.toJson),
      ("runner_startup_duration", c.startupDuration.toJson)]

def AgentLoad.toJson (a : AgentLoad) : Json :=
  .ofFields
    [("agent_id", .text a.agentId), ("hostname", .text a.hostname),
      ("max_runners", .ofNat a.maxRunners.toNat), ("current_runners", .ofNat a.currentRunners)]

def Gauges.toJson (g : Gauges) : Json :=
  .ofFields
    [("runners_by_state", .list (g.runnersByState.map fun e => .list [.text e.1.name, .ofNat e.2])),
      ("runners_idle", .ofNat g.runnersIdle), ("runners_busy", .ofNat g.runnersBusy),
      ("runner_errors", .ofNat g.runnerErrors),
      ("agents_by_status",
        .list (g.agentsByStatus.map fun e => .list [.text e.1.name, .ofNat e.2])),
      ("agents_online", .ofNat g.agentsOnline), ("agents", .list (g.agents.map AgentLoad.toJson)),
      ("capacity_total", .ofNat g.capacityTotal.toNat),
      ("capacity_available", .ofNat g.capacityAvailable.toNat),
      ("utilization", .text (Decimal.fixed 9 g.utilization))]

end RunnerFleet

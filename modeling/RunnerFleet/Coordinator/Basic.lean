import RunnerFleet.Command
import RunnerFleet.Coordinator.Streams
import RunnerFleet.Metrics.Counters
import RunnerFleet.Metrics.Gauges
import RunnerFleet.Wire.Message

/-!
# The coordinator's state

Everything that the coordinator's tasks share. Each task is a sequence of steps on this state;
between two steps of one task any steps of others may come. Nothing of it outlives the process.
-/

namespace RunnerFleet

/-- The store, the queues of commands, the live streams and the metrics. -/
structure Coordinator where
  store : Store
  outbox : Outbox
  streams : Streams
  counters : Counters
  /-- The gauges of the last collection. -/
  gauges : Gauges

namespace Coordinator

/-- A coordinator that has just started. -/
def initial : Coordinator := ⟨.empty, .empty, .empty, .zero, .initial⟩

/-- Registers an agent under a minted id. A registration without a capacity offers none. -/
def register (c : Coordinator) (minted : AgentId) (r : Wire.Registration) : Coordinator :=
  { c with
    store := c.store.registerAgent ⟨minted, r.hostname, r.capacity.getD .none, .online⟩ }

/-- Reads the gauges off the store, if its slots can be summed. Nothing stands for the panic of a
build that checks overflow, which ends the task that collects; a build that does not check wraps the
sums instead. -/
def collect? (c : Coordinator) : Option Coordinator :=
  (Gauges.ofStore? c.store).map fun gauges => { c with gauges }

end Coordinator

end RunnerFleet

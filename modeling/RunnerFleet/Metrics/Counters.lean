import RunnerFleet.Metrics.Histogram
import RunnerFleet.Table

/-!
# Request counters

Counters and histograms fed by the handlers of add and delete requests. They only ever grow.
-/

namespace RunnerFleet

/-- Outcomes of requests by label, and how long the requests took. -/
structure Counters where
  added : Table Nat
  deleted : Table Nat
  failures : Table Nat
  addDuration : Histogram
  /-- Placement to readiness, of successful starts only. -/
  startupDuration : Histogram

namespace Counters

/-- Nothing counted yet. -/
def zero : Counters := ⟨.empty, .empty, .empty, .durations, .durations⟩

/-- One more under `label`. -/
def bump (t : Table Nat) (label : String) : Table Nat := t.insert label ((t.get? label).getD 0 + 1)

def recordAdd (c : Counters) (status : String) (elapsed : Span) : Counters :=
  { c with
    added := bump c.added status
    addDuration := c.addDuration.observe elapsed.toSeconds }

def recordDelete (c : Counters) (status : String) : Counters :=
  { c with deleted := bump c.deleted status }

def recordStartup (c : Counters) (elapsed : Span) : Counters :=
  { c with startupDuration := c.startupDuration.observe elapsed.toSeconds }

def recordFailure (c : Counters) (reason : String) : Counters :=
  { c with failures := bump c.failures reason }

end Counters

end RunnerFleet

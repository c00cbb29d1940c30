import RunnerFleet.Store

/-!
# Fleet gauges

The gauges are counted from the store: runners by state, agents by status, the load of each agent,
and the slots of the online agents. Slots are summed in 32 bits; a sum that does not fit has no
gauges at all.
-/

namespace RunnerFleet

/-- The slots of one agent and how many are taken. -/
structure AgentLoad where
  agentId : AgentId
  hostname : String
  maxRunners : UInt32
  currentRunners : Nat
  deriving DecidableEq, Repr

/-- What the gauges read at one moment. -/
structure Gauges where
  /-- Every state but `unspecified`, with zero counts. -/
  runnersByState : List (RunnerState × Nat)
  runnersIdle : Nat
  runnersBusy : Nat
  runnerErrors : Nat
  /-- Every status but `unspecified`, with zero counts. -/
  agentsByStatus : List (AgentStatus × Nat)
  agentsOnline : Nat
  agents : List AgentLoad
  capacityTotal : UInt32
  capacityAvailable : UInt32
  /-- The taken share of the slots, zero when there are none. -/
  utilization : Float

/-- The sum of two 32-bit counts, if it fits. -/
def addWithin32? (a b : UInt32) : Option UInt32 :=
  if a.toNat + b.toNat < UInt32.size then some (a + b) else none

/-- The slots of the online agents and how many are taken. -/
structure SlotTotals where
  agentsOnline : Nat
  capacity : UInt32
  occupied : UInt32
  deriving DecidableEq, Repr

namespace Gauges

/-- The load of one agent. -/
def loadOf (s : Store) (agent : Agent) : AgentLoad where
  agentId := agent.id
  hostname := agent.hostname
  maxRunners := agent.capacity.maxRunners
  currentRunners := s.activeCount agent.id

/-- Adds the slots of one agent, if the sums fit. -/
def addLoad (t : SlotTotals) (load : AgentLoad) : Option SlotTotals := do
  let capacity ← addWithin32? t.capacity load.maxRunners
  let occupied ← addWithin32? t.occupied (UInt32.ofNat load.currentRunners)
  return ⟨t.agentsOnline + 1, capacity, occupied⟩

/-- The slots of all online agents, if the sums fit. -/
def slotTotals? (s : Store) : Option SlotTotals :=
  (s.onlineAgents.map (loadOf s)).foldlM addLoad ⟨0, 0, 0⟩

/-- The gauges of a store whose slots sum up to `t`. -/
def ofTotals (s : Store) (t : SlotTotals) : Gauges where
  runnersByState := (RunnerState.all.filter (· != .unspecified)).map fun state =>
    (state, s.listRunners.countP (·.state == state))
  runnersIdle := s.listRunners.countP (·.guestState == .idle)
  runnersBusy := s.listRunners.countP (·.guestState == .running)
  runnerErrors := s.listRunners.countP (·.state == .error)
  agentsByStatus := (AgentStatus.all.filter (· != .unspecified)).map fun status =>
    (status, s.listAgents.countP (·.status == status))
  agentsOnline := t.agentsOnline
  agents := s.listAgents.map (loadOf s)
  capacityTotal := t.capacity
  capacityAvailable := if t.occupied ≤ t.capacity then t.capacity - t.occupied else 0
  utilization :=
    if t.capacity > 0 then Float.ofNat t.occupied.toNat / Float.ofNat t.capacity.toNat else 0.0

/-- The gauges of a store, if its slots can be summed in 32 bits. Nothing stands for the panic of a
build that checks overflow; a build that does not check wraps the sums instead. -/
def ofStore? (s : Store) : Option Gauges := (slotTotals? s).map (ofTotals s)

/-- The gauges before the first collection. -/
def initial : Gauges := ofTotals .empty ⟨0, 0, 0⟩

end Gauges

end RunnerFleet

import RunnerFleet.Runner

/-!
# Agents

An agent is a host process that runs VM-backed runners. The coordinator knows it by the id it
minted at registration, by its capacity, and by whether a sync stream of it is live.
-/

namespace RunnerFleet

/-- What the coordinator believes of an agent's connection. -/
inductive AgentStatus where
  | unspecified | online | offline
  deriving DecidableEq, Repr, Inhabited

namespace AgentStatus

/-- Every status, in order. -/
def all : List AgentStatus := [unspecified, online, offline]

/-- The status's name in texts and documents. -/
def name : AgentStatus → String
  | unspecified => "unspecified"
  | online => "online"
  | offline => "offline"

end AgentStatus

/-- The resources an agent advertises. -/
structure Capacity where
  /-- The most runners that may occupy a slot at once. -/
  maxRunners : UInt32
  cpuCores : UInt32
  memoryBytes : UInt64
  deriving DecidableEq, Repr, Inhabited

/-- The capacity of an agent that advertised none. -/
def Capacity.none : Capacity := ⟨0, 0, 0⟩

/-- A registered host. -/
structure Agent where
  id : AgentId
  hostname : String
  capacity : Capacity
  status : AgentStatus
  deriving DecidableEq, Repr, Inhabited

end RunnerFleet

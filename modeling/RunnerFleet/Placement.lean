import RunnerFleet.Store

/-!
# Placement

A new runner goes to the online agent with the most free slots; of several such agents the first
one listed is taken. The store lists agents in no particular order, so which one that is is open.
-/

namespace RunnerFleet

/-- An online agent with at least one free slot. -/
structure Candidate where
  agentId : AgentId
  available : UInt32
  deriving DecidableEq, Repr

/-- No online agent has a free slot. -/
inductive PlacementError where
  | noAvailableAgent
  deriving DecidableEq, Repr

/-- The wording of a placement failure. -/
def PlacementError.message : PlacementError → String
  | noAvailableAgent => "no available agent"

namespace Placement

/-- An agent as a candidate, if it is one. -/
def candidate? (s : Store) (agent : Agent) : Option Candidate :=
  match s.availableSlots agent.id with
  | .ok available => if available > 0 then some ⟨agent.id, available⟩ else none
  | .error _ => none

/-- The candidates among `agents`, in their order. -/
def candidatesAmong (s : Store) (agents : List Agent) : List Candidate :=
  (agents.filter (·.status == .online)).filterMap (candidate? s)

/-- The candidates among all agents of the store. -/
def candidates (s : Store) : List Candidate := candidatesAmong s s.listAgents

/-- The better of two candidates; the earlier one unless the later has strictly more free slots. -/
def better (best : Option Candidate) (c : Candidate) : Option Candidate :=
  match best with
  | none => some c
  | some b => if c.available > b.available then some c else some b

/-- The first candidate with the most free slots. -/
def best? (cs : List Candidate) : Option Candidate := cs.foldl better none

/-- Chooses among `agents`, in their order. -/
def selectAmong (s : Store) (agents : List Agent) : Except PlacementError AgentId :=
  match best? (candidatesAmong s agents) with
  | some c => .ok c.agentId
  | none => .error .noAvailableAgent

/-- Chooses among all agents of the store, in the order of their ids. Which of several equally free
agents is chosen depends on that order, whether one is found does not. -/
def select (s : Store) : Except PlacementError AgentId := selectAmong s s.listAgents

end Placement

end RunnerFleet

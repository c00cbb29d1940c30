import RunnerFleet.Agent
import RunnerFleet.Table

/-!
# Live sync streams

At most one stream of an agent is live: the one that attached last. Every attachment gets a new
generation, so that the end of an older stream does not detach a newer one.
-/

namespace RunnerFleet

/-- The generation of each agent's live stream. -/
structure Streams where
  live : Table Nat
  lastGeneration : Nat
  deriving DecidableEq, Repr, Inhabited

namespace Streams

/-- No stream is live. -/
def empty : Streams := ⟨.empty, 0⟩

/-- Makes a stream of the agent the live one; the answer is its generation. -/
def attach (s : Streams) (agent : AgentId) : Streams × Nat :=
  let generation := s.lastGeneration + 1
  (⟨s.live.insert agent generation, generation⟩, generation)

/-- Ends a stream; the answer says whether it was the live one. -/
def detach (s : Streams) (agent : AgentId) (generation : Nat) : Streams × Bool :=
  if s.live.get? agent = some generation then ({ s with live := s.live.erase agent }, true)
  else (s, false)

def isConnected (s : Streams) (agent : AgentId) : Bool := s.live.contains agent

/-- The number of agents with a live stream. -/
def connected (s : Streams) : Nat := s.live.size

end Streams

end RunnerFleet

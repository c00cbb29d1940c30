import RunnerFleet.Coordinator.Basic
import RunnerFleet.Wire.Frame
import RunnerFleet.Wire.Report

/-!
# An agent's sync stream

The first snapshot of a stream names its agent, and the stream stays bound to it. Each snapshot
marks the agent online, replaces what it reported before, and is answered with one command. A stream
of an agent that is not registered is refused. The end of the live stream marks the agent offline.
-/

namespace RunnerFleet

/-- The agent that a stream is bound to, and the stream's generation. -/
structure StreamBinding where
  agentId : AgentId
  generation : Nat
  deriving DecidableEq, Repr

/-- What a stream's agent receives. -/
inductive StreamItem where
  | reply (r : Wire.Reply)
  /-- The stream's agent is not registered. -/
  | notRegistered (agent : AgentId)
  | ended
  deriving DecidableEq, Repr

/-- The wording of a refusal. -/
def notRegisteredMessage (agent : AgentId) : String := "agent " ++ agent ++ " is not registered"

/-- One stream: its binding once a snapshot has come, the bytes that wait for the rest of their
frame, whether the agent listens to replies, and whether the coordinator has ended it. -/
structure SyncStream where
  binding : Option StreamBinding
  buffer : List UInt8
  listening : Bool
  closed : Bool
  deriving DecidableEq, Repr

namespace SyncStream

/-- A stream on which nothing has come yet. -/
def opened : SyncStream := ⟨none, [], true, false⟩

/-- What the agent receives of some items. -/
def heard (s : SyncStream) (items : List StreamItem) : List StreamItem :=
  if s.listening then items else []

/-- The binding of a stream on which a snapshot has come; the first snapshot makes it. -/
def bind (c : Coordinator) (s : SyncStream) (snapshot : Wire.Snapshot) :
    Coordinator × StreamBinding :=
  match s.binding with
  | some b => (c, b)
  | none =>
    let (streams, generation) := c.streams.attach snapshot.agentId
    ({ c with streams }, ⟨snapshot.agentId, generation⟩)

/-- Records what a snapshot reports for the agent; that a report is refused stops nothing. -/
def reconcile (c : Coordinator) (agent : AgentId) (snapshot : Wire.Snapshot) : Coordinator :=
  { c with store := (c.store.report agent (snapshot.runners.map (·.toRunner))).1 }

/-- Ends a stream: if it was the live one, its agent goes offline. -/
def finish (c : Coordinator) (s : SyncStream) : Coordinator × SyncStream × List StreamItem :=
  let closed := { s with closed := true, buffer := [] }
  match s.binding with
  | none => (c, closed, s.heard [.ended])
  | some b =>
    let (streams, wasLive) := c.streams.detach b.agentId b.generation
    let c := { c with streams }
    let c :=
      if wasLive then { c with store := (c.store.setAgentStatus b.agentId .offline).1 } else c
    (c, closed, s.heard [.ended])

/-- Refuses a stream: it is detached, and its agent's status stays as it is. -/
def refuse (c : Coordinator) (s : SyncStream) (b : StreamBinding) :
    Coordinator × SyncStream × List StreamItem :=
  ({ c with streams := (c.streams.detach b.agentId b.generation).1 },
    { s with closed := true, buffer := [] }, s.heard [.notRegistered b.agentId, .ended])

/-- Processes one snapshot: the agent's oldest command goes out as the reply. A reply that no one
listens to ends the stream; its command is lost. -/
def onSnapshot (c : Coordinator) (s : SyncStream) (snapshot : Wire.Snapshot) :
    Coordinator × SyncStream × List StreamItem :=
  let (c, b) := s.bind c snapshot
  let s := { s with binding := some b }
  match c.store.setAgentStatus b.agentId .online with
  | (store, .error _) => s.refuse { c with store } b
  | (store, .ok ()) =>
    let c := reconcile { c with store } b.agentId snapshot
    let (outbox, command) := c.outbox.next b.agentId
    let c := { c with outbox }
    if s.listening then (c, s, [.reply (.ofCommand command)]) else s.finish c

/-- Processes the snapshots whose frames are complete; what cannot be read ends the stream. Every
frame takes one unit of fuel. -/
def drain : Nat → Coordinator → SyncStream → Coordinator × SyncStream × List StreamItem
  | 0, c, s => (c, s, [])
  | fuel + 1, c, s =>
    if s.closed then (c, s, [])
    else
      match Wire.frontOf s.buffer with
      | .incomplete => (c, s, [])
      | .broken => s.finish c
      | .message bytes rest =>
        match Wire.Snapshot.decode? bytes with
        | none => s.finish c
        | some snapshot =>
          let (c, s, items) := { s with buffer := rest }.onSnapshot c snapshot
          let (c, s, more) := drain fuel c s
          (c, s, items ++ more)

/-- Takes bytes that have arrived. -/
def receive (c : Coordinator) (s : SyncStream) (bytes : List UInt8) :
    Coordinator × SyncStream × List StreamItem :=
  drain (s.buffer.length + bytes.length + 1) c { s with buffer := s.buffer ++ bytes }

end SyncStream

end RunnerFleet

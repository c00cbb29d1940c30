import RunnerFleet.Clock.Agenda
import RunnerFleet.Coordinator.Deleting
import RunnerFleet.Coordinator.RequestId
import RunnerFleet.Coordinator.Sweep
import RunnerFleet.Coordinator.SyncStream
import RunnerFleet.Settings
import RunnerFleet.Text.Uuid

/-!
# The coordinator's tasks under one clock

Requests, sync streams, the sweeper and the collection of metrics side by side. Pauses follow the
clock of the agenda; ages of runners follow the wall clock, which stands still here.
-/

namespace RunnerFleet.Coordinator

/-- A task that waits for the clock. -/
inductive Task where
  | adding (key : String) (call : AddCall)
  | deleting (key : String) (call : DeleteCall)
  | sweeping (interval grace : Span)
  | collecting (interval : Span)
  deriving Repr

/-- How a request ended. -/
inductive Outcome where
  | added (r : Except AddError Instance)
  | deleted (r : Except DeleteError Unit)

/-- A request's end, with its moment and its key. -/
structure Ended where
  at_ : Instant
  key : String
  outcome : Outcome

/-- A coordinator under its clock. -/
structure Timeline where
  agenda : Agenda Task
  state : Coordinator
  settings : CoordinatorSettings
  /-- The wall clock, in Unix milliseconds. -/
  wallClock : UInt64
  /-- How many identities have been minted. -/
  minted : Nat
  streams : Table SyncStream
  /-- What agents received on their streams, by the streams' keys. -/
  received : List (String × StreamItem)
  ended : List Ended

namespace Timeline

def start (settings : CoordinatorSettings) (wallClock : UInt64) : Timeline :=
  ⟨.empty, .initial, settings, wallClock, 0, .empty, [], []⟩

def now (t : Timeline) : Instant := t.agenda.now

def limits (t : Timeline) : RequestLimits :=
  ⟨t.settings.addTimeout, t.settings.deleteTimeout, t.settings.pollInterval⟩

def park (t : Timeline) (due : Instant) (task : Task) : Timeline :=
  { t with agenda := t.agenda.add (some due) task }

/-- Mints an identity. -/
def mint (t : Timeline) : Timeline × String :=
  ({ t with minted := t.minted + 1 }, Text.uuid (t.minted + 1))

/-! ## Requests -/

def finish (t : Timeline) (key : String) (outcome : Outcome) : Timeline :=
  { t with ended := t.ended ++ [⟨t.now, key, outcome⟩] }

/-- After a step of an add request. -/
def onAdd (t : Timeline) (key : String) :
    Coordinator × Progress AddCall (Except AddError Instance) → Timeline
  | (state, .finished r) => { t with state }.finish key (.added r)
  | (state, .waits call) => { t with state }.park call.watch.due (.adding key call)

/-- Lets a delete request go on until it has to wait; the fuel bounds its steps between waits. -/
def pursueDelete (key : String) : Nat → Timeline → DeleteCall → Timeline
  | 0, t, call => t.park t.now (.deleting key call)
  | fuel + 1, t, call =>
    match call.step t.state t.limits t.now with
    | (state, .finished r) => { t with state }.finish key (.deleted r)
    | (state, .waits call) =>
      let t := { t with state }
      match call.due? with
      | some due =>
        if due ≤ t.now then pursueDelete key fuel t call else t.park due (.deleting key call)
      | none => pursueDelete key fuel t call

/-- Bounds the steps of a delete request between two waits. -/
def pursueFuel : Nat := 8

/-- The caller's id of a request, or a minted one when the caller's header gives none. -/
def requestId (t : Timeline) (header : Option (List UInt8)) : Timeline × String :=
  match header.bind callerRequestId? with
  | some id => (t, id)
  | none => t.mint

/-- Begins an add request; the agents are tried in the order of their ids. -/
def add (t : Timeline) (key : String) (request : Wire.AddRequest)
    (header : Option (List UInt8)) : Timeline :=
  let (t, requestId) := t.requestId header
  let (t, runner) := t.mint
  t.onAdd key
    (AddCall.begin t.state t.limits t.now t.state.store.listAgents runner request requestId)

/-- Begins a delete request. -/
def delete (t : Timeline) (key : String) (cloudId : CloudId)
    (header : Option (List UInt8)) : Timeline :=
  let (t, requestId) := t.requestId header
  pursueDelete key pursueFuel t (.new cloudId requestId)

/-- Whether the task is the request of this key. -/
def isRequest (key : String) : Task → Bool
  | .adding k _ => k == key
  | .deleting k _ => k == key
  | _ => false

/-- Gives up the request of this key; the answer says whether it was waiting. -/
def giveUp (t : Timeline) (key : String) : Timeline × Bool :=
  let (agenda, dropped) := t.agenda.drop (isRequest key)
  ({ t with agenda }, !dropped.isEmpty)

/-! ## Background tasks -/

def isSweeping : Task → Bool
  | .sweeping _ _ => true
  | _ => false

def isCollecting : Task → Bool
  | .collecting _ => true
  | _ => false

/-- Starts the sweeper; its first sweep comes after one interval. -/
def startSweeper (t : Timeline) (interval grace : Span) : Timeline :=
  { t with agenda := (t.agenda.drop isSweeping).1 }.park (t.now + interval.ticks)
    (.sweeping interval grace)

/-- Stops the sweeper; the answer says whether it ran. -/
def stopSweeper (t : Timeline) : Timeline × Bool :=
  let (agenda, dropped) := t.agenda.drop isSweeping
  ({ t with agenda }, !dropped.isEmpty)

/-- Collects the gauges, and is to do so again after the interval. Without a sum of the slots the
collection panics where overflow is checked: the gauges stay as they are and the task has ended, so
it never goes on again. -/
def collect (t : Timeline) (interval : Span) : Timeline :=
  match t.state.collect? with
  | some state => { t with state }.park (t.now + interval.ticks) (.collecting interval)
  | none => { t with agenda := t.agenda.add none (.collecting interval) }

/-- Starts the collection of metrics: now, and after every interval. -/
def startCollecting (t : Timeline) : Timeline :=
  { t with agenda := (t.agenda.drop isCollecting).1 }.collect t.settings.metricsInterval

/-- Stops the collection of metrics; the answer says whether it had been started. -/
def stopCollecting (t : Timeline) : Timeline × Bool :=
  let (agenda, dropped) := t.agenda.drop isCollecting
  ({ t with agenda }, !dropped.isEmpty)

/-! ## Agents -/

/-- Registers an agent; the answer is its id. -/
def register (t : Timeline) (r : Wire.Registration) : Timeline × AgentId :=
  let (t, id) := t.mint
  ({ t with state := t.state.register id r }, id)

/-- Opens a stream. -/
def openStream (t : Timeline) (key : String) : Timeline :=
  { t with streams := t.streams.insert key .opened }

/-- After a step of a stream. -/
def onStream (t : Timeline) (key : String) :
    Coordinator × SyncStream × List StreamItem → Timeline
  | (state, stream, items) =>
    { t with
      state
      streams := t.streams.insert key stream
      received := t.received ++ items.map (key, ·) }

/-- Brings bytes of an agent to its stream; the answer says whether the stream still took them. -/
def send (t : Timeline) (key : String) (bytes : List UInt8) : Timeline × Bool :=
  match t.streams.get? key with
  | some stream =>
    if stream.closed then (t, false)
    else (t.onStream key (stream.receive t.state bytes), true)
  | none => (t, false)

/-- Ends a stream from the agent's side; the answer says whether it was still open. -/
def closeStream (t : Timeline) (key : String) : Timeline × Bool :=
  match t.streams.get? key with
  | some stream =>
    if stream.closed then (t, false) else (t.onStream key (stream.finish t.state), true)
  | none => (t, false)

/-- The agent stops listening on a stream; the coordinator notices at its next reply. -/
def stopListening (t : Timeline) (key : String) : Timeline :=
  { t with streams := t.streams.modify key fun s => { s with listening := false } }

/-! ## The clock -/

/-- Lets a task that is due go on. -/
def run (t : Timeline) : Task → Timeline
  | .adding key call => t.onAdd key (call.resume t.state t.limits t.now)
  | .deleting key call => pursueDelete key pursueFuel t call
  | .sweeping interval grace =>
    { t with state := (t.state.sweep t.wallClock grace).1 }.park (t.now + interval.ticks)
      (.sweeping interval grace)
  | .collecting interval => t.collect interval

/-- Runs what is due by the horizon, one task after the other. -/
def runDue (horizon : Instant) : Nat → Timeline → Timeline
  | 0, t => t
  | fuel + 1, t =>
    match t.agenda.next? (some horizon) with
    | none => t
    | some (task, agenda) => runDue horizon fuel ({ t with agenda }.run task)

/-- Runs what is due now. -/
def settle (fuel : Nat) (t : Timeline) : Timeline := runDue t.now fuel t

/-- Lets the clock run for a while. -/
def advance (fuel : Nat) (t : Timeline) (ms : Nat) : Timeline :=
  let target := t.now + ms
  let t := runDue target fuel t
  { t with agenda := { t.agenda with now := max t.agenda.now target } }

end Timeline

end RunnerFleet.Coordinator

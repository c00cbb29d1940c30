import RunnerFleet.Hosting.Basic
import RunnerFleet.Vm.Guest

/-!
# An agent's session with the coordinator

A session begins with a registration, which gives the host a new agent id, and with a first
snapshot. After that a snapshot is sent at every tick and after every noticed change of the roster.
A tick also asks the guests of reachable runners for the state of their jobs.
-/

namespace RunnerFleet

/-- One connection of a host to the coordinator. -/
structure Session where
  agentId : AgentId
  interval : Span
  /-- The snapshot that was sent last. -/
  last : Wire.Snapshot
  deriving DecidableEq, Repr

namespace Session

/-- The interval between ticks: at least a second. -/
def intervalOf (advertisedSeconds : UInt32) : Span := .ofSecs (max 1 advertisedSeconds.toNat)

/-- Opens a session under the id that the registration gave; its first snapshot names the agent. -/
def start (h : Hosting) (agent : AgentId) (advertisedSeconds : UInt32) : Session :=
  ⟨agent, intervalOf advertisedSeconds, h.roster.snapshot agent⟩

/-- Sends the roster as it is. -/
def report (s : Session) (h : Hosting) : Session := { s with last := h.roster.snapshot s.agentId }

/-- Wakes up on a notice, if there is one: takes it and reports. -/
def onNotice (s : Session) (h : Hosting) : Option (Session × Hosting) :=
  match h.roster.takeNotice with
  | (roster, true) => let h := { h with roster }; some (s.report h, h)
  | (_, false) => none

/-- Wakes up on a tick: reports, and gives the runners whose guests are to be asked. A notice that
waits is left for the next round. -/
def onTick (s : Session) (h : Hosting) : Session × List Runner :=
  (s.report h, h.roster.list.filter (·.state.isReady))

/-- Notes what a guest said, if it differs from what was known when it was asked. -/
def noteGuest (h : Hosting) (asked : Runner) (result : Except VmError GuestStatus) : Hosting :=
  match result with
  | .error _ => h
  | .ok status =>
    if status.guestState = asked.guestState then h
    else { h with roster := (h.roster.setGuestState asked.id status.guestState).1 }

end Session

end RunnerFleet

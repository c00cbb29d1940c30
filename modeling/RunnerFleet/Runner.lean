/-!
# Runners and their lifecycle

A runner is one short-lived job environment backed by one VM. Its state moves along the lifecycle
table below; a failure may be recorded in any state.

```
unspecified → creating → booting → sshReady → running → tearingDown
any state → error → tearingDown;   creating, booting, sshReady → tearingDown
```
-/

namespace RunnerFleet

/-- The internal identity of a runner. -/
abbrev RunnerId := String

/-- The identity of a host agent, minted when it registers. -/
abbrev AgentId := String

/-- The identity under which a caller outside the fleet knows a runner. -/
abbrev CloudId := String

/-- Where a runner is between its acceptance and its removal. -/
inductive RunnerState where
  | unspecified | creating | booting | sshReady | running | error | tearingDown
  deriving DecidableEq, Repr, Inhabited

namespace RunnerState

/-- Every state, in the order of the lifecycle. -/
def all : List RunnerState :=
  [unspecified, creating, booting, sshReady, running, error, tearingDown]

/-- The state's name in texts and documents. -/
def name : RunnerState → String
  | unspecified => "unspecified"
  | creating => "creating"
  | booting => "booting"
  | sshReady => "ssh_ready"
  | running => "running"
  | error => "error"
  | tearingDown => "tearing_down"

/-- The ordinary moves out of a state; a move to `error` is not listed. -/
def successors : RunnerState → List RunnerState
  | unspecified => [creating]
  | creating => [booting, tearingDown]
  | booting => [sshReady, tearingDown]
  | sshReady => [running, tearingDown]
  | running => [tearingDown]
  | error => [tearingDown]
  | tearingDown => []

/-- Whether the lifecycle table allows the move; any state may move to `error`. -/
def canMoveTo (s t : RunnerState) : Bool := t == error || s.successors.contains t

/-- No ordinary move leaves this state. -/
def isTerminal (s : RunnerState) : Bool := s == tearingDown

/-- Whether a runner in this state takes one of its agent's slots. -/
def occupiesSlot (s : RunnerState) : Bool := s != error && s != tearingDown

/-- The guest is reachable and the runner can be handed out. -/
def isReady (s : RunnerState) : Bool := s == sshReady || s == running

end RunnerState

/-- A move that the lifecycle table does not allow. -/
structure IllegalMove where
  source : RunnerState
  target : RunnerState
  deriving DecidableEq, Repr

/-- The wording of an illegal move. -/
def IllegalMove.message (e : IllegalMove) : String :=
  "invalid state transition: " ++ e.source.name ++ " -> " ++ e.target.name

/-- Moves to `t` if the lifecycle table allows it. -/
def RunnerState.moveTo (s t : RunnerState) : Except IllegalMove RunnerState :=
  if s.canMoveTo t then .ok t else .error ⟨s, t⟩

/-- The job state that the guest reports; it never gates a move of `RunnerState`. -/
inductive GuestState where
  | unspecified | offline | idle | running
  deriving DecidableEq, Repr, Inhabited

/-- The guest state's name in texts and documents. -/
def GuestState.name : GuestState → String
  | unspecified => "unspecified"
  | offline => "offline"
  | idle => "idle"
  | running => "running"

/-- Every guest state, in order. -/
def GuestState.all : List GuestState := [unspecified, offline, idle, running]

/-- One runner as its agent and the coordinator know it. -/
structure Runner where
  id : RunnerId
  name : String
  agentId : AgentId
  state : RunnerState
  guestState : GuestState
  /-- Empty until the guest announces its address. -/
  ipAddress : String
  /-- Unix milliseconds of the moment the agent accepted the runner. -/
  createdAt : UInt64
  errorMessage : String
  setupScript : String
  deriving DecidableEq, Repr, Inhabited

/-- A runner as an agent accepts it, before any step of its provisioning. -/
def Runner.accepted (id name agentId setupScript : String) (now : UInt64) : Runner where
  id := id
  name := name
  agentId := agentId
  state := .unspecified
  guestState := .unspecified
  ipAddress := ""
  createdAt := now
  errorMessage := ""
  setupScript := setupScript

end RunnerFleet

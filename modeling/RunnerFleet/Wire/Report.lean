import RunnerFleet.Roster
import RunnerFleet.Wire.Message

/-!
# Runners and commands as messages

A runner travels without its setup script. A number that names no state is read as `unspecified`.
-/

namespace RunnerFleet

namespace Wire

/-- The number of a runner state on the wire. -/
def codeOfState : RunnerState → Int32
  | .unspecified => 0
  | .creating => 1
  | .booting => 2
  | .sshReady => 3
  | .running => 4
  | .error => 5
  | .tearingDown => 6

/-- The runner state of a number. -/
def stateOfCode (n : Int32) : RunnerState :=
  (RunnerState.all.find? (codeOfState · == n)).getD .unspecified

/-- The number of a guest state on the wire. -/
def codeOfGuest : GuestState → Int32
  | .unspecified => 0
  | .offline => 1
  | .idle => 2
  | .running => 3

/-- The guest state of a number. -/
def guestOfCode (n : Int32) : GuestState :=
  (GuestState.all.find? (codeOfGuest · == n)).getD .unspecified

/-- The number of an agent status on the wire. -/
def codeOfStatus : AgentStatus → Int32
  | .unspecified => 0
  | .online => 1
  | .offline => 2

/-- The schema's name of an agent status. -/
def schemaNameOfStatus : AgentStatus → String
  | .unspecified => "AGENT_STATUS_UNSPECIFIED"
  | .online => "AGENT_STATUS_ONLINE"
  | .offline => "AGENT_STATUS_OFFLINE"

/-- A runner as a record on the wire. -/
def RunnerRecord.ofRunner (r : Runner) : RunnerRecord where
  runnerId := r.id
  runnerName := r.name
  agentId := r.agentId
  state := codeOfState r.state
  ipAddress := r.ipAddress
  createdAt := r.createdAt
  errorMessage := r.errorMessage
  guestState := codeOfGuest r.guestState

/-- The runner of a record; its setup script is empty. -/
def RunnerRecord.toRunner (r : RunnerRecord) : Runner where
  id := r.runnerId
  name := r.runnerName
  agentId := r.agentId
  state := stateOfCode r.state
  guestState := guestOfCode r.guestState
  ipAddress := r.ipAddress
  createdAt := r.createdAt
  errorMessage := r.errorMessage
  setupScript := ""

/-- A reply without a command cannot be carried out. -/
inductive ReplyError where
  | missingCommand
  deriving DecidableEq, Repr

/-- The wording of an unusable reply. -/
def ReplyError.message : ReplyError → String
  | missingCommand => "sync response carries no command"

/-- The reply that carries a command. -/
def Reply.ofCommand (c : Command) : Reply := ⟨some c⟩

/-- The command of a reply. -/
def Reply.toCommand (r : Reply) : Except ReplyError Command :=
  match r.command with
  | some c => .ok c
  | none => .error .missingCommand

end Wire

/-- The full report of a roster, stamped with the agent's present id. -/
def Roster.snapshot (r : Roster) (agent : AgentId) : Wire.Snapshot where
  agentId := agent
  activeRunners := UInt32.ofNat r.list.length
  runners := r.list.map fun runner => { Wire.RunnerRecord.ofRunner runner with agentId := agent }

end RunnerFleet

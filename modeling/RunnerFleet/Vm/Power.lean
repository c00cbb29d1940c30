import RunnerFleet.Text.Blank
import RunnerFleet.Text.Quoted
import RunnerFleet.Vm.Error

/-!
# Power states

What a hypervisor says of a VM. Its words are read without regard to case and to blanks around them.
-/

namespace RunnerFleet

/-- The power state of a VM. -/
inductive PowerState where
  | stopped | starting | running | stopping | error
  deriving DecidableEq, Repr, Inhabited

namespace PowerState

def all : List PowerState := [stopped, starting, running, stopping, error]

/-- The word for a power state. -/
def name : PowerState → String
  | stopped => "stopped"
  | starting => "starting"
  | running => "running"
  | stopping => "stopping"
  | error => "error"

/-- Reads a hypervisor's word. -/
def parse (s : String) : Except VmError PowerState :=
  let word := Text.lowerAscii (Text.trim s)
  match all.find? (·.name == word) with
  | some state => .ok state
  | none => .error (.hypervisor ("unknown VM state: " ++ Text.quoted word))

end PowerState

end RunnerFleet

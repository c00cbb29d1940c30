import RunnerFleet.Hosting.Provision
import RunnerFleet.Wire.Report

/-!
# A host's tasks

Every command that a host receives becomes a task of its own, and any number of tasks run side by
side. A task is always between two of its steps, so cancelling it takes effect at once: it takes no
further step. The registry knows which task provisions which runner, so that a teardown can cancel
it first.
-/

namespace RunnerFleet

/-- What a task is for, and how far it is. -/
inductive Errand where
  /-- Provisions a runner; not begun while there is no point. `registered` if the registry knows of
  the task. -/
  | provision (script : String) (registered : Bool) (point : Option Provision.Point)
  /-- A teardown that has not begun, with the task that it is to cancel first. -/
  | teardown (inFlight : Option Nat)
  /-- A teardown that waits for the VM's deletion. -/
  | deletion
  deriving DecidableEq, Repr

namespace Errand

/-- The VM operation that is waited for. -/
def operation? : Errand → Option VmOperation
  | provision script _ (some p) => some (p.operation script)
  | deletion => some .delete
  | _ => none

end Errand

/-- A task of a host. -/
structure HostTask where
  token : Nat
  runner : RunnerId
  errand : Errand
  deriving DecidableEq, Repr

/-- What a host keeps: its runners, its tasks, and the task that provisions each runner. -/
structure Hosting where
  roster : Roster
  tasks : List HostTask
  provisions : Table Nat
  nextToken : Nat
  deriving DecidableEq, Repr

namespace Hosting

/-- No runner and no task. -/
def empty : Hosting := ⟨.empty, [], .empty, 0⟩

def task? (h : Hosting) (token : Nat) : Option HostTask := h.tasks.find? (·.token == token)

/-- Begins a task; the answer is its token. -/
def spawn (h : Hosting) (runner : RunnerId) (errand : Errand) : Hosting × Nat :=
  ({ h with tasks := h.tasks ++ [⟨h.nextToken, runner, errand⟩], nextToken := h.nextToken + 1 },
    h.nextToken)

/-- Brings a task to another stage. -/
def setErrand (h : Hosting) (token : Nat) (errand : Errand) : Hosting :=
  { h with tasks := h.tasks.map fun t => if t.token = token then { t with errand } else t }

/-- Takes a task off the list. -/
def remove (h : Hosting) (token : Nat) : Hosting :=
  { h with tasks := h.tasks.filter (·.token != token) }

/-- Cancels a task. -/
def cancel (h : Hosting) (token : Nat) : Hosting := h.remove token

/-- Ends a task that has taken its last step; a provisioning leaves the registry. -/
def finish (h : Hosting) (t : HostTask) : Hosting :=
  let h := h.remove t.token
  match t.errand with
  | .provision _ true _ => { h with provisions := h.provisions.erase t.runner }
  | _ => h

/-- After a step of a provisioning. -/
def onProvision (h : Hosting) (t : HostTask) (script : String) (registered : Bool) :
    Roster × Option Provision.Point → Hosting
  | (roster, some p) => { h with roster }.setErrand t.token (.provision script registered (some p))
  | (roster, none) => { h with roster }.finish t

/-- The first step of a task. -/
def begin (h : Hosting) (t : HostTask) : Hosting :=
  match t.errand with
  | .provision script registered none =>
    h.onProvision t script registered (Provision.begin h.roster t.runner)
  | .teardown inFlight =>
    let h := match inFlight with
      | some token => h.cancel token
      | none => h
    { h with roster := Teardown.begin h.roster t.runner }.setErrand t.token .deletion
  | _ => h

/-- The step of a task whose VM operation has returned. -/
def resume (h : Hosting) (t : HostTask) (result : Except VmError VmValue) : Hosting :=
  match t.errand with
  | .provision script registered (some p) =>
    h.onProvision t script registered (Provision.resume h.roster t.runner p result)
  | .deletion => { h with roster := Teardown.conclude h.roster t.runner result }.finish t
  | _ => h

/-! ## Commands -/

/-- Carries out a command that arrived at `now` for the agent that the host is registered as; the
answer is the task that it began. A creation of a runner that is already known is ignored. -/
def dispatch (h : Hosting) (agent : AgentId) (now : UInt64) : Command → Hosting × Option Nat
  | .noop => (h, none)
  | .createRunner runner name script _ =>
    match h.roster.create (.accepted runner name agent script now) with
    | (roster, .error _) => ({ h with roster }, none)
    | (roster, .ok ()) =>
      let (h, token) := { h with roster }.spawn runner (.provision script true none)
      ({ h with provisions := h.provisions.insert runner token }, some token)
  | .deleteRunner runner _ =>
    let inFlight := h.provisions.get? runner
    let (h, token) :=
      { h with provisions := h.provisions.erase runner }.spawn runner (.teardown inFlight)
    (h, some token)

/-- Carries out a coordinator's reply; one without a command is ignored. -/
def dispatchReply (h : Hosting) (agent : AgentId) (now : UInt64) (reply : Wire.Reply) :
    Hosting × Option Nat :=
  match reply.toCommand with
  | .ok command => h.dispatch agent now command
  | .error _ => (h, none)

end Hosting

end RunnerFleet

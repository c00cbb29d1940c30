import RunnerFleet.Roster
import RunnerFleet.Vm.Operation

/-!
# Provisioning and tearing down a runner

Provisioning takes an accepted runner through four VM operations to `running`; each move of its
record is made before the next operation is asked for. A failed operation parks the runner in
`error` with a message that names the step, and a refused move ends the provisioning without a word.
A teardown deletes the VM and forgets the runner, and counts what is already gone as deleted.
-/

namespace RunnerFleet

namespace Provision

/-- The VM operation that a provisioning waits for. -/
inductive Point where
  | creating
  | starting
  | reaching
  | settingUp
  deriving DecidableEq, Repr

namespace Point

/-- The operation that is waited for at a point. -/
def operation (script : String) : Point → VmOperation
  | creating => .create
  | starting => .start
  | reaching => .awaitSsh
  | settingUp => .setUp script

/-- What a failure at a point is called. -/
def failure : Point → String
  | creating => "VM creation failed: "
  | starting => "VM start failed: "
  | reaching => "SSH wait failed: "
  | settingUp => "Setup script failed: "

end Point

/-- Moves the runner on to the next point, or ends when the move is refused. -/
def enter (r : Roster) (id : RunnerId) (state : RunnerState) (p : Point) : Roster × Option Point :=
  match r.moveTo id state with
  | (r, .ok ()) => (r, some p)
  | (r, .error _) => (r, none)

/-- Records a failure if the runner is still there. -/
def fail (r : Roster) (id : RunnerId) (message : String) : Roster := (r.setError id message).1

/-- Records the address that a start gave, if the runner is still there. -/
def noteAddress (r : Roster) (id : RunnerId) : VmValue → Roster
  | .address ip => (r.setAddress id ip).1
  | _ => r

/-- The first step. -/
def begin (r : Roster) (id : RunnerId) : Roster × Option Point := enter r id .creating .creating

/-- The step after an operation has returned; no point means that the provisioning is over. -/
def resume (r : Roster) (id : RunnerId) : Point → Except VmError VmValue → Roster × Option Point
  | p, .error e => (fail r id (p.failure ++ e.message), none)
  | .creating, .ok _ => enter r id .booting .starting
  | .starting, .ok v => (noteAddress r id v, some .reaching)
  | .reaching, .ok _ => enter r id .sshReady .settingUp
  | .settingUp, .ok _ => ((r.moveTo id .running).1, none)

end Provision

namespace Teardown

/-- Before the VM is touched: marks the runner, from whatever state allows it. -/
def begin (r : Roster) (id : RunnerId) : Roster := (r.moveTo id .tearingDown).1

/-- After the VM's deletion: forgets the runner, or parks it in `error`. -/
def conclude (r : Roster) (id : RunnerId) (result : Except VmError VmValue) : Roster :=
  match result with
  | .ok _ => (r.delete id).1
  | .error e =>
    if e.isNotFound then (r.delete id).1
    else Provision.fail r id ("VM deletion failed: " ++ e.message)

end Teardown

end RunnerFleet

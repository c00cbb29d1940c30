import RunnerFleet.Vm.Helper
import RunnerFleet.Vm.Timeline

/-!
# An outside of helper programs

The hypervisor and the shell channel of a real host: every request is one run of a program. What a
run gives is a parameter, and takes no time of the clock.
-/

namespace RunnerFleet.Vm

/-- The helper programs of a host. -/
structure Programs where
  /-- The name of the hypervisor's program. -/
  hypervisor : String
  /-- The bundle that new VMs are cloned from. -/
  template : String
  bundlePath : RunnerId → String
  shell : ShellChannel
  /-- Runs a program with arguments. -/
  run : String → List String → Except IoError ProgramRun

/-- The arguments of every program that was run, in order. -/
abbrev Runs := List (List String)

namespace Programs

/-- The name of the shell channel's program. -/
def shellProgram : String := "ssh"

/-- The runs after another one; a program that could not be run leaves no trace. -/
def note (runs : Runs) (arguments : List String) : Except IoError ProgramRun → Runs
  | .ok _ => runs ++ [arguments]
  | .error _ => runs

/-- Runs a program with arguments; a zero character ends an argument, so none can hold one. -/
def start (p : Programs) (program : String) (arguments : List String) : Except IoError ProgramRun :=
  if (program :: arguments).any (·.contains '\x00') then
    .error (.other "nul byte found in provided data")
  else p.run program arguments

/-- The runs after a request, and its answer. -/
def perform (p : Programs) (request : Request) (runs : Runs) : Runs × Except VmError Reply :=
  match HypervisorProgram.command? p.template p.bundlePath request, p.shell.command? request with
  | some arguments, _ =>
    let result := p.start p.hypervisor arguments
    (note runs arguments result, match result with
      | .ok run => HypervisorProgram.conclude request run
      | .error e => .error (HypervisorProgram.notRun p.hypervisor e))
  | none, some arguments =>
    let result := p.start shellProgram arguments
    (note runs arguments result, match result with
      | .ok run => ShellChannel.conclude request run
      | .error e => .error (.io e))
  | none, none => (runs, .error (.exec "connection refused"))

/-- The helper programs as the outside of a host. -/
def outside (p : Programs) : Outside Runs where
  ask _ request runs host :=
    let (runs, r) := p.perform request runs
    ⟨runs, host, [], some (0, fun runs host => (runs, host, r))⟩

end Programs

end RunnerFleet.Vm

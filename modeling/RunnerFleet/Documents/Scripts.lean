import RunnerFleet.Documents.Host
import RunnerFleet.Documents.Reading
import RunnerFleet.Hosting.Scripted
import RunnerFleet.Vm.InMemory
import RunnerFleet.Vm.Programs
import RunnerFleet.Vm.Scripted

/-!
# Scripts of stand-ins as JSON documents

The plans that scripted hypervisors, shell channels and VM managers follow, the runs of helper
programs, and what the stand-ins were asked.
-/

namespace RunnerFleet

open Json (Lenient)

/-! ## Helper programs -/

/-- The number of a signal, by its name with or without `SIG`, or by its digits. -/
def ExitStatus.signalOf (name : String) : Nat :=
  match signalNames.findIdx? (fun s => s == "SIG" ++ name || s == name) with
  | some i => i + 1
  | none => name.toNat?.getD 0

instance : Lenient ProgramRun where
  ofJson j :=
    { status := match (j.get "signal" : Option String) with
        | some name => .killed (ExitStatus.signalOf name)
        | none => .exited (j.get "exit" % 256)
      stdout := j.bytes "stdout"
      stderr := j.bytes "stderr" }
  blank := ⟨.exited 0, [], []⟩

/-- The arguments of runs, one text per run. -/
def Vm.Runs.toJson (runs : Vm.Runs) : Json := .list (runs.map fun a => .text ("\n".intercalate a))

/-! ## Hypervisor and shell channel -/

namespace Vm

instance : Lenient Plan where
  ofJson j := ⟨j.get "delay_ms", j.get "hang", j.get "error"⟩
  blank := .smooth

/-- The state a hypervisor is to tell: its word alone, or a plan with it. -/
def plannedState : Json → Plan × String
  | .text word => (.smooth, word)
  | j => (j.read, j.getD "state" PowerState.running.name)

instance : Lenient HypervisorScript where
  ofJson j :=
    { clone := j.get "create"
      boot := j.get "boot"
      requestStop := j.get "stop"
      forceStop := j.get "kill"
      makesBundle := !((j.get "create" : Json).get "no_dir" : Bool)
      accepts := (j.get "stop" : Json).getD "accepted" true
      states := (j.get "states" : Json).toItems.map plannedState }
  blank := .smooth

/-- A check that fails is refused. -/
def plannedCheck (j : Json) : Plan :=
  { (j.read : Plan) with
    error := if (j.get "fail" : Bool) then some (.io (.other "refused")) else none }

instance : Lenient ShellScript where
  ofJson j :=
    { checks := (j.get "checks" : Json).toItems.map plannedCheck
      run := j.get "run" }
  blank := .smooth

instance : Lenient InMemory where
  ofJson j :=
    { InMemory.new with
      bootState :=
        (PowerState.all.find? (·.name == j.getD "boot_state" "running")).getD .running
      hangBoot := j.get "hang_boot"
      gracefulStop := j.getD "graceful_stop" true
      createError := j.get "create_error"
      announces := j.get "announce_ip" }
  blank := .new

end Vm

/-- A request to the hypervisor or to the shell channel, with its moment. -/
def Request.toJson (bundlePath : RunnerId → String) (at_ : Instant) (request : Request) : Json :=
  let call (verb : String) (fields : List (String × Json)) : Json :=
    .ofFields ([("at", .ofNat at_), ("call", .text verb)] ++ fields)
  let onBundle (verb : String) (runner : RunnerId) : Json :=
    call verb [("bundle", .text (bundlePath runner))]
  match request with
  | .clone runner => onBundle "create" runner
  | .boot runner => onBundle "boot" runner
  | .powerState runner => onBundle "state" runner
  | .requestStop runner => onBundle "stop" runner
  | .forceStop runner => onBundle "kill" runner
  | .checkReachable ip => call "check" [("ip", .text ip)]
  | .runScript ip script => call "script" [("ip", .text ip), ("script", .text script)]
  | .guest ip _ => call "guest" [("ip", .text ip)]

/-! ## VM manager -/

namespace Hosting

instance : Lenient Plan where
  ofJson j :=
    ⟨j.get "delay_ms", j.get "hang", j.get "forget", j.get "error",
      j.getD "ip" Plan.smooth.address, j.get "state"⟩
  blank := .smooth

/-- The words for operations. -/
def verbs : List String := ["create", "start", "ssh", "setup", "stop", "delete", "exec", "status"]

/-- Under a verb stands a plan for all runners, under any other key the plans of one runner. -/
instance : Lenient Script where
  ofJson j :=
    let part (general : Bool) : Json :=
      .ofFields (j.fields.filter fun f => verbs.contains f.1 == general)
    ⟨(part true).read, (part false).read⟩
  blank := .smooth

/-- A call as it is shown: a script on its own before the call that runs it. -/
def Call.toJson (c : Call) : List Json :=
  let shown (verb : String) (field : String × Json) : Json :=
    .ofFields [("at", .ofNat c.at_), ("call", .text verb), ("runner", .text c.runner), field]
  (match c.operation with
    | .setUp script => [shown "script" ("script", .text script)]
    | _ => []) ++
    [shown (verbOf c.operation) ("state", .text ((c.state.map (·.name)).getD ""))]

end Hosting

end RunnerFleet

import RunnerFleet.Vm.Timeline

/-!
# An outside that follows a script

A stand-in for the hypervisor and the shell channel whose every answer is planned: how long it
takes, whether it comes at all, and what it is. It keeps the list of what it was asked.
-/

namespace RunnerFleet.Vm

/-- How one request is answered: after a delay never, with an error, or well. -/
structure Plan where
  delay : Nat
  hangs : Bool
  error : Option VmError
  deriving Repr

/-- At once, and well. -/
def Plan.smooth : Plan := ⟨0, false, none⟩

/-- What the hypervisor does. -/
structure HypervisorScript where
  clone : Plan
  boot : Plan
  requestStop : Plan
  forceStop : Plan
  /-- A clone makes the bundle's directory. -/
  makesBundle : Bool
  /-- Guests honour a request to stop. -/
  accepts : Bool
  /-- The words for successive questions after the power state; the last one repeats. -/
  states : List (Plan × String)
  deriving Repr

/-- Everything succeeds and every VM runs. -/
def HypervisorScript.smooth : HypervisorScript :=
  ⟨.smooth, .smooth, .smooth, .smooth, true, true, []⟩

/-- What the shell channel does. -/
structure ShellScript where
  /-- The answers to successive checks; the last one repeats. -/
  checks : List Plan
  run : Plan
  deriving Repr

/-- Every guest lets a shell in and runs its scripts. -/
def ShellScript.smooth : ShellScript := ⟨[], .smooth⟩

/-- The stand-in: its scripts, how far they have been followed, and what was asked when. -/
structure Scripted where
  hypervisor : HypervisorScript
  shell : ShellScript
  stateCount : Nat
  checkCount : Nat
  calls : List (Instant × Request)

namespace Scripted

def new (hypervisor : HypervisorScript) (shell : ShellScript) : Scripted :=
  ⟨hypervisor, shell, 0, 0, []⟩

/-- The `n`-th of a list of which the last one repeats. -/
def nthOrLast {α : Type} (items : List α) (n : Nat) : Option α := items[n]? <|> items.getLast?

/-- An answer according to a plan. -/
def follow (m : Scripted) (host : VmHost) (plan : Plan)
    (answer : VmHost → VmHost × Except VmError Reply) : Asked Scripted where
  outside := m
  host := host
  announcers := []
  answer :=
    if plan.hangs then none
    else some (plan.delay, fun m host =>
      match plan.error with
      | some e => (m, host, .error e)
      | none => let (host, r) := answer host; (m, host, r))

/-- An answer that leaves the host as it is. -/
def reply (m : Scripted) (host : VmHost) (plan : Plan) (r : Except VmError Reply) :
    Asked Scripted :=
  m.follow host plan fun host => (host, r)

/-- Makes the directory of a clone. -/
def cloned (makesBundle : Bool) (runner : RunnerId) (host : VmHost) :
    VmHost × Except VmError Reply :=
  if makesBundle then
    match host.bundles.makeBundle (BundleRoot.bundleName runner) with
    | .ok bundles => ({ host with bundles }, .ok .done)
    | .error e => (host, .error (.io e))
  else (host, .ok .done)

def ask (now : Instant) (request : Request) (m : Scripted) (host : VmHost) : Asked Scripted :=
  let m := match request with
    | .guest _ _ => m
    | _ => { m with calls := m.calls ++ [(now, request)] }
  match request with
  | .clone runner => m.follow host m.hypervisor.clone (cloned m.hypervisor.makesBundle runner)
  | .boot _ => m.reply host m.hypervisor.boot (.ok .done)
  | .requestStop _ => m.reply host m.hypervisor.requestStop (.ok (.accepted m.hypervisor.accepts))
  | .forceStop _ => m.reply host m.hypervisor.forceStop (.ok .done)
  | .powerState _ =>
    let (plan, word) :=
      (nthOrLast m.hypervisor.states m.stateCount).getD (.smooth, PowerState.running.name)
    { m with stateCount := m.stateCount + 1 }.reply host plan ((PowerState.parse word).map .power)
  | .checkReachable _ =>
    let plan := (nthOrLast m.shell.checks m.checkCount).getD .smooth
    { m with checkCount := m.checkCount + 1 }.reply host plan (.ok .done)
  | .runScript _ _ => m.reply host m.shell.run (.ok (.output ""))
  | .guest _ _ => m.reply host .smooth (.error (.exec "connection refused"))

/-- The stand-in as the outside of a host. -/
def outside : Outside Scripted := ⟨ask⟩

end Scripted

end RunnerFleet.Vm

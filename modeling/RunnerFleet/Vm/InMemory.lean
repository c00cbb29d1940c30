import RunnerFleet.Vm.Timeline

/-!
# A hypervisor and a shell in memory

A stand-in that never leaves the process: VMs are entries of a table of power states, guests can be
made to announce themselves after a boot, and scripts are written down instead of run.
-/

namespace RunnerFleet.Vm

/-- The stand-in's settings and what happened to it. -/
structure InMemory where
  /-- The state that every VM is in after a boot. -/
  bootState : PowerState
  /-- A boot never returns. -/
  hangBoot : Bool
  /-- Whether guests honour a request to stop. -/
  gracefulStop : Bool
  createError : Option String
  /-- The address that guests announce after a boot into `running`. -/
  announces : Option String
  power : Table PowerState
  forceStops : Nat
  reachable : Bool
  scriptError : Option String
  /-- The scripts that were to be run, with the address of the guest. -/
  scripts : List (String × String)
  /-- The number of guests that announced themselves, each under an id of its own. -/
  guests : Nat

namespace InMemory

/-- Every VM boots and stops, and every guest can be reached. -/
def new : InMemory where
  bootState := .running
  hangBoot := false
  gracefulStop := true
  createError := none
  announces := none
  power := .empty
  forceStops := 0
  reachable := true
  scriptError := none
  scripts := []
  guests := 0

/-- The files that a clone puts into a bundle. -/
def clonedFiles : List (String × FileContent) :=
  ["Disk.img", "AuxiliaryStorage", "HardwareModel.json", "MachineIdentifier"].map (·, .bytes [])

def powerOf (m : InMemory) (runner : RunnerId) : PowerState := (m.power.get? runner).getD .stopped

def setPower (m : InMemory) (runner : RunnerId) (state : PowerState) : InMemory :=
  { m with power := m.power.insert runner state }

/-- Puts a new VM into a bundle. -/
def clone (m : InMemory) (host : VmHost) (runner : RunnerId) :
    InMemory × VmHost × Except VmError Reply :=
  match m.createError with
  | some detail => (m, host, .error (.hypervisor detail))
  | none =>
    let name := BundleRoot.bundleName runner
    match host.bundles.makeBundle name >>= fun root => root.putFiles name clonedFiles with
    | .ok bundles => (m.setPower runner .stopped, { host with bundles }, .ok .done)
    | .error e => (m, host, .error (.io e))

/-- An answer that takes no time. -/
def atOnce (m : InMemory) (host : VmHost) (r : Except VmError Reply) : Asked InMemory :=
  ⟨m, host, [], some (0, fun m host => (m, host, r))⟩

/-- The guest's id for its `n`-th announcement. -/
def guestId (n : Nat) : GuestId := "guest-" ++ toString n

def ask (request : Request) (m : InMemory) (host : VmHost) : Asked InMemory :=
  match request with
  | .clone runner =>
    let (m, host, r) := m.clone host runner
    m.atOnce host r
  | .boot runner =>
    if m.hangBoot then ⟨m.setPower runner .starting, host, [], none⟩
    else
      let m := m.setPower runner m.bootState
      match m.announces with
      | some address =>
        if m.bootState = .running then
          { { m with guests := m.guests + 1 }.atOnce host (.ok .done) with
            announcers := [(guestId m.guests, address)] }
        else m.atOnce host (.ok .done)
      | none => m.atOnce host (.ok .done)
  | .powerState runner => m.atOnce host (.ok (.power (m.powerOf runner)))
  | .requestStop runner =>
    let stopped := if m.gracefulStop then m.setPower runner .stopped else m
    stopped.atOnce host (.ok (.accepted m.gracefulStop))
  | .forceStop runner =>
    { m.setPower runner .stopped with forceStops := m.forceStops + 1 }.atOnce host (.ok .done)
  | .checkReachable address =>
    m.atOnce host
      (if m.reachable then .ok .done
      else .error (.io (.other ("ssh: connect to host " ++ address ++
        " port 22: Connection refused"))))
  | .runScript address script =>
    { m with scripts := m.scripts ++ [(address, script)] }.atOnce host
      (match m.scriptError with
      | some detail => .error (.setupScript detail)
      | none => .ok (.output ""))
  | .guest _ _ => m.atOnce host (.error (.exec "connection refused"))

/-- The stand-in as the outside of a host. -/
def outside : Outside InMemory := ⟨fun _ request m host => ask request m host⟩

end InMemory

end RunnerFleet.Vm

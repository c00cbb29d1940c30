import RunnerFleet.CommandLine.Address
import RunnerFleet.CommandLine.Arguments
import RunnerFleet.CommandLine.Files
import RunnerFleet.Vm.Listing
import RunnerFleet.Vm.Programs

/-!
# Carrying out a command line

A command line works on files and helper programs and ends with an exit code and two texts, or goes
on as a daemon. Settings come from the file that the command line names, and its options go before
them.
-/

namespace RunnerFleet.CommandLine

/-- What a command finds: its files, and what running a program gives. -/
structure Surroundings where
  files : Files
  run : String → List String → Except IoError ProgramRun
  calendar : Timestamp

/-- How a command line comes out. -/
inductive Ending where
  | exits (code : Nat) (stdout stderr : String)
  /-- A coordinator whose addresses are in order. -/
  | coordinates (settings : CoordinatorSettings)
  /-- An agent whose settings are in order. -/
  | hosts (settings : AgentSettings)

/-- An ending, with the files and the runs of programs that led to it. -/
structure Outcome where
  ending : Ending
  files : Files
  runs : Vm.Runs

/-! ## Failures -/

/-- A failure as it is shown, with the cause behind it. -/
structure Failure where
  message : String
  cause : Option String
  deriving DecidableEq, Repr

namespace Failure

/-- A failure without a cause behind it. -/
def plain (message : String) : Failure := ⟨message, none⟩

/-- The text of a failure; the cause is set in, line by line. -/
def text (f : Failure) : String :=
  "Error: " ++ f.message ++ (match f.cause with
    | some cause =>
      "\n\nCaused by:\n" ++
        String.intercalate "\n" ((cause.splitOn "\n").map ("    " ++ ·))
    | none => "") ++ "\n"

/-- A failed VM operation. -/
def ofVm (e : VmError) : Failure :=
  ⟨e.message, match e with
    | .io cause => some cause.message
    | .address cause => some cause.message
    | _ => none⟩

/-- Settings that cannot be read. -/
def ofSettings : SettingsError → Failure
  | .unreadable cause => plain cause.message
  | .malformed => plain "the settings are malformed"

/-- An address that no server can listen on. -/
def badAddress : Failure := plain "invalid socket address syntax"

end Failure

/-- A good end. -/
def succeed (stdout : String) : Ending := .exits 0 stdout ""

/-- A bad end. -/
def fail (f : Failure) : Ending := .exits 1 "" f.text

/-! ## Starting a daemon -/

/-- Checks the addresses of a coordinator. -/
def startCoordinator (s : CoordinatorSettings) : Ending :=
  if Address.isSocket s.grpcAddress && Address.isSocket s.httpAddress then .coordinates s
  else fail .badAddress

/-- Checks the settings of an agent and makes its directory of bundles. -/
def startAgent (files : Files) (s : AgentSettings) : Files × Ending :=
  match s.validate with
  | .error e => (files, fail (.plain e.message))
  | .ok _ =>
    match files.makeDirectories s.runnersPath with
    | .error e => (files, fail (.plain e.message))
    | .ok files => (files, if Address.isSocket s.notifyAddress then .hosts s else fail .badAddress)

/-! ## Maintenance -/

/-- The table of the bundles, or a line that says that there are none. -/
def listing (path : String) (bundles : List ListedBundle) : String :=
  if bundles.isEmpty then "no VMs under " ++ path ++ "\n" else Listing.table path bundles

/-- The helper programs as the settings name them. -/
def programsOf (s : AgentSettings) (run : String → List String → Except IoError ProgramRun) :
    Vm.Programs where
  hypervisor := s.hypervisorCommand
  template := s.templatePath
  bundlePath runner := BundleRoot.pathIn s.runnersPath (BundleRoot.bundleName runner)
  shell := ⟨s.sshUser, s.sshKeyPath⟩
  run := run

/-- The operation of an action. -/
def VmAction.operation? : VmAction → Option (RunnerId × VmOperation)
  | list => none
  | stop runner => some (runner, .stop)
  | delete runner => some (runner, .delete)
  | exec runner command arguments => some (runner, .guest (.exec command arguments))

/-- The end of an action whose operation has succeeded. -/
def VmAction.conclude : VmAction → VmValue → Ending
  | stop runner, _ => succeed ("stopped " ++ runner ++ "\n")
  | delete runner, _ => succeed ("deleted " ++ runner ++ "\n")
  | exec _ command _, .exec outcome =>
    match outcome.error.filter (· != "") with
    | some detail => fail (.plain ("guest could not run " ++ command ++ ": " ++ detail))
    | none => .exits (outcome.exitCode % 256).toNat outcome.output ""
  | _, _ => succeed ""

/-- The key of the one task of an action. -/
def actionKey : String := "action"

/-- Carries out an action on the bundles; the fuel bounds how often a VM is looked at. -/
def runAction (fuel : Nat) (w : Surroundings) (s : AgentSettings) (action : VmAction) : Outcome :=
  let root := w.files.bundleRoot s.runnersPath
  match action.operation? with
  | none =>
    ⟨match root.list with
      | .ok bundles => succeed (listing s.runnersPath bundles)
      | .error e => fail (.ofVm (.io e)), w.files, []⟩
  | some (runner, op) =>
    let outside := (programsOf s w.run).outside
    let t := (Vm.Timeline.start s.limits w.calendar ⟨.empty, root⟩ []).park (some 0)
      (.opening actionKey runner op)
    let t := t.runUntilEnded outside actionKey fuel
    let ending := match t.outcomeOf? actionKey with
      | some (.operation (.ok v)) => action.conclude v
      | some (.operation (.error e)) => fail (.ofVm e)
      | _ => fail (.plain "the VM does not come to rest")
    ⟨ending, w.files.withBundleRoot s.runnersPath t.host.bundles, t.outside⟩

/-! ## Command lines -/

/-- The settings that a command line starts from. -/
def Invocation.settings (i : Invocation) (files : Files) : Except Failure Settings :=
  match i.config with
  | none => .ok .initial
  | some path =>
    match files.read path with
    | .error e => .error (.plain e.message)
    | .ok bytes => (Settings.ofBytes bytes).mapError .ofSettings

/-- Carries out a command line that follows the grammar. -/
def Invocation.run (fuel : Nat) (w : Surroundings) (i : Invocation) : Outcome :=
  match i.settings w.files with
  | .error e => ⟨fail e, w.files, []⟩
  | .ok s =>
    match i.mode with
    | .coordinator grpcAddress httpAddress =>
      ⟨startCoordinator { s.coordinator with
        grpcAddress := grpcAddress.getD s.coordinator.grpcAddress
        httpAddress := httpAddress.getD s.coordinator.httpAddress }, w.files, []⟩
    | .agent change =>
      let (files, ending) := startAgent w.files (change s.agent)
      ⟨ending, files, []⟩
    | .vm runnersPath action =>
      runAction fuel w { s.agent with runnersPath := runnersPath.getD s.agent.runnersPath } action

/-- Carries out a command line; one that does not follow the grammar ends with exit code 2. -/
def run (fuel : Nat) (w : Surroundings) (arguments : List String) : Outcome :=
  match Invocation.parse arguments with
  | .ok i => i.run fuel w
  | .error .help => ⟨succeed "", w.files, []⟩
  | .error .refused => ⟨.exits 2 "" "", w.files, []⟩

end RunnerFleet.CommandLine

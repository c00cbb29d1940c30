import RunnerFleet.Text.Utf8
import RunnerFleet.Vm.Host

/-!
# Helper programs

The hypervisor and the shell channel of a real host are programs that are run once per request. This
module says which arguments they get and what their exit and output mean.
-/

namespace RunnerFleet

/-- How a program ended. -/
inductive ExitStatus where
  | exited (code : Nat)
  | killed (signal : Nat)
  deriving DecidableEq, Repr

namespace ExitStatus

/-- The names of the signals, from 1 on. -/
def signalNames : List String :=
  ["SIGHUP", "SIGINT", "SIGQUIT", "SIGILL", "SIGTRAP", "SIGABRT", "SIGBUS", "SIGFPE", "SIGKILL",
    "SIGUSR1", "SIGSEGV", "SIGUSR2", "SIGPIPE", "SIGALRM", "SIGTERM", "SIGSTKFLT", "SIGCHLD",
    "SIGCONT", "SIGSTOP", "SIGTSTP", "SIGTTIN", "SIGTTOU", "SIGURG", "SIGXCPU", "SIGXFSZ",
    "SIGVTALRM", "SIGPROF", "SIGWINCH", "SIGIO", "SIGPWR", "SIGSYS"]

def text : ExitStatus → String
  | exited code => "exit status: " ++ toString code
  | killed signal =>
    "signal: " ++ toString signal ++
      match signalNames[signal - 1]? with
      | some name => " (" ++ name ++ ")"
      | none => ""

def succeeded (s : ExitStatus) : Bool := s == exited 0

end ExitStatus

/-- What a program left behind. -/
structure ProgramRun where
  status : ExitStatus
  stdout : List UInt8
  stderr : List UInt8
  deriving DecidableEq, Repr

/-! ## The hypervisor's program -/

namespace HypervisorProgram

/-- The verb of a request and its arguments; requests to the guest have none. -/
def command? (template : String) (bundlePath : RunnerId → String) : Request → Option (List String)
  | .clone runner => some ["clone", template, bundlePath runner]
  | .boot runner => some ["boot", bundlePath runner]
  | .powerState runner => some ["state", bundlePath runner]
  | .requestStop runner => some ["stop", bundlePath runner]
  | .forceStop runner => some ["kill", bundlePath runner]
  | _ => none

/-- The program could not be run. -/
def notRun (program : String) (e : IoError) : VmError :=
  .hypervisor ("failed to run " ++ program ++ ": " ++ e.message)

/-- The program failed. -/
def failed (verb : String) (run : ProgramRun) : VmError :=
  .hypervisor (verb ++ " failed (" ++ run.status.text ++ "): " ++
    Text.trim (Utf8.decodeLossy run.stderr))

/-- The output of a program that has to succeed. -/
def output (verb : String) (run : ProgramRun) : Except VmError String :=
  if run.status.succeeded then .ok (Utf8.decodeLossy run.stdout) else .error (failed verb run)

/-- What a run means as the answer to a request. Exit 1 of `stop` refuses the request. -/
def conclude (request : Request) (run : ProgramRun) : Except VmError Reply :=
  match request with
  | .clone _ => (output "clone" run).map fun _ => .done
  | .boot _ => (output "boot" run).map fun _ => .done
  | .forceStop _ => (output "kill" run).map fun _ => .done
  | .powerState _ => do
    let word ← output "state" run
    return .power (← PowerState.parse word)
  | .requestStop _ =>
    match run.status with
    | .exited 0 => .ok (.accepted true)
    | .exited 1 => .ok (.accepted false)
    | _ => .error (failed "stop" run)
  | _ => .ok .done

end HypervisorProgram

/-! ## The shell channel's program -/

/-- How a host reaches its guests by shell. -/
structure ShellChannel where
  user : String
  keyPath : Option String
  deriving DecidableEq, Repr

namespace ShellChannel

/-- How long a check may take to connect. -/
def checkTimeout : Span := .ofSecs 1

/-- How long a script may take to connect. -/
def scriptTimeout : Span := .ofSecs 10

/-- The arguments for running `remote` on a guest; the time to connect is at least a second. -/
def arguments (c : ShellChannel) (address : String) (timeout : Span) (remote : String) :
    List String :=
  ["-o", "BatchMode=yes", "-o",
      "ConnectTimeout=" ++ toString (max 1 (timeout.nanos / 1000000000)),
      "-o", "StrictHostKeyChecking=no", "-o", "UserKnownHostsFile=/dev/null"] ++
    (match c.keyPath with
      | some key => ["-i", key]
      | none => []) ++
    [c.user ++ "@" ++ address, remote]

/-- The arguments of a request to the guest's shell. -/
def command? (c : ShellChannel) : Request → Option (List String)
  | .checkReachable address => some (c.arguments address checkTimeout "true")
  | .runScript address script => some (c.arguments address scriptTimeout script)
  | _ => none

/-- What a run means as the answer to a request. The output of a script is what it wrote on both
channels. -/
def conclude (request : Request) (run : ProgramRun) : Except VmError Reply :=
  match request with
  | .runScript _ _ =>
    let combined := Utf8.decodeLossy run.stdout ++ Utf8.decodeLossy run.stderr
    if run.status.succeeded then .ok (.output combined)
    else .error (.setupScript (run.status.text ++ ", output: " ++ Text.trim combined))
  | _ =>
    if run.status.succeeded then .ok .done
    else .error (.io (.other ("ssh reachability check failed: " ++ run.status.text)))

end ShellChannel

end RunnerFleet

import RunnerFleet.Vm.Bundles
import RunnerFleet.Vm.Guest
import RunnerFleet.Vm.Power

/-!
# A host's VMs

The state that VM operations share, and the vocabulary of their steps. An operation is a sequence of
atomic steps. Between two steps it waits for one thing (`Waiting`): an answer from the outside, a
pause to end, or a guest to announce its address. What ends the wait is a `Signal`.
-/

namespace RunnerFleet

/-- A moment of the monotonic clock, in milliseconds. -/
abbrev Instant := Nat

/-- The bounds on every wait of the VM operations. -/
structure VmLimits where
  boot : Span
  bootPoll : Span
  addressWait : Span
  ssh : Span
  sshPoll : Span
  gracefulStop : Span
  stopPoll : Span
  deriving DecidableEq, Repr

/-- The waits for addresses and the bundles of one host. -/
structure VmHost where
  arbiter : Arbiter
  bundles : BundleRoot
  deriving DecidableEq, Repr

/-- What a step knows beside the host: the bounds, the monotonic clock and the calendar. -/
structure VmContext where
  limits : VmLimits
  now : Instant
  calendar : Timestamp
  deriving DecidableEq, Repr

/-- What an operation asks of the hypervisor, of the shell channel or of the guest's server. -/
inductive Request where
  | clone (runner : RunnerId)
  | boot (runner : RunnerId)
  | powerState (runner : RunnerId)
  | requestStop (runner : RunnerId)
  | forceStop (runner : RunnerId)
  | checkReachable (address : String)
  | runScript (address script : String)
  | guest (address : String) (call : GuestCall)
  deriving DecidableEq, Repr

/-- What a request is answered with when it succeeds. -/
inductive Reply where
  | done
  | accepted (yes : Bool)
  | power (state : PowerState)
  | output (text : String)
  | status (status : GuestStatus)
  | exec (outcome : ExecOutput)
  deriving DecidableEq, Repr

/-- What an operation waits for. -/
inductive Waiting where
  | reply (request : Request)
  /-- A reply that is no longer waited for at the deadline. -/
  | replyBy (request : Request) (deadline : Instant)
  | pause (until_ : Instant)
  | address (token : Nat) (deadline : Instant)
  deriving DecidableEq, Repr

/-- What ends a wait. -/
inductive Signal where
  | replied (r : Except VmError Reply)
  /-- The deadline was reached. -/
  | expired
  | resumed
  | announced (address : String)
  | withdrawn
  deriving Repr

/-- What a step leads to: the end of the operation, or the point from which it goes on. -/
inductive Turn (Point Result : Type) where
  | finished (result : Except VmError Result)
  | waits (point : Point)
  deriving Repr

/-- The turn after another operation's, with its point and result seen as one's own. -/
def Turn.map {P Q α β : Type} (point : P → Q) (result : α → β) : Turn P α → Turn Q β
  | .finished r => .finished (r.map result)
  | .waits p => .waits (point p)

namespace VmHost

/-- No VM, and no one waits. -/
def empty : VmHost := ⟨.empty, .missing⟩

/-- Notes a state in a bundle's metadata, if it can be written. -/
def mark (h : VmHost) (runner : RunnerId) (calendar : Timestamp) (state : BundleState) : VmHost :=
  match h.bundles.updateMetadata runner calendar fun m => { m with state } with
  | .ok (bundles, _) => { h with bundles }
  | .error _ => h

/-- The recorded address of a runner that has a bundle. -/
def addressOf (h : VmHost) (runner : RunnerId) : Except VmError String :=
  if h.bundles.hasBundle runner then h.bundles.addressOf runner else .error (.notFound runner)

end VmHost

end RunnerFleet

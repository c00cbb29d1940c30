import RunnerFleet.Text.Blank
import RunnerFleet.Vm.Reach
import RunnerFleet.Vm.Start
import RunnerFleet.Vm.Stop

/-!
# The operations on a runner's VM

All operations under one type, so that whoever runs them needs one first step (`VmOperation.begin`),
one step per signal (`VmOperation.resume`) and one way to give up (`VmOperation.abandon`).
-/

namespace RunnerFleet

/-- An operation on the VM of one runner. -/
inductive VmOperation where
  | create
  /-- Boots and waits until the guest's address is known. -/
  | start
  | stop
  | delete
  | awaitSsh
  | setUp (script : String)
  | guest (call : GuestCall)
  deriving DecidableEq, Repr

/-- What an operation gives. -/
inductive VmValue where
  | done
  /-- A new VM in the bundle of this runner. -/
  | created (runner : RunnerId)
  | address (ip : String)
  | status (status : GuestStatus)
  | exec (outcome : ExecOutput)
  deriving DecidableEq, Repr

/-- Where an operation is between two of its steps. -/
inductive VmPoint where
  | cloning
  | starting (p : Start.Point)
  | stopping (p : Stop.Point)
  | deleting (p : Stop.Point)
  | reaching (p : Reach.Point)
  | settingUp (address script : String)
  | calling (address : String) (call : GuestCall)
  deriving DecidableEq, Repr

/-- What the operation on `runner` waits for at a point. -/
def VmPoint.waiting (runner : RunnerId) : VmPoint → Waiting
  | cloning => .reply (.clone runner)
  | starting p => p.waiting runner
  | stopping p => p.waiting runner
  | deleting p => p.waiting runner
  | reaching p => p.waiting
  | settingUp address script => .reply (.runScript address script)
  | calling address call => .reply (.guest address call)

/-- The wait for an address that the operation holds at a point. -/
def VmPoint.token? : VmPoint → Option Nat
  | starting (.awaiting token _) => some token
  | _ => none

/-- After the clone: the bundle directory and its first metadata. -/
def VmHost.initialise (h : VmHost) (runner : RunnerId) (calendar : Timestamp) :
    VmHost × Turn VmPoint VmValue :=
  match h.bundles.makeBundle (BundleRoot.bundleName runner) with
  | .error e => (h, .finished (.error (.io e)))
  | .ok bundles =>
    match bundles.saveMetadata runner (.fresh runner calendar) with
    | .error e => ({ h with bundles }, .finished (.error e))
    | .ok bundles => ({ h with bundles }, .finished (.ok (.created runner)))

namespace VmOperation

/-- The first step of an operation. -/
def begin (c : VmContext) (runner : RunnerId) (h : VmHost) :
    VmOperation → VmHost × Turn VmPoint VmValue
  | create =>
    match h.bundles.makeRoot with
    | .ok bundles => ({ h with bundles }, .waits .cloning)
    | .error e => (h, .finished (.error (.io e)))
  | start => (Start.begin c runner h).map id (Turn.map .starting .address)
  | stop => (Stop.begin runner h).map id (Turn.map .stopping fun _ => .done)
  | delete => (Delete.begin runner h).map id (Turn.map .deleting fun _ => .done)
  | awaitSsh => (h, (Reach.begin c runner h).map .reaching fun _ => .done)
  | setUp script =>
    if Text.allBlank script then (h, .finished (.ok .done))
    else
      match h.addressOf runner with
      | .ok address => (h, .waits (.settingUp address script))
      | .error e => (h, .finished (.error e))
  | guest call =>
    match h.addressOf runner with
    | .ok address => (h, .waits (.calling address call))
    | .error e => (h, .finished (.error e))

/-- The step that a signal leads to; one that is not waited for changes nothing. -/
def resume (c : VmContext) (runner : RunnerId) (h : VmHost) :
    VmPoint → Signal → VmHost × Turn VmPoint VmValue
  | .cloning, .replied (.ok .done) => h.initialise runner c.calendar
  | .cloning, .replied (.error e) => (h, .finished (.error e))
  | .starting p, s => (Start.resume c runner h p s).map id (Turn.map .starting .address)
  | .stopping p, s => (Stop.resume c runner h p s).map id (Turn.map .stopping fun _ => .done)
  | .deleting p, s => (Delete.resume c runner h p s).map id (Turn.map .deleting fun _ => .done)
  | .reaching p, s => (h, (Reach.resume c p s).map .reaching fun _ => .done)
  | .settingUp _ _, .replied (.ok (.output _)) => (h, .finished (.ok .done))
  | .settingUp _ _, .replied (.error e) => (h, .finished (.error e))
  | .calling _ _, .replied (.ok (.status s)) => (h, .finished (.ok (.status s)))
  | .calling _ _, .replied (.ok (.exec e)) => (h, .finished (.ok (.exec e)))
  | .calling _ _, .replied (.error e) => (h, .finished (.error e))
  | p, _ => (h, .waits p)

/-- Gives up an operation between two steps. -/
def abandon (h : VmHost) : VmPoint → VmHost
  | .starting p => Start.abandon h p
  | _ => h

end VmOperation

end RunnerFleet

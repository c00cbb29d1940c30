import RunnerFleet.Vm.Host

/-!
# Starting a VM

A start boots the VM, asks for its power state until it runs, and waits for the guest to announce
its address. One deadline covers the boot and all questions; an answer that comes at the deadline
still counts.
-/

namespace RunnerFleet.Start

/-- Where a start is between two of its steps. -/
inductive Point where
  | booting (deadline : Instant)
  | asking (deadline : Instant)
  | pausing (deadline until_ : Instant)
  | awaiting (token : Nat) (deadline : Instant)
  deriving DecidableEq, Repr

/-- What the start of `runner` waits for at a point. -/
def Point.waiting (runner : RunnerId) : Point → Waiting
  | booting deadline => .replyBy (.boot runner) deadline
  | asking deadline => .replyBy (.powerState runner) deadline
  | pausing _ until_ => .pause until_
  | awaiting token deadline => .address token deadline

/-- The first step. -/
def begin (c : VmContext) (runner : RunnerId) (h : VmHost) : VmHost × Turn Point String :=
  if h.bundles.hasBundle runner then
    (h.mark runner c.calendar .booting, .waits (.booting (c.now + c.limits.boot.ticks)))
  else (h, .finished (.error (.notFound runner)))

/-- The VM did not run in time. -/
def timedOut (c : VmContext) (runner : RunnerId) (h : VmHost) : VmHost × Turn Point String :=
  (h.mark runner c.calendar .error, .finished (.error (.bootTimeout c.limits.boot)))

/-- Goes on from a power state. -/
def onState (c : VmContext) (runner : RunnerId) (h : VmHost) (deadline : Instant) :
    PowerState → VmHost × Turn Point String
  | .running =>
    let (arbiter, token) := h.arbiter.await runner
    ({ h with arbiter }, .waits (.awaiting token (c.now + c.limits.addressWait.ticks)))
  | .error =>
    (h.mark runner c.calendar .error, .finished (.error (.bootFailed PowerState.error.name)))
  | .stopped =>
    (h.mark runner c.calendar .error, .finished (.error (.bootFailed PowerState.stopped.name)))
  | .starting | .stopping =>
    if c.now ≥ deadline then timedOut c runner h
    else (h, .waits (.pausing deadline (c.now + c.limits.bootPoll.ticks)))

/-- Records the announced address. -/
def onAddress (c : VmContext) (runner : RunnerId) (h : VmHost) (address : String) :
    VmHost × Turn Point String :=
  match h.bundles.updateMetadata runner c.calendar fun m =>
      { m with ipAddress := address, state := .running } with
  | .ok (bundles, _) => ({ h with bundles }, .finished (.ok address))
  | .error e => (h, .finished (.error e))

/-- The step that a signal leads to; one that is not waited for changes nothing. -/
def resume (c : VmContext) (runner : RunnerId) (h : VmHost) :
    Point → Signal → VmHost × Turn Point String
  | .booting deadline, .replied (.ok .done) => (h, .waits (.asking deadline))
  | .booting _, .replied (.error e) => (h, .finished (.error e))
  | .booting _, .expired => timedOut c runner h
  | .asking deadline, .replied (.ok (.power state)) => onState c runner h deadline state
  | .asking _, .replied (.error e) => (h, .finished (.error e))
  | .asking _, .expired => timedOut c runner h
  | .pausing deadline _, .resumed => (h, .waits (.asking deadline))
  | .awaiting token _, .announced address =>
    onAddress c runner { h with arbiter := h.arbiter.endWait token } address
  | .awaiting token _, .expired =>
    ({ h with arbiter := h.arbiter.endWait token },
      .finished (.error (.address (.timeout runner c.limits.addressWait))))
  | .awaiting token _, .withdrawn =>
    ({ h with arbiter := h.arbiter.endWait token },
      .finished (.error (.address (.deliveryFailed runner))))
  | p, _ => (h, .waits p)

/-- Gives up a start between two steps; a wait for an address ends with it. -/
def abandon (h : VmHost) : Point → VmHost
  | .awaiting token _ => { h with arbiter := h.arbiter.endWait token }
  | _ => h

end RunnerFleet.Start

import RunnerFleet.Vm.Host

/-!
# Stopping and deleting a VM

A stop asks the guest to shut down, waits for it within a bound, and forces the VM off if the
request was refused or the bound is reached. A delete first withdraws the runner's waits for an
address, then stops the VM as well as it can, and removes the bundle.
-/

namespace RunnerFleet

namespace Stop

/-- Where a stop is between two of its steps. -/
inductive Point where
  | asking
  | requesting
  | polling (deadline : Instant)
  | pausing (deadline until_ : Instant)
  | forcing
  deriving DecidableEq, Repr

/-- What the stop of `runner` waits for at a point. -/
def Point.waiting (runner : RunnerId) : Point → Waiting
  | asking => .reply (.powerState runner)
  | requesting => .reply (.requestStop runner)
  | polling _ => .reply (.powerState runner)
  | pausing _ until_ => .pause until_
  | forcing => .reply (.forceStop runner)

/-- The first step. -/
def begin (runner : RunnerId) (h : VmHost) : VmHost × Turn Point Unit :=
  if h.bundles.hasBundle runner then (h, .waits .asking)
  else (h, .finished (.error (.notFound runner)))

/-- The VM is off. -/
def stopped (c : VmContext) (runner : RunnerId) (h : VmHost) : VmHost × Turn Point Unit :=
  (h.mark runner c.calendar .stopped, .finished (.ok ()))

/-- Asks again before the deadline, and forces the VM off from it on. -/
def poll (c : VmContext) (h : VmHost) (deadline : Instant) : VmHost × Turn Point Unit :=
  if c.now < deadline then (h, .waits (.polling deadline)) else (h, .waits .forcing)

/-- The step that a signal leads to; one that is not waited for changes nothing. -/
def resume (c : VmContext) (runner : RunnerId) (h : VmHost) :
    Point → Signal → VmHost × Turn Point Unit
  | .asking, .replied (.ok (.power state)) =>
    if state = .stopped then stopped c runner h else (h, .waits .requesting)
  | .asking, .replied (.error e) => (h, .finished (.error e))
  | .requesting, .replied (.ok (.accepted true)) =>
    poll c h (c.now + c.limits.gracefulStop.ticks)
  | .requesting, .replied (.ok (.accepted false)) => (h, .waits .forcing)
  | .requesting, .replied (.error _) => (h, .waits .forcing)
  | .polling deadline, .replied (.ok (.power state)) =>
    if state = .stopped then stopped c runner h
    else (h, .waits (.pausing deadline (c.now + c.limits.stopPoll.ticks)))
  | .polling _, .replied (.error e) => (h, .finished (.error e))
  | .pausing deadline _, .resumed => poll c h deadline
  | .forcing, .replied (.ok .done) => stopped c runner h
  | .forcing, .replied (.error e) => (h, .finished (.error e))
  | p, _ => (h, .waits p)

end Stop

namespace Delete

/-- Removes the bundle, however the stop ended. -/
def onStop (runner : RunnerId) : VmHost × Turn Stop.Point Unit → VmHost × Turn Stop.Point Unit
  | (h, .waits p) => (h, .waits p)
  | (h, .finished _) =>
    match h.bundles.removeBundle (BundleRoot.bundleName runner) with
    | .ok bundles => ({ h with bundles }, .finished (.ok ()))
    | .error e => (h, .finished (.error (.io e)))

/-- The first step: withdraws the runner's waits, so that none takes a later guest's address. -/
def begin (runner : RunnerId) (h : VmHost) : VmHost × Turn Stop.Point Unit :=
  onStop runner (Stop.begin runner { h with arbiter := (h.arbiter.cancel runner).1 })

/-- The step that a signal leads to. -/
def resume (c : VmContext) (runner : RunnerId) (h : VmHost) (p : Stop.Point) (s : Signal) :
    VmHost × Turn Stop.Point Unit :=
  onStop runner (Stop.resume c runner h p s)

end Delete

end RunnerFleet

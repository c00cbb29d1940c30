import RunnerFleet.Coordinator.Waiting
import RunnerFleet.Placement

/-!
# Adding a runner

An add request chooses an agent, mints a runner, queues its creation, and waits until a snapshot
shows the runner ready or failed. Its outcome and its duration are counted when it ends.
-/

namespace RunnerFleet

/-- Why a request for a runner fails. -/
inductive AddError where
  | noAgent (cause : PlacementError)
  | runnerFailed (message : String)
  | timedOut (after : Span)
  deriving DecidableEq, Repr

namespace AddError

/-- The wording of a failure. -/
def message : AddError → String
  | noAgent cause => "no available agent: " ++ cause.message
  | runnerFailed message => "runner failed to start: runner entered error state: " ++ message
  | timedOut after => "runner failed to start: timed out after " ++ after.text

/-- The name of the status code that a failure is answered with. -/
def code : AddError → String
  | noAgent _ => "Unavailable"
  | _ => "Internal"

/-- The label under which the request is counted. -/
def label : AddError → String
  | noAgent _ => "failed_no_agent"
  | runnerFailed _ => "failed_runner_error"
  | timedOut _ => "failed_timeout"

/-- The reason under which the failed start of a runner is counted, if one was begun. -/
def reason? : AddError → Option String
  | noAgent _ => none
  | runnerFailed _ => some "runner_error"
  | timedOut _ => some "startup_timeout"

end AddError

/-- The answer to a successful request for a runner. -/
structure Instance where
  cloudId : CloudId
  ipAddress : String
  deriving DecidableEq, Repr

/-- The name that callers are told for the kind of every runner. -/
def Instance.kind : String := "hangar"

/-- The cloud id of a runner. -/
def cloudIdOf (runner : RunnerId) : CloudId := "hangar-" ++ runner

/-- A request for a runner that waits for the runner to be ready. -/
structure AddCall where
  runner : RunnerId
  began : Instant
  watch : Watch
  deriving DecidableEq, Repr

/-- How a step of a request leaves it. -/
inductive Progress (Call Result : Type) where
  | finished (r : Result)
  | waits (call : Call)
  deriving Repr

namespace AddCall

/-- Ends a request with a failure. -/
def fail (c : Coordinator) (elapsed : Span) (e : AddError) :
    Coordinator × Progress AddCall (Except AddError Instance) :=
  let counters := match e.reason? with
    | some reason => c.counters.recordFailure reason
    | none => c.counters
  ({ c with counters := counters.recordAdd e.label elapsed }, .finished (.error e))

/-- Ends a request with a runner that is ready. -/
def succeed (c : Coordinator) (elapsed : Span) (runner : Runner) (id : RunnerId) :
    Coordinator × Progress AddCall (Except AddError Instance) :=
  ({ c with counters := (c.counters.recordStartup elapsed).recordAdd "success" elapsed },
    .finished (.ok ⟨cloudIdOf id, runner.ipAddress⟩))

/-- Places a runner of a minted id. `agents` are the store's, in the order in which they are
tried. -/
def begin (c : Coordinator) (limits : RequestLimits) (now : Instant) (agents : List Agent)
    (minted : RunnerId) (request : Wire.AddRequest) (requestId : String) :
    Coordinator × Progress AddCall (Except AddError Instance) :=
  match Placement.selectAmong c.store agents with
  | .error e => fail c ⟨0⟩ (.noAgent e)
  | .ok agent =>
    ({ c with
        store := c.store.registerCloudId (cloudIdOf minted) minted
        outbox := c.outbox.enqueue agent
          (.createRunner minted request.runnerName request.setupScript requestId) },
      .waits ⟨minted, now, ⟨now + limits.poll.ticks, now + limits.add.ticks⟩⟩)

/-- What the store shows of a runner: that it is ready or that it failed; a runner that is not
reported shows nothing. -/
def look (s : Store) (id : RunnerId) : Option (Except String Runner) :=
  match s.getRunner id with
  | .error _ => none
  | .ok runner =>
    if runner.state.isReady then some (.ok runner)
    else if runner.state = .error then some (.error runner.errorMessage)
    else none

/-- Goes on at `now`. -/
def resume (c : Coordinator) (limits : RequestLimits) (now : Instant) (call : AddCall) :
    Coordinator × Progress AddCall (Except AddError Instance) :=
  let elapsed := Span.ofMillis (now - call.began)
  match call.watch.resume now limits.poll (look c.store call.runner) with
  | .seen (.ok runner) => succeed c elapsed runner call.runner
  | .seen (.error message) => fail c elapsed (.runnerFailed message)
  | .expired => fail c elapsed (.timedOut limits.add)
  | .waits watch => (c, .waits { call with watch })

end AddCall

end RunnerFleet

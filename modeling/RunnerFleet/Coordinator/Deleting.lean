import RunnerFleet.Coordinator.Adding

/-!
# Deleting a runner

A delete request finds the runner behind a cloud id, queues its deletion for the agent it is
attributed to, and waits until no snapshot shows it any more. A runner that is already gone, and one
that is not gone in time, count as deleted. A creation that no agent has received is taken back
instead. Every look-up and every change of a queue is a step of its own.
-/

namespace RunnerFleet

/-- Why a request to delete a runner fails. -/
inductive DeleteError where
  /-- The cloud id could not be looked up. -/
  | lookup (cause : StoreError)
  /-- The runner is known, but not its agent. -/
  | noOwner (cause : StoreError)
  deriving DecidableEq, Repr

namespace DeleteError

/-- The wording of a failure. -/
def message : DeleteError → String
  | lookup cause => cause.message
  | noOwner cause => "failed to get agent: " ++ cause.message

/-- The name of the status code that a failure is answered with. -/
def code : DeleteError → String := fun _ => "Internal"

/-- The label under which the request is counted. -/
def label : DeleteError → String
  | lookup _ => "failed_lookup"
  | noOwner _ => "failed_get_agent"

end DeleteError

/-- Where a delete request is between two of its steps. -/
inductive DeletePoint where
  | resolving
  /-- The runner is registered but not reported. -/
  | withdrawing (runner : RunnerId)
  /-- The cloud id is to be forgotten; the label says why. -/
  | forgetting (label : String)
  | awaitingReport (runner : RunnerId) (watch : Watch)
  | routing (runner : RunnerId)
  | ordering (runner : RunnerId) (agent : AgentId)
  | awaitingRemoval (runner : RunnerId) (watch : Watch)
  deriving DecidableEq, Repr

/-- A delete request. -/
structure DeleteCall where
  cloudId : CloudId
  requestId : String
  point : DeletePoint
  deriving DecidableEq, Repr

namespace DeleteCall

/-- When the request goes on; nothing if it need not wait. -/
def due? (call : DeleteCall) : Option Instant :=
  match call.point with
  | .awaitingReport _ watch => some watch.due
  | .awaitingRemoval _ watch => some watch.due
  | _ => none

/-- A request that has just come. -/
def new (cloudId : CloudId) (requestId : String) : DeleteCall := ⟨cloudId, requestId, .resolving⟩

/-- Ends a request that counts as a success. -/
def succeed (c : Coordinator) (label : String) :
    Coordinator × Progress DeleteCall (Except DeleteError Unit) :=
  ({ c with counters := c.counters.recordDelete label }, .finished (.ok ()))

/-- Ends a request with a failure. -/
def fail (c : Coordinator) (e : DeleteError) :
    Coordinator × Progress DeleteCall (Except DeleteError Unit) :=
  ({ c with counters := c.counters.recordDelete e.label }, .finished (.error e))

/-- A waiting that begins with a look. -/
def watchFrom (limits : RequestLimits) (now : Instant) : Watch := ⟨now, now + limits.delete.ticks⟩

/-- What the store shows of a runner that is to go: that it is gone. -/
def gone? (s : Store) (id : RunnerId) : Option Unit :=
  match s.getRunner id with
  | .ok _ => none
  | .error _ => some ()

/-- The next step at `now`. -/
def step (c : Coordinator) (limits : RequestLimits) (now : Instant) (call : DeleteCall) :
    Coordinator × Progress DeleteCall (Except DeleteError Unit) :=
  let goOn (c : Coordinator) (point : DeletePoint) :
      Coordinator × Progress DeleteCall (Except DeleteError Unit) :=
    (c, .waits { call with point })
  match call.point with
  | .resolving =>
    match c.store.getByCloudId call.cloudId with
    | .ok runner => goOn c (.routing runner.id)
    | .error (.runnerNotFound runner) => goOn c (.withdrawing runner)
    | .error e => if e.isNotFound then succeed c "already_gone" else fail c (.lookup e)
  | .withdrawing runner =>
    match c.outbox.withdrawCreate runner with
    | (outbox, some _) => goOn { c with outbox } (.forgetting "withdrawn")
    | (_, none) => goOn c (.awaitingReport runner (watchFrom limits now))
  | .forgetting label => succeed { c with store := (c.store.forgetCloudId call.cloudId).1 } label
  | .awaitingReport runner watch =>
    match watch.resume now limits.poll (c.store.getRunner runner).toOption with
    | .seen found => goOn c (.routing found.id)
    | .expired => goOn c (.forgetting "never_reported")
    | .waits watch => goOn c (.awaitingReport runner watch)
  | .routing runner =>
    match c.store.agentOfRunner runner with
    | .ok agent => goOn c (.ordering runner agent)
    | .error e => fail c (.noOwner e)
  | .ordering runner agent =>
    goOn { c with outbox := c.outbox.enqueue agent (.deleteRunner runner call.requestId) }
      (.awaitingRemoval runner (watchFrom limits now))
  | .awaitingRemoval runner watch =>
    match watch.resume now limits.poll (gone? c.store runner) with
    | .seen () => succeed c "success"
    | .expired => succeed c "unconfirmed"
    | .waits watch => goOn c (.awaitingRemoval runner watch)

end DeleteCall

end RunnerFleet

import RunnerFleet.Coordinator.Basic
import RunnerFleet.Documents.Fleet
import RunnerFleet.Http.Exchange
import RunnerFleet.Metrics.Exposition

/-!
# The coordinator's read-only HTTP interface

Agents with their load, runners, metrics, and a sign of life. Answers are JSON documents in one
envelope; the metrics are the text exposition.
-/

namespace RunnerFleet.Http

/-- What the interface offers. -/
inductive Resource where
  | agents
  | agent (id : AgentId)
  | runnersOf (agent : AgentId)
  | runners
  | runner (id : RunnerId)
  | metrics
  | health
  deriving DecidableEq, Repr

namespace Resource

/-- A route: its pattern, and the resource that it offers for what fills the holes. -/
structure Route where
  pattern : List Segment
  resource : List String → Option Resource

/-- All routes. -/
def routes : List Route :=
  let api (rest : List Segment) : List Segment := [.word "", .word "api", .word "v1"] ++ rest
  let one (f : String → Resource) : List String → Option Resource
    | [id] => some (f id)
    | _ => none
  [⟨api [.word "agents"], fun _ => some agents⟩,
    ⟨api [.word "agents", .hole], one agent⟩,
    ⟨api [.word "agents", .hole, .word "runners"], one runnersOf⟩,
    ⟨api [.word "runners"], fun _ => some runners⟩,
    ⟨api [.word "runners", .hole], one runner⟩,
    ⟨[.word "", .word "metrics"], fun _ => some metrics⟩,
    ⟨[.word "", .word "healthz"], fun _ => some health⟩]

/-- The resource that a path names; an error when a part of the path stands for no text. -/
def ofPath? (target : String) : Option (Except Answer Resource) :=
  routes.findSome? fun route =>
    match fill? route.pattern (segmentsOf target) with
    | none => none
    | some parts =>
      match parts.mapM decodeSegment? with
      | none => some (.error invalidSegment)
      | some parts => (route.resource parts).map .ok

end Resource

/-- The envelope of a success. -/
def success (data : Json) : Answer :=
  .ofJson 200 (.ofFields [("success", .bool true), ("data", data)])

/-- The envelope of a failure. -/
def failure (status : Nat) (message : String) : Answer :=
  .ofJson status (.ofFields [("success", .bool false), ("error", .text message)])

/-- An agent with what the coordinator knows of its load. -/
def agentView (c : Coordinator) (agent : Agent) : Json :=
  .ofFields (agent.fields ++
    [("active_runners", .ofNat (c.store.activeCount agent.id)),
      ("stream_connected", .bool (c.streams.isConnected agent.id))])

/-- A success with the view of what was found, or the store's failure. -/
def answerOf {α : Type} (view : α → Json) : Except StoreError α → Answer
  | .ok a => success (view a)
  | .error e => failure 404 e.message

/-- What a resource shows. -/
def Resource.answer (c : Coordinator) : Resource → Answer
  | agents => success (.list (c.store.listAgents.map (agentView c)))
  | agent id => answerOf (agentView c) (c.store.getAgent id)
  | runnersOf id =>
    answerOf (fun _ => .list ((c.store.runnersOf id).map Runner.toJson)) (c.store.getAgent id)
  | runners => success (.list (c.store.listRunners.map Runner.toJson))
  | runner id => answerOf Runner.toJson (c.store.getRunner id)
  | metrics =>
    { Answer.ofText 200 (Exposition.render c.gauges c.counters) with
      contentType := some "text/plain; version=0.0.4" }
  | health => success (.text "ok")

/-- Serves one request. -/
def serveApi (c : Coordinator) (method target : String) : Answer :=
  match Resource.ofPath? target with
  | none => .notFound
  | some resource =>
    let answer := match resource with
      | .ok r => r.answer c
      | .error refused => refused
    if method = "GET" then answer
    else if method = "HEAD" then answer.withoutBody
    else .methodNotAllowed "GET,HEAD"

end RunnerFleet.Http

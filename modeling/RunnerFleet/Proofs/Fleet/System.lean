import Mathlib
import RunnerFleet.Coordinator.Deleting
import RunnerFleet.Coordinator.Sweep
import RunnerFleet.Coordinator.SyncStream
import RunnerFleet.Proofs.Hosting.Creations

/-!
# Runs of a whole fleet

A coordinator with its requests, its sweeps and its sync streams, the replies under way, and the
hosts. What a task of the coordinator does to the shared state is split so that any other steps may
come in between: looking up the free slots of one agent after the other, registering a cloud id and
queueing a creation are apart, and so are the parts of a sweep and of processing a snapshot.
`Adding.steps_eq_begin`, `Sweeping.step_step_eq_sweepOne` and `Link.work_eq_onSnapshot` put the
parts together again.

The outside is free: agents send any snapshots at any time, requests are given up, a stream ends or
is no longer listened to, and a reply that is under way gets lost or comes late, but it never comes
twice. The store lists its agents in any order, another one each time.
-/

namespace RunnerFleet

/-! ## Add requests -/

/-- How far an add request is. -/
inductive AddPoint where
  /-- Looks up the free slots of the agents that are left, beside the best one so far. -/
  | weighing (rest : List Agent) (best : Option Candidate)
  | chosen (agent : AgentId)
  | registered (agent : AgentId)
  | waiting (watch : Watch)

/-- An add request. -/
structure Adding where
  /-- The id that the request mints once it has chosen an agent. -/
  runner : RunnerId
  began : Instant
  request : Wire.AddRequest
  requestId : String
  point : AddPoint

namespace Adding

/-- Lists the online agents, in any order; with other agents no request begins. -/
def begin? (c : Coordinator) (now : Instant) (online : List Agent) (runner : RunnerId)
    (request : Wire.AddRequest) (requestId : String) : Option Adding :=
  if online.Perm c.store.onlineAgents then
    some ⟨runner, now, request, requestId, .weighing online none⟩
  else none

/-- The better one of the best so far and an agent, as the store shows the agent now. -/
def weigh (s : Store) (best : Option Candidate) (agent : Agent) : Option Candidate :=
  match Placement.candidate? s agent with
  | some c => Placement.better best c
  | none => best

/-- The next step of the request; nothing is left of one that is over. -/
def step (c : Coordinator) (limits : RequestLimits) (now : Instant) (a : Adding) :
    Coordinator × Option Adding :=
  match a.point with
  | .weighing (agent :: rest) best =>
    (c, some { a with point := .weighing rest (weigh c.store best agent) })
  | .weighing [] (some best) => (c, some { a with point := .chosen best.agentId })
  | .weighing [] none =>
    ((AddCall.fail c (.ofMillis (now - a.began)) (.noAgent .noAvailableAgent)).1, none)
  | .chosen agent =>
    ({ c with store := c.store.registerCloudId (cloudIdOf a.runner) a.runner },
      some { a with point := .registered agent })
  | .registered agent =>
    ({ c with
        outbox := c.outbox.enqueue agent
          (.createRunner a.runner a.request.runnerName a.request.setupScript a.requestId) },
      some { a with point := .waiting ⟨now + limits.poll.ticks, now + limits.add.ticks⟩ })
  | .waiting watch =>
    match AddCall.resume c limits now ⟨a.runner, a.began, watch⟩ with
    | (c, .finished _) => (c, none)
    | (c, .waits call) => (c, some { a with point := .waiting call.watch })

/-- The runner whose id the next step mints. -/
def mints? (a : Adding) : Option RunnerId :=
  match a.point with
  | .weighing [] (some _) => some a.runner
  | _ => none

section Undisturbed

/-- The steps of a request that nothing comes between. -/
def steps (limits : RequestLimits) (now : Instant) :
    Nat → Coordinator → Adding → Coordinator × Option Adding
  | 0, c, a => (c, some a)
  | n + 1, c, a =>
    match a.step c limits now with
    | (c, some a) => steps limits now n c a
    | (c, none) => (c, none)

theorem foldl_weigh (s : Store) (best : Option Candidate) {online : List Agent}
    (honline : ∀ agent ∈ online, agent.status = .online) :
    online.foldl (weigh s) best =
      (Placement.candidatesAmong s online).foldl Placement.better best := by
  have hall : online.filter (·.status == .online) = online :=
    List.filter_eq_self.2 fun agent hagent => beq_iff_eq.2 (honline agent hagent)
  rw [Placement.candidatesAmong, hall]
  clear hall honline
  induction online generalizing best with
  | nil => rfl
  | cons agent rest ih =>
    rw [List.foldl_cons, ih, weigh, List.filterMap_cons]
    cases Placement.candidate? s agent <;> rfl

variable (c : Coordinator) (limits : RequestLimits) (now : Instant) (runner : RunnerId)
  (request : Wire.AddRequest) (requestId : String)

theorem steps_weighing (n : Nat) (rest : List Agent) (best : Option Candidate) :
    steps limits now (rest.length + n) c ⟨runner, now, request, requestId, .weighing rest best⟩ =
      steps limits now n c
        ⟨runner, now, request, requestId, .weighing [] (rest.foldl (weigh c.store) best)⟩ := by
  induction rest generalizing best with
  | nil => rw [List.length_nil, Nat.zero_add, List.foldl_nil]
  | cons agent rest ih =>
    rw [List.length_cons, Nat.succ_add, List.foldl_cons, ← ih]
    rfl

/-- The steps of an undisturbed request make up its beginning. -/
theorem steps_eq_begin {online : List Agent}
    (honline : ∀ agent ∈ online, agent.status = .online) :
    steps limits now (online.length + 3) c
        ⟨runner, now, request, requestId, .weighing online none⟩ =
      match AddCall.begin c limits now online runner request requestId with
      | (c', .waits call) =>
        (c', some ⟨call.runner, call.began, request, requestId, .waiting call.watch⟩)
      | (c', .finished _) => (c', none) := by
  rw [steps_weighing, foldl_weigh c.store none honline, ← Placement.best?, AddCall.begin,
    Placement.selectAmong]
  cases Placement.best? (Placement.candidatesAmong c.store online) with
  | none =>
    have hnow : Span.ofMillis (now - now) = ⟨0⟩ := by rw [Nat.sub_self]; rfl
    simp only [steps, step, hnow]
    rfl
  | some best => rfl

end Undisturbed

end Adding

/-! ## Sweeps -/

/-- Where a sweep is with the runner that comes next. -/
inductive SweepPoint where
  | attributing
  | queueing (agent : AgentId)
  /-- No agent owns the runner. -/
  | dropping

/-- A sweep with the runners that are left to it. -/
structure Sweeping where
  rest : List Runner
  point : SweepPoint

namespace Sweeping

/-- A sweep at the wall-clock moment `now`. -/
def begin (c : Coordinator) (now : UInt64) (grace : Span) : Sweeping :=
  ⟨c.store.listRunners.filter (Sweep.takes now (Sweep.graceMillis grace)), .attributing⟩

def step (c : Coordinator) (w : Sweeping) : Coordinator × Sweeping :=
  match w.rest, w.point with
  | [], _ => (c, w)
  | runner :: _, .attributing =>
    match c.store.agentOfRunner runner.id with
    | .ok agent => (c, { w with point := .queueing agent })
    | .error _ => (c, { w with point := .dropping })
  | runner :: rest, .queueing agent =>
    ({ c with outbox := (c.outbox.enqueueUnique agent (Sweep.deletion runner.id)).1 },
      ⟨rest, .attributing⟩)
  | runner :: rest, .dropping =>
    ({ c with store := (c.store.deleteRunner runner.id).1 }, ⟨rest, .attributing⟩)

theorem step_step_eq_sweepOne (c : Coordinator) (report : SweepReport) (runner : Runner)
    (rest : List Runner) :
    let next := fun x : Coordinator × Sweeping => step x.1 x.2
    next (next (c, ⟨runner :: rest, .attributing⟩)) =
      ((Sweep.sweepOne (c, report) runner).1, ⟨rest, .attributing⟩) := by
  intro next
  simp only [next, step, Sweep.sweepOne]
  cases c.store.agentOfRunner runner.id with
  | ok agent =>
    simp only
    rcases hqueue : c.outbox.enqueueUnique agent (Sweep.deletion runner.id) with
      ⟨outbox, queued⟩
    cases queued with
    | true => rfl
    | false =>
      have hsame : outbox = c.outbox := by
        unfold Outbox.enqueueUnique at hqueue
        split at hqueue
        · cases hqueue
          rfl
        · cases hqueue
      subst hsame
      rfl
  | error e =>
    simp only
    rcases c.store.deleteRunner runner.id with ⟨store, removed⟩
    cases removed <;> rfl

end Sweeping

/-! ## Streams -/

/-- How far a stream is in processing a snapshot. -/
inductive StreamPoint where
  | idle
  | bound (snapshot : Wire.Snapshot)
  | marked (snapshot : Wire.Snapshot)
  | reported
  /-- The reply is about to be sent. -/
  | taken (command : Command)

/-- A sync stream of a host, with what is under way to the host. -/
structure Link where
  host : Nat
  stream : SyncStream
  point : StreamPoint
  underway : List StreamItem

namespace Link

/-- A stream that a host has just opened. -/
def opened (host : Nat) : Link := ⟨host, .opened, .idle, []⟩

/-- The stream after an operation, with what the operation sends. -/
def after (l : Link) (x : Coordinator × SyncStream × List StreamItem) : Coordinator × Link :=
  (x.1, { l with stream := x.2.1, point := .idle, underway := l.underway ++ x.2.2 })

/-- A snapshot has come. -/
def hear (c : Coordinator) (l : Link) (snapshot : Wire.Snapshot) : Coordinator × Link :=
  match l.point with
  | .idle =>
    if l.stream.closed then (c, l)
    else
      let x := l.stream.bind c snapshot
      (x.1, { l with stream := { l.stream with binding := some x.2 }, point := .bound snapshot })
  | _ => (c, l)

/-- The next step in processing a snapshot. -/
def work (c : Coordinator) (l : Link) : Coordinator × Link :=
  match l.point, l.stream.binding with
  | .bound snapshot, some b =>
    match c.store.setAgentStatus b.agentId .online with
    | (store, .error _) => l.after (l.stream.refuse { c with store } b)
    | (store, .ok ()) => ({ c with store }, { l with point := .marked snapshot })
  | .marked snapshot, some b =>
    (SyncStream.reconcile c b.agentId snapshot, { l with point := .reported })
  | .reported, some b =>
    let x := c.outbox.next b.agentId
    ({ c with outbox := x.1 }, { l with point := .taken x.2 })
  | .taken command, _ =>
    if l.stream.listening then l.after (c, l.stream, [.reply (.ofCommand command)])
    else l.after (l.stream.finish c)
  | _, _ => (c, l)

/-- The agent has hung up, or what it sent cannot be read. -/
def hangUp (c : Coordinator) (l : Link) : Coordinator × Link :=
  match l.point with
  | .idle => if l.stream.closed then (c, l) else l.after (l.stream.finish c)
  | _ => (c, l)

/-- The agent does not listen to replies any more. -/
def deafen (l : Link) : Link := { l with stream := { l.stream with listening := false } }

/-- An item that is under way is so no longer. -/
def lose (l : Link) (j : Nat) : Link := { l with underway := l.underway.eraseIdx j }

/-- The coordinator's end is gone. -/
def cut (l : Link) : Link :=
  { l with
    stream := { l.stream with binding := none, buffer := [], closed := true }
    point := .idle }

/-- The steps of an undisturbed stream make up the processing of a snapshot. -/
theorem work_eq_onSnapshot (c : Coordinator) (l : Link) (snapshot : Wire.Snapshot)
    (hidle : l.point = .idle) (hopen : l.stream.closed = false) :
    let next := fun x : Coordinator × Link => work x.1 x.2
    next (next (next (next (l.hear c snapshot)))) = l.after (l.stream.onSnapshot c snapshot) := by
  intro next
  obtain ⟨host, stream, point, underway⟩ := l
  simp only at hidle hopen
  subst hidle
  rcases hbind : stream.bind c snapshot with ⟨c', b⟩
  have hhear : hear c ⟨host, stream, .idle, underway⟩ snapshot =
      (c', ⟨host, { stream with binding := some b }, .bound snapshot, underway⟩) := by
    simp [hear, hopen, hbind]
  simp only [hhear, SyncStream.onSnapshot, hbind, after]
  rcases hstatus : c'.store.setAgentStatus b.agentId .online with ⟨store, _ | _⟩
  · simp only [next, work, hstatus, after]
  · simp only [next, work, hstatus, after]
    cases hlistening : stream.listening with
    | true => rfl
    | false => rfl

end Link

/-! ## Deletions -/

/-- A request that is not over. -/
def Progress.call? {Call Result : Type} : Progress Call Result → Option Call
  | .finished _ => none
  | .waits call => some call

/-- The runner whose queued creation the next step of a delete request takes back. -/
def DeleteCall.withdraws? (c : Coordinator) (call : DeleteCall) : Option RunnerId :=
  match call.point with
  | .withdrawing runner => (c.outbox.withdrawCreate runner).2.map fun _ => runner
  | _ => none

/-! ## The fleet -/

/-- Puts something in the place of an element, or takes the element away. -/
def replaceAt {α : Type} (l : List α) (i : Nat) : Option α → List α
  | some a => l.set i a
  | none => l.eraseIdx i

/-- A coordinator, what its tasks are at, and the hosts. -/
structure Fleet (V : VmService) where
  coordinator : Coordinator
  adds : List Adding
  deletes : List DeleteCall
  sweeps : List Sweeping
  links : List Link
  hosts : List (HostRun V)
  /-- The ids that add requests have minted. -/
  minted : List RunnerId
  /-- The runners whose queued creation a delete request has taken back. -/
  withdrawn : List RunnerId

/-- What may happen in a fleet. Requests, sweeps, streams, replies and hosts are named by where they
stand in their lists. -/
inductive FleetEvent (V : VmService) where
  /-- A host starts, over VMs in whatever state. -/
  | joins (vms : V.State)
  | register (minted : AgentId) (r : Wire.Registration)
  /-- A request for a runner; `online` are the online agents, as the store lists them. -/
  | add (now : Instant) (online : List Agent) (runner : RunnerId) (request : Wire.AddRequest)
    (requestId : String)
  | addGoesOn (i : Nat) (now : Instant)
  | addGivenUp (i : Nat)
  | delete (cloudId : CloudId) (requestId : String)
  | deleteGoesOn (i : Nat) (now : Instant)
  | deleteGivenUp (i : Nat)
  | sweep (now : UInt64) (grace : Span)
  | sweepGoesOn (i : Nat)
  /-- The gauges are collected, for as long as their task has not ended. -/
  | collect
  /-- A host opens a sync stream. -/
  | connect (host : Nat)
  | snapshot (i : Nat) (s : Wire.Snapshot)
  | streamGoesOn (i : Nat)
  | hangUp (i : Nat)
  | deafen (i : Nat)
  | lose (i j : Nat)
  /-- A reply that is under way comes to the stream's host. -/
  | deliver (i j : Nat) (agent : AgentId) (now : UInt64)
  | host (i : Nat) (m : Move V)
  /-- The coordinator starts anew; what is under way stays so. -/
  | restart

namespace Fleet

variable {V : VmService}

/-- A coordinator that has just started, and no hosts yet. -/
def start : Fleet V := ⟨.initial, [], [], [], [], [], [], []⟩

def onAdd (f : Fleet V) (limits : RequestLimits) (now : Instant) (i : Nat) : Fleet V :=
  match f.adds[i]? with
  | some a =>
    let (coordinator, next) := a.step f.coordinator limits now
    { f with
      coordinator
      adds := replaceAt f.adds i next
      minted := f.minted ++ a.mints?.toList }
  | none => f

def onDelete (f : Fleet V) (limits : RequestLimits) (now : Instant) (i : Nat) : Fleet V :=
  match f.deletes[i]? with
  | some call =>
    let (coordinator, next) := call.step f.coordinator limits now
    { f with
      coordinator
      deletes := replaceAt f.deletes i next.call?
      withdrawn := f.withdrawn ++ (call.withdraws? f.coordinator).toList }
  | none => f

def onSweep (f : Fleet V) (i : Nat) : Fleet V :=
  match f.sweeps[i]? with
  | some w =>
    let (coordinator, next) := w.step f.coordinator
    { f with coordinator, sweeps := f.sweeps.set i next }
  | none => f

def onLink (f : Fleet V) (i : Nat) (act : Coordinator → Link → Coordinator × Link) : Fleet V :=
  match f.links[i]? with
  | some l =>
    let (coordinator, next) := act f.coordinator l
    { f with coordinator, links := f.links.set i next }
  | none => f

def onHost (f : Fleet V) (i : Nat) (act : HostRun V → HostRun V) : Fleet V :=
  match f.hosts[i]? with
  | some h => { f with hosts := f.hosts.set i (act h) }
  | none => f

/-- A reply leaves its stream and comes to the host. -/
def deliver (f : Fleet V) (i j : Nat) (agent : AgentId) (now : UInt64) : Fleet V :=
  match f.links[i]? with
  | some l =>
    match l.underway[j]? with
    | some (.reply r) =>
      ({ f with links := f.links.set i (l.lose j) } : Fleet V).onHost l.host
        fun h => h.receive agent now r
    | _ => f
  | none => f

def onEvent (limits : RequestLimits) (f : Fleet V) : FleetEvent V → Fleet V
  | .joins vms => { f with hosts := f.hosts ++ [.start vms] }
  | .register minted r => { f with coordinator := f.coordinator.register minted r }
  | .add now online runner request requestId =>
    { f with
      adds := f.adds ++ (Adding.begin? f.coordinator now online runner request requestId).toList }
  | .addGoesOn i now => f.onAdd limits now i
  | .addGivenUp i => { f with adds := f.adds.eraseIdx i }
  | .delete cloudId requestId => { f with deletes := f.deletes ++ [.new cloudId requestId] }
  | .deleteGoesOn i now => f.onDelete limits now i
  | .deleteGivenUp i => { f with deletes := f.deletes.eraseIdx i }
  | .sweep now grace => { f with sweeps := f.sweeps ++ [.begin f.coordinator now grace] }
  | .sweepGoesOn i => f.onSweep i
  | .collect => { f with coordinator := f.coordinator.collect?.getD f.coordinator }
  | .connect host => { f with links := f.links ++ [.opened host] }
  | .snapshot i s => f.onLink i fun c l => l.hear c s
  | .streamGoesOn i => f.onLink i fun c l => l.work c
  | .hangUp i => f.onLink i fun c l => l.hangUp c
  | .deafen i => f.onLink i fun c l => (c, l.deafen)
  | .lose i j => f.onLink i fun c l => (c, l.lose j)
  | .deliver i j agent now => f.deliver i j agent now
  | .host i m => f.onHost i fun h => h.step m
  | .restart =>
    { f with
      coordinator := .initial
      adds := []
      deletes := []
      sweeps := []
      links := f.links.map Link.cut }

/-- The fleet after some events. -/
def after (limits : RequestLimits) (f : Fleet V) (es : List (FleetEvent V)) : Fleet V :=
  es.foldl (onEvent limits) f

theorem after_append_singleton (limits : RequestLimits) (f : Fleet V) (es : List (FleetEvent V))
    (e : FleetEvent V) : f.after limits (es ++ [e]) = (f.after limits es).onEvent limits e := by
  simp only [after, List.foldl_append, List.foldl_cons, List.foldl_nil]

/-- How often the hosts have asked for the creation of the runner's VM. -/
def createCalls (f : Fleet V) (runner : RunnerId) : Nat :=
  (f.hosts.map (·.createCalls runner)).sum

end Fleet

end RunnerFleet

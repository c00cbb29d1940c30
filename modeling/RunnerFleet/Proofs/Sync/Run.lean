import RunnerFleet.Proofs.Coordinator.Outbox
import RunnerFleet.Proofs.Coordinator.Streams
import RunnerFleet.Proofs.Fleet.System

/-!
# Runs of sync streams

A coordinator with its streams, beside producers that queue commands and take creations back. The
steps of a stream are those of `Link`, so that between any two parts of processing one snapshot the
other streams and the producers may do anything.

The history of a run keeps in order what happened (`SyncDeed`); what a step adds to it is read off
the state before the step (`SyncRun.news`). `Link.Change` says once what a step of a stream can do,
and `SyncRun.Stepped` what a step of the run can do.
-/

namespace RunnerFleet

/-- What stays in the history of a run. Streams are numbered in the order they are opened. -/
inductive SyncDeed where
  | registered (agent : AgentId)
  | accepted (agent : AgentId) (command : Command)
  | withdrew (agent : AgentId) (runner : RunnerId)
  /-- The first snapshot of a stream names its agent. -/
  | named (stream : Nat) (agent : AgentId)
  | heard (stream : Nat) (snapshot : Wire.Snapshot)
  /-- The agent is marked online. -/
  | marked (stream : Nat) (agent : AgentId)
  /-- The agent is not registered. -/
  | refused (stream : Nat) (agent : AgentId)
  /-- The oldest command of the agent is taken, if one waits. -/
  | popped (stream : Nat) (agent : AgentId) (oldest : Option Command)
  | replied (stream : Nat) (reply : Wire.Reply) (listened : Bool)
  | ended (stream : Nat)
  deriving DecidableEq, Repr

/-- The stream that a deed is of. -/
def SyncDeed.stream? : SyncDeed → Option Nat
  | registered _ | accepted _ _ | withdrew _ _ => none
  | named i _ | heard i _ | marked i _ | refused i _ | popped i _ _ | replied i _ _ | ended i =>
    some i

/-! ## Steps of a stream -/

namespace Link

/-- What may happen to a stream. -/
inductive Act where
  | snapshot (s : Wire.Snapshot)
  | goesOn
  | hangUp
  | deafen
  deriving DecidableEq, Repr

def act (c : Coordinator) (l : Link) : Act → Coordinator × Link
  | .snapshot s => l.hear c s
  | .goesOn => l.work c
  | .hangUp => l.hangUp c
  | .deafen => (c, l.deafen)

/-- What a step of the stream with this number adds to the history. -/
def deeds (i : Nat) (c : Coordinator) (l : Link) (a : Act) : List SyncDeed :=
  match a, l.point, l.stream.binding with
  | .snapshot s, .idle, none =>
    if l.stream.closed then [] else [.named i s.agentId, .heard i s]
  | .snapshot s, .idle, some _ => if l.stream.closed then [] else [.heard i s]
  | .hangUp, .idle, _ => if l.stream.closed then [] else [.ended i]
  | .goesOn, .bound _, some b =>
    if c.store.agents.contains b.agentId then [.marked i b.agentId] else [.refused i b.agentId]
  | .goesOn, .reported, some b => [.popped i b.agentId (c.outbox.queueOf b.agentId).head?]
  | .goesOn, .taken command, _ =>
    if l.stream.listening then [.replied i (.ofCommand command) true]
    else [.replied i (.ofCommand command) false, .ended i]
  | _, _, _ => []

/-- The stream once the coordinator has ended it. -/
def close (l : Link) (items : List StreamItem) : Link :=
  { l with
    stream := { l.stream with closed := true, buffer := [] }
    point := .idle
    underway := l.underway ++ l.stream.heard items }

theorem after_finish (c : Coordinator) (l : Link) :
    l.after (l.stream.finish c) = ((l.stream.finish c).1, l.close [.ended]) := by
  unfold SyncStream.finish
  split <;> rfl

/-- What a step of a stream can do to the coordinator and to itself, with its deeds. -/
inductive Change (i : Nat) (c : Coordinator) (l : Link) :
    Coordinator → Link → List SyncDeed → Prop
  | none : Change i c l c l []
  | deafened : Change i c l c l.deafen []
  | named (s : Wire.Snapshot) (hidle : l.point = .idle) (hopen : l.stream.closed = false)
      (hfirst : l.stream.binding = .none) :
      Change i c l { c with streams := (c.streams.attach s.agentId).1 }
        { l with
          stream := { l.stream with
            binding := some ⟨s.agentId, (c.streams.attach s.agentId).2⟩ }
          point := .bound s }
        [.named i s.agentId, .heard i s]
  | heard (s : Wire.Snapshot) (b : StreamBinding) (hidle : l.point = .idle)
      (hopen : l.stream.closed = false) (hbinding : l.stream.binding = some b) :
      Change i c l c { l with point := .bound s } [.heard i s]
  | marked (s : Wire.Snapshot) (b : StreamBinding) (agent : Agent) (hpoint : l.point = .bound s)
      (hbinding : l.stream.binding = some b)
      (hagent : c.store.agents.get? b.agentId = some agent) :
      Change i c l
        { c with store := { c.store with
            agents := c.store.agents.insert b.agentId { agent with status := .online } } }
        { l with point := .marked s } [.marked i b.agentId]
  | refused (s : Wire.Snapshot) (b : StreamBinding) (hpoint : l.point = .bound s)
      (hbinding : l.stream.binding = some b)
      (hagent : c.store.agents.get? b.agentId = .none) :
      Change i c l { c with streams := (c.streams.detach b.agentId b.generation).1 }
        (l.close [.notRegistered b.agentId, .ended]) [.refused i b.agentId]
  | reported (s : Wire.Snapshot) (b : StreamBinding) (hpoint : l.point = .marked s)
      (hbinding : l.stream.binding = some b) :
      Change i c l (SyncStream.reconcile c b.agentId s) { l with point := .reported } []
  | popped (b : StreamBinding) (hpoint : l.point = .reported)
      (hbinding : l.stream.binding = some b) :
      Change i c l { c with outbox := (c.outbox.next b.agentId).1 }
        { l with point := .taken (c.outbox.next b.agentId).2 }
        [.popped i b.agentId (c.outbox.queueOf b.agentId).head?]
  | replied (command : Command) (hpoint : l.point = .taken command)
      (hlistens : l.stream.listening = true) :
      Change i c l c
        { l with point := .idle, underway := l.underway ++ [.reply (.ofCommand command)] }
        [.replied i (.ofCommand command) true]
  /-- The reply reaches no one, and the stream ends. -/
  | missed (command : Command) (hpoint : l.point = .taken command)
      (hdeaf : l.stream.listening = false) :
      Change i c l (l.stream.finish c).1 (l.close [.ended])
        [.replied i (.ofCommand command) false, .ended i]
  | ended (hidle : l.point = .idle) (hopen : l.stream.closed = false) :
      Change i c l (l.stream.finish c).1 (l.close [.ended]) [.ended i]

section

variable (i : Nat) (c : Coordinator) (l : Link)

theorem change_hear (s : Wire.Snapshot) :
    l.Change i c (l.hear c s).1 (l.hear c s).2 (l.deeds i c (.snapshot s)) := by
  unfold hear deeds
  cases hpoint : l.point with
  | idle =>
    cases hclosed : l.stream.closed with
    | true =>
      cases l.stream.binding <;> exact .none
    | false =>
      cases hbinding : l.stream.binding with
      | none =>
        simp only [SyncStream.bind, hbinding]
        exact .named s hpoint hclosed hbinding
      | some b =>
        simp only [SyncStream.bind, hbinding]
        have hsame : { l.stream with binding := some b } = l.stream := by rw [← hbinding]
        rw [hsame]
        exact .heard s b hpoint hclosed hbinding
  | bound s => exact .none
  | marked s => exact .none
  | reported => exact .none
  | taken command => exact .none

theorem change_work : l.Change i c (l.work c).1 (l.work c).2 (l.deeds i c .goesOn) := by
  unfold work deeds
  cases hpoint : l.point with
  | idle => cases l.stream.binding <;> exact .none
  | bound s =>
    cases hbinding : l.stream.binding with
    | none => exact .none
    | some b =>
      cases hagent : c.store.agents.get? b.agentId with
      | none =>
        simp only [Store.setAgentStatus, hagent, Table.contains]
        exact .refused s b hpoint hbinding hagent
      | some agent =>
        simp only [Store.setAgentStatus, hagent, Table.contains]
        exact .marked s b agent hpoint hbinding hagent
  | marked s =>
    cases hbinding : l.stream.binding with
    | none => exact .none
    | some b => exact .reported s b hpoint hbinding
  | reported =>
    cases hbinding : l.stream.binding with
    | none => exact .none
    | some b => exact .popped b hpoint hbinding
  | taken command =>
    cases hlistening : l.stream.listening with
    | true => exact .replied command hpoint hlistening
    | false =>
      simp only [Bool.false_eq_true, if_false, after_finish]
      exact .missed command hpoint hlistening

theorem change_hangUp : l.Change i c (l.hangUp c).1 (l.hangUp c).2 (l.deeds i c .hangUp) := by
  unfold hangUp deeds
  cases hpoint : l.point with
  | idle =>
    cases hclosed : l.stream.closed with
    | true => exact .none
    | false =>
      simp only [Bool.false_eq_true, if_false, after_finish]
      exact .ended hpoint hclosed
  | bound s => exact .none
  | marked s => exact .none
  | reported => exact .none
  | taken command => exact .none

theorem change_act (a : Act) : l.Change i c (l.act c a).1 (l.act c a).2 (l.deeds i c a) := by
  cases a with
  | snapshot s => exact change_hear i c l s
  | goesOn => exact change_work i c l
  | hangUp => exact change_hangUp i c l
  | deafen => exact .deafened

end

section

variable {i : Nat} {c c' : Coordinator} {l l' : Link} {ds : List SyncDeed} {agent : AgentId}

theorem Change.stream (h : l.Change i c c' l' ds) {d : SyncDeed} (hd : d ∈ ds) :
    d.stream? = some i := by
  cases h <;> simp only [List.mem_cons, List.not_mem_nil, or_false] at hd <;>
    rcases hd with rfl | rfl <;> rfl

/-- A stream that is closed stays so. -/
theorem Change.closed (h : l.Change i c c' l' ds) (hclosed : l.stream.closed = true) :
    l'.stream.closed = true := by
  cases h with
  | named s _ hopen => exact absurd (hopen.symm.trans hclosed) (by decide)
  | refused s b => rfl
  | missed command => rfl
  | ended => rfl
  | _ => exact hclosed

theorem Change.closed_of_ended (h : l.Change i c c' l' ds) (hd : .ended i ∈ ds) :
    l'.stream.closed = true := by
  cases h with
  | missed command => rfl
  | ended => rfl
  | _ => simp at hd

/-- A stream that is closed processes no snapshot. -/
theorem Change.idle (h : l.Change i c c' l' ds)
    (hidle : l.stream.closed = true → l.point = .idle) (hclosed : l'.stream.closed = true) :
    l'.point = .idle := by
  cases h with
  | none => exact hidle hclosed
  | deafened => exact hidle hclosed
  | refused s b => rfl
  | replied command => rfl
  | missed command => rfl
  | ended => rfl
  | named s _ hopen => exact absurd (hopen.symm.trans hclosed) (by decide)
  | heard s b _ hopen => exact absurd (hopen.symm.trans hclosed) (by decide)
  | marked s b agent hpoint => cases hpoint.symm.trans (hidle hclosed)
  | reported s b hpoint => cases hpoint.symm.trans (hidle hclosed)
  | popped b hpoint => cases hpoint.symm.trans (hidle hclosed)

theorem Change.eq_nil_of_closed (h : l.Change i c c' l' ds) (hclosed : l.stream.closed = true)
    (hidle : l.point = .idle) : ds = [] := by
  cases h with
  | none => rfl
  | deafened => rfl
  | named s _ hopen => exact absurd (hopen.symm.trans hclosed) (by decide)
  | heard s b _ hopen => exact absurd (hopen.symm.trans hclosed) (by decide)
  | ended _ hopen => exact absurd (hopen.symm.trans hclosed) (by decide)
  | marked s b agent hpoint => cases hidle.symm.trans hpoint
  | refused s b hpoint => cases hidle.symm.trans hpoint
  | reported s b hpoint => rfl
  | popped b hpoint => cases hidle.symm.trans hpoint
  | replied command hpoint => cases hidle.symm.trans hpoint
  | missed command hpoint => cases hidle.symm.trans hpoint

/-- No stream registers an agent or forgets one. -/
theorem Change.contains (h : l.Change i c c' l' ds) (agent : AgentId) :
    c'.store.agents.contains agent = c.store.agents.contains agent := by
  cases h with
  | marked s b known _ _ hknown =>
    simp only [Table.contains, Table.get?_insert]
    split
    · next heq => rw [heq, hknown, Option.isSome_some, Option.isSome_some]
    · rfl
  | reported s b => rw [SyncStream.agents_reconcile]
  | missed command => exact SyncStream.contains_finish
  | ended => exact SyncStream.contains_finish
  | _ => rfl

/-- What is taken is the oldest command that waits. -/
theorem Change.oldest_of_popped {oldest : Option Command} (h : l.Change i c c' l' ds)
    (hd : .popped i agent oldest ∈ ds) : oldest = (c.outbox.queueOf agent).head? := by
  cases h with
  | popped b =>
    cases List.mem_singleton.1 hd
    rfl
  | _ => simp at hd

theorem Change.contains_of_marked (h : l.Change i c c' l' ds) (hd : .marked i agent ∈ ds) :
    c.store.agents.contains agent = true := by
  cases h with
  | marked s b known hpoint hbinding hknown =>
    cases List.mem_singleton.1 hd
    exact Table.contains_iff.2 ⟨known, hknown⟩
  | _ => simp at hd

/-- A refusal concerns the streams only. -/
theorem Change.still_of_refused (h : l.Change i c c' l' ds) (hd : .refused i agent ∈ ds) :
    c.store.agents.contains agent = false ∧ c'.store = c.store ∧ c'.outbox = c.outbox := by
  cases h with
  | refused s b hpoint hbinding hunknown =>
    cases List.mem_singleton.1 hd
    exact ⟨by rw [Table.contains, hunknown, Option.isSome_none], rfl, rfl⟩
  | _ => simp at hd

/-- The arrival of a snapshot concerns the streams only. -/
theorem Change.still_of_heard {s : Wire.Snapshot} (h : l.Change i c c' l' ds)
    (hd : .heard i s ∈ ds) : c'.store = c.store ∧ c'.outbox = c.outbox := by
  cases h with
  | named s => exact ⟨rfl, rfl⟩
  | heard s b => exact ⟨rfl, rfl⟩
  | _ => simp at hd

end

end Link

/-! ## Lists of streams -/

section Lists

variable {α : Type} {l : List α} {i j : Nat} {x y : α}

theorem getElem?_set_eq_some (h : l[i]? = some x) {z : α} :
    (l.set i y)[j]? = some z ↔ if j = i then z = y else l[j]? = some z := by
  have hlt : i < l.length := (List.getElem?_eq_some_iff.1 h).1
  split
  · next hj =>
    subst hj
    rw [List.getElem?_set_self hlt, Option.some.injEq, eq_comm]
  · next hj => rw [List.getElem?_set_ne (Ne.symm hj)]

/-- Replacing an element by one with the same image changes no image. -/
theorem map_set_of_same {β : Type} {f : α → β} (h : l[i]? = some x) (hsame : f y = f x) :
    (l.set i y).map f = l.map f := by
  obtain ⟨hlt, rfl⟩ := List.getElem?_eq_some_iff.1 h
  rw [List.map_set, hsame, ← List.map_set, List.set_getElem_self]

theorem getElem?_append_singleton_eq_some :
    (l ++ [x])[j]? = some y ↔ l[j]? = some y ∨ j = l.length ∧ y = x := by
  rw [List.getElem?_append]
  split
  · next hj => simp [Nat.ne_of_lt hj]
  · next hj =>
    have hnone : l[j]? = none := List.getElem?_eq_none_iff.2 (Nat.le_of_not_lt hj)
    rw [hnone, List.getElem?_singleton]
    split
    · next hzero =>
      have hlast : j = l.length := by omega
      simp [hlast, eq_comm]
    · next hzero =>
      have hlast : j ≠ l.length := by omega
      simp [hlast]

end Lists

/-! ## Runs -/

/-- A coordinator with its streams, and the history. -/
structure SyncRun where
  coordinator : Coordinator
  links : List Link
  deeds : List SyncDeed

/-- What may happen to a coordinator and its streams. -/
inductive SyncEvent where
  | register (minted : AgentId) (r : Wire.Registration)
  | enqueue (agent : AgentId) (command : Command)
  | enqueueUnique (agent : AgentId) (command : Command)
  | withdraw (runner : RunnerId)
  /-- A host opens a stream. -/
  | connect (host : Nat)
  | stream (i : Nat) (a : Link.Act)
  deriving DecidableEq, Repr

namespace SyncRun

variable {r : SyncRun}

/-- A coordinator that has just started. -/
def start : SyncRun := ⟨.initial, [], []⟩

/-- What an event adds to the history. -/
def news (r : SyncRun) : SyncEvent → List SyncDeed
  | .register minted _ => [.registered minted]
  | .enqueue agent command => [.accepted agent command]
  | .enqueueUnique agent command =>
    if (r.coordinator.outbox.enqueueUnique agent command).2 then [.accepted agent command] else []
  | .withdraw runner =>
    match (r.coordinator.outbox.withdrawCreate runner).2 with
    | some agent => [.withdrew agent runner]
    | none => []
  | .connect _ => []
  | .stream i a =>
    match r.links[i]? with
    | some l => l.deeds i r.coordinator a
    | none => []

/-- What an event makes of the coordinator and of the streams. -/
def change (r : SyncRun) : SyncEvent → Coordinator × List Link
  | .register minted registration => (r.coordinator.register minted registration, r.links)
  | .enqueue agent command =>
    ({ r.coordinator with outbox := r.coordinator.outbox.enqueue agent command }, r.links)
  | .enqueueUnique agent command =>
    ({ r.coordinator with outbox := (r.coordinator.outbox.enqueueUnique agent command).1 },
      r.links)
  | .withdraw runner =>
    ({ r.coordinator with outbox := (r.coordinator.outbox.withdrawCreate runner).1 }, r.links)
  | .connect host => (r.coordinator, r.links ++ [.opened host])
  | .stream i a =>
    match r.links[i]? with
    | some l => ((l.act r.coordinator a).1, r.links.set i (l.act r.coordinator a).2)
    | none => (r.coordinator, r.links)

def step (r : SyncRun) (e : SyncEvent) : SyncRun :=
  ⟨(r.change e).1, (r.change e).2, r.deeds ++ r.news e⟩

/-- The run of some events. -/
def run (es : List SyncEvent) : SyncRun := es.foldl step start

theorem run_append_singleton (es : List SyncEvent) (e : SyncEvent) :
    run (es ++ [e]) = (run es).step e := by
  simp only [run, List.foldl_append, List.foldl_cons, List.foldl_nil]

/-- What a step can do. -/
inductive Stepped (r : SyncRun) : SyncRun → Prop
  | still : Stepped r r
  | registered (minted : AgentId) (registration : Wire.Registration) :
      Stepped r ⟨r.coordinator.register minted registration, r.links,
        r.deeds ++ [.registered minted]⟩
  | accepted (agent : AgentId) (command : Command) :
      Stepped r ⟨{ r.coordinator with outbox := r.coordinator.outbox.enqueue agent command },
        r.links, r.deeds ++ [.accepted agent command]⟩
  | withdrew (runner : RunnerId) (agent : AgentId)
      (htaken : (r.coordinator.outbox.withdrawCreate runner).2 = some agent) :
      Stepped r
        ⟨{ r.coordinator with outbox := (r.coordinator.outbox.withdrawCreate runner).1 },
          r.links, r.deeds ++ [.withdrew agent runner]⟩
  | connected (host : Nat) :
      Stepped r ⟨r.coordinator, r.links ++ [.opened host], r.deeds⟩
  | stream (i : Nat) (l l' : Link) (c' : Coordinator) (ds : List SyncDeed)
      (hl : r.links[i]? = some l) (hchange : l.Change i r.coordinator c' l' ds) :
      Stepped r ⟨c', r.links.set i l', r.deeds ++ ds⟩

theorem stepped (r : SyncRun) (e : SyncEvent) : r.Stepped (r.step e) := by
  cases e with
  | register minted registration => exact .registered minted registration
  | enqueue agent command => exact .accepted agent command
  | enqueueUnique agent command =>
    simp only [step, change, news, Outbox.enqueueUnique]
    split
    · rw [if_neg Bool.false_ne_true, List.append_nil]
      exact .still
    · exact .accepted agent command
  | withdraw runner =>
    simp only [step, change, news]
    cases htaken : (r.coordinator.outbox.withdrawCreate runner).2 with
    | none =>
      rw [Outbox.withdrawCreate_of_none htaken, List.append_nil]
      exact .still
    | some agent => exact .withdrew runner agent htaken
  | connect host =>
    simp only [step, change, news, List.append_nil]
    exact .connected host
  | stream i a =>
    simp only [step, change, news]
    cases hl : r.links[i]? with
    | none =>
      rw [List.append_nil]
      exact .still
    | some l => exact .stream i l _ _ _ hl (l.change_act i r.coordinator a)

/-- The deeds of streams are made by steps of streams. -/
theorem change_of_news {i : Nat} {e : SyncEvent} {d : SyncDeed} (hd : d ∈ r.news e)
    (hi : d.stream? = some i) : ∃ l l' ds, r.links[i]? = some l ∧
      l.Change i r.coordinator (r.step e).coordinator l' ds ∧ d ∈ ds := by
  cases e with
  | register minted registration =>
    obtain rfl := List.mem_singleton.1 hd
    cases hi
  | enqueue agent command =>
    obtain rfl := List.mem_singleton.1 hd
    cases hi
  | enqueueUnique agent command =>
    simp only [news] at hd
    split at hd
    · obtain rfl := List.mem_singleton.1 hd
      cases hi
    · cases hd
  | withdraw runner =>
    simp only [news] at hd
    split at hd
    · obtain rfl := List.mem_singleton.1 hd
      cases hi
    · cases hd
  | connect host => cases hd
  | stream j a =>
    cases hl : r.links[j]? with
    | none =>
      simp only [news, hl] at hd
      cases hd
    | some l =>
      simp only [news, hl] at hd
      have hchange := l.change_act j r.coordinator a
      obtain rfl := Option.some.inj ((hchange.stream hd).symm.trans hi)
      refine ⟨l, (l.act r.coordinator a).2, l.deeds j r.coordinator a, hl, ?_, hd⟩
      simp only [step, change, hl]
      exact hchange

/-- What holds at the start and is kept by every step holds in every run. -/
theorem run_induction {P : SyncRun → Prop} (hstart : P start)
    (hstep : ∀ r r', P r → r.Stepped r' → P r') (es : List SyncEvent) : P (run es) := by
  induction es using List.reverseRecOn with
  | nil => exact hstart
  | append_singleton es e ih =>
    rw [run_append_singleton]
    exact hstep (run es) _ ih (stepped _ e)

end SyncRun

end RunnerFleet

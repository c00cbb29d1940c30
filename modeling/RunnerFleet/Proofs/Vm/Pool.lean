import RunnerFleet.Proofs.Arbiter.Matching
import RunnerFleet.Proofs.Hosting.Lifecycle

/-!
# The operations on a host's VMs side by side

A manager carries out any number of operations, on any runners, over one arbiter; between two steps
of one of them any steps of others may come, and the hypervisor answers what it likes when it likes.
Every wait in the queue belongs to an operation under way, under a token of its own (`Sound`).

A deletion ends its runner's waits with its first step and never looks at the queue again. A start
that boots or asks for its power state meanwhile joins the queue later, when it is told that its VM
runs. So the announcements after a deletion go to waits of other runners and to those of starts that
were told so since (`announce_after_deletion`), and they do go to these (`announced_to_deleted`).
-/

namespace RunnerFleet

namespace Arbiter

variable {a : Arbiter} {guest : GuestId} {w : AddressWait} {runner : RunnerId} {token : Nat}

theorem mem_await : w ∈ (a.await runner).1.waits ↔ w ∈ a.waits ∨ w = ⟨a.nextToken, runner⟩ := by
  simp [await]

theorem mem_endWait : w ∈ (a.endWait token).waits ↔ w ∈ a.waits ∧ w.token ≠ token :=
  VmOperation.mem_endWait

theorem mem_cancel : w ∈ (a.cancel runner).1.waits ↔ w ∈ a.waits ∧ w.runner ≠ runner := by
  simp [cancel]

theorem announce_nextToken : (a.announce guest).1.nextToken = a.nextToken := by
  unfold announce
  split <;> rfl

/-- An announcement goes to the oldest wait of the guest's runner or to the oldest of all. -/
theorem recipient?_oldest (h : a.recipient? guest = some w) :
    (∃ known, a.runnerOfGuest? guest = some known ∧ a.waits.find? (·.runner == known) = some w) ∨
      a.waits.head? = some w := by
  simp only [recipient?, Option.orElse_eq_orElse, Option.orElse_eq_or] at h
  rcases Option.or_eq_some_iff.1 h with hknown | ⟨-, holdest⟩
  · obtain ⟨known, hmatched, hfind⟩ := Option.bind_eq_some_iff.1 hknown
    exact .inl ⟨known, hmatched, hfind⟩
  · exact .inr holdest

end Arbiter

/-! ## Waits in the course of an operation -/

namespace Lifecycle

variable {s : State} {runner : RunnerId} {p : VmPoint} {i : Input} {guest : GuestId}
  {address : String} {w : AddressWait}

/-- Routes an announcement and notes whom it went to. -/
def announce (s : State) (guest : GuestId) (address : String) :
    State × Except ArbiterError AddressWait :=
  let (arbiter, routed) := s.host.arbiter.announce guest
  (⟨{ s.host with arbiter },
    s.delivered ++ routed.toOption.toList.map fun w => (w.token, address)⟩, routed)

/-- A request to the endpoint makes one announcement or none. -/
theorem happen_announce (s : State) (e : Post) :
    happen s e = s ∨ ∃ guest address, happen s e = (announce s guest address).1 := by
  have hnone : (⟨{ s.host with arbiter := s.host.arbiter },
      s.delivered ++ (none : Option (AddressWait × String)).toList.map fun d => (d.1.token, d.2)⟩ :
      State) = s := by
    simp
  simp only [happen, Http.serveAnnouncement]
  split
  · exact .inl hnone
  · split
    · exact .inl hnone
    · split
      · exact .inl hnone
      · next a _ =>
        right
        refine ⟨a.guest, a.address, ?_⟩
        simp only [announce, Option.toList_map, List.map_map]
        rfl

/-- What a step of an operation on `runner` can do to the queue. -/
inductive QueueStep (runner : RunnerId) (p : VmPoint) (i : Input) (a : Arbiter) :
    Arbiter → Turn VmPoint VmValue → Prop where
  | apart (turn : Turn VmPoint VmValue) (hp : p.token? = none)
      (hturn : ∀ q, turn = .waits q → q.token? = none) : QueueStep runner p i a a turn
  | stays : QueueStep runner p i a a (.waits p)
  | leaves (token : Nat) (result : Except VmError VmValue) (hp : p.token? = some token) :
      QueueStep runner p i a (a.endWait token) (.finished result)
  /-- A start that has asked is told that its VM runs. -/
  | joins (deadline until_ : Instant) (hp : p = .starting (.asking deadline))
      (hi : i.stimulus = .signalled (.replied (.ok (.power .running)))) :
      QueueStep runner p i a (a.await runner).1
        (.waits (.starting (.awaiting a.nextToken until_)))

theorem token?_of_map {P : Type} {point : P → VmPoint} {result : Unit → VmValue}
    (hpoint : ∀ p, (point p).token? = none) (turn : Turn P Unit) {q : VmPoint}
    (h : turn.map point result = .waits q) : q.token? = none := by
  cases turn with
  | finished r => cases h
  | waits p =>
    cases h
    exact hpoint p

theorem onState_queue (c : VmContext) (h : VmHost) (deadline : Instant) (power : PowerState)
    (hp : p = .starting (.asking deadline))
    (hi : i.stimulus = .signalled (.replied (.ok (.power power)))) :
    QueueStep runner p i h.arbiter (Start.onState c runner h deadline power).1.arbiter
      ((Start.onState c runner h deadline power).2.map .starting .address) := by
  have hfails : ∀ (state : BundleState) (e : VmError), QueueStep runner p i h.arbiter
      (h.mark runner c.calendar state).arbiter (.finished (.error e)) := by
    intro state e
    rw [VmHost.mark_arbiter]
    exact .apart _ (by rw [hp]; rfl) (fun q hq => by cases hq)
  cases power with
  | running => exact .joins deadline _ hp hi
  | error => exact hfails _ _
  | stopped => exact hfails _ _
  | starting | stopping =>
    simp only [Start.onState]
    split
    · exact hfails _ _
    · refine .apart _ (by rw [hp]; rfl) ?_
      intro q hq
      cases hq
      rfl

theorem start_queue (c : VmContext) (h : VmHost) (q : Start.Point) (signal : Signal)
    (hp : p = .starting q) (hi : i.stimulus = .signalled signal) :
    QueueStep runner p i h.arbiter (Start.resume c runner h q signal).1.arbiter
      ((Start.resume c runner h q signal).2.map .starting .address) := by
  have hfinished : ∀ (host : VmHost) (r : Except VmError String), p.token? = none →
      host.arbiter = h.arbiter → QueueStep runner p i h.arbiter host.arbiter
        ((Turn.finished r : Turn Start.Point String).map .starting .address) := by
    intro host r htoken harbiter
    rw [harbiter]
    exact .apart _ htoken (fun q hq => by cases hq)
  have hgoes : ∀ next : Start.Point, p.token? = none → (VmPoint.starting next).token? = none →
      QueueStep runner p i h.arbiter h.arbiter
        ((Turn.waits next : Turn Start.Point String).map .starting .address) := by
    intro next htoken hnext
    refine .apart _ htoken ?_
    intro q hq
    cases hq
    exact hnext
  unfold Start.resume
  split
  case h_1 => exact hgoes _ (by rw [hp]; rfl) rfl
  case h_2 => exact hfinished _ _ (by rw [hp]; rfl) rfl
  case h_3 => exact hfinished _ _ (by rw [hp]; rfl) VmHost.mark_arbiter
  case h_4 => exact onState_queue c h _ _ hp hi
  case h_5 => exact hfinished _ _ (by rw [hp]; rfl) rfl
  case h_6 => exact hfinished _ _ (by rw [hp]; rfl) VmHost.mark_arbiter
  case h_7 => exact hgoes _ (by rw [hp]; rfl) rfl
  case h_8 token _ address =>
    have htoken : p.token? = some token := by rw [hp]; rfl
    unfold Start.onAddress
    split
    · exact .leaves token _ htoken
    · exact .leaves token _ htoken
  case h_9 token _ => exact .leaves token _ (by rw [hp]; rfl)
  case h_10 token _ => exact .leaves token _ (by rw [hp]; rfl)
  case h_11 =>
    subst hp
    exact .stays

theorem operation_queue (c : VmContext) (h : VmHost) (signal : Signal)
    (hi : i.stimulus = .signalled signal) :
    QueueStep runner p i h.arbiter (VmOperation.resume c runner h p signal).1.arbiter
      (VmOperation.resume c runner h p signal).2 := by
  unfold VmOperation.resume
  split
  case h_1 =>
    rw [VmHost.initialise_arbiter]
    refine .apart _ rfl ?_
    intro q hq
    simp only [VmHost.initialise] at hq
    split at hq
    · cases hq
    · split at hq <;> cases hq
  case h_3 => exact start_queue c h _ _ rfl hi
  case h_4 =>
    simp only [Prod.map, id, Stop.resume_arbiter]
    exact .apart _ rfl fun _ => token?_of_map (fun _ => rfl) _
  case h_5 =>
    simp only [Prod.map, id, Delete.resume, Delete.onStop_arbiter, Stop.resume_arbiter]
    exact .apart _ rfl fun _ => token?_of_map (fun _ => rfl) _
  case h_6 => exact .apart _ rfl fun _ => token?_of_map (fun _ => rfl) _
  case h_12 => exact .stays
  all_goals exact .apart _ rfl fun q hq => by cases hq

theorem resume_queue (s : State) (runner : RunnerId) (p : VmPoint) (i : Input) :
    QueueStep runner p i s.host.arbiter (resume s runner p i).1.host.arbiter
      (resume s runner p i).2 := by
  unfold resume
  split
  · exact .stays
  · next signal hi =>
    split
    · exact operation_queue i.context s.host signal hi
    · exact .stays

/-- The first step of an operation leaves the queue alone, unless it is a deletion's. -/
theorem begin_arbiter (s : State) (runner : RunnerId) (op : VmOperation) (i : Input) :
    (begin s runner op i).1.host.arbiter =
      if op = .delete then (s.host.arbiter.cancel runner).1 else s.host.arbiter := by
  cases op with
  | create =>
    simp only [begin, VmOperation.begin]
    split <;> rfl
  | start =>
    simp only [begin, VmOperation.begin, Prod.map, id, Start.begin]
    split
    · exact VmHost.mark_arbiter
    · rfl
  | stop =>
    simp only [begin, VmOperation.begin, Prod.map, id, Stop.begin_host]
    rfl
  | delete =>
    simp only [begin, VmOperation.begin, Prod.map, id, Delete.begin, Delete.onStop_arbiter,
      Stop.begin_host, if_true]
  | awaitSsh => rfl
  | setUp script =>
    simp only [begin, VmOperation.begin]
    split
    · rfl
    · split <;> rfl
  | guest call =>
    simp only [begin, VmOperation.begin]
    split <;> rfl

/-- No operation waits for an address after its first step. -/
theorem begin_token? {op : VmOperation} {q : VmPoint}
    (h : (begin s runner op i).2 = .waits q) : q.token? = none := by
  cases op with
  | create =>
    simp only [begin, VmOperation.begin] at h
    split at h <;> cases h
    rfl
  | start =>
    simp only [begin, VmOperation.begin, Prod.map, id, Start.begin] at h
    split at h <;> cases h
    rfl
  | stop | delete | awaitSsh => exact token?_of_map (fun _ => rfl) _ h
  | setUp script =>
    simp only [begin, VmOperation.begin] at h
    split at h
    · cases h
    · split at h <;> cases h
      rfl
  | guest call =>
    simp only [begin, VmOperation.begin] at h
    split at h <;> cases h
    rfl

end Lifecycle

/-! ## Runs -/

/-- An operation that was asked for, and how far it is; nothing is left of one that was given up. -/
structure Undertaking where
  runner : RunnerId
  operation : VmOperation
  stage : Option (Stage lifecycle)

/-- Where an operation is that is under way. -/
def Undertaking.point? (u : Undertaking) : Option VmPoint :=
  match u.stage with
  | some (.running p) => some p
  | _ => none

/-- The VMs of a host and the operations on them, in the order they were asked for. -/
structure VmPool where
  vms : Lifecycle.State
  undertakings : List Undertaking

namespace VmPool

inductive Event where
  | begins (runner : RunnerId) (op : VmOperation) (i : Lifecycle.Input)
  | goesOn (k : Nat) (i : Lifecycle.Input)
  | givesUp (k : Nat)
  | announced (guest : GuestId) (address : String)

/-- A manager of which nothing was asked yet, over any bundles. -/
def fresh (bundles : BundleRoot) : VmPool := ⟨⟨⟨.empty, bundles⟩, []⟩, []⟩

/-- Lets one thing happen; what is over goes on no more. -/
def onEvent (m : VmPool) : Event → VmPool
  | .begins runner op i =>
    let (vms, turn) := Lifecycle.begin m.vms runner op i
    ⟨vms, m.undertakings ++ [⟨runner, op, some (.ofTurn turn)⟩]⟩
  | .goesOn k i =>
    match m.undertakings[k]? with
    | some ⟨runner, op, some (.running p)⟩ =>
      let (vms, turn) := Lifecycle.resume m.vms runner p i
      ⟨vms, m.undertakings.set k ⟨runner, op, some (.ofTurn turn)⟩⟩
    | _ => m
  | .givesUp k =>
    match m.undertakings[k]? with
    | some ⟨runner, op, some (.running p)⟩ =>
      ⟨Lifecycle.abandon m.vms p, m.undertakings.set k ⟨runner, op, none⟩⟩
    | _ => m
  | .announced guest address => { m with vms := (Lifecycle.announce m.vms guest address).1 }

def after (m : VmPool) (es : List Event) : VmPool := es.foldl onEvent m

theorem after_append (m : VmPool) (es es' : List Event) :
    m.after (es ++ es') = (m.after es).after es' := by
  simp only [after, List.foldl_append]

theorem after_append_singleton (m : VmPool) (es : List Event) (e : Event) :
    m.after (es ++ [e]) = (m.after es).onEvent e := by
  simp only [after, List.foldl_append, List.foldl_cons, List.foldl_nil]

def arbiter (m : VmPool) : Arbiter := m.vms.host.arbiter

/-- The wait of an operation under way: its runner and its token. -/
def wait? (m : VmPool) (k : Nat) : Option AddressWait := do
  let u ← m.undertakings[k]?
  let p ← u.point?
  return ⟨← p.token?, u.runner⟩

/-- The step is one in which a start, having asked, is told that its VM runs. -/
def ToldRunning (m : VmPool) (k : Nat) (i : Lifecycle.Input) : Prop :=
  i.stimulus = .signalled (.replied (.ok (.power .running))) ∧
    ∃ u deadline, m.undertakings[k]? = some u ∧ u.point? = some (.starting (.asking deadline))

variable {m m' : VmPool} {k j : Nat} {i : Lifecycle.Input} {e : Event} {u : Undertaking}
  {p : VmPoint} {w v : AddressWait} {runner : RunnerId}

/-! ## What a step can do to the queue -/

theorem wait?_eq_some (hu : m.undertakings[k]? = some u) (hp : u.point? = some p) :
    m.wait? k = p.token?.map (⟨·, u.runner⟩) := by
  cases htoken : p.token? with
  | none => simp [wait?, hu, hp, htoken]
  | some t => simp [wait?, hu, hp, htoken]

/-- What one event can do to the queue and to the waits of the operations. -/
inductive QueueChange (m : VmPool) (e : Event) (m' : VmPool) : Prop where
  /-- No operation begins or ends a wait, and none is added to the queue. -/
  | kept (hwaits : ∀ w ∈ m'.arbiter.waits, w ∈ m.arbiter.waits)
      (hnext : m'.arbiter.nextToken = m.arbiter.nextToken) (hwait : ∀ j, m'.wait? j = m.wait? j)
  | left (k : Nat) (w : AddressWait) (hk : m.wait? k = some w)
      (harbiter : m'.arbiter = m.arbiter.endWait w.token)
      (hwait : ∀ j, m'.wait? j = if j = k then none else m.wait? j)
  | joined (k : Nat) (i : Lifecycle.Input) (runner : RunnerId) (he : e = .goesOn k i)
      (htold : m.ToldRunning k i) (hk : m.wait? k = none)
      (harbiter : m'.arbiter = (m.arbiter.await runner).1)
      (hwait : ∀ j, m'.wait? j = if j = k then some ⟨m.arbiter.nextToken, runner⟩ else m.wait? j)

theorem QueueChange.of_same (harbiter : m'.arbiter = m.arbiter)
    (hwait : ∀ j, m'.wait? j = m.wait? j) : QueueChange m e m' := by
  refine .kept ?_ ?_ hwait
  · intro w hw
    rw [harbiter] at hw
    exact hw
  · rw [harbiter]

theorem wait?_begins (m : VmPool) (runner : RunnerId) (op : VmOperation) (i : Lifecycle.Input)
    (j : Nat) : (m.onEvent (.begins runner op i)).wait? j = m.wait? j := by
  have hlist : (m.onEvent (.begins runner op i)).undertakings =
      m.undertakings ++ [⟨runner, op, some (.ofTurn (Lifecycle.begin m.vms runner op i).2)⟩] := rfl
  unfold wait?
  rw [hlist]
  rcases Nat.lt_trichotomy j m.undertakings.length with hj | rfl | hj
  · rw [List.getElem?_append_left hj]
  · rw [List.getElem?_concat_length, List.getElem?_eq_none (Nat.le_refl _)]
    cases hturn : (Lifecycle.begin m.vms runner op i).2 with
    | finished r => rfl
    | waits q =>
      have htoken : q.token? = none := Lifecycle.begin_token? hturn
      simp [Undertaking.point?, Stage.ofTurn, htoken]
  · rw [List.getElem?_eq_none (Nat.le_of_lt hj), List.getElem?_eq_none]
    rw [List.length_append, List.length_singleton]
    exact hj

/-- The waits of the operations once one of them is at another stage. -/
theorem wait?_set (m' : VmPool) (hu : m.undertakings[k]? = some u)
    (stage : Option (Stage lifecycle))
    (hm' : m'.undertakings = m.undertakings.set k ⟨u.runner, u.operation, stage⟩) (j : Nat) :
    m'.wait? j =
      if j = k then
        ((⟨u.runner, u.operation, stage⟩ : Undertaking).point?.bind VmPoint.token?).map
          (⟨·, u.runner⟩)
      else m.wait? j := by
  obtain ⟨hlt, -⟩ := List.getElem?_eq_some_iff.1 hu
  by_cases hj : j = k
  · subst hj
    rw [if_pos rfl]
    unfold wait?
    rw [hm', List.getElem?_set_self hlt]
    cases hpoint : (⟨u.runner, u.operation, stage⟩ : Undertaking).point? with
    | none => simp [hpoint]
    | some p =>
      cases htoken : p.token? with
      | none => simp [hpoint, htoken]
      | some t => simp [hpoint, htoken]
  · rw [if_neg hj]
    unfold wait?
    rw [hm', List.getElem?_set_ne (Ne.symm hj)]

theorem begins_change (m : VmPool) (runner : RunnerId) (op : VmOperation)
    (i : Lifecycle.Input) :
    QueueChange m (.begins runner op i) (m.onEvent (.begins runner op i)) := by
  have harbiter : (m.onEvent (.begins runner op i)).arbiter =
      if op = .delete then (m.arbiter.cancel runner).1 else m.arbiter :=
    Lifecycle.begin_arbiter m.vms runner op i
  refine .kept ?_ ?_ (wait?_begins m runner op i)
  · intro w hw
    rw [harbiter] at hw
    split at hw
    · exact (Arbiter.mem_cancel.1 hw).1
    · exact hw
  · rw [harbiter]
    split <;> rfl

theorem goesOn_change (m : VmPool) (k : Nat) (i : Lifecycle.Input) :
    QueueChange m (.goesOn k i) (m.onEvent (.goesOn k i)) := by
  simp only [onEvent]
  split
  · next runner op p hu =>
    have hwait (x : Lifecycle.State × Turn VmPoint VmValue) := fun j => wait?_set
      ⟨x.1, m.undertakings.set k ⟨runner, op, some (.ofTurn x.2)⟩⟩ hu
      (some (.ofTurn x.2)) rfl j
    have hk : m.wait? k = p.token?.map (⟨·, runner⟩) := wait?_eq_some hu rfl
    have hstep := Lifecycle.resume_queue m.vms runner p i
    generalize Lifecycle.resume m.vms runner p i = x at hstep hwait
    obtain ⟨vms, turn⟩ := x
    generalize harbiter : vms.host.arbiter = a at hstep
    cases hstep with
    | apart _ hp hturn =>
      refine .of_same harbiter fun j => ?_
      rw [hwait]
      split
      · next hj =>
        subst hj
        rw [hk, hp]
        cases turn with
        | finished r => rfl
        | waits q => simp [Undertaking.point?, Stage.ofTurn, hturn q rfl]
      · rfl
    | stays =>
      refine .of_same harbiter fun j => ?_
      rw [hwait]
      split
      · next hj =>
        subst hj
        rw [hk]
        rfl
      · rfl
    | leaves token result hp =>
      rw [hp] at hk
      refine .left k ⟨token, runner⟩ hk harbiter fun j => ?_
      rw [hwait]
      rfl
    | joins deadline until_ hp hi =>
      refine .joined k i runner rfl ⟨hi, _, deadline, hu, ?_⟩ ?_ harbiter fun j => ?_
      · rw [← hp]
        rfl
      · rw [hk, hp]
        rfl
      · rw [hwait]
        rfl
  · exact .of_same rfl fun _ => rfl

theorem abandon_arbiter (s : Lifecycle.State) (p : VmPoint) :
    (p.token? = none ∧ (Lifecycle.abandon s p).host.arbiter = s.host.arbiter) ∨
      ∃ token, p.token? = some token ∧
        (Lifecycle.abandon s p).host.arbiter = s.host.arbiter.endWait token := by
  cases p with
  | starting p =>
    cases p with
    | awaiting token until_ => exact .inr ⟨token, rfl, rfl⟩
    | booting | asking | pausing => exact .inl ⟨rfl, rfl⟩
  | cloning | stopping | deleting | reaching | settingUp | calling => exact .inl ⟨rfl, rfl⟩

theorem givesUp_change (m : VmPool) (k : Nat) :
    QueueChange m (.givesUp k) (m.onEvent (.givesUp k)) := by
  simp only [onEvent]
  split
  · next runner op p hu =>
    have hk : m.wait? k = p.token?.map (⟨·, runner⟩) := wait?_eq_some hu rfl
    have hwait := wait?_set
      ⟨Lifecycle.abandon m.vms p, m.undertakings.set k ⟨runner, op, none⟩⟩ hu none rfl
    rcases abandon_arbiter m.vms p with ⟨hp, harbiter⟩ | ⟨token, hp, harbiter⟩
    · refine .of_same harbiter fun j => ?_
      rw [hwait]
      split
      · next hj =>
        subst hj
        rw [hk, hp]
        rfl
      · rfl
    · rw [hp] at hk
      exact .left k ⟨token, runner⟩ hk harbiter hwait
  · exact .of_same rfl fun _ => rfl

theorem onEvent_change (m : VmPool) (e : Event) : QueueChange m e (m.onEvent e) := by
  cases e with
  | begins runner op i => exact begins_change m runner op i
  | goesOn k i => exact goesOn_change m k i
  | givesUp k => exact givesUp_change m k
  | announced guest address =>
    refine .kept (fun w hw => ?_) Arbiter.announce_nextToken fun _ => rfl
    exact Lifecycle.announce_waits hw

/-! ## Whose waits the queue holds -/

/-- Every wait in the queue belongs to one operation that is under way. -/
structure Sound (m : VmPool) : Prop where
  fresh : ∀ k w, m.wait? k = some w → w.token < m.arbiter.nextToken
  unique : ∀ k j w v, m.wait? k = some w → m.wait? j = some v → w.token = v.token → k = j
  owned : ∀ w ∈ m.arbiter.waits, ∃ k, m.wait? k = some w

theorem sound_fresh (bundles : BundleRoot) : Sound (fresh bundles) := by
  have hnone : ∀ k, (fresh bundles).wait? k = none := fun _ => rfl
  constructor
  · intro k w hk
    cases (hnone k).symm.trans hk
  · intro k j w v hk
    cases (hnone k).symm.trans hk
  · intro w hw
    cases hw

theorem Sound.change (hm : Sound m) (h : QueueChange m e m') : Sound m' := by
  cases h with
  | kept hwaits hnext hwait =>
    constructor
    · intro k w hk
      rw [hnext]
      exact hm.fresh k w (hwait k ▸ hk)
    · intro k j w v hk hj
      exact hm.unique k j w v (hwait k ▸ hk) (hwait j ▸ hj)
    · intro w hw
      obtain ⟨k, hk⟩ := hm.owned w (hwaits w hw)
      exact ⟨k, (hwait k).trans hk⟩
  | left k w hk harbiter hwait =>
    have hold : ∀ j v, m'.wait? j = some v → m.wait? j = some v := by
      intro j v hj
      rw [hwait] at hj
      split at hj
      · cases hj
      · exact hj
    constructor
    · intro j v hj
      rw [harbiter]
      exact hm.fresh j v (hold j v hj)
    · intro j l v v' hj hl
      exact hm.unique j l v v' (hold j v hj) (hold l v' hl)
    · intro v hv
      rw [harbiter] at hv
      obtain ⟨hv, hne⟩ := Arbiter.mem_endWait.1 hv
      obtain ⟨j, hj⟩ := hm.owned v hv
      have hjk : j ≠ k := by
        rintro rfl
        cases hj.symm.trans hk
        exact hne rfl
      refine ⟨j, ?_⟩
      rw [hwait, if_neg hjk]
      exact hj
  | joined k i runner he htold hk harbiter hwait =>
    have hold : ∀ j v, m'.wait? j = some v →
        (j = k ∧ v.token = m.arbiter.nextToken) ∨ m.wait? j = some v := by
      intro j v hj
      rw [hwait] at hj
      split at hj
      · next heq =>
        cases hj
        exact .inl ⟨heq, rfl⟩
      · exact .inr hj
    constructor
    · intro j v hj
      have hnext : m'.arbiter.nextToken = m.arbiter.nextToken + 1 := by
        rw [harbiter]
        rfl
      rcases hold j v hj with ⟨-, htoken⟩ | hj
      · omega
      · have := hm.fresh j v hj
        omega
    · intro j l v v' hj hl heq
      rcases hold j v hj with ⟨rfl, htoken⟩ | hj
      · rcases hold l v' hl with ⟨rfl, -⟩ | hl
        · rfl
        · have := hm.fresh l v' hl
          omega
      · rcases hold l v' hl with ⟨rfl, htoken⟩ | hl
        · have := hm.fresh j v hj
          omega
        · exact hm.unique j l v v' hj hl heq
    · intro v hv
      rw [harbiter] at hv
      rcases Arbiter.mem_await.1 hv with hv | rfl
      · obtain ⟨j, hj⟩ := hm.owned v hv
        have hjk : j ≠ k := by
          rintro rfl
          cases hj.symm.trans hk
        refine ⟨j, ?_⟩
        rw [hwait, if_neg hjk]
        exact hj
      · refine ⟨k, ?_⟩
        rw [hwait, if_pos rfl]

theorem Sound.after (hm : Sound m) (es : List Event) : Sound (m.after es) := by
  induction es using List.reverseRecOn with
  | nil => exact hm
  | append_singleton es e ih =>
    rw [after_append_singleton]
    exact ih.change (onEvent_change _ e)

/-! ## After a deletion has begun -/

/-- A wait that is over: its token stands in the queue no more, and is handed out no more. -/
structure Gone (m : VmPool) (token : Nat) : Prop where
  past : token < m.arbiter.nextToken
  absent : ∀ w ∈ m.arbiter.waits, w.token ≠ token

theorem Gone.change {token : Nat} (hm : Gone m token) (h : QueueChange m e m') :
    Gone m' token := by
  obtain ⟨hpast, habsent⟩ := hm
  cases h with
  | kept hwaits hnext hwait =>
    refine ⟨hnext ▸ hpast, ?_⟩
    intro w hw
    exact habsent w (hwaits w hw)
  | left k w hk harbiter hwait =>
    constructor
    · rw [harbiter]
      exact hpast
    · intro v hv
      rw [harbiter] at hv
      exact habsent v (Arbiter.mem_endWait.1 hv).1
  | joined k i runner he htold hk harbiter hwait =>
    constructor
    · rw [harbiter]
      exact Nat.lt_succ_of_lt hpast
    · intro v hv
      rw [harbiter] at hv
      rcases Arbiter.mem_await.1 hv with hv | rfl
      · exact habsent v hv
      · exact Nat.ne_of_gt hpast

theorem Gone.after {token : Nat} (hm : Gone m token) (es : List Event) :
    Gone (m.after es) token := by
  induction es using List.reverseRecOn with
  | nil => exact hm
  | append_singleton es e ih =>
    rw [after_append_singleton]
    exact ih.change (onEvent_change _ e)

/-- A deletion's first step ends the waits of its runner. -/
theorem gone_of_deletion (hm : Sound m) (i : Lifecycle.Input) (hk : m.wait? k = some w) :
    Gone (m.onEvent (.begins w.runner .delete i)) w.token := by
  have harbiter : (m.onEvent (.begins w.runner .delete i)).arbiter =
      (m.arbiter.cancel w.runner).1 :=
    Lifecycle.begin_arbiter m.vms w.runner .delete i
  constructor
  · rw [harbiter]
    exact hm.fresh k w hk
  · intro v hv htoken
    rw [harbiter] at hv
    obtain ⟨hv, hrunner⟩ := Arbiter.mem_cancel.1 hv
    obtain ⟨j, hj⟩ := hm.owned v hv
    obtain rfl : j = k := hm.unique j k v w hj hk htoken
    cases hj.symm.trans hk
    exact hrunner rfl

/-- An operation that waits has waited before, or it is a start that was told since that its VM
runs. -/
theorem told_of_wait? {es : List Event} (h : (m.after es).wait? k = some w) :
    m.wait? k = some w ∨ ∃ before i rest, es = before ++ .goesOn k i :: rest ∧
      (m.after before).ToldRunning k i := by
  induction es using List.reverseRecOn with
  | nil => exact .inl h
  | append_singleton es e ih =>
    have hearlier : (m.after es).wait? k = some w → m.wait? k = some w ∨
        ∃ before i rest, es ++ [e] = before ++ .goesOn k i :: rest ∧
          (m.after before).ToldRunning k i := by
      intro h
      rcases ih h with h | ⟨before, i, rest, rfl, htold⟩
      · exact .inl h
      · exact .inr ⟨before, i, rest ++ [e], by simp, htold⟩
    rw [after_append_singleton] at h
    cases onEvent_change (m.after es) e with
    | kept hwaits hnext hwait => exact hearlier ((hwait k).symm.trans h)
    | left j v hj harbiter hwait =>
      rw [hwait] at h
      split at h
      · cases h
      · exact hearlier h
    | joined j i runner he htold hj harbiter hwait =>
      rw [hwait] at h
      split at h
      · next heq =>
        subst heq he
        exact .inr ⟨es, i, [], rfl, htold⟩
      · exact hearlier h

/-- A start that is told that its VM runs stands at the end of the queue from then on. -/
theorem joins_of_told (hu : m.undertakings[k]? = some u) (h : m.ToldRunning k i) :
    let w : AddressWait := ⟨m.arbiter.nextToken, u.runner⟩
    (m.onEvent (.goesOn k i)).arbiter.waits = m.arbiter.waits ++ [w] ∧
      (m.onEvent (.goesOn k i)).wait? k = some w := by
  intro w
  obtain ⟨hi, u', deadline, hu', hp⟩ := h
  cases hu.symm.trans hu'
  obtain ⟨runner, op, stage⟩ := u
  obtain rfl : stage = some (.running (.starting (.asking deadline))) := by
    unfold Undertaking.point? at hp
    split at hp
    · next hstage =>
      cases hp
      exact hstage
    · cases hp
  obtain ⟨c, stimulus⟩ := i
  obtain rfl : stimulus = .signalled (.replied (.ok (.power .running))) := hi
  constructor
  · simp only [onEvent, hu]
    rfl
  · have hset := wait?_set (m.onEvent (.goesOn k ⟨c, .signalled (.replied (.ok
      (.power .running)))⟩)) hu (some (.running (.starting (.awaiting m.arbiter.nextToken
        (c.now + c.limits.addressWait.ticks))))) (by simp only [onEvent, hu]; rfl) k
    rw [hset, if_pos rfl]
    rfl

/-- From the first step of a deletion on, an announcement goes to the oldest wait of the guest's
runner or the oldest of all, if there is one. The wait belongs to an operation under way; if that is
one on the deleted runner, it is a start that was told after the deletion's first step that its VM
runs. Such a start does join the queue, and takes the announcement if no one waits before it. -/
theorem announce_after_deletion (bundles : BundleRoot) (before : List Event) (runner : RunnerId)
    (i : Lifecycle.Input) (es : List Event) (guest : GuestId) (address : String) :
    let deleting := ((fresh bundles).after before).onEvent (.begins runner .delete i)
    let m := deleting.after es
    (∀ w, (Lifecycle.announce m.vms guest address).2 = .ok w →
      ((∃ known, m.arbiter.runnerOfGuest? guest = some known ∧
        m.arbiter.waits.find? (·.runner == known) = some w) ∨ m.arbiter.waits.head? = some w) ∧
      ∃ k, m.wait? k = some w ∧ (w.runner = runner →
        ∃ mid i rest, es = mid ++ .goesOn k i :: rest ∧ (deleting.after mid).ToldRunning k i)) ∧
    ((∃ w, (Lifecycle.announce m.vms guest address).2 = .ok w) ↔ m.arbiter.waits ≠ []) ∧
    ∀ k u i, m.undertakings[k]? = some u → m.ToldRunning k i → m.arbiter.waits = [] →
      ∃ w, w.runner = u.runner ∧ (m.onEvent (.goesOn k i)).wait? k = some w ∧
        (Lifecycle.announce (m.onEvent (.goesOn k i)).vms guest address).2 = .ok w := by
  intro deleting m
  have hstart : Sound ((fresh bundles).after before) := (sound_fresh bundles).after before
  have hsound : Sound m := (hstart.change (onEvent_change _ _)).after es
  refine ⟨fun w hok => ?_, ?_, fun k u i hu htold hempty => ?_⟩
  · have hrecipient : m.arbiter.recipient? guest = some w := Arbiter.announce_eq_ok_iff.1 hok
    have hw : w ∈ m.arbiter.waits := Arbiter.recipient?_mem hrecipient
    obtain ⟨k, hk⟩ := hsound.owned w hw
    refine ⟨Arbiter.recipient?_oldest hrecipient, k, hk, ?_⟩
    rintro rfl
    -- a wait from before the deletion has ended, and its token is not given out again
    rcases told_of_wait? hk with hearlier | htold
    · rw [wait?_begins] at hearlier
      have hgone : Gone m w.token := (gone_of_deletion hstart i hearlier).after es
      exact absurd rfl (hgone.absent w hw)
    · exact htold
  · constructor
    · rintro ⟨w, hok⟩
      exact List.ne_nil_of_mem (Arbiter.recipient?_mem (Arbiter.announce_eq_ok_iff.1 hok))
    · intro hwaits
      obtain ⟨w, hrecipient⟩ :=
        Option.ne_none_iff_exists'.1 (mt Arbiter.recipient?_eq_none_iff.1 hwaits)
      exact ⟨w, Arbiter.announce_eq_ok_iff.2 hrecipient⟩
  · obtain ⟨hwaits, hwait⟩ := joins_of_told hu htold
    rw [hempty, List.nil_append] at hwaits
    refine ⟨_, rfl, hwait, ?_⟩
    have hne : (m.onEvent (.goesOn k i)).arbiter.recipient? guest ≠ none := by
      rw [ne_eq, Arbiter.recipient?_eq_none_iff, hwaits]
      simp
    obtain ⟨v, hv⟩ := Option.ne_none_iff_exists'.1 hne
    have hmem := Arbiter.recipient?_mem hv
    rw [hwaits, List.mem_singleton] at hmem
    subst hmem
    exact Arbiter.announce_eq_ok_iff.2 hv

/-! ## A start that outlives the deletion -/

def signalled (signal : Signal) : Lifecycle.Input :=
  let second : Span := .ofMillis 1000
  ⟨⟨⟨second, second, second, second, second, second, second⟩, 0, ⟨0, 0⟩⟩, .signalled signal⟩

/-- The bundles of two runners. -/
def twoBundles : BundleRoot :=
  .directory ((Table.empty.insert "r1.bundle" (.directory .empty)).insert "r2.bundle"
    (.directory .empty))

/-- A start boots its VM and asks whether it runs. -/
def asksStart : List Event :=
  [.begins "r1" .start (signalled .resumed), .goesOn 0 (signalled (.replied (.ok .done)))]

/-- The deletion finds the VM off and ends. The start is then told that the VM runs, the answer to
what it asked before. Another runner's start waits after it. -/
def toldLate : List Event :=
  [.goesOn 1 (signalled (.replied (.ok (.power .stopped)))),
    .goesOn 0 (signalled (.replied (.ok (.power .running)))),
    .begins "r2" .start (signalled .resumed), .goesOn 2 (signalled (.replied (.ok .done))),
    .goesOn 2 (signalled (.replied (.ok (.power .running))))]

theorem toldRunning_toldLate :
    ((((fresh twoBundles).after asksStart).onEvent
      (.begins "r1" .delete (signalled .resumed))).after (toldLate.take 1)).ToldRunning 0
        (signalled (.replied (.ok (.power .running)))) :=
  ⟨rfl, _, _, rfl, rfl⟩

theorem announce_after_deletion_toldLate :
    let deleting := ((fresh twoBundles).after asksStart).onEvent
      (.begins "r1" .delete (signalled .resumed))
    (Lifecycle.announce (deleting.after toldLate).vms "g" "10.0.0.1").2 = .ok ⟨0, "r1"⟩ ∧
      (∃ k, (deleting.after toldLate).wait? k = some ⟨0, "r1"⟩) ∧
      (deleting.after (toldLate.take 1)).ToldRunning 0
        (signalled (.replied (.ok (.power .running)))) ∧
      ∃ w, w.runner = "r1" ∧ (Lifecycle.announce ((deleting.after (toldLate.take 1)).onEvent
        (.goesOn 0 (signalled (.replied (.ok (.power .running)))))).vms "g" "10.0.0.1").2 =
          .ok w := by
  intro deleting
  have hok : (Lifecycle.announce (deleting.after toldLate).vms "g" "10.0.0.1").2 =
      .ok ⟨0, "r1"⟩ := rfl
  obtain ⟨hrouted, -, -⟩ := announce_after_deletion twoBundles asksStart "r1" (signalled .resumed)
    toldLate "g" "10.0.0.1"
  obtain ⟨-, -, hjoins⟩ := announce_after_deletion twoBundles asksStart "r1" (signalled .resumed)
    (toldLate.take 1) "g" "10.0.0.1"
  obtain ⟨-, k, hk, -⟩ := hrouted _ hok
  obtain ⟨w, hrunner, -, hw⟩ := hjoins 0 _ _ rfl toldRunning_toldLate rfl
  exact ⟨hok, ⟨k, hk⟩, toldRunning_toldLate, w, hrunner, hw⟩

/-- Although one start and one deletion are all that was asked for a runner, in this order, and the
deletion has succeeded, an announcement can go to the start's wait. -/
theorem announced_to_deleted :
    ¬ ∀ (bundles : BundleRoot) (es : List Event) (j k : Nat) (started deleted : Undertaking)
      (guest : GuestId) (address : String) (w : AddressWait),
      ((fresh bundles).after es).undertakings[j]? = some started → started.operation = .start →
      ((fresh bundles).after es).undertakings[k]? = some deleted → deleted.operation = .delete →
      deleted.runner = started.runner → deleted.stage = some (.returned (.ok .done)) → j < k →
      (∀ n u, ((fresh bundles).after es).undertakings[n]? = some u → u.runner = started.runner →
        n = j ∨ n = k) →
      (Lifecycle.announce ((fresh bundles).after es).vms guest address).2 = .ok w →
      ((fresh bundles).after es).wait? j ≠ some w := by
  intro h
  refine h twoBundles (asksStart ++ .begins "r1" .delete (signalled .resumed) :: toldLate) 0 1 _ _
    "g" "10.0.0.1" ⟨0, "r1"⟩ rfl rfl rfl rfl rfl rfl (by decide) ?_ rfl rfl
  intro n u hu hrunner
  match n with
  | 0 => exact .inl rfl
  | 1 => exact .inr rfl
  | 2 =>
    cases hu
    exact absurd hrunner (by decide)
  | n + 3 => cases hu

end VmPool

end RunnerFleet

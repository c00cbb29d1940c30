import RunnerFleet.Proofs.Fleet.Stores
import RunnerFleet.Proofs.Hosting.Lifecycle

/-!
# How a delete request ends

A delete request beside everything else that may happen in a fleet (`Deletion`). Each of its
look-ups and each of its changes of a queue is a step of its own, and between two of them the other
tasks may do anything. It is answered with an error in one way only (`Deletion.fails_iff_lost`): one
of its steps finds the runner in the store, and before its next step, which looks for the runner's
agent, a report of some agent has dropped the runner. A runner that is gone when the request looks
for it, or after its deletion is queued, counts as deleted.
-/

namespace RunnerFleet

theorem Watch.resume_seen {α : Type} {w : Watch} {now : Instant} {poll : Span} {look : Option α}
    {a : α} (h : w.resume now poll look = .seen a) : look = some a := by
  unfold resume at h
  simp only at h
  split at h
  · next found _ =>
    cases h
    rfl
  · split at h
    · cases h
    · cases h

/-- A waiting that goes on has not come to its deadline, and keeps it. -/
theorem Watch.resume_waits {α : Type} {w w' : Watch} {now : Instant} {poll : Span}
    {look : Option α} (h : w.resume now poll look = .waits w') :
    now < w.deadline ∧ w'.deadline = w.deadline := by
  unfold resume at h
  simp only at h
  split at h
  · cases h
  · split at h
    · cases h
    · next hlate =>
      cases h
      refine ⟨Nat.lt_of_not_le hlate, ?_⟩
      split <;> rfl

/-! ## Steps of a request -/

/-- An upper bound on the steps that are left to a request, its waiting apart. -/
def DeletePoint.ahead : DeletePoint → Nat
  | forgetting _ => 0
  | awaitingRemoval _ _ => 1
  | ordering _ _ => 2
  | routing _ => 3
  | awaitingReport _ _ => 4
  | withdrawing _ => 5
  | resolving => 6

/-- When the waiting at a point ends. -/
def DeletePoint.deadline? : DeletePoint → Option Instant
  | awaitingReport _ watch => some watch.deadline
  | awaitingRemoval _ watch => some watch.deadline
  | _ => none

/-- The answer to a request that is over. -/
def Progress.answer? {Call Result : Type} : Progress Call Result → Option Result
  | .finished r => some r
  | .waits _ => none

theorem Progress.call?_eq_some_iff {Call Result : Type} {p : Progress Call Result} {call : Call} :
    p.call? = some call ↔ p = .waits call := by
  cases p with
  | finished r => simp [call?]
  | waits c => simp [call?]

theorem Progress.answer?_eq_some_iff {Call Result : Type} {p : Progress Call Result} {r : Result} :
    p.answer? = some r ↔ p = .finished r := by
  cases p with
  | finished r' => simp [answer?]
  | waits c => simp [answer?]

namespace DeleteCall

/-- What a step of a request can come to. -/
inductive Change (c : Coordinator) (limits : RequestLimits) (now : Instant) (call : DeleteCall) :
    Progress DeleteCall (Except DeleteError Unit) → Prop
  | found (runner : Runner) (hpoint : call.point = .resolving)
      (hfound : c.store.getByCloudId call.cloudId = .ok runner) :
      Change c limits now call (.waits { call with point := .routing runner.id })
  /-- The runner is registered and not reported. -/
  | unreported (runner : RunnerId) (hpoint : call.point = .resolving) :
      Change c limits now call (.waits { call with point := .withdrawing runner })
  | taken (runner : RunnerId) (label : String) (hpoint : call.point = .withdrawing runner) :
      Change c limits now call (.waits { call with point := .forgetting label })
  | untaken (runner : RunnerId) (hpoint : call.point = .withdrawing runner) :
      Change c limits now call
        (.waits { call with point := .awaitingReport runner (watchFrom limits now) })
  | reported (id : RunnerId) (watch : Watch) (runner : Runner)
      (hpoint : call.point = .awaitingReport id watch)
      (hfound : c.store.getRunner id = .ok runner) :
      Change c limits now call (.waits { call with point := .routing runner.id })
  | unseen (runner : RunnerId) (watch : Watch) (label : String)
      (hpoint : call.point = .awaitingReport runner watch) :
      Change c limits now call (.waits { call with point := .forgetting label })
  | routed (runner : RunnerId) (agent : AgentId) (hpoint : call.point = .routing runner) :
      Change c limits now call (.waits { call with point := .ordering runner agent })
  /-- The runner has no agent. -/
  | lost (runner : RunnerId) (hpoint : call.point = .routing runner)
      (hnone : c.store.owners.get? runner = none) :
      Change c limits now call (.finished (.error (.noOwner (.runnerNotFound runner))))
  | ordered (runner : RunnerId) (agent : AgentId) (hpoint : call.point = .ordering runner agent) :
      Change c limits now call
        (.waits { call with point := .awaitingRemoval runner (watchFrom limits now) })
  | stays (point : DeletePoint) (deadline : Instant) (hlook : ∀ runner, point ≠ .routing runner)
      (hbefore : call.point.deadline? = some deadline) (hafter : point.deadline? = some deadline)
      (hearly : now < deadline) :
      Change c limits now call (.waits { call with point })
  | ended (hrouting : ∀ runner, call.point ≠ .routing runner) :
      Change c limits now call (.finished (.ok ()))

theorem change_step (c : Coordinator) (limits : RequestLimits) (now : Instant)
    (call : DeleteCall) : Change c limits now call (call.step c limits now).2 := by
  unfold step
  cases hpoint : call.point with
  | resolving =>
    simp only
    split
    · next runner hfound => exact .found runner hpoint hfound
    · next runner _ => exact .unreported runner hpoint
    · next e hother herror =>
      have hnotFound : e.isNotFound = true := by
        unfold Store.getByCloudId Store.getRunner at herror
        split at herror
        · split at herror <;> cases herror
          rfl
        · cases herror
          rfl
      rw [if_pos hnotFound]
      exact .ended (by simp [hpoint])
  | withdrawing runner =>
    simp only
    split
    · exact .taken runner "withdrawn" hpoint
    · exact .untaken runner hpoint
  | forgetting label => exact .ended (by simp [hpoint])
  | awaitingReport id watch =>
    simp only
    split
    · next runner hseen =>
      have hlook := Watch.resume_seen hseen
      cases hfound : c.store.getRunner id with
      | ok x =>
        rw [hfound] at hlook
        cases hlook
        exact .reported id watch runner hpoint hfound
      | error e =>
        rw [hfound] at hlook
        cases hlook
    · exact .unseen id watch "never_reported" hpoint
    · next watch' hwaits =>
      obtain ⟨hearly, hdeadline⟩ := Watch.resume_waits hwaits
      exact .stays (.awaitingReport id watch') watch.deadline nofun (by rw [hpoint]; rfl)
        (congrArg some hdeadline) hearly
  | routing runner =>
    simp only [Store.agentOfRunner]
    cases howner : c.store.owners.get? runner with
    | some agent => exact .routed runner agent hpoint
    | none => exact .lost runner hpoint howner
  | ordering runner agent => exact .ordered runner agent hpoint
  | awaitingRemoval runner watch =>
    simp only
    split
    · exact .ended (by simp [hpoint])
    · exact .ended (by simp [hpoint])
    · next watch' hwaits =>
      obtain ⟨hearly, hdeadline⟩ := Watch.resume_waits hwaits
      exact .stays (.awaitingRemoval runner watch') watch.deadline nofun (by rw [hpoint]; rfl)
        (congrArg some hdeadline) hearly

variable {c : Coordinator} {limits : RequestLimits} {now : Instant} {call next : DeleteCall}

/-- A request goes looking for the agent of a runner that the store holds. -/
theorem contains_of_routing {runner : RunnerId} (hlinked : c.store.Linked)
    (h : (call.step c limits now).2 = .waits next) (hrouting : next.point = .routing runner) :
    c.store.runners.contains runner = true := by
  have hstored : ∀ {id : RunnerId} {x : Runner}, c.store.getRunner id = .ok x →
      c.store.runners.contains x.id = true := by
    intro id x hx
    unfold Store.getRunner at hx
    split at hx
    · next y hy =>
      cases hx
      have hid : x.id = id := hlinked.runners_filed id x hy
      exact Table.contains_iff.2 ⟨x, hid ▸ hy⟩
    · cases hx
  have hchange := change_step c limits now call
  rw [h] at hchange
  cases hchange with
  | found x _ hfound =>
    cases hrouting
    unfold Store.getByCloudId at hfound
    split at hfound
    · exact hstored hfound
    · cases hfound
  | reported id watch x _ hfound =>
    cases hrouting
    exact hstored hfound
  | stays point deadline hlook => exact absurd hrouting (hlook runner)
  | unreported | taken | untaken | unseen | routed | ordered => cases hrouting

/-- A step fails exactly when it looks for the agent of a runner that is not in the store. -/
theorem step_eq_error_iff {e : DeleteError} (hlinked : c.store.Linked) :
    (call.step c limits now).2 = .finished (.error e) ↔
      ∃ runner, call.point = .routing runner ∧ c.store.runners.contains runner = false ∧
        e = .noOwner (.runnerNotFound runner) := by
  constructor
  · intro h
    have hchange := change_step c limits now call
    rw [h] at hchange
    cases hchange with
    | lost runner hpoint hnone =>
      refine ⟨runner, hpoint, ?_, rfl⟩
      rw [hlinked.same_keys, Table.contains, hnone, Option.isSome_none]
  · rintro ⟨runner, hpoint, habsent, rfl⟩
    cases howner : c.store.owners.get? runner with
    | none => simp only [step, hpoint, Store.agentOfRunner, howner, fail]
    | some agent =>
      rw [hlinked.same_keys, Table.contains, howner] at habsent
      cases habsent

/-- A request that goes on has come nearer to its end, with the full time for a waiting that it
begins, or it still waits and has the time that it had. -/
theorem nearer_of_waits (h : (call.step c limits now).2 = .waits next) :
    (next.point.ahead < call.point.ahead ∧
        ∀ deadline ∈ next.point.deadline?, deadline = now + limits.delete.ticks) ∨
      (next.point.deadline? = call.point.deadline? ∧
        ∃ deadline ∈ call.point.deadline?, now < deadline) := by
  have hchange := change_step c limits now call
  rw [h] at hchange
  cases hchange with
  | stays point deadline _ hbefore hafter hearly =>
    exact .inr ⟨hafter.trans hbefore.symm, deadline, hbefore, hearly⟩
  | found | unreported | taken | untaken | reported | unseen | routed | ordered =>
    left
    simp_all [DeletePoint.ahead, DeletePoint.deadline?, watchFrom]

end DeleteCall

/-! ## A request in a fleet -/

namespace FleetEvent

variable {V : VmService}

/-- Whether the coordinator starts anew. -/
def isRestart : FleetEvent V → Bool
  | .restart => true
  | _ => false

end FleetEvent

/-- A delete request and the fleet beside it: the request while it is under way, and its answer. -/
structure Deletion (V : VmService) where
  fleet : Fleet V
  call : Option DeleteCall
  answer : Option (Except DeleteError Unit)

inductive DeletionEvent (V : VmService) where
  /-- Something else happens in the fleet. -/
  | beside (e : FleetEvent V)
  /-- The request makes its next step. -/
  | goesOn (now : Instant)

/-- Whether the request stays where it is. -/
def DeletionEvent.isAside {V : VmService} : DeletionEvent V → Bool
  | beside e => !e.isRestart
  | goesOn _ => false

namespace Deletion

variable {V : VmService}

/-- A request that comes to a fleet. -/
def begin (f : Fleet V) (cloudId : CloudId) (requestId : String) : Deletion V :=
  ⟨f, some (.new cloudId requestId), none⟩

/-- A request that is under way when the coordinator starts anew is never answered. -/
def step (limits : RequestLimits) (d : Deletion V) : DeletionEvent V → Deletion V
  | .beside e =>
    { d with
      fleet := d.fleet.onEvent limits e
      call := if e.isRestart then none else d.call }
  | .goesOn now =>
    match d.call with
    | some call =>
      let (coordinator, progress) := call.step d.fleet.coordinator limits now
      { fleet := { d.fleet with coordinator }
        call := progress.call?
        answer := progress.answer? }
    | none => d

def after (limits : RequestLimits) (d : Deletion V) (es : List (DeletionEvent V)) : Deletion V :=
  es.foldl (step limits) d

theorem after_append (limits : RequestLimits) (d : Deletion V) (es es' : List (DeletionEvent V)) :
    d.after limits (es ++ es') = (d.after limits es).after limits es' :=
  List.foldl_append

theorem after_append_singleton (limits : RequestLimits) (d : Deletion V)
    (es : List (DeletionEvent V)) (e : DeletionEvent V) :
    d.after limits (es ++ [e]) = (d.after limits es).step limits e :=
  after_append limits d es [e]

/-- The store that the request looks at. -/
def store (d : Deletion V) : Store := d.fleet.coordinator.store

section

variable {limits : RequestLimits} {d : Deletion V} {call : DeleteCall} {now : Instant}

theorem step_goesOn (h : d.call = some call) :
    (d.step limits (.goesOn now)).call = (call.step d.fleet.coordinator limits now).2.call? ∧
      (d.step limits (.goesOn now)).answer =
        (call.step d.fleet.coordinator limits now).2.answer? := by
  simp only [step, h]
  exact ⟨trivial, trivial⟩

theorem linked_step (h : d.store.Linked) (e : DeletionEvent V) :
    (d.step limits e).store.Linked := by
  cases e with
  | beside e => exact Fleet.linked_onEvent h e
  | goesOn now =>
    unfold step
    cases d.call with
    | none => exact h
    | some call => exact h.next (call.next_step d.fleet.coordinator limits now)

theorem linked_after (h : d.store.Linked) (es : List (DeletionEvent V)) :
    (d.after limits es).store.Linked := by
  induction es using List.reverseRecOn with
  | nil => exact h
  | append_singleton es e ih =>
    rw [after_append_singleton]
    exact linked_step ih e

theorem call_aside {es : List (DeletionEvent V)} (h : ∀ e ∈ es, e.isAside = true) :
    (d.after limits es).call = d.call := by
  induction es using List.reverseRecOn with
  | nil => rfl
  | append_singleton es e ih =>
    have hrest := ih fun x hx => h x (List.mem_append_left [e] hx)
    have he : e.isAside = true := h e (by simp)
    rw [after_append_singleton]
    cases e with
    | goesOn now => cases he
    | beside e =>
      have hnot : e.isRestart = false := by simpa [DeletionEvent.isAside] using he
      simp only [step, hnot, Bool.false_eq_true, if_false]
      exact hrest

end

/-- The last step of the request found the runner in the store, and the runner has been dropped
since. -/
def Lost (limits : RequestLimits) (d : Deletion V) (es : List (DeletionEvent V))
    (runner : RunnerId) : Prop :=
  ∃ before now between, es = before ++ .goesOn now :: between ∧
    (∀ e ∈ between, e.isAside = true) ∧
    (d.after limits before).store.runners.contains runner = true ∧
    ((d.after limits (before ++ [.goesOn now])).call.map (·.point)) = some (.routing runner) ∧
    (d.after limits es).store.runners.contains runner = false

section

variable {limits : RequestLimits} {d : Deletion V} {call : DeleteCall} {now : Instant}
  {runner : RunnerId} {es : List (DeletionEvent V)} {e : DeleteError}

/-- A request that is to look for the runner's agent has found the runner with its last step. -/
theorem found_of_routing (hlinked : d.store.Linked)
    (hstart : d.call.map (·.point) = some .resolving)
    (h : (d.after limits es).call.map (·.point) = some (.routing runner)) :
    ∃ before now between, es = before ++ .goesOn now :: between ∧
      (∀ e ∈ between, e.isAside = true) ∧
      (d.after limits before).store.runners.contains runner = true ∧
      (d.after limits (before ++ [.goesOn now])).call.map (·.point) = some (.routing runner) := by
  induction es using List.reverseRecOn with
  | nil =>
    have hsame : d.call.map (·.point) = some (.routing runner) := h
    rw [hstart] at hsame
    cases hsame
  | append_singleton es x ih =>
    rw [after_append_singleton] at h
    cases x with
    | beside x =>
      cases hrestart : x.isRestart with
      | true =>
        simp only [step, hrestart, if_true] at h
        cases h
      | false =>
        simp only [step, hrestart, Bool.false_eq_true, if_false] at h
        obtain ⟨before, t, between, rfl, haside, hfound, hrouting⟩ := ih h
        refine ⟨before, t, between ++ [.beside x], by simp, fun y hy => ?_, hfound, hrouting⟩
        rcases List.mem_append.1 hy with hy | hy
        · exact haside y hy
        · cases List.mem_singleton.1 hy
          simp [DeletionEvent.isAside, hrestart]
    | goesOn t =>
      cases hcall : (d.after limits es).call with
      | none =>
        simp only [step, hcall] at h
        cases h
      | some call =>
        have hnext := h
        rw [(step_goesOn hcall).1] at hnext
        obtain ⟨next, hwaits, hpoint⟩ := Option.map_eq_some_iff.1 hnext
        have hnow : (d.after limits es).fleet.coordinator.store.Linked := linked_after hlinked es
        have hstep := Progress.call?_eq_some_iff.1 hwaits
        refine ⟨es, t, [], rfl, List.forall_mem_nil _, ?_, ?_⟩
        · exact DeleteCall.contains_of_routing hnow hstep hpoint
        · rw [after_append_singleton]
          exact h

/-- Between the two steps the request stays where it is. -/
theorem Lost.point (h : Lost limits d es runner) :
    (d.after limits es).call.map (·.point) = some (.routing runner) := by
  obtain ⟨before, t, between, rfl, haside, -, hlast, -⟩ := h
  have hsplit : before ++ .goesOn t :: between = (before ++ [.goesOn t]) ++ between := by simp
  rw [hsplit, after_append, call_aside haside]
  exact hlast

/-- The next step of a request fails exactly when the runner that it has found is lost. -/
theorem goesOn_fails_iff (hlinked : d.store.Linked)
    (hstart : d.call.map (·.point) = some .resolving)
    (hcall : (d.after limits es).call = some call) :
    (d.after limits (es ++ [.goesOn now])).answer = some (.error e) ↔
      ∃ runner, Lost limits d es runner ∧ e = .noOwner (.runnerNotFound runner) := by
  have hanswer : (d.after limits (es ++ [.goesOn now])).answer = some (.error e) ↔
      (call.step (d.after limits es).fleet.coordinator limits now).2 = .finished (.error e) := by
    rw [after_append_singleton, (step_goesOn hcall).2, Progress.answer?_eq_some_iff]
  rw [hanswer, DeleteCall.step_eq_error_iff (linked_after hlinked es)]
  constructor
  · rintro ⟨runner, hpoint, habsent, he⟩
    have hrouting : (d.after limits es).call.map (·.point) = some (.routing runner) := by
      rw [hcall, Option.map_some, hpoint]
    obtain ⟨before, t, between, hes, haside, hfound, hlast⟩ :=
      found_of_routing hlinked hstart hrouting
    exact ⟨runner, ⟨before, t, between, hes, haside, hfound, hlast, habsent⟩, he⟩
  · rintro ⟨runner, hlost, he⟩
    have hpoint := hlost.point
    rw [hcall, Option.map_some] at hpoint
    obtain ⟨_, _, _, _, _, _, _, habsent⟩ := hlost
    exact ⟨runner, Option.some.inj hpoint, habsent, he⟩

/-- What is not under way keeps its answer. -/
theorem answer_of_over (h : d.call = none) (es : List (DeletionEvent V)) :
    (d.after limits es).call = none ∧ (d.after limits es).answer = d.answer := by
  induction es using List.reverseRecOn with
  | nil => exact ⟨h, rfl⟩
  | append_singleton es x ih =>
    rw [after_append_singleton]
    cases x with
    | beside x =>
      refine ⟨?_, ih.2⟩
      simp only [step, ih.1, ite_self]
    | goesOn t =>
      simp only [step, ih.1]
      exact ⟨trivial, ih.2⟩

theorem lost_of_answer (hlinked : d.store.Linked)
    (hstart : d.call.map (·.point) = some .resolving) (hopen : d.answer = none)
    (h : (d.after limits es).answer = some (.error e)) :
    ∃ before now rest runner, es = before ++ .goesOn now :: rest ∧ Lost limits d before runner ∧
      e = .noOwner (.runnerNotFound runner) := by
  induction es using List.reverseRecOn with
  | nil =>
    have hnone : d.answer = some (.error e) := h
    rw [hopen] at hnone
    cases hnone
  | append_singleton es x ih =>
    by_cases hearlier : (d.after limits es).answer = some (.error e)
    · obtain ⟨before, t, rest, runner, rfl, hlost, he⟩ := ih hearlier
      exact ⟨before, t, rest ++ [x], runner, by simp, hlost, he⟩
    · cases x with
      | beside x =>
        rw [after_append_singleton] at h
        exact absurd h hearlier
      | goesOn t =>
        cases hcall : (d.after limits es).call with
        | none =>
          rw [after_append_singleton] at h
          simp only [step, hcall] at h
          exact absurd h hearlier
        | some call =>
          obtain ⟨runner, hlost, he⟩ := (goesOn_fails_iff hlinked hstart hcall).1 h
          exact ⟨es, t, [], runner, rfl, hlost, he⟩

theorem answer_of_lost (hlinked : d.store.Linked)
    (hstart : d.call.map (·.point) = some .resolving) (h : Lost limits d es runner)
    (rest : List (DeletionEvent V)) :
    (d.after limits (es ++ .goesOn now :: rest)).answer =
      some (.error (.noOwner (.runnerNotFound runner))) := by
  obtain ⟨call, hcall, -⟩ := Option.map_eq_some_iff.1 h.point
  have hfails : (d.after limits (es ++ [.goesOn now])).answer = _ :=
    (goesOn_fails_iff hlinked hstart hcall).2 ⟨runner, h, rfl⟩
  have hover : (d.after limits (es ++ [.goesOn now])).call = none := by
    rw [after_append_singleton] at hfails ⊢
    rw [(step_goesOn hcall).2, Progress.answer?_eq_some_iff] at hfails
    rw [(step_goesOn hcall).1, hfails, Progress.call?]
  have hsplit : es ++ .goesOn now :: rest = (es ++ [.goesOn now]) ++ rest := by simp
  rw [hsplit, after_append, (answer_of_over hover rest).2, hfails]

end

/-- A request is answered with an error exactly if one of its steps found the runner in the store
and the runner was dropped before the next one; the error says that the runner has no agent. Every
step of a request that is under way answers it, or brings it nearer to its end, or finds it waiting
for a deadline that is set once, the timeout after the waiting began. -/
theorem fails_iff_lost (limits : RequestLimits) (earlier : List (FleetEvent V))
    (cloudId : CloudId) (requestId : String) (es : List (DeletionEvent V)) :
    let d := begin ((Fleet.start : Fleet V).after limits earlier) cloudId requestId
    (∀ e, (d.after limits es).answer = some (.error e) ↔
      ∃ before now rest runner, es = before ++ .goesOn now :: rest ∧ Lost limits d before runner ∧
        e = .noOwner (.runnerNotFound runner)) ∧
      ∀ call now, (d.after limits es).call = some call →
        (d.after limits (es ++ [.goesOn now])).answer.isSome ∨
          ∃ next, (d.after limits (es ++ [.goesOn now])).call = some next ∧
            ((next.point.ahead < call.point.ahead ∧
                ∀ deadline ∈ next.point.deadline?, deadline = now + limits.delete.ticks) ∨
              (next.point.deadline? = call.point.deadline? ∧
                ∃ deadline ∈ call.point.deadline?, now < deadline)) := by
  intro d
  have hlinked : d.store.Linked := Fleet.linked_after limits earlier
  have hstart : d.call.map (·.point) = some .resolving := rfl
  refine ⟨fun e => ⟨lost_of_answer hlinked hstart rfl, ?_⟩, fun call now hcall => ?_⟩
  · rintro ⟨before, now, rest, runner, rfl, hlost, rfl⟩
    exact answer_of_lost hlinked hstart hlost rest
  · rw [after_append_singleton, (step_goesOn hcall).1, (step_goesOn hcall).2]
    cases hstep : (call.step (d.after limits es).fleet.coordinator limits now).2 with
    | finished r => exact .inl rfl
    | waits next => exact .inr ⟨next, rfl, DeleteCall.nearer_of_waits hstep⟩

/-! ## A request that fails -/

/-- An agent reports a runner, and what the runner is known by outside is registered. -/
def reportedOnce : List (FleetEvent lifecycle) :=
  [.register "a1" ⟨"mini-1", some ⟨1, 4, 8⟩⟩,
    .add 0 [⟨"a1", "mini-1", ⟨1, 4, 8⟩, .online⟩] "r1" ⟨"ci", "", "", []⟩ "q1", .addGoesOn 0 0,
    .addGoesOn 0 0, .addGoesOn 0 0, .addGoesOn 0 0, .connect 0,
    .snapshot 0 ⟨"a1", 1, [.ofRunner (.accepted "r1" "ci" "a1" "" 0)]⟩, .streamGoesOn 0,
    .streamGoesOn 0, .streamGoesOn 0, .streamGoesOn 0]

/-- The agent's next snapshot does not list the runner any more. -/
def droppedMeanwhile : List (DeletionEvent lifecycle) :=
  [.goesOn 0, .beside (.snapshot 0 ⟨"a1", 0, []⟩), .beside (.streamGoesOn 0),
    .beside (.streamGoesOn 0)]

/-- The request for the runner that comes after the first report. -/
def tooLate : Deletion lifecycle :=
  begin ((Fleet.start : Fleet lifecycle).after ⟨⟨1⟩, ⟨1⟩, ⟨1⟩⟩ reportedOnce) (cloudIdOf "r1") "q2"

theorem lost_tooLate : Lost ⟨⟨1⟩, ⟨1⟩, ⟨1⟩⟩ tooLate droppedMeanwhile "r1" := by
  refine ⟨[], 0, droppedMeanwhile.tail, rfl, ?_, ?_, ?_, ?_⟩
  · decide +kernel
  · decide +kernel
  · decide +kernel
  · decide +kernel

theorem fails_iff_lost_tooLate :
    (tooLate.after ⟨⟨1⟩, ⟨1⟩, ⟨1⟩⟩ (droppedMeanwhile ++ [.goesOn 0])).answer =
        some (.error (.noOwner (.runnerNotFound "r1"))) ∧
      (tooLate.after ⟨⟨1⟩, ⟨1⟩, ⟨1⟩⟩ []).call = some (.new (cloudIdOf "r1") "q2") ∧
      ∃ next, (tooLate.after ⟨⟨1⟩, ⟨1⟩, ⟨1⟩⟩ ([] ++ [.goesOn 0])).call = some next ∧
        next.point.ahead < 6 := by
  have hfails := (fails_iff_lost (V := lifecycle) ⟨⟨1⟩, ⟨1⟩, ⟨1⟩⟩ reportedOnce (cloudIdOf "r1") "q2"
    (droppedMeanwhile ++ [.goesOn 0])).1 (.noOwner (.runnerNotFound "r1"))
  have hnearer := (fails_iff_lost (V := lifecycle) ⟨⟨1⟩, ⟨1⟩, ⟨1⟩⟩ reportedOnce (cloudIdOf "r1")
    "q2" []).2 (.new (cloudIdOf "r1") "q2") 0 rfl
  refine ⟨hfails.2 ⟨droppedMeanwhile, 0, [], "r1", rfl, lost_tooLate, rfl⟩, rfl, ?_⟩
  rcases hnearer with hanswer | ⟨next, hnext, ⟨hahead, -⟩ | ⟨-, deadline, hdeadline, -⟩⟩
  · have hopen : (tooLate.after ⟨⟨1⟩, ⟨1⟩, ⟨1⟩⟩ ([] ++ [.goesOn 0])).answer.isSome = false := by
      decide +kernel
    exact absurd (hopen.symm.trans hanswer) (by decide)
  · exact ⟨next, hnext, hahead⟩
  · cases hdeadline

/-- A request to delete a runner can be answered with an error. -/
theorem can_fail :
    ¬ ∀ (limits : RequestLimits) (earlier : List (FleetEvent lifecycle)) (cloudId : CloudId)
      (requestId : String) (es : List (DeletionEvent lifecycle)) (e : DeleteError),
      ((begin ((Fleet.start : Fleet lifecycle).after limits earlier) cloudId requestId).after limits
        es).answer ≠ some (.error e) := by
  intro h
  have hfails : ((begin ((Fleet.start : Fleet lifecycle).after ⟨⟨1⟩, ⟨1⟩, ⟨1⟩⟩ reportedOnce)
      (cloudIdOf "r1") "q2").after ⟨⟨1⟩, ⟨1⟩, ⟨1⟩⟩ (droppedMeanwhile ++ [.goesOn 0])).answer =
        some (.error (.noOwner (.runnerNotFound "r1"))) := by decide +kernel
  exact h _ _ _ _ _ _ hfails

end Deletion

end RunnerFleet

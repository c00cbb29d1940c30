import RunnerFleet.Coordinator.Deleting
import RunnerFleet.Proofs.Metrics.Recordings

/-!
# What a request is counted as

The handlers of requests count where they end, in one step with the end. To let other requests count
in between, a step is carried out with nothing counted, and what it has counted then is left to be
recorded later (`Coordinator.holding`). Nothing else of a step depends on what was counted before it
(`Counts`), so the step and its recordings together are the handler's step.

What a handler counts is read off it here: `AddCall.counts_begin`, `AddCall.counts_resume` and
`DeleteCall.counts_step` say for every way that a request can end that the recordings are those of
its answer (`Verdict.Recorded`).
-/

namespace RunnerFleet

/-! ## Answers and their recordings -/

/-- Whether a label is that of a failure. -/
def Failing (label : String) : Prop := "failed_".toList <+: label.toList

instance : DecidablePred Failing := fun _ => inferInstanceAs (Decidable (_ <+: _))

theorem AddError.failing_label (e : AddError) : Failing e.label := by
  cases e with
  | noAgent cause => exact (by decide : Failing "failed_no_agent")
  | runnerFailed message => exact (by decide : Failing "failed_runner_error")
  | timedOut after => exact (by decide : Failing "failed_timeout")

theorem DeleteError.failing_label (e : DeleteError) : Failing e.label := by
  cases e with
  | lookup cause => exact (by decide : Failing "failed_lookup")
  | noOwner cause => exact (by decide : Failing "failed_get_agent")

/-- How a request is answered. -/
inductive Verdict where
  | added (r : Except AddError Instance)
  | deleted (r : Except DeleteError Unit)

namespace Verdict

def isAdd : Verdict → Bool
  | added _ => true
  | deleted _ => false

/-- Whether the caller gets an error. -/
def isError : Verdict → Bool
  | added (.ok _) => false
  | added (.error _) => true
  | deleted (.ok _) => false
  | deleted (.error _) => true

/-- The recordings that go with an answer, in their order. -/
inductive Recorded : Verdict → List Tally → Prop
  | ready (i : Instance) : Recorded (added (.ok i)) [.startup, .added "success"]
  | failed (e : AddError) :
      Recorded (added (.error e)) ((e.reason?.map .failure).toList ++ [.added e.label])
  | gone (label : String) (h : ¬ Failing label) : Recorded (deleted (.ok ())) [.deleted label]
  | kept (e : DeleteError) : Recorded (deleted (.error e)) [.deleted e.label]

end Verdict

/-- A request that is over: its answer, and what was recorded of it. -/
structure Outcome where
  verdict : Verdict
  tallies : List Tally

namespace Outcome

variable {o : Outcome}

/-- What was recorded goes with the answer. -/
def Sound (o : Outcome) : Prop := o.verdict.Recorded o.tallies

/-- The labels that the end of the request was counted under. -/
def labels (o : Outcome) : List String := o.tallies.filterMap Tally.label?

/-- An add request that was counted under this label and no other. -/
def isAddOf (label : String) (o : Outcome) : Bool := o.verdict.isAdd && o.labels == [label]

/-- A delete request that was counted under this label and no other. -/
def isDeleteOf (label : String) (o : Outcome) : Bool := !o.verdict.isAdd && o.labels == [label]

/-- A request has one label, which says whether the caller got an error. -/
theorem Sound.exists_label (h : o.Sound) :
    ∃ label, o.labels = [label] ∧ (o.verdict.isError = true ↔ Failing label) := by
  obtain ⟨verdict, tallies⟩ := o
  cases h with
  | ready i => exact ⟨"success", rfl, iff_of_false Bool.false_ne_true (by decide)⟩
  | failed e => exact ⟨e.label, by cases e <;> rfl, iff_of_true rfl e.failing_label⟩
  | gone label hlabel => exact ⟨label, rfl, iff_of_false Bool.false_ne_true hlabel⟩
  | kept e => exact ⟨e.label, rfl, iff_of_true rfl e.failing_label⟩

/-! ### How often a request is counted -/

theorem Sound.countP_isAdded (h : o.Sound) :
    o.tallies.countP Tally.isAdded = o.verdict.isAdd.toNat := by
  obtain ⟨verdict, tallies⟩ := o
  cases h with
  | failed e => cases e <;> rfl
  | _ => rfl

theorem Sound.countP_isDeleted (h : o.Sound) :
    o.tallies.countP Tally.isDeleted = (!o.verdict.isAdd).toNat := by
  obtain ⟨verdict, tallies⟩ := o
  cases h with
  | failed e => cases e <;> rfl
  | _ => rfl

/-- What is recorded along with the end of an add request, and under which labels only. -/
def companions : List (Tally × String) :=
  [(.startup, "success"), (.failure "runner_error", "failed_runner_error"),
    (.failure "startup_timeout", "failed_timeout")]

theorem Sound.count_companion (h : o.Sound) {t : Tally} {label : String}
    (hpair : (t, label) ∈ companions) : o.tallies.count t = (o.isAddOf label).toNat := by
  have hall : ∀ p ∈ companions, o.tallies.count p.1 = (o.isAddOf p.2).toNat := by
    simp only [companions, List.forall_mem_cons, List.not_mem_nil, false_implies, implies_true,
      and_true]
    obtain ⟨verdict, tallies⟩ := o
    cases h with
    | failed e => cases e <;> exact ⟨rfl, rfl, rfl⟩
    | _ => exact ⟨rfl, rfl, rfl⟩
  exact hall (t, label) hpair

theorem count_labelled {f : String → Tally} (hf : Function.Injective f) (l label : String) :
    [f l].count (f label) = ([l] == [label]).toNat := by
  rw [List.count_singleton]
  by_cases hl : l = label
  · rw [hl, beq_self_eq_true, beq_self_eq_true]
    rfl
  · have hne : [l] ≠ [label] := fun h => hl (List.cons.inj h).1
    rw [beq_false_of_ne hne, beq_false_of_ne fun h => hl (hf h)]
    rfl

theorem Sound.count_added (h : o.Sound) (label : String) :
    o.tallies.count (.added label) = (o.isAddOf label).toNat := by
  have hlabel := fun l => count_labelled (f := Tally.added) (fun _ _ => Tally.added.inj) l label
  obtain ⟨verdict, tallies⟩ := o
  cases h with
  | ready i => exact hlabel "success"
  | failed e => cases e <;> exact hlabel _
  | _ => rfl

theorem Sound.count_deleted (h : o.Sound) (label : String) :
    o.tallies.count (.deleted label) = (o.isDeleteOf label).toNat := by
  have hlabel := fun l => count_labelled (f := Tally.deleted) (fun _ _ => Tally.deleted.inj) l label
  obtain ⟨verdict, tallies⟩ := o
  cases h with
  | ready i => rfl
  | failed e => cases e <;> rfl
  | gone l => exact hlabel l
  | kept e => exact hlabel e.label

/-- What each request of a kind counts once is counted as often as there are such requests. -/
theorem countP_tallies {p : Tally → Bool} {q : Outcome → Bool} {os : List Outcome}
    (h : ∀ o ∈ os, o.tallies.countP p = (q o).toNat) :
    (os.flatMap tallies).countP p = os.countP q := by
  induction os with
  | nil => rfl
  | cons o os ih =>
    obtain ⟨ho, hos⟩ := List.forall_mem_cons.1 h
    rw [List.flatMap_cons, List.countP_append, ih hos, ho, List.countP_cons, Nat.add_comm]
    cases q o <;> rfl

end Outcome

/-! ## Recordings that are held back -/

/-- The coordinator with nothing counted. -/
def Coordinator.uncounted (c : Coordinator) : Coordinator := { c with counters := .zero }

/-- Carries out an operation that is not to count yet: what it counts where nothing is counted is
what is left to be recorded. -/
def Coordinator.holding {R : Type} (c : Coordinator) (op : Coordinator → Coordinator × R) :
    Coordinator × R × List Tally :=
  let y := op c.uncounted
  ({ y.1 with counters := c.counters }, y.2, y.1.counters.tallies)

/-- An operation counts these, for a request that has taken so long, whatever was counted before,
and the rest of what it does does not depend on that either. -/
structure Counts {R : Type} (op : Coordinator → Coordinator × R) (c : Coordinator)
    (told : List Tally) (elapsed : Span) : Prop where
  held : (op c.uncounted).1.counters.tallies = told
  made : op c =
    ({ (op c.uncounted).1 with counters := c.counters.enterAll (told.map (⟨·, elapsed⟩)) },
      (op c.uncounted).2)

namespace Counts

variable {R : Type} {op op' : Coordinator → Coordinator × R} {c : Coordinator} {told : List Tally}
  {elapsed : Span}

/-- A step that comes down to an operation, with this store and these queues, counts what the
operation counts. -/
theorem of_step {P : R → List Tally → Prop} (h : Counts op' c told elapsed)
    (hstep : ∀ x : Coordinator, x.store = c.store → x.outbox = c.outbox → op x = op' x)
    (hresult : P (op' c).2 told) : ∃ told, Counts op c told elapsed ∧ P (op c).2 told := by
  have hc : op c = op' c := hstep c rfl rfl
  have huncounted : op c.uncounted = op' c.uncounted := hstep c.uncounted rfl rfl
  refine ⟨told, ⟨huncounted ▸ h.held, ?_⟩, hc ▸ hresult⟩
  rw [hc, huncounted, h.made]

theorem holding_eq (h : Counts op c told elapsed) :
    c.holding op = ({ (op c).1 with counters := c.counters }, (op c).2, told) := by
  rw [Coordinator.holding, h.made, h.held]

end Counts

/-! ## Add requests -/

namespace AddCall

variable {c : Coordinator} {limits : RequestLimits} {now : Instant}

/-- A step counts nothing, or it ends the request and counts what goes with the answer. -/
def Counted : Progress AddCall (Except AddError Instance) → List Tally → Prop
  | .finished r, told => (Verdict.added r).Recorded told
  | .waits _, told => told = []

theorem counts_fail (c : Coordinator) (elapsed : Span) (e : AddError) :
    Counts (fail · elapsed e) c ((e.reason?.map .failure).toList ++ [.added e.label]) elapsed := by
  cases e <;> exact ⟨rfl, rfl⟩

theorem counts_succeed (c : Coordinator) (elapsed : Span) (runner : Runner) (id : RunnerId) :
    Counts (succeed · elapsed runner id) c [.startup, .added "success"] elapsed := ⟨rfl, rfl⟩

theorem counts_begin (c : Coordinator) (limits : RequestLimits) (now : Instant)
    (agents : List Agent) (minted : RunnerId) (request : Wire.AddRequest) (requestId : String) :
    ∃ told, Counts (begin · limits now agents minted request requestId) c told ⟨0⟩ ∧
      Counted (begin c limits now agents minted request requestId).2 told := by
  cases hselect : Placement.selectAmong c.store agents with
  | error e =>
    refine (counts_fail c ⟨0⟩ (.noAgent e)).of_step (fun x hstore _ => ?_) (.failed _)
    simp only [begin, hstore, hselect]
  | ok agent =>
    have hplaced : Counts (fun x : Coordinator => ({ x with
          store := c.store.registerCloudId (cloudIdOf minted) minted
          outbox := c.outbox.enqueue agent
            (.createRunner minted request.runnerName request.setupScript requestId) },
        (.waits ⟨minted, now, ⟨now + limits.poll.ticks, now + limits.add.ticks⟩⟩ :
          Progress AddCall (Except AddError Instance)))) c [] ⟨0⟩ := ⟨rfl, rfl⟩
    refine hplaced.of_step (fun x hstore houtbox => ?_) rfl
    simp only [begin, hstore, houtbox, hselect]

theorem counts_resume (c : Coordinator) (limits : RequestLimits) (now : Instant) (call : AddCall) :
    ∃ told, Counts (resume · limits now call) c told (.ofMillis (now - call.began)) ∧
      Counted (resume c limits now call).2 told := by
  cases hsight : call.watch.resume now limits.poll (look c.store call.runner) with
  | seen r =>
    cases r with
    | ok runner =>
      refine (counts_succeed c _ runner call.runner).of_step (fun x hstore _ => ?_) (.ready _)
      simp only [resume, hstore, hsight]
    | error message =>
      refine (counts_fail c _ (.runnerFailed message)).of_step (fun x hstore _ => ?_)
        (.failed _)
      simp only [resume, hstore, hsight]
  | expired =>
    refine (counts_fail c _ (.timedOut limits.add)).of_step (fun x hstore _ => ?_) (.failed _)
    simp only [resume, hstore, hsight]
  | waits watch =>
    have hwaits : Counts (fun x : Coordinator => (x, (.waits { call with watch } :
        Progress AddCall (Except AddError Instance)))) c [] (.ofMillis (now - call.began)) :=
      ⟨rfl, rfl⟩
    refine hwaits.of_step (fun x hstore _ => ?_) rfl
    simp only [resume, hstore, hsight]

end AddCall

/-! ## Delete requests -/

namespace DeleteCall

/-- If the request is about to forget its cloud id, the label for that is not one of a failure. -/
def Quiet (call : DeleteCall) : Prop := ∀ label, call.point = .forgetting label → ¬ Failing label

/-- A step counts nothing and leaves the request quiet, or it ends the request and, if that was
quiet, counts what goes with the answer. -/
def Counted (call : DeleteCall) : Progress DeleteCall (Except DeleteError Unit) → List Tally → Prop
  | .finished r, told => call.Quiet → (Verdict.deleted r).Recorded told
  | .waits next, told => told = [] ∧ next.Quiet

section Steps

variable {c : Coordinator} {limits : RequestLimits} {now : Instant} {call : DeleteCall}
  {elapsed : Span}

theorem counts_succeed (c : Coordinator) (elapsed : Span) (label : String) :
    Counts (succeed · label) c [.deleted label] elapsed := ⟨rfl, rfl⟩

theorem counts_forget (c : Coordinator) (elapsed : Span) (store : Store) (label : String) :
    Counts (fun x => succeed { x with store } label) c [.deleted label] elapsed := ⟨rfl, rfl⟩

theorem counts_fail (c : Coordinator) (elapsed : Span) (e : DeleteError) :
    Counts (fail · e) c [.deleted e.label] elapsed := ⟨rfl, rfl⟩

/-- A step to another point counts nothing. -/
theorem counts_goOn (point : DeletePoint)
    (hquiet : ∀ label, point = .forgetting label → ¬ Failing label)
    (hstep : ∀ x : Coordinator, x.store = c.store → x.outbox = c.outbox →
      step x limits now call = (x, .waits { call with point })) :
    ∃ told, Counts (step · limits now call) c told elapsed ∧
      call.Counted (step c limits now call).2 told := by
  have hwaits : Counts (fun x => (x, (.waits { call with point } :
      Progress DeleteCall (Except DeleteError Unit)))) c [] elapsed := ⟨rfl, rfl⟩
  exact hwaits.of_step hstep ⟨rfl, hquiet⟩

/-- So does a step that changes the queues as well. -/
theorem counts_queue (outbox : Outbox) (point : DeletePoint)
    (hquiet : ∀ label, point = .forgetting label → ¬ Failing label)
    (hstep : ∀ x : Coordinator, x.store = c.store → x.outbox = c.outbox →
      step x limits now call = ({ x with outbox }, .waits { call with point })) :
    ∃ told, Counts (step · limits now call) c told elapsed ∧
      call.Counted (step c limits now call).2 told := by
  have hwaits : Counts (fun x : Coordinator => ({ x with outbox }, (.waits { call with point } :
      Progress DeleteCall (Except DeleteError Unit)))) c [] elapsed := ⟨rfl, rfl⟩
  exact hwaits.of_step hstep ⟨rfl, hquiet⟩

end Steps

theorem counts_step (c : Coordinator) (limits : RequestLimits) (now : Instant) (call : DeleteCall)
    (elapsed : Span) :
    ∃ told, Counts (step · limits now call) c told elapsed ∧
      call.Counted (step c limits now call).2 told := by
  cases hpoint : call.point with
  | resolving =>
    cases hget : c.store.getByCloudId call.cloudId with
    | ok runner =>
      refine counts_goOn (.routing runner.id) (fun _ h => nomatch h) fun x hstore _ => ?_
      simp only [step, hpoint, hstore, hget]
    | error e =>
      cases e with
      | runnerNotFound runner =>
        refine counts_goOn (.withdrawing runner) (fun _ h => nomatch h) fun x hstore _ => ?_
        simp only [step, hpoint, hstore, hget]
      | agentOffline id =>
        refine (counts_fail c elapsed (.lookup (.agentOffline id))).of_step (fun x hstore _ => ?_)
          (fun _ => .kept _)
        simp only [step, hpoint, hstore, hget]
        rfl
      | agentNotFound | cloudIdNotFound =>
        refine (counts_succeed c elapsed "already_gone").of_step (fun x hstore _ => ?_)
          (fun _ => .gone _ (by decide))
        simp only [step, hpoint, hstore, hget]
        rfl
  | withdrawing runner =>
    rcases hwithdraw : c.outbox.withdrawCreate runner with ⟨outbox, _ | holder⟩
    · refine counts_goOn (.awaitingReport runner (watchFrom limits now)) (fun _ h => nomatch h)
        fun x _ houtbox => ?_
      simp only [step, hpoint, houtbox, hwithdraw]
    · refine counts_queue outbox (.forgetting "withdrawn") ?_ fun x _ houtbox => ?_
      · rintro label ⟨⟩
        decide
      · simp only [step, hpoint, houtbox, hwithdraw]
  | forgetting label =>
    refine (counts_forget c elapsed (c.store.forgetCloudId call.cloudId).1 label).of_step
      (fun x hstore _ => ?_) (fun hquiet => .gone label (hquiet label hpoint))
    simp only [step, hpoint, hstore]
  | awaitingReport runner watch =>
    cases hsight : watch.resume now limits.poll (c.store.getRunner runner).toOption with
    | seen found =>
      refine counts_goOn (.routing found.id) (fun _ h => nomatch h) fun x hstore _ => ?_
      simp only [step, hpoint, hstore, hsight]
    | expired =>
      refine counts_goOn (.forgetting "never_reported") ?_ fun x hstore _ => ?_
      · rintro label ⟨⟩
        decide
      · simp only [step, hpoint, hstore, hsight]
    | waits watch =>
      refine counts_goOn (.awaitingReport runner watch) (fun _ h => nomatch h) fun x hstore _ => ?_
      simp only [step, hpoint, hstore, hsight]
  | routing runner =>
    cases howner : c.store.agentOfRunner runner with
    | ok agent =>
      refine counts_goOn (.ordering runner agent) (fun _ h => nomatch h) fun x hstore _ => ?_
      simp only [step, hpoint, hstore, howner]
    | error e =>
      refine (counts_fail c elapsed (.noOwner e)).of_step (fun x hstore _ => ?_)
        (fun _ => .kept _)
      simp only [step, hpoint, hstore, howner]
  | ordering runner agent =>
    refine counts_queue (c.outbox.enqueue agent (.deleteRunner runner call.requestId))
      (.awaitingRemoval runner (watchFrom limits now)) (fun _ h => nomatch h) fun x _ houtbox => ?_
    simp only [step, hpoint, houtbox]
  | awaitingRemoval runner watch =>
    cases hsight : watch.resume now limits.poll (gone? c.store runner) with
    | seen found =>
      refine (counts_succeed c elapsed "success").of_step (fun x hstore _ => ?_)
        (fun _ => .gone _ (by decide))
      simp only [step, hpoint, hstore, hsight]
    | expired =>
      refine (counts_succeed c elapsed "unconfirmed").of_step (fun x hstore _ => ?_)
        (fun _ => .gone _ (by decide))
      simp only [step, hpoint, hstore, hsight]
    | waits watch =>
      refine counts_goOn (.awaitingRemoval runner watch) (fun _ h => nomatch h)
        fun x hstore _ => ?_
      simp only [step, hpoint, hstore, hsight]

end DeleteCall

end RunnerFleet

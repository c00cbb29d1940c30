import RunnerFleet.Proofs.Fleet.Creations
import RunnerFleet.Proofs.Fleet.Stores
import RunnerFleet.Proofs.Metrics.Verdicts

/-!
# What the counters say of the requests

Requests run side by side, and each ends with one recording or two. Every recording is a step of its
own, with its own duration, and between two of them other requests may make theirs (`Desk`). The
steps are those of the handlers: what a handler counts at once is held back, and counted one by one
it comes to the same (`TrackedCall.Faithful`).

At any time the counters tell the recordings that the requests have made (`Desk.Kept`); where no
request is between two of its own, these are all that belong to the requests that are over
(`Desk.tallies_of_settled`), and `Desk.counters_settled` reads the equations between the counters
off them.
-/

namespace RunnerFleet

/-! ## A request and its recordings -/

/-- Where a request is. -/
inductive CallStage where
  | adding (call : AddCall)
  | deleting (call : DeleteCall)
  | answered (v : Verdict)

namespace CallStage

def ofAdd : Progress AddCall (Except AddError Instance) → CallStage
  | .finished r => answered (.added r)
  | .waits call => adding call

def ofDelete : Progress DeleteCall (Except DeleteError Unit) → CallStage
  | .finished r => answered (.deleted r)
  | .waits call => deleting call

end CallStage

/-- A request, with what is left to be recorded of it and the recordings that it has made. -/
structure TrackedCall where
  stage : CallStage
  left : List Tally
  made : List Recording

namespace TrackedCall

/-- A request that is over, with all that it has recorded. -/
def outcome? (x : TrackedCall) : Option Outcome :=
  match x.stage, x.left with
  | .answered v, [] => some ⟨v, x.made.map (·.tally)⟩
  | _, _ => none

/-- Places a runner; what is counted of a request that fails is left. -/
def begin (c : Coordinator) (limits : RequestLimits) (now : Instant) (agents : List Agent)
    (minted : RunnerId) (request : Wire.AddRequest) (requestId : String) :
    Coordinator × TrackedCall :=
  let y := c.holding (AddCall.begin · limits now agents minted request requestId)
  (y.1, ⟨.ofAdd y.2.1, y.2.2, []⟩)

/-- Makes a step up to the answer; what the step counts is left. -/
def goOn (c : Coordinator) (limits : RequestLimits) (now : Instant) (x : TrackedCall) :
    Coordinator × TrackedCall :=
  match x.stage with
  | .adding call =>
    let y := c.holding (AddCall.resume · limits now call)
    (y.1, ⟨.ofAdd y.2.1, x.left ++ y.2.2, x.made⟩)
  | .deleting call =>
    let y := c.holding (DeleteCall.step · limits now call)
    (y.1, ⟨.ofDelete y.2.1, x.left ++ y.2.2, x.made⟩)
  | .answered _ => (c, x)

/-- Makes the next recording. -/
def record (c : Coordinator) (elapsed : Span) (x : TrackedCall) : Coordinator × TrackedCall :=
  match x.left with
  | tally :: left =>
    ({ c with counters := c.counters.enter ⟨tally, elapsed⟩ },
      { x with left, made := x.made ++ [⟨tally, elapsed⟩] })
  | [] => (c, x)

/-- Makes all recordings that are left, one after the other, with one duration. -/
def recordAll (elapsed : Span) (y : Coordinator × TrackedCall) : Coordinator × TrackedCall :=
  (fun y => y.2.record y.1 elapsed)^[y.2.left.length] y

variable {c : Coordinator} {limits : RequestLimits} {now : Instant} {x : TrackedCall}

theorem recordAll_eq (elapsed : Span) (c : Coordinator) (stage : CallStage) (left : List Tally)
    (made : List Recording) :
    recordAll elapsed (c, ⟨stage, left, made⟩) =
      ({ c with counters := c.counters.enterAll (left.map (⟨·, elapsed⟩)) },
        ⟨stage, [], made ++ left.map (⟨·, elapsed⟩)⟩) := by
  induction left generalizing c made with
  | nil => rw [List.map_nil, List.append_nil]; rfl
  | cons tally left ih =>
    have hfirst : recordAll elapsed (c, ⟨stage, tally :: left, made⟩) =
        recordAll elapsed ({ c with counters := c.counters.enter ⟨tally, elapsed⟩ },
          ⟨stage, left, made ++ [⟨tally, elapsed⟩]⟩) :=
      Function.iterate_succ_apply _ _ _
    rw [hfirst, ih, List.append_assoc]
    rfl

/-- An operation whose recordings are held back comes to the same once they are made. -/
theorem recordAll_holding {R : Type} {op : Coordinator → Coordinator × R} {told : List Tally}
    {elapsed : Span} (h : Counts op c told elapsed) (stage : R → CallStage)
    (made : List Recording) :
    recordAll elapsed ((c.holding op).1, ⟨stage (c.holding op).2.1, (c.holding op).2.2, made⟩) =
      ((op c).1, ⟨stage (op c).2, [], made ++ told.map (⟨·, elapsed⟩)⟩) := by
  rw [h.holding_eq, recordAll_eq, h.made]

/-! ## The steps of the handlers -/

/-- The coordinator and the stage that the steps of a request have led to. -/
def reached (y : Coordinator × TrackedCall) : Coordinator × CallStage := (y.1, y.2.stage)

/-- The steps of a request, its recordings included, make up those of the handlers. -/
structure Faithful (limits : RequestLimits) : Prop where
  begins : ∀ (c : Coordinator) (now : Instant) (agents : List Agent) (minted : RunnerId)
    (request : Wire.AddRequest) (requestId : String),
    reached (recordAll ⟨0⟩ (begin c limits now agents minted request requestId)) =
      (AddCall.begin c limits now agents minted request requestId).map id .ofAdd
  adds : ∀ (c : Coordinator) (now : Instant) (call : AddCall) (made : List Recording),
    reached (recordAll (.ofMillis (now - call.began))
        (goOn c limits now ⟨.adding call, [], made⟩)) =
      (call.resume c limits now).map id .ofAdd
  deletes : ∀ (c : Coordinator) (now : Instant) (call : DeleteCall) (made : List Recording)
    (elapsed : Span),
    reached (recordAll elapsed (goOn c limits now ⟨.deleting call, [], made⟩)) =
      (call.step c limits now).map id .ofDelete

theorem faithful (limits : RequestLimits) : Faithful limits where
  begins c now agents minted request requestId := by
    obtain ⟨told, hcounts, -⟩ := AddCall.counts_begin c limits now agents minted request requestId
    exact congrArg reached (recordAll_holding hcounts .ofAdd [])
  adds c now call made := by
    obtain ⟨told, hcounts, -⟩ := AddCall.counts_resume c limits now call
    exact congrArg reached (recordAll_holding hcounts .ofAdd made)
  deletes c now call made elapsed := by
    obtain ⟨told, hcounts, -⟩ := DeleteCall.counts_step c limits now call elapsed
    exact congrArg reached (recordAll_holding hcounts .ofDelete made)

/-! ## What a request has recorded -/

/-- A request that has no answer yet has recorded nothing; what one that has an answer has recorded
and what is left go with the answer. -/
def Sound (x : TrackedCall) : Prop :=
  match x.stage with
  | .adding _ => x.left = [] ∧ x.made = []
  | .deleting call => x.left = [] ∧ x.made = [] ∧ call.Quiet
  | .answered v => v.Recorded (x.made.map (·.tally) ++ x.left)

theorem sound_ofAdd {p : Progress AddCall (Except AddError Instance)} {told : List Tally}
    (h : AddCall.Counted p told) : (⟨.ofAdd p, told, []⟩ : TrackedCall).Sound := by
  cases p with
  | finished r => exact h
  | waits call => exact ⟨h, rfl⟩

theorem sound_ofDelete {call : DeleteCall} {p : Progress DeleteCall (Except DeleteError Unit)}
    {told : List Tally} (hquiet : call.Quiet) (h : call.Counted p told) :
    (⟨.ofDelete p, told, []⟩ : TrackedCall).Sound := by
  cases p with
  | finished r => exact h hquiet
  | waits next => exact ⟨h.1, rfl, h.2⟩

theorem sound_begin (agents : List Agent) (minted : RunnerId) (request : Wire.AddRequest)
    (requestId : String) : (begin c limits now agents minted request requestId).2.Sound := by
  obtain ⟨told, hcounts, hcounted⟩ :=
    AddCall.counts_begin c limits now agents minted request requestId
  simp only [begin, hcounts.holding_eq]
  exact sound_ofAdd hcounted

theorem Sound.goOn (h : x.Sound) : (x.goOn c limits now).2.Sound := by
  obtain ⟨stage, left, made⟩ := x
  cases stage with
  | adding call =>
    obtain ⟨rfl, rfl⟩ : left = [] ∧ made = [] := h
    obtain ⟨told, hcounts, hcounted⟩ := AddCall.counts_resume c limits now call
    simp only [TrackedCall.goOn, hcounts.holding_eq]
    exact sound_ofAdd hcounted
  | deleting call =>
    obtain ⟨rfl, rfl, hquiet⟩ : left = [] ∧ made = [] ∧ call.Quiet := h
    obtain ⟨told, hcounts, hcounted⟩ := DeleteCall.counts_step c limits now call ⟨0⟩
    simp only [TrackedCall.goOn, hcounts.holding_eq]
    exact sound_ofDelete hquiet hcounted
  | answered v => exact h

theorem Sound.record (h : x.Sound) (elapsed : Span) : (x.record c elapsed).2.Sound := by
  obtain ⟨stage, left, made⟩ := x
  cases left with
  | nil => exact h
  | cons tally left =>
    cases stage with
    | adding call => cases h.1
    | deleting call => cases h.1
    | answered v =>
      change v.Recorded (List.map Recording.tally (made ++ [Recording.mk tally elapsed]) ++ left)
      rw [List.map_append, List.append_assoc]
      exact h

/-- What the counters have gained by a step of a request is what the request has noted. -/
def Books (c : Coordinator) (x : TrackedCall) (y : Coordinator × TrackedCall) : Prop :=
  ∃ more, y.1.counters = c.counters.enterAll more ∧ y.2.made = x.made ++ more

theorem books_goOn : Books c x (x.goOn c limits now) := by
  obtain ⟨stage, left, made⟩ := x
  cases stage <;> exact ⟨[], rfl, (List.append_nil made).symm⟩

theorem books_record (elapsed : Span) : Books c x (x.record c elapsed) := by
  obtain ⟨stage, left, made⟩ := x
  cases left with
  | nil => exact ⟨[], rfl, (List.append_nil made).symm⟩
  | cons tally left => exact ⟨[⟨tally, elapsed⟩], rfl, rfl⟩

/-- A request that is not between two of its recordings has made all of them and is over, or it has
made none. -/
theorem Sound.tallies_made (h : x.Sound) (hsettled : x.made = [] ∨ x.left = []) :
    x.made.map (·.tally) = x.outcome?.toList.flatMap Outcome.tallies := by
  obtain ⟨stage, left, made⟩ := x
  cases stage with
  | adding call =>
    obtain ⟨rfl, rfl⟩ : left = [] ∧ made = [] := h
    rfl
  | deleting call =>
    obtain ⟨rfl, rfl, -⟩ : left = [] ∧ made = [] ∧ call.Quiet := h
    rfl
  | answered v =>
    cases left with
    | nil => exact (List.append_nil _).symm
    | cons tally left =>
      obtain rfl : made = [] := hsettled.resolve_right nofun
      rfl

theorem Sound.outcome (h : x.Sound) {o : Outcome} (ho : x.outcome? = some o) : o.Sound := by
  obtain ⟨stage, left, made⟩ := x
  unfold outcome? at ho
  split at ho
  · next hstage hleft =>
    cases ho
    dsimp only at hstage hleft
    subst hstage hleft
    have hrecorded : Verdict.Recorded _ (made.map (·.tally) ++ []) := h
    rwa [List.append_nil] at hrecorded
  · cases ho

end TrackedCall

/-! ## Requests side by side -/

/-- A coordinator with its requests, those that are over included. -/
structure Desk where
  coordinator : Coordinator
  calls : List TrackedCall

/-- What may happen. Requests are named by where they stand in the list. -/
inductive DeskEvent where
  | add (now : Instant) (agents : List Agent) (minted : RunnerId) (request : Wire.AddRequest)
      (requestId : String)
  | delete (cloudId : CloudId) (requestId : String)
  | goesOn (i : Nat) (now : Instant)
  | records (i : Nat) (elapsed : Span)
  /-- The other tasks of the coordinator do anything that they can. -/
  | outside (store : Store) (outbox : Outbox) (streams : Streams) (gauges : Gauges)

namespace Desk

def start : Desk := ⟨.initial, []⟩

def onCall (d : Desk) (i : Nat) (act : Coordinator → TrackedCall → Coordinator × TrackedCall) :
    Desk :=
  match d.calls[i]? with
  | some x =>
    let y := act d.coordinator x
    ⟨y.1, d.calls.set i y.2⟩
  | none => d

def onEvent (limits : RequestLimits) (d : Desk) : DeskEvent → Desk
  | .add now agents minted request requestId =>
    let y := TrackedCall.begin d.coordinator limits now agents minted request requestId
    ⟨y.1, d.calls ++ [y.2]⟩
  | .delete cloudId requestId =>
    { d with calls := d.calls ++ [⟨.deleting (.new cloudId requestId), [], []⟩] }
  | .goesOn i now => d.onCall i fun c x => x.goOn c limits now
  | .records i elapsed => d.onCall i fun c x => x.record c elapsed
  | .outside store outbox streams gauges =>
    { d with coordinator := ⟨store, outbox, streams, d.coordinator.counters, gauges⟩ }

def after (limits : RequestLimits) (d : Desk) (es : List DeskEvent) : Desk :=
  es.foldl (onEvent limits) d

/-- The recordings that have been made. -/
def recorded (d : Desk) : List Recording := d.calls.flatMap (·.made)

/-- The requests that are over. -/
def outcomes (d : Desk) : List Outcome := d.calls.filterMap (·.outcome?)

/-- No request is between two of its own recordings. -/
def Settled (d : Desk) : Prop := ∀ x ∈ d.calls, x.made = [] ∨ x.left = []

instance (d : Desk) : Decidable d.Settled := inferInstanceAs (Decidable (∀ x ∈ d.calls, _))

/-- The requests are sound, and the counters tell what they have recorded. -/
structure Kept (d : Desk) : Prop where
  sound : ∀ x ∈ d.calls, x.Sound
  told : d.coordinator.counters.Tell d.recorded

variable {d : Desk} {limits : RequestLimits}

theorem kept_start : start.Kept := ⟨nofun, Counters.tell_zero⟩

theorem Kept.push (h : d.Kept) {c : Coordinator} {x : TrackedCall}
    (hcounters : c.counters = d.coordinator.counters) (hmade : x.made = []) (hsound : x.Sound) :
    (⟨c, d.calls ++ [x]⟩ : Desk).Kept where
  sound y hy := by
    rcases List.mem_append.1 hy with hmem | hmem
    · exact h.sound y hmem
    · rw [List.mem_singleton.1 hmem]
      exact hsound
  told := by
    have hrecorded : (⟨c, d.calls ++ [x]⟩ : Desk).recorded = d.recorded := by
      rw [recorded, List.flatMap_append, List.flatMap_singleton, hmade]
      exact List.append_nil _
    rw [hrecorded, hcounters]
    exact h.told

theorem Kept.onCall (h : d.Kept) (i : Nat)
    (act : Coordinator → TrackedCall → Coordinator × TrackedCall)
    (hsound : ∀ c x, x.Sound → (act c x).2.Sound)
    (hbooks : ∀ c x, TrackedCall.Books c x (act c x)) : (d.onCall i act).Kept := by
  unfold Desk.onCall
  cases hx : d.calls[i]? with
  | none => exact h
  | some x =>
    obtain ⟨more, hcounters, hmade⟩ := hbooks d.coordinator x
    refine ⟨fun y hy => ?_, ?_⟩
    · rcases List.mem_or_eq_of_mem_set hy with hmem | rfl
      · exact h.sound y hmem
      · exact hsound _ x (h.sound x (List.mem_of_getElem? hx))
    · -- the counters gain the recording last, the request holds it amid those of the others
      have hperm : (d.recorded ++ more).Perm
          ((d.calls.set i (act d.coordinator x).2).flatMap (·.made)) := by
        obtain ⟨before, after, hcalls, -, hset⟩ := exists_split hx
        rw [recorded, hset, hcalls]
        simp only [List.flatMap_append, List.flatMap_cons, hmade, List.append_assoc]
        exact (List.perm_append_comm.append_left _).append_left _
      dsimp only
      rw [hcounters]
      exact (h.told.enterAll more).perm hperm

theorem Kept.onEvent (h : d.Kept) (e : DeskEvent) : (d.onEvent limits e).Kept := by
  cases e with
  | add now agents minted request requestId =>
    exact h.push rfl rfl (TrackedCall.sound_begin agents minted request requestId)
  | delete cloudId requestId => exact h.push rfl rfl ⟨rfl, rfl, nofun⟩
  | goesOn i now =>
    exact h.onCall i (fun c x => x.goOn c limits now) (fun _ _ hx => hx.goOn)
      (fun _ _ => TrackedCall.books_goOn)
  | records i elapsed =>
    exact h.onCall i (fun c x => x.record c elapsed) (fun _ _ hx => hx.record elapsed)
      (fun _ _ => TrackedCall.books_record elapsed)
  | outside store outbox streams gauges => exact ⟨h.sound, h.told⟩

theorem kept_after (limits : RequestLimits) (es : List DeskEvent) :
    (start.after limits es).Kept := by
  induction es using List.reverseRecOn with
  | nil => exact kept_start
  | append_singleton es e ih =>
    rw [after, List.foldl_append]
    exact ih.onEvent e

/-- Where no request is between two of its recordings, those made are those of the requests that
are over. -/
theorem tallies_of_settled (h : d.Kept) (hsettled : d.Settled) :
    d.recorded.map (·.tally) = d.outcomes.flatMap Outcome.tallies := by
  rw [recorded, outcomes, List.map_flatMap, List.filterMap_eq_flatMap_toList, List.flatMap_assoc]
  exact List.flatMap_congr fun x hx => (h.sound x hx).tallies_made (hsettled x hx)

theorem Kept.outcomes (h : d.Kept) : ∀ o ∈ d.outcomes, o.Sound := by
  intro o ho
  obtain ⟨x, hx, houtcome⟩ := List.mem_filterMap.1 ho
  exact (h.sound x hx).outcome houtcome

/-- Where no request is between two of its own recordings, the counters agree with each other and
with the requests that are over, whose recordings are those of the handlers. -/
theorem counters_settled (limits : RequestLimits) (es : List DeskEvent)
    (hsettled : (start.after limits es).Settled) :
    let d := start.after limits es
    let c := d.coordinator.counters
    TrackedCall.Faithful limits ∧
    c.added.values.sum = d.outcomes.countP (·.verdict.isAdd) ∧
    c.addDuration.count = d.outcomes.countP (·.verdict.isAdd) ∧
    c.startupDuration.count = Counters.under c.added "success" ∧
    Counters.under c.failures "runner_error" = Counters.under c.added "failed_runner_error" ∧
    Counters.under c.failures "startup_timeout" = Counters.under c.added "failed_timeout" ∧
    c.deleted.values.sum = d.outcomes.countP (!·.verdict.isAdd) ∧
    (∀ label, Counters.under c.added label = d.outcomes.countP (·.isAddOf label)) ∧
    (∀ label, Counters.under c.deleted label = d.outcomes.countP (·.isDeleteOf label)) ∧
    (∀ o ∈ d.outcomes,
      ∃ label, o.labels = [label] ∧ (o.verdict.isError = true ↔ Failing label)) ∧
    c.addDuration.Tells (Recording.spans Tally.isAdded d.recorded) ∧
    c.startupDuration.Tells (Recording.spans Tally.isStartup d.recorded) := by
  intro d c
  have hkept : d.Kept := kept_after limits es
  have hsound := hkept.outcomes
  have htallies := tallies_of_settled hkept hsettled
  have hreading : ∀ {t : Tally} {q : Outcome → Bool},
      (∀ o ∈ d.outcomes, o.tallies.count t = (q o).toNat) → c.reading t = d.outcomes.countP q := by
    intro t q hq
    rw [hkept.told.reading, htallies]
    exact Outcome.countP_tallies hq
  have hadded : ∀ label, Counters.under c.added label = d.outcomes.countP (·.isAddOf label) :=
    fun label => hreading fun o ho => (hsound o ho).count_added label
  have hdeleted : ∀ label,
      Counters.under c.deleted label = d.outcomes.countP (·.isDeleteOf label) :=
    fun label => hreading fun o ho => (hsound o ho).count_deleted label
  have hcompanion : ∀ t label, (t, label) ∈ Outcome.companions →
      c.reading t = Counters.under c.added label := fun t label h =>
    (hreading fun o ho => (hsound o ho).count_companion h).trans (hadded label).symm
  refine ⟨TrackedCall.faithful limits, ?_, ?_, ?_, ?_, ?_, ?_, hadded, hdeleted,
    fun o ho => (hsound o ho).exists_label, hkept.told.addDuration, hkept.told.startupDuration⟩
  · rw [hkept.told.added, htallies]
    exact Outcome.countP_tallies fun o ho => (hsound o ho).countP_isAdded
  · rw [hkept.told.addDuration.count, Recording.length_spans, htallies]
    exact Outcome.countP_tallies fun o ho => (hsound o ho).countP_isAdded
  · exact hcompanion .startup "success" (by decide)
  · exact hcompanion (.failure "runner_error") "failed_runner_error" (by decide)
  · exact hcompanion (.failure "startup_timeout") "failed_timeout" (by decide)
  · rw [hkept.told.deleted, htallies]
    exact Outcome.countP_tallies fun o ho => (hsound o ho).countP_isDeleted

/-- Two add requests and a delete request: the first finds no agent; the recordings of the second,
which gets a runner, lie around that of the third, which finds nothing to delete. -/
def threeRequests : List DeskEvent :=
  let registered := Store.edited [.registerAgent ⟨"a1", "mini-1", ⟨2, 4, 8⟩, .online⟩]
  let ready : Runner := { Runner.accepted "r2" "ci" "a1" "" 0 with state := .sshReady }
  [.add 0 [] "r1" .blank "q1", .records 0 ⟨0⟩, .outside registered .empty .empty .initial,
    .add 0 registered.listAgents "r2" .blank "q2", .delete "hangar-r3" "q3",
    .outside (registered.edit (.report "a1" [ready])) .empty .empty .initial,
    .goesOn 1 2000, .goesOn 2 2000, .records 1 (.ofMillis 2000), .records 2 (.ofMillis 2000),
    .records 1 (.ofMillis 2001)]

theorem counters_settled_threeRequests :
    let d := start.after ⟨.ofSecs 60, .ofSecs 60, .ofSecs 1⟩ threeRequests
    let c := d.coordinator.counters
    d.Settled ∧ c.added.values.sum = 2 ∧ c.startupDuration.count = 1 ∧
      Counters.under c.added "failed_no_agent" = 1 ∧ c.deleted.values.sum = 1 := by
  intro d c
  have hsettled : d.Settled := by decide +kernel
  have hadds : d.outcomes.countP (·.verdict.isAdd) = 2 := by decide +kernel
  have hstarted : d.outcomes.countP (·.isAddOf "success") = 1 := by decide +kernel
  have hrefused : d.outcomes.countP (·.isAddOf "failed_no_agent") = 1 := by decide +kernel
  have hdeletes : d.outcomes.countP (!·.verdict.isAdd) = 1 := by decide +kernel
  obtain ⟨-, hadded, -, hstartups, -, -, hdeleted, hlabels, -⟩ :=
    counters_settled ⟨.ofSecs 60, .ofSecs 60, .ofSecs 1⟩ threeRequests hsettled
  exact ⟨hsettled, hadded.trans hadds, hstartups.trans ((hlabels "success").trans hstarted),
    (hlabels "failed_no_agent").trans hrefused, hdeleted.trans hdeletes⟩

end Desk

/-! ## The other tasks -/

/-- Whether an event is a step of a request that may count something, or a restart. -/
def FleetEvent.mayCount {V : VmService} : FleetEvent V → Bool
  | .addGoesOn .. | .deleteGoesOn .. | .restart => true
  | _ => false

theorem Sweeping.counters_step (c : Coordinator) (w : Sweeping) :
    (w.step c).1.counters = c.counters := by
  unfold step
  split
  · rfl
  · split <;> rfl
  · rfl
  · rfl

theorem SyncStream.counters_reconcile (c : Coordinator) (agent : AgentId)
    (snapshot : Wire.Snapshot) : (reconcile c agent snapshot).counters = c.counters := by
  rfl

theorem SyncStream.counters_finish (c : Coordinator) (s : SyncStream) :
    (s.finish c).1.counters = c.counters := by
  refine finish_keeps (P := fun x => x.counters = c.counters) rfl fun b => ?_
  unfold left
  split <;> rfl

theorem Link.Change.counters {i : Nat} {c c' : Coordinator} {l l' : Link} {ds : List SyncDeed}
    (h : l.Change i c c' l' ds) : c'.counters = c.counters := by
  cases h with
  | reported s b => exact SyncStream.counters_reconcile c b.agentId s
  | missed command => exact SyncStream.counters_finish c l.stream
  | ended => exact SyncStream.counters_finish c l.stream
  | _ => rfl

namespace Fleet

variable {V : VmService} {limits : RequestLimits} {f : Fleet V}

theorem counters_onLink {i : Nat} {act : Coordinator → Link → Coordinator × Link}
    (h : ∀ (c : Coordinator) (l : Link), (act c l).1.counters = c.counters) :
    (f.onLink i act).coordinator.counters = f.coordinator.counters := by
  unfold onLink
  split
  · next l _ => exact h f.coordinator l
  · rfl

/-- Whatever else happens in a fleet leaves the counters as they are: `DeskEvent.outside` covers
it. -/
theorem counters_onEvent {e : FleetEvent V} (he : e.mayCount = false) :
    (f.onEvent limits e).coordinator.counters = f.coordinator.counters := by
  cases e with
  | sweepGoesOn i =>
    simp only [onEvent, onSweep]
    split
    · next w _ => exact w.counters_step f.coordinator
    · rfl
  | collect =>
    simp only [onEvent, Coordinator.collect?]
    cases Gauges.ofStore? f.coordinator.store <;> rfl
  | snapshot i s => exact counters_onLink fun c l => (l.change_hear i c s).counters
  | streamGoesOn i => exact counters_onLink fun c l => (l.change_work i c).counters
  | hangUp i => exact counters_onLink fun c l => (l.change_hangUp i c).counters
  | deafen i => exact counters_onLink fun c l => rfl
  | lose i j => exact counters_onLink fun c l => rfl
  | deliver i j agent now => exact congrArg Coordinator.counters coordinator_deliver
  | host i m => exact congrArg Coordinator.counters coordinator_onHost
  | addGoesOn | deleteGoesOn | restart => cases he
  | joins | register | add | addGivenUp | delete | deleteGivenUp | sweep | connect => rfl

end Fleet

end RunnerFleet

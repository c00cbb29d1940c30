import RunnerFleet.Coordinator.Adding
import RunnerFleet.Proofs.Coordinator.Outbox
import RunnerFleet.Proofs.Store.Indexes

/-!
# The answer to an add request

A request that is placed looks at the store at every multiple of the poll interval, up to its
timeout. What happens to the store in between is free (`AddCall.Answers` takes the coordinator as a
function of the clock), and the request sees no more of it than its looks show. The first look at
which the runner is ready or has failed decides the answer, also one that comes at the timeout;
without such a look the request times out (`AddCall.answered_by_first_settled`).
-/

namespace RunnerFleet

/-! ## Looking at the store -/

namespace Watch

variable {α : Type} {w : Watch} {now : Instant} {poll : Span} {look : Option α}

theorem resume_of_shown {a : α} (hlook : w.nextLook ≤ now) :
    w.resume now poll (some a) = .seen a := by
  simp only [resume, decide_eq_true hlook]

theorem resume_of_expired (hlook : w.nextLook ≤ now → look = none) (hlate : w.deadline ≤ now) :
    w.resume now poll look = .expired := by
  simp only [resume]
  by_cases hdue : w.nextLook ≤ now
  · rw [hlook hdue, decide_eq_true hdue]
    simp only [if_pos hlate]
  · rw [decide_eq_false hdue]
    simp only [if_pos hlate]

theorem resume_of_unseen (hlook : w.nextLook ≤ now) (hearly : now < w.deadline) :
    w.resume now poll (none : Option α) = .waits { w with nextLook := now + poll.ticks } := by
  simp only [resume, decide_eq_true hlook, if_neg (Nat.not_le.2 hearly), if_true]

end Watch

namespace AddCall

variable {course : Instant → Coordinator} {limits : RequestLimits} {call : AddCall}
  {c : Coordinator} {s : Store} {now t : Instant} {id : RunnerId}
  {r r' : Except AddError Instance}

/-- The store shows that the runner is ready or that it has failed, which settles the answer. -/
inductive Settles (s : Store) (id : RunnerId) : Except AddError Instance → Prop where
  | ready (runner : Runner) (h : s.runners.get? id = some runner)
      (hready : runner.state = .sshReady ∨ runner.state = .running) :
      Settles s id (.ok ⟨"hangar-" ++ id, runner.ipAddress⟩)
  | failed (runner : Runner) (h : s.runners.get? id = some runner)
      (hfailed : runner.state = .error) : Settles s id (.error (.runnerFailed runner.errorMessage))

theorem resume_of_settles (hlook : call.watch.nextLook ≤ now)
    (h : Settles c.store call.runner r) : (call.resume c limits now).2 = .finished r := by
  cases h with
  | ready runner h hready =>
    have hstate : runner.state.isReady = true := by
      rcases hready with hs | hs <;> rw [hs] <;> rfl
    have hshown : look c.store call.runner = some (.ok runner) := by
      simp only [look, Store.getRunner, h, hstate, if_true]
    simp only [resume, hshown, Watch.resume_of_shown hlook]
    rfl
  | failed runner h hfailed =>
    have hstate : runner.state.isReady = false := by
      rw [hfailed]
      rfl
    have hshown : look c.store call.runner = some (.error runner.errorMessage) := by
      simp only [look, Store.getRunner, h]
      rw [if_neg (by simp [hstate]), if_pos hfailed]
    simp only [resume, hshown, Watch.resume_of_shown hlook]
    rfl

theorem look_of_unsettled (h : ∀ r, ¬ Settles s id r) : look s id = none := by
  unfold look Store.getRunner
  cases hget : s.runners.get? id with
  | none => rfl
  | some runner =>
    have hready : runner.state.isReady = false := by
      rw [← Bool.not_eq_true]
      intro hstate
      refine h _ (.ready runner hget ?_)
      simpa [RunnerState.isReady] using hstate
    have hfailed : runner.state ≠ .error := fun hstate => h _ (.failed runner hget hstate)
    simp [hready, hfailed]

theorem resume_of_late (hlook : call.watch.nextLook ≤ now → ∀ r, ¬ Settles c.store call.runner r)
    (hlate : call.watch.deadline ≤ now) :
    (call.resume c limits now).2 = .finished (.error (.timedOut limits.add)) := by
  simp only [resume, Watch.resume_of_expired (fun hdue => look_of_unsettled (hlook hdue)) hlate]
  rfl

theorem resume_of_unsettled (hlook : call.watch.nextLook ≤ now)
    (h : ∀ r, ¬ Settles c.store call.runner r) (hearly : now < call.watch.deadline) :
    (call.resume c limits now).2 =
      .waits { call with watch := { call.watch with nextLook := now + limits.poll.ticks } } := by
  simp only [resume, look_of_unsettled h, Watch.resume_of_unseen hlook hearly]

theorem store_resume (c : Coordinator) (limits : RequestLimits) (now : Instant)
    (call : AddCall) : (resume c limits now call).1.store = c.store := by
  unfold resume
  split <;> rfl

theorem outbox_resume (c : Coordinator) (limits : RequestLimits) (now : Instant)
    (call : AddCall) : (resume c limits now call).1.outbox = c.outbox := by
  unfold resume
  split <;> rfl

/-! ## Runs of a waiting request -/

/-- A request that finds the coordinator as `course` says, and goes on whenever it is due, comes to
its answer at a moment. -/
inductive Answers (course : Instant → Coordinator) (limits : RequestLimits) :
    AddCall → Instant → Except AddError Instance → Prop where
  | now {call : AddCall} {t : Instant} {r : Except AddError Instance} (hdue : call.watch.due = t)
      (h : (call.resume (course t) limits t).2 = .finished r) : Answers course limits call t r
  | later {call next : AddCall} {now t : Instant} {r : Except AddError Instance}
      (hdue : call.watch.due = now) (h : (call.resume (course now) limits now).2 = .waits next)
      (hnext : Answers course limits next t r) : Answers course limits call t r

/-- A request has one answer, at one moment. -/
theorem Answers.unique {t' : Instant} (h : Answers course limits call t r)
    (h' : Answers course limits call t' r') : t = t' ∧ r = r' := by
  induction h with
  | now hdue h =>
    subst hdue
    cases h' with
    | now hdue' h' =>
      subst hdue'
      cases h.symm.trans h'
      exact ⟨rfl, rfl⟩
    | later hdue' h' _ =>
      subst hdue'
      cases h.symm.trans h'
  | later hdue h hnext ih =>
    subst hdue
    cases h' with
    | now hdue' h' =>
      subst hdue'
      cases h.symm.trans h'
    | later hdue' h' hnext' =>
      subst hdue'
      cases h.symm.trans h'
      exact ih hnext'

section Looks

variable (course limits id) (began : Instant)

/-- A request of the moment `began` that has looked `n` times. -/
def looked (n : Nat) : AddCall :=
  ⟨id, began, ⟨began + (n + 1) * limits.poll.ticks, began + limits.add.ticks⟩⟩

/-- What the store shows of the runner at a multiple of the poll interval. -/
def Shows (k : Nat) (r : Except AddError Instance) : Prop :=
  Settles (course (began + k * limits.poll.ticks)).store id r

variable {course limits id began} {n : Nat}

theorem answers_of_shows (hle : (n + 1) * limits.poll.ticks ≤ limits.add.ticks)
    (h : Shows course limits id began (n + 1) r) : Answers course limits
      (looked limits id began n) (began + (n + 1) * limits.poll.ticks) r :=
  .now (Nat.min_eq_left (Nat.add_le_add_left hle began)) (resume_of_settles (Nat.le_refl _) h)

theorem answers_of_late (hlate : limits.add.ticks ≤ (n + 1) * limits.poll.ticks)
    (h : (n + 1) * limits.poll.ticks ≤ limits.add.ticks →
      ∀ r, ¬ Shows course limits id began (n + 1) r) : Answers course limits
      (looked limits id began n) (began + limits.add.ticks) (.error (.timedOut limits.add)) := by
  refine .now (Nat.min_eq_right (Nat.add_le_add_left hlate began)) ?_
  refine resume_of_late (fun hdue => ?_) (Nat.le_refl _)
  have hle : (n + 1) * limits.poll.ticks ≤ limits.add.ticks := Nat.le_of_add_le_add_left hdue
  have hat : limits.add.ticks = (n + 1) * limits.poll.ticks := Nat.le_antisymm hlate hle
  rw [hat]
  exact h hle

theorem Answers.look (hearly : (n + 1) * limits.poll.ticks < limits.add.ticks)
    (h : ∀ r, ¬ Shows course limits id began (n + 1) r)
    (hnext : Answers course limits (looked limits id began (n + 1)) t r) :
    Answers course limits (looked limits id began n) t r := by
  have hlook : began + (n + 1 + 1) * limits.poll.ticks =
      began + (n + 1) * limits.poll.ticks + limits.poll.ticks := by
    rw [Nat.succ_mul (n + 1), Nat.add_assoc]
  rw [looked, hlook] at hnext
  refine .later (Nat.min_eq_left (Nat.add_le_add_left hearly.le began)) ?_ hnext
  exact resume_of_unsettled (Nat.le_refl _) h (Nat.add_lt_add_left hearly began)

/-- The first look that settles the answer decides it. -/
theorem answers_of_first {k : Nat} (hn : n < k)
    (hle : k * limits.poll.ticks ≤ limits.add.ticks) (hpoll : 0 < limits.poll.ticks)
    (hearlier : ∀ j, n < j → j < k → ∀ r, ¬ Shows course limits id began j r)
    (h : Shows course limits id began k r) :
    Answers course limits (looked limits id began n) (began + k * limits.poll.ticks) r := by
  obtain ⟨d, rfl⟩ := Nat.exists_eq_add_of_lt hn
  induction d generalizing n with
  | zero => exact answers_of_shows hle h
  | succ d ih =>
    have hnext : n + (d + 1) + 1 = n + 1 + d + 1 := by omega
    rw [hnext] at hle hearlier h ⊢
    have hearly : (n + 1) * limits.poll.ticks < limits.add.ticks :=
      (Nat.mul_lt_mul_of_pos_right (by omega) hpoll).trans_le hle
    refine .look hearly (hearlier (n + 1) (by omega) (by omega)) ?_
    exact ih (by omega) hle (fun j hj => hearlier j (by omega)) h

/-- A request whose looks do not settle the answer times out. -/
theorem answers_of_none (hpoll : 0 < limits.poll.ticks)
    (h : ∀ j, n < j → j * limits.poll.ticks ≤ limits.add.ticks →
      ∀ r, ¬ Shows course limits id began j r) : Answers course limits
      (looked limits id began n) (began + limits.add.ticks) (.error (.timedOut limits.add)) := by
  -- on the time that is left after `n` looks
  induction hleft : limits.add.ticks - n * limits.poll.ticks using Nat.strong_induction_on
    generalizing n with
  | h left ih =>
    by_cases hearly : (n + 1) * limits.poll.ticks < limits.add.ticks
    · refine .look hearly (h (n + 1) (Nat.lt_succ_self n) hearly.le) ?_
      refine ih _ ?_ (fun j hj => h j (Nat.lt_of_succ_lt hj)) rfl
      rw [Nat.succ_mul] at hearly ⊢
      omega
    · exact answers_of_late (Nat.le_of_not_lt hearly) (h (n + 1) (Nat.lt_succ_self n))

variable (course limits id began) in
/-- The answer that the looks call for, and its moment. -/
inductive Decided : Instant → Except AddError Instance → Prop where
  /-- The first multiple of the poll interval, up to the timeout, at which the answer is settled. -/
  | settled (k : Nat) {r : Except AddError Instance} (hk : 0 < k)
      (hle : k * limits.poll.ticks ≤ limits.add.ticks) (h : Shows course limits id began k r)
      (hfirst : ∀ j, 0 < j → j < k → ∀ r', ¬ Shows course limits id began j r') :
      Decided (began + k * limits.poll.ticks) r
  | timedOut (hnone : ∀ j, 0 < j → j * limits.poll.ticks ≤ limits.add.ticks →
        ∀ r, ¬ Shows course limits id began j r) :
      Decided (began + limits.add.ticks) (.error (.timedOut limits.add))

variable (course limits id began) in
theorem exists_decided : ∃ t r, Decided course limits id began t r := by
  by_cases h : ∃ k, 0 < k ∧ k * limits.poll.ticks ≤ limits.add.ticks ∧
      ∃ r, Shows course limits id began k r
  · classical
    obtain ⟨hk, hle, r, hr⟩ := Nat.find_spec h
    refine ⟨_, r, .settled (Nat.find h) hk hle hr fun j hj hlt r' hr' => ?_⟩
    refine Nat.find_min h hlt ⟨hj, ?_, r', hr'⟩
    exact (Nat.mul_le_mul_right _ hlt.le).trans hle
  · refine ⟨_, _, .timedOut fun j hj hle r hr => h ⟨j, hj, hle, r, hr⟩⟩

theorem answers_of_decided (hpoll : 0 < limits.poll.ticks)
    (h : Decided course limits id began t r) :
    Answers course limits (looked limits id began 0) t r := by
  cases h with
  | settled k hk hle h hfirst => exact answers_of_first hk hle hpoll hfirst h
  | timedOut hnone => exact answers_of_none hpoll hnone

theorem answers_iff_decided (hpoll : 0 < limits.poll.ticks) :
    Answers course limits (looked limits id began 0) t r ↔ Decided course limits id began t r := by
  constructor
  · intro h
    obtain ⟨t', r', hdecided⟩ := exists_decided course limits id began
    obtain ⟨rfl, rfl⟩ := h.unique (answers_of_decided hpoll hdecided)
    exact hdecided
  · exact answers_of_decided hpoll

end Looks

/-! ## The whole request -/

/-- Whatever order the agents are tried in, a request that is placed queues one creation, with its
name and its script, and for the chosen agent alone; its later steps leave the store and the queues
as they find them. It is answered once, by the first multiple of the poll interval up to the timeout
at which the runner is ready or has failed, and at the timeout if there is none. A request that
finds no agent ends at once and queues and registers nothing. -/
theorem answered_by_first_settled (course : Instant → Coordinator) (limits : RequestLimits)
    (c : Coordinator) (began : Instant) (agents : List Agent) (minted : RunnerId)
    (request : Wire.AddRequest) (requestId : String) (hpoll : 0 < limits.poll.nanos) :
    match Placement.selectAmong c.store agents with
    | .error e => ∃ c', begin c limits began agents minted request requestId =
        (c', .finished (.error (.noAgent e))) ∧ c'.store = c.store ∧ c'.outbox = c.outbox
    | .ok agent => ∃ c' call,
        begin c limits began agents minted request requestId = (c', .waits call) ∧
        (∀ a, c'.outbox.queueOf a = if a = agent then
            c.outbox.queueOf agent ++
              [.createRunner minted request.runnerName request.setupScript requestId]
          else c.outbox.queueOf a) ∧
        c'.store = c.store.registerCloudId ("hangar-" ++ minted) minted ∧
        (∀ (call : AddCall) (found : Coordinator) (now : Instant),
          (call.resume found limits now).1.store = found.store ∧
            (call.resume found limits now).1.outbox = found.outbox) ∧
        (∃ t r, Answers course limits call t r) ∧
        ∀ t r, Answers course limits call t r ↔ Decided course limits minted began t r := by
  have hticks := Span.ticks_pos hpoll
  cases hselect : Placement.selectAmong c.store agents with
  | error e =>
    simp only [begin, hselect]
    exact ⟨_, rfl, rfl, rfl⟩
  | ok agent =>
    simp only [begin, hselect]
    have hcall : looked limits minted began 0 =
        ⟨minted, began, ⟨began + limits.poll.ticks, began + limits.add.ticks⟩⟩ := by
      rw [looked, Nat.zero_add, Nat.one_mul]
    refine ⟨_, _, rfl, fun a => Outbox.queueOf_enqueue a, rfl, ?_, ?_, ?_⟩
    · intro call found now
      exact ⟨store_resume found limits now call, outbox_resume found limits now call⟩
    · obtain ⟨t, r, hdecided⟩ := exists_decided course limits minted began
      rw [← hcall]
      exact ⟨t, r, answers_of_decided hticks hdecided⟩
    · intro t r
      rw [← hcall]
      exact answers_iff_decided hticks

/-! ## A runner that is ready at the last moment -/

def booted : Runner := .accepted "r1" "ci" "a1" "" 1

def lastMomentStore (t : Instant) : Store :=
  let reported : List Runner :=
    if t < 600 then []
    else if t < 1000 then [{ booted with state := .error, errorMessage := "no such image" }]
    else if t < 1500 then [{ booted with state := .booting }]
    else [{ booted with state := .running, ipAddress := "10.0.0.7" }]
  .edited [.registerAgent ⟨"a1", "mini-1", ⟨2, 4, 8⟩, .online⟩, .report "a1" reported]

/-- The runner has failed only between two looks, and is ready at the look that comes with the
timeout. -/
theorem answered_by_first_settled_lastMoment :
    let limits : RequestLimits := ⟨.ofMillis 1500, .ofMillis 0, .ofMillis 500⟩
    let course : Instant → Coordinator := fun t => { Coordinator.initial with
      store := lastMomentStore t }
    0 < limits.poll.nanos ∧ ∃ c' call,
      begin (course 40) limits 40 (course 40).store.listAgents "r1" ⟨"ci", "", "", []⟩ "q" =
        (c', .waits call) ∧
        (∀ t r, Answers course limits call t r ↔
          t = 1540 ∧ r = .ok ⟨"hangar-r1", "10.0.0.7"⟩) := by
  intro limits course
  have hpoll : 0 < limits.poll.nanos := by decide
  have hselect : Placement.selectAmong (course 40).store (course 40).store.listAgents =
      .ok "a1" := by
    decide +kernel
  have h := answered_by_first_settled course limits (course 40) 40 (course 40).store.listAgents
    "r1" ⟨"ci", "", "", []⟩ "q" hpoll
  rw [hselect] at h
  obtain ⟨c', call, hbegin, -, -, -, -, hanswers⟩ := h
  let runnerAt := fun k => (course (40 + k * limits.poll.ticks)).store.runners.get? "r1"
  have hunseen : runnerAt 1 = none := by decide +kernel
  have hbooting : runnerAt 2 = some { booted with state := .booting } := by decide +kernel
  have hready : runnerAt 3 = some { booted with state := .running, ipAddress := "10.0.0.7" } := by
    decide +kernel
  have hearlier : ∀ j, 0 < j → j < 3 → ∀ r, ¬ Shows course limits "r1" 40 j r := by
    intro j hj hlt r hr
    obtain rfl | rfl : j = 1 ∨ j = 2 := by omega
    · cases hr with
      | ready runner h => cases hunseen.symm.trans h
      | failed runner h => cases hunseen.symm.trans h
    · cases hr with
      | ready runner h hstate =>
        cases hbooting.symm.trans h
        rcases hstate with hstate | hstate <;> cases hstate
      | failed runner h hstate =>
        cases hbooting.symm.trans h
        cases hstate
  have hdecided : Decided course limits "r1" 40 (40 + 3 * limits.poll.ticks)
      (.ok ⟨"hangar-" ++ "r1", "10.0.0.7"⟩) :=
    .settled 3 (by decide) (by decide) (.ready _ hready (.inr rfl)) hearlier
  have hmoment : 40 + 3 * limits.poll.ticks = 1540 := by decide
  have hcloudId : "hangar-" ++ "r1" = "hangar-r1" := by decide
  rw [hmoment, hcloudId] at hdecided
  have hanswer := (hanswers _ _).2 hdecided
  refine ⟨hpoll, c', call, hbegin, fun t r => ⟨fun hr => hr.unique hanswer, ?_⟩⟩
  rintro ⟨rfl, rfl⟩
  exact hanswer

end AddCall

end RunnerFleet

import RunnerFleet.Proofs.Hosting.Sound

/-!
# How often a host creates a runner

A provisioning asks for the creation of its VM once. So what a host has asked for, together with
the provisionings that are still to ask (`creations`), grows only by the creations that it is
commanded.
-/

namespace RunnerFleet

namespace HostRun

open Hosting

variable {V : VmService} {s s' : HostRun V} {c : Option Command} {runner : RunnerId}

/-- Whether the task is still to ask for the creation of the runner's VM. -/
def toCreate (s : HostRun V) (runner : RunnerId) (t : HostTask) : Bool :=
  t.runner == runner &&
    match t.errand with
    | .provision _ _ none => true
    | .provision _ _ (some .creating) => (s.stages t.token).isNone
    | _ => false

/-- How often the creation of the runner's VM was asked for. -/
def createCalls (s : HostRun V) (runner : RunnerId) : Nat :=
  s.calls.countP fun c => c.runner == runner && c.operation == .create

/-- The creations of the runner's VM that were asked for or are still to be. -/
def creations (s : HostRun V) (runner : RunnerId) : Nat :=
  s.hosting.tasks.countP (s.toCreate runner) + s.createCalls runner

theorem createCalls_le (s : HostRun V) (runner : RunnerId) :
    s.createCalls runner ≤ s.creations runner := Nat.le_add_left ..

/-! ## Counting tasks -/

theorem countP_middle {p : HostTask → Bool} {before after : List HostTask} {t : HostTask} :
    (before ++ t :: after).countP p = (before ++ after).countP p + (p t).toNat := by
  simp only [List.countP_append, List.countP_cons]
  cases p t
  · simp
  · simp only [if_true, Bool.toNat_true]
    omega

/-- A step of one task leaves the count of the others. -/
theorem countP_others {others : List HostTask} {k : Nat} (hother : ∀ u ∈ others, u.token ≠ k)
    (hstages : ∀ j, j ≠ k → s'.stages j = s.stages j) :
    others.countP (s'.toCreate runner) = others.countP (s.toCreate runner) := by
  refine List.countP_congr fun u hu => ?_
  unfold toCreate
  rw [hstages u.token (hother u hu)]

theorem creations_of_changed (hs : s.Sound) {t : HostTask} {e : Errand}
    (ht : s.hosting.task? t.token = some t)
    (htasks : s'.hosting.tasks = (s.hosting.setErrand t.token e).tasks)
    (hstages : ∀ j, j ≠ t.token → s'.stages j = s.stages j)
    (hle : (s'.toCreate runner { t with errand := e }).toNat + s'.createCalls runner ≤
      (s.toCreate runner t).toNat + s.createCalls runner) :
    s'.creations runner ≤ s.creations runner := by
  obtain ⟨before, after, hlist, hother, hset, -⟩ := hs.tokens.split ht
  unfold creations
  rw [htasks, hset, hlist, countP_middle, countP_middle, countP_others hother hstages]
  omega

theorem creations_of_removed (hs : s.Sound) {t : HostTask}
    (ht : s.hosting.task? t.token = some t)
    (htasks : s'.hosting.tasks = (s.hosting.remove t.token).tasks)
    (hstages : ∀ j, j ≠ t.token → s'.stages j = s.stages j)
    (hcalls : s'.createCalls runner = s.createCalls runner) :
    s'.creations runner ≤ s.creations runner := by
  obtain ⟨before, after, hlist, hother, -, hremove⟩ := hs.tokens.split ht
  unfold creations
  rw [htasks, hremove, hlist, countP_middle, countP_others hother hstages]
  omega

/-- A task whose errand stays is among the tasks as it was. -/
theorem tasks_eq_setErrand (hs : s.Sound) {t : HostTask} (ht : s.hosting.task? t.token = some t) :
    s.hosting.tasks = (s.hosting.setErrand t.token t.errand).tasks := by
  obtain ⟨before, after, hlist, -, hset, -⟩ := hs.tokens.split ht
  rw [hset, hlist]

/-! ## Events -/

theorem stages_setStage {token : Nat} {stage : Option (Stage V)} :
    ∀ j, j ≠ token → (s.setStage token stage).stages j = s.stages j :=
  fun _ hj => if_neg hj

/-- After an operation, a provisioning is past its creation. -/
theorem resume_ne_creating {r r' : Roster} {p q : Provision.Point}
    {result : Except VmError VmValue}
    (h : Provision.resume r runner p result = (r', some q)) : q ≠ .creating := by
  cases result with
  | error e => cases p <;> cases h
  | ok v =>
    cases p with
    | creating =>
      obtain ⟨rfl, -⟩ := Provision.enter_some h
      exact nofun
    | starting =>
      cases h
      exact nofun
    | reaching =>
      obtain ⟨rfl, -⟩ := Provision.enter_some h
      exact nofun
    | settingUp => cases h

/-- A step of a host adds no creation. -/
theorem creations_change (hs : s.Sound) (hc : Change s s') :
    s'.creations runner ≤ s.creations runner := by
  cases hc with
  | stays | happened | noted | noticed => exact Nat.le_refl _
  | entered t script reg p roster ht he hroster =>
    have hidle : s.stages t.token = none := hs.stage_idle ht (by rw [he]; rfl)
    obtain ⟨rfl, -⟩ := Provision.enter_some hroster
    refine creations_of_changed hs ht rfl (fun _ _ => rfl) (Nat.add_le_add_right ?_ _)
    simp [toCreate, he, hidle]
  | undertaken t inFlight ht he =>
    refine creations_of_changed hs ht rfl (fun _ _ => rfl) (Nat.add_le_add_right ?_ _)
    simp [toCreate]
  | asked t op i ht hop hstage =>
    refine creations_of_changed hs ht (tasks_eq_setErrand hs ht) stages_setStage ?_
    simp only [createCalls, setStage, List.countP_append, List.countP_singleton]
    rcases he : t.errand with ⟨script, reg, point⟩ | inFlight | _
    · cases point with
      | none => rw [he] at hop; cases hop
      | some p =>
        rw [he] at hop
        cases hop
        cases p with
        | creating =>
          cases hr : t.runner == runner with
          | false => simp [toCreate, hr]
          | true =>
            simp only [toCreate, he, hr, hstage, Provision.Point.operation, if_true,
              Option.isNone_some, Option.isNone_none, Bool.and_false, Bool.and_true,
              Bool.toNat_false, Bool.toNat_true, beq_self_eq_true]
            omega
        | starting | reaching | settingUp => simp [toCreate, he, Provision.Point.operation]
    · rw [he] at hop
      cases hop
    · rw [he] at hop
      cases hop
      simp [toCreate, he]
  | worked t p i ht hstage =>
    refine creations_of_changed hs ht (tasks_eq_setErrand hs ht) stages_setStage
      (Nat.add_le_add_right ?_ _)
    rcases he : t.errand with ⟨script, reg, point⟩ | inFlight | _
    · cases point with
      | none => simp [toCreate, he]
      | some p => cases p <;> simp [toCreate, he, setStage]
    · simp [toCreate, he]
    · simp [toCreate, he]
  | advanced t script reg p q result roster ht he hstage hroster =>
    refine creations_of_changed hs ht rfl stages_setStage (Nat.add_le_add_right ?_ _)
    have hq := resume_ne_creating hroster
    cases q with
    | creating => exact absurd rfl hq
    | starting | reaching | settingUp => simp [toCreate]
  | refused t script reg ht he =>
    exact creations_of_removed hs ht finish_tasks (fun _ _ => rfl) rfl
  | ended t script reg p result roster ht he hstage hroster =>
    exact creations_of_removed hs ht finish_tasks stages_setStage rfl
  | concluded t result ht he hstage =>
    exact creations_of_removed hs ht finish_tasks stages_setStage rfl
  | dropped t holder ht => exact creations_of_removed hs ht rfl stages_setStage rfl

/-- A command adds the creation that it asks for, at most. -/
theorem creations_received (hr : Received s c s') :
    s'.creations runner ≤ s.creations runner + c.toList.countP (·.creates runner) := by
  cases hr with
  | idle | known => exact Nat.le_add_right ..
  | created r name script requestId x hnew hid hstate =>
    have htask : s.toCreate runner ⟨s.hosting.nextToken, r, .provision script true none⟩ =
        (Command.createRunner r name script requestId).creates runner := Bool.and_true _
    refine Nat.le_of_eq ?_
    simp only [creations, Hosting.spawn, Option.toList_some, List.countP_append,
      List.countP_singleton, ← htask]
    exact Nat.add_right_comm ..
  | deleting r requestId =>
    have htask : s.toCreate runner ⟨s.hosting.nextToken, r,
        .teardown (s.hosting.provisions.get? r)⟩ = false := Bool.and_false _
    refine Nat.le_trans (Nat.le_of_eq ?_) (Nat.le_add_right ..)
    simp only [creations, Hosting.spawn, List.countP_append, List.countP_singleton]
    change s.hosting.tasks.countP (s.toCreate runner) + (if s.toCreate runner
      ⟨s.hosting.nextToken, r, .teardown (s.hosting.provisions.get? r)⟩ = true then 1 else 0) +
        s.createCalls runner = s.creations runner
    rw [htask]
    rfl

theorem creations_start (vms : V.State) : (start vms).creations runner = 0 := rfl

end HostRun

end RunnerFleet

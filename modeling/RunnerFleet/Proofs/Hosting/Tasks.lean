import RunnerFleet.Hosting.Basic
import RunnerFleet.Proofs.Hosting.Records
import Mathlib.Data.List.Nodup

/-!
# The tasks of a host

A host's tasks are seen through `Hosting.task?`, a finite map from tokens; each operation of the
host is read off it by one equation. Tokens are handed out in ascending order, so they name their
tasks (`TokensFresh`), and every task stands at one place of the list (`TokensFresh.split`).
-/

namespace RunnerFleet.Hosting

variable {h : Hosting} {t u : HostTask} {k j : Nat} {e : Errand} {runner : RunnerId}

/-! ## Look-ups -/

theorem task?_mem (ht : h.task? k = some t) : t ∈ h.tasks := List.mem_of_find?_eq_some ht

theorem task?_token (ht : h.task? k = some t) : t.token = k := by
  simpa using List.find?_some ht

theorem task?_eq_none_iff : h.task? k = none ↔ ∀ t ∈ h.tasks, t.token ≠ k := by
  simp [task?]

theorem task?_spawn (hnew : h.task? h.nextToken = none) :
    (h.spawn runner e).1.task? k =
      if k = h.nextToken then some ⟨h.nextToken, runner, e⟩ else h.task? k := by
  simp only [spawn, task?, List.find?_append, List.find?_singleton, beq_iff_eq]
  by_cases hk : k = h.nextToken
  · subst hk
    rw [task?] at hnew
    simp [hnew]
  · simp [hk, Ne.symm hk]

theorem task?_setErrand :
    (h.setErrand k e).task? j =
      if j = k then (h.task? j).map fun t => { t with errand := e } else h.task? j := by
  unfold setErrand task?
  rw [List.find?_map]
  have htoken : ((fun t : HostTask => t.token == j) ∘
      fun t : HostTask => if t.token = k then { t with errand := e } else t) =
      fun t : HostTask => t.token == j := by
    funext t
    simp only [Function.comp_apply]
    split <;> rfl
  rw [htoken]
  by_cases hj : j = k
  · subst hj
    rw [if_pos rfl]
    cases hf : h.tasks.find? (·.token == j) with
    | none => rfl
    | some t =>
      have ht : t.token = j := by simpa using List.find?_some hf
      simp [ht]
  · rw [if_neg hj]
    cases hf : h.tasks.find? (·.token == j) with
    | none => rfl
    | some t =>
      have ht : t.token = j := by simpa using List.find?_some hf
      have hne : t.token ≠ k := fun h => hj (ht.symm.trans h)
      simp [hne]

theorem task?_remove : (h.remove k).task? j = if j = k then none else h.task? j := by
  unfold remove task?
  rw [List.find?_filter]
  by_cases hj : j = k
  · subst hj
    rw [if_pos rfl, List.find?_eq_none]
    intro t _
    simp
  · rw [if_neg hj]
    congr 1
    funext t
    by_cases ht : t.token = j
    · simp [ht, hj]
    · simp [ht]

/-- A task after a change of one errand is the one that was changed, or as it was. -/
theorem task?_of_setErrand (ht : h.task? k = some t)
    (hu : (h.setErrand k e).task? j = some u) :
    j = k ∧ u = { t with errand := e } ∨ j ≠ k ∧ h.task? j = some u := by
  rw [task?_setErrand] at hu
  split at hu
  · next hj =>
    subst hj
    rw [ht] at hu
    exact .inl ⟨rfl, (Option.some.inj hu).symm⟩
  · next hj => exact .inr ⟨hj, hu⟩

theorem task?_of_remove (hu : (h.remove k).task? j = some u) :
    j ≠ k ∧ h.task? j = some u := by
  rw [task?_remove] at hu
  split at hu
  · cases hu
  · next hj => exact ⟨hj, hu⟩

theorem remove_of_gone (hgone : h.task? k = none) : h.remove k = h := by
  have htasks : h.tasks.filter (·.token != k) = h.tasks := by
    rw [List.filter_eq_self]
    intro t ht
    simpa using task?_eq_none_iff.1 hgone t ht
  unfold remove
  rw [htasks]

/-! ## The end of a task -/

@[simp] theorem remove_provisions : (h.remove k).provisions = h.provisions := rfl

@[simp] theorem finish_roster : (h.finish t).roster = h.roster := by
  unfold finish
  split <;> rfl

@[simp] theorem finish_nextToken : (h.finish t).nextToken = h.nextToken := by
  unfold finish
  split <;> rfl

theorem finish_tasks : (h.finish t).tasks = (h.remove t.token).tasks := by
  unfold finish
  split <;> rfl

theorem task?_finish : (h.finish t).task? j = if j = t.token then none else h.task? j := by
  rw [← task?_remove, task?, task?, finish_tasks]

theorem task?_of_finish (hu : (h.finish t).task? j = some u) :
    j ≠ t.token ∧ h.task? j = some u := by
  rw [task?_finish] at hu
  split at hu
  · cases hu
  · next hj => exact ⟨hj, hu⟩

/-- The end of a provisioning takes its runner off the registry. -/
theorem finish_provisions_of_provision {script : String} {point : Option Provision.Point}
    (ht : t.errand = .provision script true point) :
    (h.finish t).provisions = h.provisions.erase t.runner := by
  unfold finish
  rw [ht]
  rfl

/-- The end of a task adds no entry to the registry. -/
theorem finish_provisions_le (hk : (h.finish t).provisions.get? runner = some k) :
    h.provisions.get? runner = some k := by
  unfold finish at hk
  split at hk
  · simp only [Table.get?_erase, remove_provisions] at hk
    split at hk
    · cases hk
    · exact hk
  · exact hk

theorem finish_provisions_of_deletion (ht : t.errand = .deletion) :
    (h.finish t).provisions = h.provisions := by
  unfold finish
  rw [ht]
  rfl

/-! ## Tokens -/

/-- No token names two tasks, and the next one is not in use. -/
structure TokensFresh (h : Hosting) : Prop where
  nodup : (h.tasks.map (·.token)).Nodup
  lt : ∀ t ∈ h.tasks, t.token < h.nextToken

namespace TokensFresh

theorem task?_of_mem (hf : h.TokensFresh) (ht : t ∈ h.tasks) : h.task? t.token = some t := by
  cases hfind : h.task? t.token with
  | none => exact absurd rfl (task?_eq_none_iff.1 hfind t ht)
  | some u =>
    rw [List.inj_on_of_nodup_map hf.nodup (task?_mem hfind) ht (task?_token hfind)]

theorem task?_nextToken (hf : h.TokensFresh) : h.task? h.nextToken = none := by
  rw [task?_eq_none_iff]
  intro t ht heq
  exact absurd (hf.lt t ht) (by omega)

theorem spawn (hf : h.TokensFresh) : (h.spawn runner e).1.TokensFresh := by
  refine ⟨?_, ?_⟩
  · simp only [Hosting.spawn, List.map_append, List.map_cons, List.map_nil]
    rw [List.nodup_append]
    refine ⟨hf.nodup, List.nodup_singleton _, ?_⟩
    rintro a ha b hb rfl
    obtain ⟨t, ht, rfl⟩ := List.mem_map.1 ha
    rw [List.mem_singleton] at hb
    exact absurd (hf.lt t ht) (by omega)
  · intro t ht
    simp only [Hosting.spawn, List.mem_append, List.mem_singleton] at ht ⊢
    rcases ht with ht | rfl
    · exact Nat.lt_succ_of_lt (hf.lt t ht)
    · exact Nat.lt_succ_self _

theorem setErrand (hf : h.TokensFresh) : (h.setErrand k e).TokensFresh := by
  have htoken : ∀ t : HostTask,
      (if t.token = k then { t with errand := e } else t).token = t.token := by
    intro t
    split <;> rfl
  refine ⟨?_, ?_⟩
  · simp only [Hosting.setErrand, List.map_map, Function.comp_def, htoken]
    exact hf.nodup
  · intro t ht
    obtain ⟨u, hu, rfl⟩ := List.mem_map.1 ht
    rw [htoken]
    exact hf.lt u hu

theorem remove (hf : h.TokensFresh) : (h.remove k).TokensFresh :=
  ⟨hf.nodup.sublist (List.filter_sublist.map _),
    fun t ht => hf.lt t (List.mem_of_mem_filter ht)⟩

theorem finish (hf : h.TokensFresh) : (h.finish t).TokensFresh := by
  have hr : (h.remove t.token).TokensFresh := hf.remove
  refine ⟨?_, ?_⟩
  · rw [finish_tasks]
    exact hr.nodup
  · rw [finish_tasks, finish_nextToken]
    exact hr.lt

/-- A task stands at one place of the list, and only that place changes with it. -/
theorem split (hf : h.TokensFresh) (ht : h.task? k = some t) :
    ∃ before after, h.tasks = before ++ t :: after ∧
      (∀ u ∈ before ++ after, u.token ≠ k) ∧
      (∀ e, (h.setErrand k e).tasks = before ++ { t with errand := e } :: after) ∧
      (h.remove k).tasks = before ++ after := by
  obtain ⟨before, after, htasks⟩ := List.append_of_mem (task?_mem ht)
  have hk := task?_token ht
  have hother : ∀ u ∈ before ++ after, u.token ≠ k := by
    intro u hu heq
    have hnodup := hf.nodup
    rw [htasks, List.map_append, List.map_cons, List.nodup_middle, List.nodup_cons,
      ← List.map_append] at hnodup
    exact hnodup.1 (List.mem_map.2 ⟨u, hu, heq.trans hk.symm⟩)
  have hbefore : ∀ u ∈ before, u.token ≠ k :=
    fun u hu => hother u (List.mem_append_left _ hu)
  have hafter : ∀ u ∈ after, u.token ≠ k :=
    fun u hu => hother u (List.mem_append_right _ hu)
  refine ⟨before, after, htasks, hother, fun e => ?_, ?_⟩
  · have hsame : ∀ l : List HostTask, (∀ u ∈ l, u.token ≠ k) →
        l.map (fun u => if u.token = k then { u with errand := e } else u) = l := by
      intro l hl
      conv_rhs => rw [← List.map_id l]
      exact List.map_congr_left fun u hu => if_neg (hl u hu)
    simp only [Hosting.setErrand, htasks, List.map_append, List.map_cons, hsame before hbefore,
      hsame after hafter, hk, if_true]
  · have hsame : ∀ l : List HostTask, (∀ u ∈ l, u.token ≠ k) →
        l.filter (·.token != k) = l := by
      intro l hl
      rw [List.filter_eq_self]
      intro u hu
      simpa using hl u hu
    simp only [Hosting.remove, htasks, List.filter_append, List.filter_cons, hk, bne_self_eq_false,
      hsame before hbefore, hsame after hafter, Bool.false_eq_true, if_false]

end TokensFresh

end RunnerFleet.Hosting

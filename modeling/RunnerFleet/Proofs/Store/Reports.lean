import Mathlib.Data.List.Induction
import RunnerFleet.Store

/-!
# What a report leaves in the store

A report drops the agent's runners that it does not name and then stores those it names, one after
the other. Read through look-ups this is one rule a table: of several records with one id the last
is kept (`get?_runners_report`), and whatever is reported belongs to the agent from then on
(`get?_owners_report`).
-/

namespace RunnerFleet

namespace Table

variable {α : Type}

theorem contains_iff {t : Table α} {k : String} :
    t.contains k = true ↔ ∃ v, t.get? k = some v :=
  Option.isSome_iff_exists

theorem contains_eq_false_iff {t : Table α} {k : String} :
    t.contains k = false ↔ t.get? k = none := by
  rw [contains, Option.isSome_eq_false_iff, Option.isNone_iff_eq_none]

theorem filter_of_forall {t : Table α} {p : String → α → Bool}
    (h : ∀ k v, t.get? k = some v → p k v = true) : t.filter p = t := by
  refine ext fun k => ?_
  rw [get?_filter]
  cases hk : t.get? k with
  | none => rfl
  | some v => rw [Option.filter_some, if_pos (h k v hk)]

theorem filter_true (t : Table α) : t.filter (fun _ _ => true) = t :=
  filter_of_forall fun _ _ _ => rfl

theorem erase_of_absent {t : Table α} {k : String} (h : t.get? k = none) : t.erase k = t := by
  refine filter_of_forall fun j v hj => bne_iff_ne.2 ?_
  rintro rfl
  cases h.symm.trans hj

theorem filter_filter (t : Table α) (p q : String → α → Bool) :
    (t.filter p).filter q = t.filter fun k v => p k v && q k v := by
  simp only [filter, List.filter_filter, Bool.and_comm]

end Table

namespace Store

variable {s s' : Store} {agent : AgentId} {reported : List Runner}

/-! ## Dropping runners -/

/-- Dropping runners takes their records, their attributions and the cloud ids that name them. -/
theorem foldl_dropRunner (ids : List RunnerId) (s : Store) :
    ids.foldl dropRunner s =
      { s with
        runners := s.runners.filter fun k _ => !ids.contains k
        owners := s.owners.filter fun k _ => !ids.contains k
        cloudIds := s.cloudIds.filter fun _ id => !ids.contains id } := by
  induction ids generalizing s with
  | nil => simp only [List.foldl_nil, List.contains_nil, Bool.not_false, Table.filter_true]
  | cons id rest ih =>
    rw [List.foldl_cons, ih]
    simp only [dropRunner, Table.erase, Table.filter_filter, List.contains_cons, Bool.not_or, bne]

/-! ## Storing reported runners -/

theorem get?_runners_adopt (reported : List Runner) (s : Store) (agent : AgentId) (k : RunnerId) :
    (reported.foldl (adopt · agent) s).runners.get? k =
      (reported.reverse.find? (·.id == k)).or (s.runners.get? k) := by
  induction reported using List.reverseRecOn with
  | nil => rfl
  | append_singleton rest runner ih =>
    rw [List.foldl_append, List.foldl_cons, List.foldl_nil, List.reverse_append]
    simp only [adopt, Table.get?_insert, ih, List.reverse_singleton, List.singleton_append,
      List.find?_cons]
    grind

theorem get?_owners_adopt (reported : List Runner) (s : Store) (agent : AgentId) (k : RunnerId) :
    (reported.foldl (adopt · agent) s).owners.get? k =
      if reported.any (·.id == k) then some agent else s.owners.get? k := by
  induction reported generalizing s with
  | nil => rfl
  | cons runner rest ih =>
    rw [List.foldl_cons, ih]
    simp only [adopt, Table.get?_insert, List.any_cons]
    grind

theorem agents_adopt (reported : List Runner) (s : Store) (agent : AgentId) :
    (reported.foldl (adopt · agent) s).agents = s.agents := by
  induction reported generalizing s with
  | nil => rfl
  | cons runner rest ih => rw [List.foldl_cons, ih, adopt]

theorem cloudIds_adopt (reported : List Runner) (s : Store) (agent : AgentId) :
    (reported.foldl (adopt · agent) s).cloudIds = s.cloudIds := by
  induction reported generalizing s with
  | nil => rfl
  | cons runner rest ih => rw [List.foldl_cons, ih, adopt]

/-! ## Reports -/

theorem mem_staleRunners {k : RunnerId} : k ∈ s.staleRunners agent reported ↔
    s.owners.get? k = some agent ∧ reported.any (·.id == k) = false := by
  unfold staleRunners
  rw [Table.mem_keys, Table.contains, Table.get?_filter]
  cases s.owners.get? k <;> simp [Option.filter]

theorem report_eq_ok_iff : s.report agent reported = (s', .ok ()) ↔
    s.agents.contains agent = true ∧
      s' = reported.foldl (adopt · agent) ((s.staleRunners agent reported).foldl dropRunner s) := by
  unfold report
  split
  · next h => simp [h, eq_comm]
  · next h => simp [h]

/-- A report is taken, or its agent is not registered and the store stays as it is. -/
theorem report_cases (s : Store) (agent : AgentId) (reported : List Runner) :
    (∃ s', s.report agent reported = (s', .ok ())) ∨
      s.agents.get? agent = none ∧
        s.report agent reported = (s, .error (.agentNotFound agent)) := by
  cases hknown : s.agents.contains agent with
  | true => exact .inl ⟨_, report_eq_ok_iff.2 ⟨hknown, rfl⟩⟩
  | false => exact .inr ⟨Table.contains_eq_false_iff.1 hknown, by rw [report, hknown]; rfl⟩

/-- The last record with an id is kept; a runner of the agent that is not reported is gone. -/
theorem get?_runners_report (h : s.report agent reported = (s', .ok ())) (k : RunnerId) :
    s'.runners.get? k = (reported.reverse.find? (·.id == k)).or
      (if s.owners.get? k = some agent then none else s.runners.get? k) := by
  rw [(report_eq_ok_iff.1 h).2, get?_runners_adopt, foldl_dropRunner, Table.get?_filter]
  cases hfind : reported.reverse.find? (·.id == k) with
  | some runner => rfl
  | none =>
    have hany : reported.any (·.id == k) = false := by
      rw [List.find?_eq_none] at hfind
      simpa using hfind
    simp only [List.contains_eq_mem, mem_staleRunners, hany]
    cases s.runners.get? k <;> by_cases hk : s.owners.get? k = some agent <;> simp [hk]

/-- A reported runner is the agent's, whoever had it before. -/
theorem get?_owners_report (h : s.report agent reported = (s', .ok ())) (k : RunnerId) :
    s'.owners.get? k = if reported.any (·.id == k) then some agent
      else if s.owners.get? k = some agent then none else s.owners.get? k := by
  rw [(report_eq_ok_iff.1 h).2, get?_owners_adopt, foldl_dropRunner, Table.get?_filter]
  simp only [List.contains_eq_mem, mem_staleRunners]
  cases reported.any (·.id == k) with
  | true => rfl
  | false => cases hk : s.owners.get? k <;> simp [Option.filter]

theorem agents_report (h : s.report agent reported = (s', .ok ())) : s'.agents = s.agents := by
  rw [(report_eq_ok_iff.1 h).2, agents_adopt, foldl_dropRunner]

/-- A cloud id goes with the runner that it names, and only so. -/
theorem get?_cloudIds_report (h : s.report agent reported = (s', .ok ())) (k : CloudId) :
    s'.cloudIds.get? k = (s.cloudIds.get? k).filter fun id =>
      !(s.staleRunners agent reported).contains id := by
  rw [(report_eq_ok_iff.1 h).2, cloudIds_adopt, foldl_dropRunner, Table.get?_filter]

end Store

end RunnerFleet

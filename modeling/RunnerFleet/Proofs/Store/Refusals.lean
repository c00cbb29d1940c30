import RunnerFleet.Proofs.Store.Replacement

/-!
# What a refused change leaves

A change of an agent that is not registered is refused and leaves the store as it is. So is the
deletion of a runner of which no record is held. The tables agree, so such a runner has no
attribution either; but a cloud id can name it, since cloud ids are handed out before the first
report. A refused deletion takes these cloud ids with it, and nothing else is lost to a refused
change (`Store.refused_keeps`).
-/

namespace RunnerFleet

namespace Store

variable {s : Store} {e : Edit} {error : StoreError} {id : RunnerId}

/-! ## When a change is refused -/

theorem setAgentStatus_eq_error_iff {agent : AgentId} {status : AgentStatus} :
    (s.setAgentStatus agent status).2 = .error error ↔
      s.agents.get? agent = none ∧ error = .agentNotFound agent := by
  unfold setAgentStatus
  split
  · next a h => simp [h]
  · next h => simp [h, eq_comm]

theorem report_eq_error_iff {agent : AgentId} {reported : List Runner} :
    (s.report agent reported).2 = .error error ↔
      s.agents.get? agent = none ∧ error = .agentNotFound agent := by
  rw [← Table.contains_eq_false_iff]
  unfold report
  split
  · next h => simp [h]
  · next h => simp [h, eq_comm]

theorem deleteRunner_eq_error_iff : (s.deleteRunner id).2 = .error error ↔
    s.runners.get? id = none ∧ error = .runnerNotFound id := by
  rw [← Table.contains_eq_false_iff, deleteRunner]
  cases s.runners.contains id <;> simp [eq_comm]

/-- The change is answered with an error. The other changes are never refused. -/
inductive Refused (s : Store) : Edit → StoreError → Prop where
  | setAgentStatus {agent : AgentId} {status : AgentStatus} {error : StoreError}
      (h : (s.setAgentStatus agent status).2 = .error error) :
      Refused s (.setAgentStatus agent status) error
  | report {agent : AgentId} {reported : List Runner} {error : StoreError}
      (h : (s.report agent reported).2 = .error error) : Refused s (.report agent reported) error
  | deleteRunner {id : RunnerId} {error : StoreError} (h : (s.deleteRunner id).2 = .error error) :
      Refused s (.deleteRunner id) error

/-! ## What it leaves -/

theorem setAgentStatus_of_error {agent : AgentId} {status : AgentStatus}
    (h : (s.setAgentStatus agent status).2 = .error error) :
    (s.setAgentStatus agent status).1 = s := by
  rw [setAgentStatus, (setAgentStatus_eq_error_iff.1 h).1]

theorem report_of_error {agent : AgentId} {reported : List Runner}
    (h : (s.report agent reported).2 = .error error) : (s.report agent reported).1 = s := by
  rw [report, Table.contains_eq_false_iff.2 (report_eq_error_iff.1 h).1]
  rfl

theorem Linked.owner_of_absent (hs : s.Linked) (h : s.runners.get? id = none) :
    s.owners.get? id = none := by
  rw [← Table.contains_eq_false_iff, ← hs.same_keys, Table.contains_eq_false_iff]
  exact h

/-- The deletion of a runner of which no record is held finds cloud ids at most. -/
theorem Linked.dropRunner_of_absent (hs : s.Linked) (h : s.runners.get? id = none) :
    s.dropRunner id = { s with cloudIds := s.cloudIds.filter fun _ runner => runner != id } := by
  rw [Store.dropRunner, Table.erase_of_absent h, Table.erase_of_absent (hs.owner_of_absent h)]

/-- Nothing is lost to a refused change but the cloud ids of a runner that it was to delete. -/
theorem Linked.edit_of_refused (hs : s.Linked) (h : s.Refused e error) :
    s.edit e = { s with cloudIds := s.cloudIds.filter fun _ id => e != .deleteRunner id } := by
  have hkept : (∀ id, e ≠ .deleteRunner id) →
      s = { s with cloudIds := s.cloudIds.filter fun _ id => e != .deleteRunner id } := by
    intro hne
    rw [Table.filter_of_forall fun _ id _ => bne_iff_ne.2 (hne id)]
  cases h with
  | setAgentStatus h =>
    rw [← hkept (by intro id he; cases he), Store.edit, setAgentStatus_of_error h]
  | report h =>
    rw [← hkept (by intro id he; cases he), Store.edit, report_of_error h]
  | @deleteRunner id _ h =>
    have hpick : (fun (_ : CloudId) runner => Edit.deleteRunner id != .deleteRunner runner) =
        fun _ runner => runner != id := by
      funext _ runner
      simp [bne, Bool.beq_eq_decide_eq, eq_comm]
    rw [hpick]
    exact hs.dropRunner_of_absent (deleteRunner_eq_error_iff.1 h).1

/-- A refused change leaves the agents, the runners and the attributions as they are, and each cloud
id, unless the change was to delete the runner that it names, of which no record is held. So it
leaves the whole store as it is exactly if it was no deletion of a runner that has a cloud id. -/
theorem refused_keeps (es : List Edit) (e : Edit) (error : StoreError)
    (h : (edited es).Refused e error) :
    ((edited es).edit e).agents = (edited es).agents ∧
      ((edited es).edit e).runners = (edited es).runners ∧
      ((edited es).edit e).owners = (edited es).owners ∧
      (∀ cloudId id, ((edited es).edit e).cloudIds.get? cloudId = some id ↔
        (edited es).cloudIds.get? cloudId = some id ∧ e ≠ .deleteRunner id) ∧
      (∀ id, e = .deleteRunner id →
        (edited es).runners.get? id = none ∧ (edited es).owners.get? id = none) ∧
      ((edited es).edit e = edited es ↔
        ∀ cloudId id, e = .deleteRunner id → (edited es).cloudIds.get? cloudId ≠ some id) := by
  have hs := linked_edited es
  have hedit := hs.edit_of_refused h
  have hcloudIds : ∀ cloudId id, ((edited es).edit e).cloudIds.get? cloudId = some id ↔
      (edited es).cloudIds.get? cloudId = some id ∧ e ≠ .deleteRunner id := by
    intro cloudId id
    rw [hedit, Table.get?_filter, Option.filter_eq_some_iff, bne_iff_ne]
  refine ⟨by rw [hedit], by rw [hedit], by rw [hedit], hcloudIds, ?_, ?_⟩
  · rintro id rfl
    cases h with
    | deleteRunner h =>
      have habsent := (deleteRunner_eq_error_iff.1 h).1
      exact ⟨habsent, hs.owner_of_absent habsent⟩
  · constructor
    · intro hsame cloudId id he hnamed
      rw [← hsame] at hnamed
      exact ((hcloudIds cloudId id).1 hnamed).2 he
    · intro hunnamed
      rw [hedit, Table.filter_of_forall]
      intro cloudId id hnamed
      exact bne_iff_ne.2 fun he => hunnamed cloudId id he hnamed

/-- Two cloud ids name a runner that no agent has reported, and a third names one that is held. -/
theorem refused_keeps_unreported :
    let s := edited
      [.registerAgent ⟨"a1", "mini-1", ⟨2, 4, 8⟩, .online⟩, .registerCloudId "hangar-r1" "r1",
        .registerCloudId "other-r1" "r1", .registerCloudId "hangar-r2" "r2",
        .report "a1" [.accepted "r2" "ci" "a1" "" 1]]
    s.Refused (.deleteRunner "r1") (.runnerNotFound "r1") ∧
      (s.edit (.deleteRunner "r1")).runners = s.runners ∧
      (s.edit (.deleteRunner "r1")).cloudIds.get? "hangar-r1" ≠ some "r1" ∧
      (s.edit (.deleteRunner "r1")).cloudIds.get? "hangar-r2" = some "r2" ∧
      s.edit (.deleteRunner "r1") ≠ s := by
  intro s
  have hrefused : s.Refused (.deleteRunner "r1") (.runnerNotFound "r1") :=
    .deleteRunner (by decide +kernel)
  obtain ⟨-, hrunners, -, hcloudIds, -, hsame⟩ := refused_keeps _ _ _ hrefused
  refine ⟨hrefused, hrunners, ?_, ?_, ?_⟩
  · intro hkept
    exact ((hcloudIds "hangar-r1" "r1").1 hkept).2 rfl
  · exact (hcloudIds "hangar-r2" "r2").2 ⟨by decide +kernel, by decide⟩
  · intro heq
    exact hsame.1 heq "hangar-r1" "r1" rfl (by decide +kernel)

/-- A change that is answered with an error can change the store: the deletion of a runner that is
yet to be reported is refused, and takes the runner's cloud id. -/
theorem refused_deletion_loses_cloudIds :
    ¬ ∀ (es : List Edit) (e : Edit) (error : StoreError), (edited es).Refused e error →
      (edited es).edit e = edited es := by
  intro h
  have hsame := h [.registerCloudId "hangar-r1" "r1"] (.deleteRunner "r1") (.runnerNotFound "r1")
    (.deleteRunner (by decide +kernel))
  revert hsame
  decide +kernel

end Store

end RunnerFleet

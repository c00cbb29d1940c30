import RunnerFleet.Proofs.Store.Replacement

/-!
# Counting an agent's runners

A report lists what its agent has from then on, and nothing else gives an agent a runner. So as long
as no report lists 2^32 runners, no agent has as many (`Store.countsFit_edited`), and a count of its
runners is exact in 32 bits. The runners that occupy a slot can be counted in two ways: among those
listed for the agent, or among all (`Store.Linked.activeCount_eq`).
-/

namespace RunnerFleet

namespace Store

variable {s s' : Store} {agent : AgentId}

/-! ## The runners that occupy a slot -/

/-- The runners that take one of the agent's slots: all that are attributed to it but the failed
ones and those that are torn down. -/
def occupants (s : Store) (agent : AgentId) : List Runner :=
  s.listRunners.filter fun runner =>
    s.owners.get? runner.id = some agent ∧ runner.state ≠ .error ∧ runner.state ≠ .tearingDown

theorem Linked.activeCount_eq (h : s.Linked) (agent : AgentId) :
    s.activeCount agent = (s.occupants agent).length := by
  rw [activeCount, h.runnersOf_eq_filter, List.countP_filter, occupants,
    ← List.countP_eq_length_filter]
  refine List.countP_congr fun runner _ => ?_
  simp only [RunnerState.occupiesSlot, Bool.and_eq_true, bne_iff_ne, beq_iff_eq, decide_eq_true_iff]
  exact and_comm

theorem hasCapacity_eq_true_iff : s.hasCapacity agent = .ok true ↔
    ∃ a, s.agents.get? agent = some a ∧ a.status = .online ∧
      s.activeCount agent < a.capacity.maxRunners.toNat := by
  unfold hasCapacity
  cases s.agents.get? agent with
  | none => simp
  | some a =>
    by_cases honline : a.status = .online
    · simp [honline]
    · simp [honline]

/-! ## How many runners an agent has -/

/-- The runners that a change reports. -/
def Edit.reported : Edit → List Runner
  | .report _ reported => reported
  | _ => []

/-- The runners of each agent can be counted in 32 bits. -/
def CountsFit (s : Store) : Prop := ∀ agent, (s.runnersOf agent).length < UInt32.size

theorem Linked.runnersOf_nodup (h : s.Linked) (agent : AgentId) : (s.runnersOf agent).Nodup :=
  (h.runnersOf_ascending agent).imp fun hlt => ne_of_apply_ne Runner.id (String.ne_of_lt hlt)

/-- After a report its agent has at most as many runners as are listed. -/
theorem Linked.length_runnersOf_report_le (h : s.Linked) {reported : List Runner}
    (hs : s.report agent reported = (s', .ok ())) :
    (s'.runnersOf agent).length ≤ reported.length := by
  have hlinked := h.report hs
  have hids : ((s'.runnersOf agent).map Runner.id).Nodup :=
    List.pairwise_map.2 ((hlinked.runnersOf_ascending agent).imp String.ne_of_lt)
  have hlisted : (s'.runnersOf agent).map Runner.id ⊆ reported.map Runner.id := by
    intro id hid
    obtain ⟨runner, hrunner, rfl⟩ := List.mem_map.1 hid
    exact mem_ids_of_owned hs (hlinked.mem_runnersOf.1 hrunner).2
  calc (s'.runnersOf agent).length = ((s'.runnersOf agent).map Runner.id).length :=
        (List.length_map Runner.id).symm
    _ ≤ (reported.map Runner.id).length := hids.length_le_of_subset hlisted
    _ = reported.length := List.length_map Runner.id

/-- A report gives no runner to another agent. -/
theorem Linked.runnersOf_report_subset (h : s.Linked) {reported : List Runner}
    (hs : s.report agent reported = (s', .ok ())) {other : AgentId} (hother : other ≠ agent) :
    s'.runnersOf other ⊆ s.runnersOf other := by
  intro runner hrunner
  obtain ⟨hrecord, howner⟩ := (h.report hs).mem_runnersOf.1 hrunner
  rw [get?_owners_report hs] at howner
  split at howner
  · exact absurd (Option.some.inj howner).symm hother
  · next hlisted =>
    split at howner
    · cases howner
    · next hkept =>
      rw [get?_runners_report hs, if_neg hkept,
        find?_reverse_eq_none (any_id_eq_true_iff.not.1 hlisted), Option.none_or] at hrecord
      exact h.mem_runnersOf.2 ⟨hrecord, howner⟩

theorem Linked.runnersOf_dropRunner_subset (h : s.Linked) (id : RunnerId) (agent : AgentId) :
    (s.dropRunner id).runnersOf agent ⊆ s.runnersOf agent := by
  intro runner hrunner
  obtain ⟨hrecord, howner⟩ := (h.dropRunner id).mem_runnersOf.1 hrunner
  simp only [Store.dropRunner, Table.get?_erase] at hrecord howner
  split at hrecord
  · cases hrecord
  · next hkept =>
    rw [if_neg hkept] at howner
    exact h.mem_runnersOf.2 ⟨hrecord, howner⟩

theorem CountsFit.edit (h : s.CountsFit) (hlinked : s.Linked) {e : Edit}
    (he : e.reported.length < UInt32.size) : (s.edit e).CountsFit := by
  have hfewer : ∀ {t : Store} {a : AgentId}, t.Linked → t.runnersOf a ⊆ s.runnersOf a →
      (t.runnersOf a).length < UInt32.size := fun ht hsub =>
    Nat.lt_of_le_of_lt ((ht.runnersOf_nodup _).length_le_of_subset hsub) (h _)
  cases e with
  | registerAgent a => exact h
  | setAgentStatus id status =>
    rcases s.setAgentStatus_cases id status with ⟨s', hs⟩ | ⟨-, hs⟩ <;> rw [Store.edit, hs]
    · obtain ⟨a, -, rfl⟩ := setAgentStatus_eq_ok_iff.1 hs
      exact h
    · exact h
  | report a reported =>
    rcases s.report_cases a reported with ⟨s', hs⟩ | ⟨-, hs⟩ <;> rw [Store.edit, hs]
    · intro other
      by_cases hother : other = a
      · subst hother
        exact Nat.lt_of_le_of_lt (hlinked.length_runnersOf_report_le hs) he
      · exact hfewer (hlinked.report hs) (hlinked.runnersOf_report_subset hs hother)
    · exact h
  | registerCloudId id runner => exact h
  | forgetCloudId id => exact h
  | deleteRunner id =>
    intro a
    exact hfewer (hlinked.dropRunner id) (hlinked.runnersOf_dropRunner_subset id a)

theorem countsFit_edited {es : List Edit} (h : ∀ e ∈ es, e.reported.length < UInt32.size) :
    (edited es).CountsFit := by
  induction es using List.reverseRecOn with
  | nil => exact fun _ => Nat.zero_lt_succ _
  | append_singleton es e ih =>
    rw [edited_append_singleton]
    refine CountsFit.edit (ih fun x hx => h x (List.mem_append_left _ hx)) (linked_edited es) ?_
    exact h e (List.mem_append_right _ (List.mem_singleton_self e))

theorem CountsFit.activeCount_lt (h : s.CountsFit) (agent : AgentId) :
    s.activeCount agent < UInt32.size :=
  Nat.lt_of_le_of_lt List.countP_le_length (h agent)

end Store

end RunnerFleet

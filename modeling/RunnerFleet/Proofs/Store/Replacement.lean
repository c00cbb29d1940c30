import RunnerFleet.Proofs.Store.Indexes

/-!
# A report replaces what its agent has

A report of a registered agent is always taken. Every id that it lists then has the last record
listed under it and belongs to the agent, whoever had it before; what else the agent had is gone,
with its cloud ids; and nothing else is touched (`report_replaces`). In particular a cloud id stays
while no agent has reported its runner. What a report leaves, the same report does not change.
-/

namespace RunnerFleet

namespace Store

variable {s s' : Store} {agent : AgentId} {reported : List Runner}

/-- Of the listed records with this id, the last is `runner`. -/
def LastListed (reported : List Runner) (id : RunnerId) (runner : Runner) : Prop :=
  ∃ before after, reported = before ++ runner :: after ∧ runner.id = id ∧
    ∀ other ∈ after, other.id ≠ id

theorem find?_reverse_eq_some_iff {id : RunnerId} {runner : Runner} :
    reported.reverse.find? (·.id == id) = some runner ↔ LastListed reported id runner := by
  rw [List.find?_eq_some_iff_append]
  constructor
  · rintro ⟨hid, after, before, hsplit, hafter⟩
    refine ⟨before.reverse, after.reverse, ?_, eq_of_beq hid, ?_⟩
    · rw [← List.reverse_reverse reported, hsplit]
      simp
    · intro other hother
      simpa using hafter other (List.mem_reverse.1 hother)
  · rintro ⟨before, after, rfl, hid, hafter⟩
    refine ⟨beq_iff_eq.2 hid, after.reverse, before.reverse, by simp, ?_⟩
    intro other hother
    simpa using hafter other (List.mem_reverse.1 hother)

theorem exists_lastListed {id : RunnerId} (h : id ∈ reported.map Runner.id) :
    ∃ runner, LastListed reported id runner := by
  obtain ⟨runner, hmem, hid⟩ := List.mem_map.1 h
  have hfound : (reported.reverse.find? (·.id == id)).isSome = true := by
    rw [List.find?_isSome]
    exact ⟨runner, List.mem_reverse.2 hmem, beq_iff_eq.2 hid⟩
  obtain ⟨last, hlast⟩ := Option.isSome_iff_exists.1 hfound
  exact ⟨last, find?_reverse_eq_some_iff.1 hlast⟩

theorem any_id_eq_true_iff {id : RunnerId} :
    reported.any (·.id == id) = true ↔ id ∈ reported.map Runner.id := by
  simp only [List.any_eq_true, beq_iff_eq, List.mem_map]

theorem find?_reverse_eq_none {id : RunnerId} (h : id ∉ reported.map Runner.id) :
    reported.reverse.find? (·.id == id) = none := by
  rw [List.find?_eq_none]
  intro runner hmem hid
  exact h (List.mem_map.2 ⟨runner, List.mem_reverse.1 hmem, eq_of_beq hid⟩)

theorem eq_of_tables (hagents : s.agents = s'.agents)
    (hrunners : ∀ k, s.runners.get? k = s'.runners.get? k)
    (howners : ∀ k, s.owners.get? k = s'.owners.get? k)
    (hcloudIds : ∀ k, s.cloudIds.get? k = s'.cloudIds.get? k) : s = s' := by
  cases s
  cases s'
  simp only at hagents hrunners howners hcloudIds
  rw [hagents, Table.ext hrunners, Table.ext howners, Table.ext hcloudIds]

/-- A runner that the agent has after a report is listed in it. -/
theorem mem_ids_of_owned (h : s.report agent reported = (s', .ok ())) {id : RunnerId}
    (howner : s'.owners.get? id = some agent) : id ∈ reported.map Runner.id := by
  rw [get?_owners_report h] at howner
  by_contra hids
  rw [if_neg (any_id_eq_true_iff.not.2 hids)] at howner
  split at howner
  · cases howner
  · next hother => exact hother howner

/-- The same report once more changes nothing. -/
theorem report_again (h : s.report agent reported = (s', .ok ())) :
    s'.report agent reported = (s', .ok ()) := by
  have hknown : s'.agents.contains agent = true := by
    rw [agents_report h]
    exact (report_eq_ok_iff.1 h).1
  obtain ⟨s'', hs''⟩ : ∃ s'', s'.report agent reported = (s'', .ok ()) :=
    ⟨_, report_eq_ok_iff.2 ⟨hknown, rfl⟩⟩
  -- what the agent has after the first report is listed, so nothing is stale at the second
  have hstale : s'.staleRunners agent reported = [] := by
    rw [List.eq_nil_iff_forall_not_mem]
    intro id hid
    obtain ⟨howner, hany⟩ := mem_staleRunners.1 hid
    rw [any_id_eq_true_iff.2 (mem_ids_of_owned h howner)] at hany
    cases hany
  have hsame : s'' = s' := by
    refine eq_of_tables (agents_report hs'') (fun id => ?_) (fun id => ?_) (fun cloudId => ?_)
    · rw [get?_runners_report hs'']
      by_cases hids : id ∈ reported.map Runner.id
      · obtain ⟨runner, hlast⟩ := exists_lastListed hids
        have hfind := find?_reverse_eq_some_iff.2 hlast
        rw [get?_runners_report h, hfind]
        rfl
      · rw [find?_reverse_eq_none hids, if_neg fun howner => hids (mem_ids_of_owned h howner)]
        rfl
    · rw [get?_owners_report hs'']
      by_cases hids : id ∈ reported.map Runner.id
      · have hany := any_id_eq_true_iff.2 hids
        rw [get?_owners_report h, if_pos hany, if_pos hany]
      · rw [if_neg (any_id_eq_true_iff.not.2 hids),
          if_neg fun howner => hids (mem_ids_of_owned h howner)]
    · rw [get?_cloudIds_report hs'', hstale]
      cases s'.cloudIds.get? cloudId <;> rfl
  rw [hs'', hsame]

/-- A report of a registered agent is taken. Every id that it lists has the last record listed under
it, as it came, and is the agent's; a runner of the agent that it does not list is gone, with its
attribution and its cloud ids; every other runner, attribution and cloud id stays, and so do the
agents. The same report once more changes nothing. -/
theorem report_replaces (s : Store) (agent : AgentId) (reported : List Runner)
    (h : s.agents.contains agent = true) :
    ∃ s', s.report agent reported = (s', .ok ()) ∧
      (∀ id ∈ reported.map Runner.id, ∃ runner, LastListed reported id runner ∧
        s'.runners.get? id = some runner ∧ s'.owners.get? id = some agent) ∧
      (∀ id ∉ reported.map Runner.id, s.owners.get? id = some agent →
        s'.runners.get? id = none ∧ s'.owners.get? id = none) ∧
      (∀ id ∉ reported.map Runner.id, s.owners.get? id ≠ some agent →
        s'.runners.get? id = s.runners.get? id ∧ s'.owners.get? id = s.owners.get? id) ∧
      (∀ cloudId id, s'.cloudIds.get? cloudId = some id ↔ s.cloudIds.get? cloudId = some id ∧
        (id ∈ reported.map Runner.id ∨ s.owners.get? id ≠ some agent)) ∧
      s'.agents = s.agents ∧ s'.report agent reported = (s', .ok ()) := by
  obtain ⟨s', hs'⟩ : ∃ s', s.report agent reported = (s', .ok ()) :=
    ⟨_, report_eq_ok_iff.2 ⟨h, rfl⟩⟩
  refine ⟨s', hs', ?_, ?_, ?_, ?_, agents_report hs', report_again hs'⟩
  · intro id hids
    obtain ⟨runner, hlast⟩ := exists_lastListed hids
    refine ⟨runner, hlast, ?_, ?_⟩
    · rw [get?_runners_report hs', find?_reverse_eq_some_iff.2 hlast]
      rfl
    · rw [get?_owners_report hs', if_pos (any_id_eq_true_iff.2 hids)]
  · intro id hids howner
    constructor
    · rw [get?_runners_report hs', find?_reverse_eq_none hids, if_pos howner]
      rfl
    · rw [get?_owners_report hs', if_neg (any_id_eq_true_iff.not.2 hids), if_pos howner]
  · intro id hids hother
    constructor
    · rw [get?_runners_report hs', find?_reverse_eq_none hids, if_neg hother]
      rfl
    · rw [get?_owners_report hs', if_neg (any_id_eq_true_iff.not.2 hids), if_neg hother]
  · intro cloudId id
    have hstale : id ∉ s.staleRunners agent reported ↔
        id ∈ reported.map Runner.id ∨ s.owners.get? id ≠ some agent := by
      rw [mem_staleRunners, ← any_id_eq_true_iff]
      cases reported.any (·.id == id) <;> simp
    rw [get?_cloudIds_report hs', Option.filter_eq_some_iff, ← hstale]
    simp

/-- An agent reports a runner twice and one of another agent, and drops one that has two cloud ids.
A third cloud id names a runner that no agent has reported. -/
theorem report_replaces_takeover :
    let s := edited
      [.registerAgent ⟨"a1", "mini-1", ⟨2, 4, 8⟩, .online⟩,
        .registerAgent ⟨"a2", "mini-2", ⟨2, 4, 8⟩, .online⟩,
        .report "a1" [.accepted "r1" "ci" "a1" "" 1], .report "a2" [.accepted "r2" "ci" "a2" "" 2],
        .registerCloudId "hangar-r1" "r1", .registerCloudId "other-r1" "r1",
        .registerCloudId "hangar-r3" "r3"]
    let reported : List Runner :=
      [.accepted "r2" "ci" "a1" "" 5, .accepted "r4" "ci" "a1" "" 6, .accepted "r2" "ci" "a1" "" 7]
    s.agents.contains "a1" = true ∧
      ∃ s', s.report "a1" reported = (s', .ok ()) ∧ s'.owners.get? "r1" = none ∧
        s'.owners.get? "r2" = some "a1" ∧ s'.cloudIds.get? "hangar-r1" ≠ some "r1" ∧
        s'.cloudIds.get? "hangar-r3" = some "r3" ∧ s'.report "a1" reported = (s', .ok ()) := by
  intro s reported
  have hknown : s.agents.contains "a1" = true := by decide +kernel
  have hr1 : "r1" ∉ reported.map Runner.id := by decide
  have howner : s.owners.get? "r1" = some "a1" := by decide +kernel
  obtain ⟨s', hs', hlisted, hgone, -, hcloudIds, -, hagain⟩ :=
    report_replaces s "a1" reported hknown
  refine ⟨hknown, s', hs', (hgone "r1" hr1 howner).2, ?_, ?_, ?_, hagain⟩
  · obtain ⟨_, -, -, htaken⟩ := hlisted "r2" (by decide)
    exact htaken
  · intro hkept
    rcases ((hcloudIds "hangar-r1" "r1").1 hkept).2 with hids | hother
    · exact hr1 hids
    · exact hother howner
  · exact (hcloudIds "hangar-r3" "r3").2 ⟨by decide +kernel, .inr (by decide +kernel)⟩

end Store

end RunnerFleet

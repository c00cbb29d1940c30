import RunnerFleet.Proofs.Store.Replacement

/-!
# Reports of different agents in any order

What a report drops depends on what its agent has when it is taken. Two reports of different agents
are apart (`Store.Apart`) when neither lists a runner that the other lists or that the other's agent
has; then neither changes what the other drops. So of reports that are apart from each other one can
say what they leave in terms of the store before them all (`Store.Replaced`), and that says nothing
of their order: they leave one store in any order (`reports_in_any_order`).
-/

namespace RunnerFleet

namespace Store

variable {s s' : Store} {a b : AgentId} {listed : List Runner} {id : RunnerId} {runner : Runner}
  {p q r : AgentId × List Runner} {reports reports' : List (AgentId × List Runner)}

/-- Takes reports one after the other, also when one is refused; each has its answer. -/
def reportAll (s : Store) :
    List (AgentId × List Runner) → Store × List (Except StoreError Unit)
  | [] => (s, [])
  | r :: reports =>
    let (s, answer) := s.report r.1 r.2
    let (s, answers) := s.reportAll reports
    (s, answer :: answers)

theorem reportAll_cons (h : s.report r.1 r.2 = (s', .ok ())) :
    s.reportAll (r :: reports) =
      ((s'.reportAll reports).1, .ok () :: (s'.reportAll reports).2) := by
  rw [reportAll, h]

/-! ## One report -/

theorem LastListed.mem_ids (h : LastListed listed id runner) : id ∈ listed.map Runner.id := by
  obtain ⟨before, after, rfl, rfl, -⟩ := h
  exact List.mem_map_of_mem (List.mem_append_right before List.mem_cons_self)

theorem get?_report_of_lastListed (h : s.report a listed = (s', .ok ()))
    (hlast : LastListed listed id runner) :
    s'.runners.get? id = some runner ∧ s'.owners.get? id = some a := by
  constructor
  · rw [get?_runners_report h, find?_reverse_eq_some_iff.2 hlast, Option.some_or]
  · rw [get?_owners_report h, if_pos (any_id_eq_true_iff.2 hlast.mem_ids)]

theorem get?_report_of_owner (h : s.report a listed = (s', .ok ()))
    (hid : id ∉ listed.map Runner.id) (howner : s.owners.get? id = some a) :
    s'.runners.get? id = none ∧ s'.owners.get? id = none := by
  constructor
  · rw [get?_runners_report h, find?_reverse_eq_none hid, if_pos howner, Option.none_or]
  · rw [get?_owners_report h, if_neg (any_id_eq_true_iff.not.2 hid), if_pos howner]

theorem get?_report_of_other (h : s.report a listed = (s', .ok ()))
    (hid : id ∉ listed.map Runner.id) (howner : s.owners.get? id ≠ some a) :
    s'.runners.get? id = s.runners.get? id ∧ s'.owners.get? id = s.owners.get? id := by
  constructor
  · rw [get?_runners_report h, find?_reverse_eq_none hid, if_neg howner, Option.none_or]
  · rw [get?_owners_report h, if_neg (any_id_eq_true_iff.not.2 hid), if_neg howner]

theorem get?_cloudIds_report_iff (h : s.report a listed = (s', .ok ())) {cloudId : CloudId} :
    s'.cloudIds.get? cloudId = some id ↔ s.cloudIds.get? cloudId = some id ∧
      (id ∈ listed.map Runner.id ∨ s.owners.get? id ≠ some a) := by
  rw [get?_cloudIds_report h, Option.filter_eq_some_iff, Bool.not_eq_true', List.contains_eq_mem,
    decide_eq_false_iff_not, mem_staleRunners, ← any_id_eq_true_iff]
  cases listed.any (·.id == id) <;> simp

/-- A report that lists nothing of another agent leaves that agent what it has, and no more. -/
theorem owner_report_iff (h : s.report a listed = (s', .ok ())) (hab : a ≠ b)
    (hlisted : ∀ runner ∈ listed, s.owners.get? runner.id ≠ some b) :
    s'.owners.get? id = some b ↔ s.owners.get? id = some b := by
  have hnot : some a ≠ some b := fun heq => hab (Option.some.inj heq)
  by_cases hid : id ∈ listed.map Runner.id
  · obtain ⟨last, hlast⟩ := exists_lastListed hid
    obtain ⟨runner, hmem, rfl⟩ := List.mem_map.1 hid
    rw [(get?_report_of_lastListed h hlast).2]
    exact iff_of_false hnot (hlisted runner hmem)
  by_cases howner : s.owners.get? id = some a
  · rw [(get?_report_of_owner h hid howner).2, howner]
    exact iff_of_false nofun hnot
  · rw [(get?_report_of_other h hid howner).2]

/-! ## Reports that are apart -/

/-- Reports of different agents, neither of which lists what the other lists, or what the other's
agent has. -/
structure Apart (s : Store) (r q : AgentId × List Runner) : Prop where
  agents : r.1 ≠ q.1
  ids : (r.2.map Runner.id).Disjoint (q.2.map Runner.id)
  left : ∀ runner ∈ r.2, s.owners.get? runner.id ≠ some q.1
  right : ∀ runner ∈ q.2, s.owners.get? runner.id ≠ some r.1

/-- A report keeps two others apart that are apart from it. -/
theorem Apart.report (hrq : s.Apart r q) (hpr : s.Apart p r) (hpq : s.Apart p q)
    (h : s.report p.1 p.2 = (s', .ok ())) : s'.Apart r q where
  agents := hrq.agents
  ids := hrq.ids
  left runner hmem howner :=
    hrq.left runner hmem ((owner_report_iff h hpq.agents hpq.left).1 howner)
  right runner hmem howner :=
    hrq.right runner hmem ((owner_report_iff h hpr.agents hpr.left).1 howner)

/-- What reports leave of a store, whichever comes first: what a report lists is as it lists it;
what the agents have and none lists is gone, with its cloud ids; and nothing else is touched. -/
structure Replaced (s : Store) (reports : List (AgentId × List Runner)) (s' : Store) : Prop where
  agents : s'.agents = s.agents
  listed : ∀ r ∈ reports, ∀ id runner, LastListed r.2 id runner →
    s'.runners.get? id = some runner ∧ s'.owners.get? id = some r.1
  dropped : ∀ id, (∀ r ∈ reports, id ∉ r.2.map Runner.id) →
    (∃ r ∈ reports, s.owners.get? id = some r.1) →
    s'.runners.get? id = none ∧ s'.owners.get? id = none
  kept : ∀ id, (∀ r ∈ reports, id ∉ r.2.map Runner.id) →
    (∀ r ∈ reports, s.owners.get? id ≠ some r.1) →
    s'.runners.get? id = s.runners.get? id ∧ s'.owners.get? id = s.owners.get? id
  cloudIds : ∀ cloudId id, s'.cloudIds.get? cloudId = some id ↔ s.cloudIds.get? cloudId = some id ∧
    ∀ r ∈ reports, id ∈ r.2.map Runner.id ∨ s.owners.get? id ≠ some r.1

namespace Replaced

theorem nil : s.Replaced [] s :=
  ⟨rfl, nofun, fun _ _ h => absurd h (by simp), fun _ _ _ => ⟨rfl, rfl⟩, fun _ _ => by simp⟩

/-- A report before others that are apart from it. -/
theorem cons {s₁ : Store} (hr : s.report r.1 r.2 = (s₁, .ok ()))
    (hapart : ∀ q ∈ reports, s.Apart r q) (h : s₁.Replaced reports s') :
    s.Replaced (r :: reports) s' := by
  have howner : ∀ q ∈ reports, ∀ id, s₁.owners.get? id = some q.1 ↔ s.owners.get? id = some q.1 :=
    fun q hq id => owner_report_iff hr (hapart q hq).agents (hapart q hq).left
  refine ⟨h.agents.trans (agents_report hr), ?_, ?_, ?_, ?_⟩
  · intro q hq id runner hlast
    rcases List.mem_cons.1 hq with rfl | hq
    · obtain ⟨hrunner, hown⟩ := get?_report_of_lastListed hr hlast
      have hkept := h.kept id (fun p hp => (hapart p hp).ids hlast.mem_ids) fun p hp hother =>
        (hapart p hp).agents (Option.some.inj (hown.symm.trans hother))
      rw [hkept.1, hkept.2]
      exact ⟨hrunner, hown⟩
    · exact h.listed q hq id runner hlast
  · intro id hids hagent
    obtain ⟨hid, hrest⟩ := List.forall_mem_cons.1 hids
    obtain ⟨q, hq, hown⟩ := hagent
    rcases List.mem_cons.1 hq with rfl | hq
    · obtain ⟨hrunner, hgone⟩ := get?_report_of_owner hr hid hown
      have hkept := h.kept id hrest fun p _ hother => by
        rw [hgone] at hother
        cases hother
      rw [hkept.1, hkept.2]
      exact ⟨hrunner, hgone⟩
    · exact h.dropped id hrest ⟨q, hq, (howner q hq id).2 hown⟩
  · intro id hids hothers
    obtain ⟨hid, hrest⟩ := List.forall_mem_cons.1 hids
    obtain ⟨hother, hagents⟩ := List.forall_mem_cons.1 hothers
    have hkept := h.kept id hrest fun q hq hown => hagents q hq ((howner q hq id).1 hown)
    have hsame := get?_report_of_other hr hid hother
    exact ⟨hkept.1.trans hsame.1, hkept.2.trans hsame.2⟩
  · intro cloudId id
    have hrest : (∀ q ∈ reports, id ∈ q.2.map Runner.id ∨ s₁.owners.get? id ≠ some q.1) ↔
        ∀ q ∈ reports, id ∈ q.2.map Runner.id ∨ s.owners.get? id ≠ some q.1 :=
      forall₂_congr fun q hq => or_congr_right (howner q hq id).not
    rw [h.cloudIds, get?_cloudIds_report_iff hr, hrest, List.forall_mem_cons, and_assoc]

/-- The order of the reports is not in it. -/
theorem perm (h : s.Replaced reports s') (hperm : reports.Perm reports') :
    s.Replaced reports' s' := by
  have hmem (r : AgentId × List Runner) : r ∈ reports ↔ r ∈ reports' := hperm.mem_iff
  obtain ⟨hagents, hlisted, hdropped, hkept, hcloudIds⟩ := h
  simp only [hmem] at hlisted hdropped hkept hcloudIds
  exact ⟨hagents, hlisted, hdropped, hkept, hcloudIds⟩

/-- Reports leave one store. -/
theorem unique {t : Store} (h : s.Replaced reports s') (ht : s.Replaced reports t) : s' = t := by
  have hsame (id : RunnerId) :
      s'.runners.get? id = t.runners.get? id ∧ s'.owners.get? id = t.owners.get? id := by
    by_cases hids : ∃ r ∈ reports, id ∈ r.2.map Runner.id
    · obtain ⟨r, hr, hid⟩ := hids
      obtain ⟨runner, hlast⟩ := exists_lastListed hid
      have hs := h.listed r hr id runner hlast
      have ht := ht.listed r hr id runner hlast
      exact ⟨hs.1.trans ht.1.symm, hs.2.trans ht.2.symm⟩
    have hids : ∀ r ∈ reports, id ∉ r.2.map Runner.id := fun r hr hid => hids ⟨r, hr, hid⟩
    by_cases howner : ∃ r ∈ reports, s.owners.get? id = some r.1
    · have hs := h.dropped id hids howner
      have ht := ht.dropped id hids howner
      exact ⟨hs.1.trans ht.1.symm, hs.2.trans ht.2.symm⟩
    · have hother : ∀ r ∈ reports, s.owners.get? id ≠ some r.1 := fun r hr heq =>
        howner ⟨r, hr, heq⟩
      have hs := h.kept id hids hother
      have ht := ht.kept id hids hother
      exact ⟨hs.1.trans ht.1.symm, hs.2.trans ht.2.symm⟩
  refine eq_of_tables (h.agents.trans ht.agents.symm) (fun id => (hsame id).1)
    (fun id => (hsame id).2) fun cloudId => Option.ext fun id => ?_
  rw [h.cloudIds, ht.cloudIds]

end Replaced

/-! ## Any number of reports -/

/-- Reports of registered agents that are apart from each other are all taken. -/
theorem exists_reportAll (hknown : ∀ r ∈ reports, s.agents.contains r.1 = true)
    (hapart : reports.Pairwise s.Apart) :
    ∃ s', s.reportAll reports = (s', reports.map fun _ => .ok ()) ∧ s.Replaced reports s' := by
  induction reports generalizing s with
  | nil => exact ⟨s, rfl, .nil⟩
  | cons r reports ih =>
    obtain ⟨hr, hrest⟩ := List.pairwise_cons.1 hapart
    obtain ⟨s₁, hs₁⟩ : ∃ s₁, s.report r.1 r.2 = (s₁, .ok ()) :=
      ⟨_, report_eq_ok_iff.2 ⟨hknown r List.mem_cons_self, rfl⟩⟩
    have hknown' : ∀ q ∈ reports, s₁.agents.contains q.1 = true := by
      intro q hq
      rw [agents_report hs₁]
      exact hknown q (List.mem_cons_of_mem r hq)
    have hapart' : reports.Pairwise s₁.Apart := hrest.imp_of_mem fun hp hq hpq =>
      hpq.report (hr _ hp) (hr _ hq) hs₁
    obtain ⟨s', hs', hreplaced⟩ := ih hknown' hapart'
    refine ⟨s', ?_, .cons hs₁ hr hreplaced⟩
    rw [reportAll_cons hs₁, hs']
    rfl

/-- Reports of different registered agents, no runner being listed by two of them or listed by one
and attributed to the agent of another, are all taken in any order, and every order leaves the same
store: what the agents have in it is what they list. -/
theorem reports_in_any_order (s : Store) (reports : List (AgentId × List Runner))
    (hagents : (reports.map Prod.fst).Nodup)
    (hknown : ∀ r ∈ reports, s.agents.contains r.1 = true)
    (hids : reports.Pairwise fun r q => (r.2.map Runner.id).Disjoint (q.2.map Runner.id))
    (howners : ∀ r ∈ reports, ∀ q ∈ reports, r.1 ≠ q.1 →
      ∀ runner ∈ r.2, s.owners.get? runner.id ≠ some q.1) :
    ∃ s', s.Replaced reports s' ∧
      ∀ reports', reports'.Perm reports →
        s.reportAll reports' = (s', reports'.map fun _ => .ok ()) := by
  have hdistinct : reports.Pairwise fun r q => r.1 ≠ q.1 := List.pairwise_map.1 hagents
  have hapart : reports.Pairwise s.Apart := by
    refine (hdistinct.and hids).imp_of_mem fun hr hq hboth => ?_
    exact ⟨hboth.1, hboth.2, howners _ hr _ hq hboth.1, howners _ hq _ hr hboth.1.symm⟩
  obtain ⟨s', -, hs'⟩ := exists_reportAll hknown hapart
  refine ⟨s', hs', fun reports' hperm => ?_⟩
  have hapart' : reports'.Pairwise s.Apart := hapart.perm hperm.symm fun h =>
    ⟨h.agents.symm, fun _ hq hr => h.ids hr hq, h.right, h.left⟩
  obtain ⟨t, ht, hreplaced⟩ :=
    exists_reportAll (fun r hr => hknown r (hperm.mem_iff.1 hr)) hapart'
  rw [ht, hs'.unique (hreplaced.perm hperm)]

/-- Two agents drop a runner each, and both runners have cloud ids. One takes a runner over from a
third agent, which has not reported, and the other lists for the first time a runner that has a
cloud id already. -/
theorem reports_in_any_order_takeover :
    let s := edited
      [.registerAgent ⟨"a1", "mini-1", ⟨2, 4, 8⟩, .online⟩,
        .registerAgent ⟨"a2", "mini-2", ⟨2, 4, 8⟩, .online⟩,
        .registerAgent ⟨"a3", "mini-3", ⟨2, 4, 8⟩, .offline⟩,
        .report "a1" [.accepted "r1" "ci" "a1" "" 1], .report "a2" [.accepted "r2" "ci" "a2" "" 2],
        .report "a3" [.accepted "r3" "ci" "a3" "" 3], .registerCloudId "hangar-r1" "r1",
        .registerCloudId "hangar-r2" "r2", .registerCloudId "hangar-r3" "r3",
        .registerCloudId "hangar-r4" "r4"]
    let reports : List (AgentId × List Runner) :=
      [("a1", [.accepted "r3" "ci" "a1" "" 5]), ("a2", [.accepted "r4" "ci" "a2" "" 6])]
    ((reports.map Prod.fst).Nodup ∧ (∀ r ∈ reports, s.agents.contains r.1 = true) ∧
      (reports.Pairwise fun r q => (r.2.map Runner.id).Disjoint (q.2.map Runner.id)) ∧
      ∀ r ∈ reports, ∀ q ∈ reports, r.1 ≠ q.1 →
        ∀ runner ∈ r.2, s.owners.get? runner.id ≠ some q.1) ∧
      ∃ s', s.reportAll reports = (s', [.ok (), .ok ()]) ∧
        s.reportAll reports.reverse = (s', [.ok (), .ok ()]) ∧
        s'.cloudIds.get? "hangar-r1" ≠ some "r1" ∧ s'.cloudIds.get? "hangar-r2" ≠ some "r2" ∧
        s'.cloudIds.get? "hangar-r3" = some "r3" ∧ s'.cloudIds.get? "hangar-r4" = some "r4" := by
  intro s reports
  have hagents : (reports.map Prod.fst).Nodup := by decide
  have hknown : ∀ r ∈ reports, s.agents.contains r.1 = true := by decide +kernel
  have hids : reports.Pairwise fun r q => (r.2.map Runner.id).Disjoint (q.2.map Runner.id) :=
    List.pairwise_pair.2 (by simp [Runner.accepted])
  have howners : ∀ r ∈ reports, ∀ q ∈ reports, r.1 ≠ q.1 →
      ∀ runner ∈ r.2, s.owners.get? runner.id ≠ some q.1 := by decide +kernel
  obtain ⟨s', hs', hall⟩ := reports_in_any_order s reports hagents hknown hids howners
  have hgone : ∀ cloudId id, (∃ r ∈ reports, id ∉ r.2.map Runner.id ∧
      s.owners.get? id = some r.1) → s'.cloudIds.get? cloudId ≠ some id := by
    rintro cloudId id ⟨r, hr, hid, howner⟩ hkept
    exact (((hs'.cloudIds cloudId id).1 hkept).2 r hr).elim hid fun hother => hother howner
  refine ⟨⟨hagents, hknown, hids, howners⟩, s', hall _ (.refl _), hall _ (List.reverse_perm _),
    hgone _ _ (by decide +kernel), hgone _ _ (by decide +kernel), ?_, ?_⟩
  · exact (hs'.cloudIds "hangar-r3" "r3").2 (by decide +kernel)
  · exact (hs'.cloudIds "hangar-r4" "r4").2 (by decide +kernel)

end Store

end RunnerFleet

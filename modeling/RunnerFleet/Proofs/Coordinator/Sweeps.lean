import RunnerFleet.Coordinator.Sweep
import RunnerFleet.Proofs.Coordinator.Outbox
import RunnerFleet.Proofs.Store.Indexes

/-!
# What one sweep does

While the store's tables agree, every runner has an agent, so a sweep removes nothing. It takes the
overdue runners in the order of their ids and queues one deletion for each that lacks one
(`Coordinator.sweep_eq`). The runners have different ids, so what is queued for one makes no
difference to the others, and all can be judged by the queues as the sweep found them. Afterwards
none lacks its deletion, and a second sweep at the same moment does nothing (`sweep_again`).
-/

namespace RunnerFleet

namespace Sweep

variable {c : Coordinator} {agent : AgentId} {runner : Runner} {runners : List Runner}
  {report : SweepReport}

theorem deletion_inj {a b : RunnerId} : deletion a = deletion b ↔ a = b := by
  simp [deletion]

/-- The runner belongs to an agent for which its deletion does not wait. -/
def Lacks (c : Coordinator) (runner : Runner) : Prop :=
  ∃ agent, c.store.owners.get? runner.id = some agent ∧
    deletion runner.id ∉ c.outbox.queueOf agent

theorem lacks_iff (howner : c.store.owners.get? runner.id = some agent) :
    Lacks c runner ↔ deletion runner.id ∉ c.outbox.queueOf agent := by
  simp [Lacks, howner]

instance : DecidablePred (Lacks c) := fun runner =>
  match howner : c.store.owners.get? runner.id with
  | some _ => decidable_of_iff _ (lacks_iff howner).symm
  | none => .isFalse fun ⟨_, h, _⟩ => nomatch howner.symm.trans h

/-! ## One runner -/

theorem sweepOne_of_lacks (howner : c.store.owners.get? runner.id = some agent)
    (h : Lacks c runner) :
    sweepOne (c, report) runner =
      ({ c with outbox := c.outbox.enqueue agent (deletion runner.id) },
        { report with queued := report.queued + 1 }) := by
  have hnew := (lacks_iff howner).1 h
  simp only [sweepOne, Store.agentOfRunner, howner, Outbox.enqueueUnique, List.contains_eq_mem,
    hnew, decide_false, Bool.false_eq_true, if_false]

theorem sweepOne_of_not_lacks (howner : c.store.owners.get? runner.id = some agent)
    (h : ¬ Lacks c runner) : sweepOne (c, report) runner = (c, report) := by
  have hwaits := not_not.1 ((lacks_iff howner).not.1 h)
  simp only [sweepOne, Store.agentOfRunner, howner, Outbox.enqueueUnique, List.contains_eq_mem,
    hwaits, decide_true, if_true]

/-- The deletion of one runner makes no difference to another. -/
theorem lacks_enqueue {other : Runner} (hne : other.id ≠ runner.id) :
    Lacks { c with outbox := c.outbox.enqueue agent (deletion runner.id) } other ↔
      Lacks c other := by
  have hdeletion : deletion other.id ≠ deletion runner.id := fun h => hne (deletion_inj.1 h)
  unfold Lacks
  refine exists_congr fun a => and_congr_right fun _ => not_congr ?_
  rw [Outbox.queueOf_enqueue]
  split
  · next ha => rw [ha, List.mem_append, List.mem_singleton, or_iff_left hdeletion]
  · rfl

/-! ## Several runners -/

/-- Where no runner lacks its deletion, there is nothing to do. -/
theorem foldl_of_not_lacks
    (howned : ∀ runner ∈ runners, ∃ agent, c.store.owners.get? runner.id = some agent)
    (h : ∀ runner ∈ runners, ¬ Lacks c runner) :
    runners.foldl sweepOne (c, report) = (c, report) := by
  induction runners with
  | nil => rfl
  | cons runner rest ih =>
    obtain ⟨agent, howner⟩ := howned runner List.mem_cons_self
    rw [List.foldl_cons, sweepOne_of_not_lacks howner (h runner List.mem_cons_self)]
    refine ih (fun other hmem => ?_) (fun other hmem => ?_)
    · exact howned other (List.mem_cons_of_mem runner hmem)
    · exact h other (List.mem_cons_of_mem runner hmem)

/-- Each runner that lacks its deletion gets one, in the order of the list. -/
theorem foldl_sweepOne (c : Coordinator) (report : SweepReport)
    (hids : runners.Pairwise (·.id ≠ ·.id))
    (howned : ∀ runner ∈ runners, ∃ agent, c.store.owners.get? runner.id = some agent) :
    let fresh := runners.filter fun runner => Lacks c runner
    ∃ outbox, runners.foldl sweepOne (c, report) =
        ({ c with outbox }, ⟨report.queued + fresh.length, report.removed⟩) ∧
      ∀ agent, outbox.queueOf agent = c.outbox.queueOf agent ++
        (fresh.filter (c.store.owners.get? ·.id == some agent)).map fun x => deletion x.id := by
  induction runners generalizing c report with
  | nil => exact ⟨c.outbox, rfl, fun agent => (List.append_nil _).symm⟩
  | cons runner rest ih =>
    obtain ⟨owner, howner⟩ := howned runner List.mem_cons_self
    have hrest := fun other hmem => howned other (List.mem_cons_of_mem runner hmem)
    obtain ⟨hne, hids⟩ := List.pairwise_cons.1 hids
    by_cases hlacks : Lacks c runner
    · obtain ⟨outbox, hfold, hqueues⟩ :=
        ih { c with outbox := c.outbox.enqueue owner (deletion runner.id) }
          { report with queued := report.queued + 1 } hids hrest
      -- those that are left have other ids, so what they lack is as the sweep found it
      have hsame : (rest.filter fun other =>
            Lacks { c with outbox := c.outbox.enqueue owner (deletion runner.id) } other) =
          rest.filter fun other => Lacks c other :=
        List.filter_congr fun other hmem =>
          decide_eq_decide.2 (lacks_enqueue (hne other hmem).symm)
      rw [hsame] at hfold hqueues
      refine ⟨outbox, ?_, fun agent => ?_⟩
      · rw [List.foldl_cons, sweepOne_of_lacks howner hlacks, hfold, List.filter_cons,
          if_pos (decide_eq_true hlacks), List.length_cons]
        simp only [Nat.add_assoc, Nat.add_comm 1]
      · rw [hqueues, List.filter_cons, if_pos (decide_eq_true hlacks), List.filter_cons, howner,
          Outbox.queueOf_enqueue]
        by_cases ha : agent = owner
        · subst ha
          rw [if_pos rfl, if_pos (beq_self_eq_true _), List.map_cons, List.append_assoc]
          rfl
        · have hother : (some owner == some agent) = false :=
            beq_eq_false_iff_ne.2 fun h => ha (Option.some.inj h).symm
          rw [if_neg ha, hother, if_neg Bool.false_ne_true]
    · rw [List.foldl_cons, sweepOne_of_not_lacks howner hlacks, List.filter_cons,
        if_neg (by simpa using hlacks)]
      exact ih c report hids hrest

end Sweep

namespace Coordinator

variable {c : Coordinator} {now : UInt64} {grace : Span}

/-- The runners that a sweep takes, in the order of their ids. -/
def overdue (c : Coordinator) (now : UInt64) (grace : Span) : List Runner :=
  c.store.listRunners.filter (Sweep.takes now (Sweep.graceMillis grace))

theorem overdue_ascending (h : c.store.Linked) (now : UInt64) (grace : Span) :
    (c.overdue now grace).Pairwise (·.id < ·.id) :=
  h.runners_ascending.sublist List.filter_sublist

theorem overdue_owned (h : c.store.Linked) :
    ∀ runner ∈ c.overdue now grace, ∃ agent, c.store.owners.get? runner.id = some agent := by
  intro runner hmem
  have hstored := h.runners_filed.mem_values.1 (List.mem_filter.1 hmem).1
  have hkey : c.store.runners.contains runner.id = true := Table.contains_iff.2 ⟨runner, hstored⟩
  rw [h.same_keys] at hkey
  exact Table.contains_iff.1 hkey

/-- A sweep queues the deletions that the overdue runners lack, and does nothing else. -/
theorem sweep_eq (h : c.store.Linked) (now : UInt64) (grace : Span) :
    let fresh := (c.overdue now grace).filter fun runner => Sweep.Lacks c runner
    ∃ outbox, c.sweep now grace = ({ c with outbox }, ⟨fresh.length, 0⟩) ∧
      ∀ agent, outbox.queueOf agent = c.outbox.queueOf agent ++
        (fresh.filter (c.store.owners.get? ·.id == some agent)).map
          fun runner => Sweep.deletion runner.id := by
  intro fresh
  have hids := (overdue_ascending h now grace).imp String.ne_of_lt
  obtain ⟨outbox, hfold, hqueues⟩ := Sweep.foldl_sweepOne c ⟨0, 0⟩ hids (overdue_owned h)
  refine ⟨outbox, ?_, hqueues⟩
  rw [sweep, ← overdue, hfold, Nat.zero_add]

/-- Where no deletion of a sweep waits twice, none does after another sweep. -/
theorem count_sweep_le (h : c.store.Linked)
    (honce : ∀ agent runner, (c.outbox.queueOf agent).count (Sweep.deletion runner) ≤ 1)
    (now : UInt64) (grace : Span) (agent : AgentId) (runner : RunnerId) :
    ((c.sweep now grace).1.outbox.queueOf agent).count (Sweep.deletion runner) ≤ 1 := by
  obtain ⟨outbox, hsweep, hqueues⟩ := sweep_eq h now grace
  rw [hsweep]
  dsimp only
  rw [hqueues, List.count_append]
  set taken := ((c.overdue now grace).filter fun runner => Sweep.Lacks c runner).filter
    (c.store.owners.get? ·.id == some agent)
  by_cases hmem : Sweep.deletion runner ∈ taken.map fun runner => Sweep.deletion runner.id
  · -- what is queued now did not wait before, and is queued once
    have hnew : Sweep.deletion runner ∉ c.outbox.queueOf agent := by
      obtain ⟨x, hx, hdeletion⟩ := List.mem_map.1 hmem
      obtain ⟨hlacks, howner⟩ := List.mem_filter.1 hx
      rw [← hdeletion]
      exact (Sweep.lacks_iff (eq_of_beq howner)).1 (of_decide_eq_true (List.mem_filter.1 hlacks).2)
    have hids : (taken.map fun runner => Sweep.deletion runner.id).Nodup := by
      refine List.pairwise_map.2 (((overdue_ascending h now grace).sublist ?_).imp
        fun hlt heq => ?_)
      · exact List.filter_sublist.trans List.filter_sublist
      · exact String.ne_of_lt hlt (Sweep.deletion_inj.1 heq)
    rw [List.count_eq_zero_of_not_mem hnew, Nat.zero_add]
    exact List.nodup_iff_count_le_one.1 hids _
  · rw [List.count_eq_zero_of_not_mem hmem]
    exact honce agent runner

/-- A second sweep at the same moment does nothing. -/
theorem sweep_again (h : c.store.Linked) (now : UInt64) (grace : Span) :
    (c.sweep now grace).1.sweep now grace = ((c.sweep now grace).1, ⟨0, 0⟩) := by
  obtain ⟨outbox, hsweep, hqueues⟩ := sweep_eq h now grace
  rw [hsweep]
  refine Sweep.foldl_of_not_lacks (overdue_owned (c := { c with outbox }) h) ?_
  rintro runner hmem ⟨agent, howner, hlacks⟩
  have howner : c.store.owners.get? runner.id = some agent := howner
  refine hlacks ?_
  dsimp only
  rw [hqueues, List.mem_append]
  by_cases hwaits : Sweep.deletion runner.id ∈ c.outbox.queueOf agent
  · exact .inl hwaits
  · right
    refine List.mem_map_of_mem (f := fun runner : Runner => Sweep.deletion runner.id)
      (List.mem_filter.2 ⟨List.mem_filter.2 ⟨hmem, ?_⟩, ?_⟩)
    · exact decide_eq_true ⟨agent, howner, hwaits⟩
    · rw [howner]
      exact beq_self_eq_true _

end Coordinator

end RunnerFleet

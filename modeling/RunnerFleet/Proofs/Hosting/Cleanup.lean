import RunnerFleet.Proofs.Hosting.Lifecycle

/-!
# A removed runner leaves no bundle and no wait

Beside what holds of any host (`Tended`), every wait for an address belongs to an operation that is
under way (`Attended`), and once a runner's deletion has come, a bundle of it has a teardown that
has not deleted it yet (`Swept`).
-/

namespace RunnerFleet

namespace HostRun

open Hosting
open BundleRoot (bundleName)

/-- Some deletion of the runner has come, no task of it is left, and no deletion of its VM has
failed. -/
structure Removed {V : VmService} (s : HostRun V) (runner : RunnerId) : Prop where
  orderly : Orderly runner s.commands
  deleted : s.Deleted runner
  idle : ∀ t ∈ s.hosting.tasks, t.runner ≠ runner
  clean : ¬ s.DeleteFailed runner

/-- Nothing of the runner is left on the host, and the deletion of its VM came last. -/
structure Forgotten {V : VmService} (s : HostRun V) (runner : RunnerId) : Prop where
  record : s.hosting.roster.runners.get? runner = none
  registry : s.hosting.provisions.get? runner = none
  last : s.lastOperation runner = some .delete

theorem Removed.forgotten {V : VmService} {s : HostRun V} {runner : RunnerId}
    (hr : s.Removed runner) (ht : s.Tended runner) : s.Forgotten runner := by
  refine ⟨?_, ht.unregistered hr.deleted, ?_⟩
  · refine not_ne_iff.1 fun hrec => ?_
    rcases ht.recorded hr.deleted hrec with hfail | ⟨k, t, hk, hrun, -⟩
    · exact hr.clean hfail
    · exact hr.idle t (task?_mem hk) hrun
  · rcases ht.last hr.deleted with ⟨k, t, hk, hrun, -⟩ | hlast
    · exact absurd hrun (hr.idle t (task?_mem hk))
    · exact hlast

variable {s s' : HostRun lifecycle} {c : Option Command} {runner : RunnerId}

/-! ## Steps of operations -/

/-- A step of an operation is its first, or one that the operation takes on its own; any other step
leaves the bundles alone, and gives up operations at most. -/
theorem operation_change (hs : s.Sound) (hc : Change s s') :
    (∃ t op x, s.hosting.task? t.token = some t ∧ t.errand.operation? = some op ∧
      Lifecycle.Keeps s.vms t.runner op x ∧ s'.hosting = s.hosting ∧ s'.vms = x.1 ∧
      s'.stages = fun k => if k = t.token then some (.ofTurn x.2) else s.stages k) ∨
    (s'.vms.host.bundles = s.vms.host.bundles ∧
      ∀ k, s'.stages k = s.stages k ∨ s'.stages k = none) := by
  have hgone : ∀ {token : Nat} (k : Nat), (if k = token then none else s.stages k) = s.stages k ∨
      (if k = token then none else s.stages k) = none := by
    intro token k
    split
    · exact .inr rfl
    · exact .inl rfl
  cases hc with
  | asked t op i ht hop hstage =>
    exact .inl ⟨t, op, _, ht, hop, Lifecycle.begin_keeps _ _ _ i, rfl, rfl, rfl⟩
  | worked t p i ht hstage =>
    obtain ⟨u, op, hu, hop, rfl⟩ := hs.staged _ _ hstage
    obtain rfl : t = u := Option.some.inj (ht.symm.trans hu)
    exact .inl ⟨t, _, _, ht, hop, Lifecycle.resume_keeps _ _ p i, rfl, rfl, rfl⟩
  | advanced | ended | concluded => exact .inr ⟨rfl, hgone⟩
  | dropped t =>
    refine .inr ⟨?_, hgone⟩
    simp only [setStage, vmsWithout]
    split
    · exact Lifecycle.abandon_bundles _ _
    · rfl
  | _ => exact .inr ⟨rfl, fun _ => .inl rfl⟩

/-! ## Waits -/

/-- Every wait for an address belongs to an operation that is under way, and no deletion has failed
for want of a VM. -/
structure Attended (s : HostRun lifecycle) : Prop where
  waits : ∀ w ∈ s.vms.host.arbiter.waits, ∃ k t p, s.hosting.task? k = some t ∧
    t.runner = w.runner ∧ s.stages k = some (.running p) ∧ p.token? = some w.token
  found : ∀ k t e, s.hosting.task? k = some t → t.errand = .deletion →
    s.stages k = some (.returned (.error e)) → e.isNotFound = false

namespace Attended

/-- A step of one task keeps the waits of the others. -/
theorem waits_kept (ha : s.Attended) {w : AddressWait} (hw : w ∈ s.vms.host.arbiter.waits)
    {token : Nat} (hnot : ∀ p, s.stages token = some (.running p) → p.token? ≠ some w.token)
    (htasks : ∀ k, k ≠ token → s'.hosting.task? k = s.hosting.task? k)
    (hstages : ∀ k, k ≠ token → s'.stages k = s.stages k) :
    ∃ k t p, s'.hosting.task? k = some t ∧ t.runner = w.runner ∧
      s'.stages k = some (.running p) ∧ p.token? = some w.token := by
  obtain ⟨k, t, p, ht, hr, hp, htoken⟩ := ha.waits w hw
  have hk : k ≠ token := by
    rintro rfl
    exact hnot p hp htoken
  refine ⟨k, t, p, ?_, hr, ?_, htoken⟩
  · rw [htasks k hk]
    exact ht
  · rw [hstages k hk]
    exact hp

/-- No wait belongs to an operation that was not asked for yet. -/
theorem not_running_of_none {token : Nat} {n : Nat} (h : s.stages token = none) :
    ∀ p, s.stages token = some (.running p) → p.token? ≠ some n := by
  intro p hp
  rw [h] at hp
  cases hp

theorem not_running_of_returned {token : Nat} {n : Nat} {result : Except VmError VmValue}
    (h : s.stages token = some (.returned result)) :
    ∀ p, s.stages token = some (.running p) → p.token? ≠ some n := by
  intro p hp
  rw [h] at hp
  cases hp

theorem waits_change (hs : s.Sound) (ha : s.Attended) (hc : Change s s') :
    ∀ w ∈ s'.vms.host.arbiter.waits, ∃ k t p, s'.hosting.task? k = some t ∧
      t.runner = w.runner ∧ s'.stages k = some (.running p) ∧ p.token? = some w.token := by
  intro w hw
  cases hc with
  | stays | noted | noticed => exact ha.waits w hw
  | happened e => exact ha.waits w (Lifecycle.happen_waits _ e hw)
  | entered t script reg p roster ht he =>
    have hnone : s.stages t.token = none := hs.stage_idle ht (by rw [he]; rfl)
    refine ha.waits_kept hw (not_running_of_none hnone) (fun k hk => ?_) fun _ _ => rfl
    exact (task?_setErrand ..).trans (if_neg hk)
  | undertaken t inFlight ht he =>
    have hnone : s.stages t.token = none := hs.stage_idle ht (by rw [he]; rfl)
    refine ha.waits_kept hw (not_running_of_none hnone) (fun k hk => ?_) fun _ _ => rfl
    exact (task?_setErrand ..).trans (if_neg hk)
  | refused t script reg ht he =>
    have hnone : s.stages t.token = none := hs.stage_idle ht (by rw [he]; rfl)
    refine ha.waits_kept hw (not_running_of_none hnone) (fun k hk => ?_) fun _ _ => rfl
    exact (task?_finish ..).trans (if_neg hk)
  | advanced t script reg p p' result roster ht he hstage =>
    refine ha.waits_kept hw (not_running_of_returned hstage) (fun k hk => ?_)
      fun k hk => if_neg hk
    exact (task?_setErrand ..).trans (if_neg hk)
  | ended t script reg p result roster ht he hstage =>
    refine ha.waits_kept hw (not_running_of_returned hstage) (fun k hk => ?_)
      fun k hk => if_neg hk
    exact (task?_finish ..).trans (if_neg hk)
  | concluded t result ht he hstage =>
    refine ha.waits_kept hw (not_running_of_returned hstage) (fun k hk => ?_)
      fun k hk => if_neg hk
    exact (task?_finish ..).trans (if_neg hk)
  | asked t op i ht hop hstage =>
    exact ha.waits_kept (VmOperation.begin_waits op hw) (not_running_of_none hstage)
      (fun _ _ => rfl) fun k hk => if_neg hk
  | worked t p i ht hstage =>
    rcases Lifecycle.resume_waits s.vms t.runner p i hw with ⟨hold, hkept⟩ | ⟨hr, q, hturn, htoken⟩
    · obtain ⟨k, u, q, hu, hr, hq, htoken⟩ := ha.waits w hold
      by_cases hk : k = t.token
      · subst hk
        obtain rfl : t = u := Option.some.inj (ht.symm.trans hu)
        rw [hstage] at hq
        cases hq
        obtain ⟨q', hturn, htoken'⟩ := hkept htoken
        exact ⟨_, t, q', hu, hr, by simp only [setStage, if_true, hturn, Stage.ofTurn], htoken'⟩
      · exact ⟨k, u, q, hu, hr, by simp only [setStage, if_neg hk]; exact hq, htoken⟩
    · exact ⟨_, t, q, ht, hr.symm, by simp only [setStage, if_true, hturn, Stage.ofTurn], htoken⟩
  | dropped t holder ht =>
    have hold : w ∈ s.vms.host.arbiter.waits ∧
        ∀ p, s.stages t.token = some (.running p) → p.token? ≠ some w.token := by
      simp only [setStage, vmsWithout] at hw
      split at hw
      · next p hp =>
        obtain ⟨hold, hne⟩ := VmOperation.abandon_waits p hw
        refine ⟨hold, fun q hq => ?_⟩
        rw [hp] at hq
        cases hq
        exact hne
      · next hnone => exact ⟨hw, fun p hp => absurd hp (hnone p)⟩
    refine ha.waits_kept hold.1 hold.2 (fun k hk => ?_) fun k hk => if_neg hk
    exact (task?_remove ..).trans (if_neg hk)

/-- A deletion after the step was one before, or a teardown that has just begun. -/
theorem deletion_before (hc : Change s s') {k : Nat} {u : HostTask}
    (hu : s'.hosting.task? k = some u) (he : u.errand = .deletion) :
    s.hosting.task? k = some u ∨
      ∃ t inFlight, s.hosting.task? k = some t ∧ t.errand = .teardown inFlight := by
  rcases Sound.task?_change hc hu with hu | ⟨t, ht, -, ⟨_, _, _, _, -, he'⟩ | ⟨⟨inFlight, ht'⟩, -⟩⟩
  · exact .inl hu
  · rw [he] at he'
    cases he'
  · exact .inr ⟨t, inFlight, ht, ht'⟩

theorem change (hs : s.Sound) (ha : s.Attended) (hc : Change s s') : s'.Attended := by
  refine ⟨waits_change hs ha hc, fun k u e hu he hstage => ?_⟩
  rcases operation_change hs hc with
    ⟨t, op, x, ht, hop, hkeeps, hhosting, -, hstages⟩ | ⟨-, hstages⟩
  · rw [hhosting] at hu
    rw [hstages] at hstage
    simp only at hstage
    split at hstage
    · next hk =>
      subst hk
      obtain rfl : t = u := Option.some.inj (ht.symm.trans hu)
      rw [he] at hop
      cases hop
      refine hkeeps.error rfl e ?_
      rcases hx : x.2 with (e' | v) | q
      · rw [hx] at hstage
        cases hstage
        rfl
      · rw [hx] at hstage
        cases hstage
      · rw [hx] at hstage
        cases hstage
    · exact ha.found k u e hu he hstage
  · rcases hstages k with hsame | hnone
    · rw [hsame] at hstage
      rcases deletion_before hc hu he with hold | ⟨t, inFlight, ht, het⟩
      · exact ha.found k u e hold he hstage
      · rw [hs.stage_idle ht (by rw [het]; rfl)] at hstage
        cases hstage
    · rw [hnone] at hstage
      cases hstage

end Attended

/-! ## Bundles -/

/-- A bundle of a runner whose deletion has come has a teardown that has not deleted it yet. -/
def Swept (s : HostRun lifecycle) (runner : RunnerId) : Prop :=
  s.Deleted runner → s.vms.host.bundles.entryAt (bundleName runner) ≠ none →
  s.DeleteFailed runner ∨ ∃ k t, s.hosting.task? k = some t ∧ t.runner = runner ∧
    t.errand.isTeardown ∧ ∀ v, s.stages k ≠ some (.returned (.ok v))

namespace Swept

/-- A teardown that has not deleted its bundle goes on, or ends with a failure, while no operation
takes a step. -/
theorem teardown_kept (hs : s.Sound) (ha : s.Attended) (hc : Change s s')
    (hstages : ∀ k, s'.stages k = s.stages k ∨ s'.stages k = none) {k : Nat} {t : HostTask}
    (ht : s.hosting.task? k = some t) (he : t.errand.isTeardown)
    (hstage : ∀ v, s.stages k ≠ some (.returned (.ok v))) :
    s'.DeleteFailed t.runner ∨ ∃ u, s'.hosting.task? k = some u ∧ u.runner = t.runner ∧
      u.errand.isTeardown ∧ ∀ v, s'.stages k ≠ some (.returned (.ok v)) := by
  have hstage' : ∀ v, s'.stages k ≠ some (.returned (.ok v)) := by
    intro v
    rcases hstages k with hsame | hnone
    · exact hsame ▸ hstage v
    · exact hnone ▸ nofun
  rcases task_change hs hc ht with
    ht' | hprov | ⟨inFlight, -, -, ht', -⟩ | ⟨het, result, hret, -, hmem⟩
  · exact .inr ⟨t, ht', rfl, he, hstage'⟩
  · rcases hte : t.errand with ⟨script, reg, point⟩ | inFlight | _ <;> rw [hte] at he hprov
    · cases he
    · cases hprov
    · cases hprov
  · exact .inr ⟨_, ht', rfl, rfl, hstage'⟩
  · cases result with
    | ok v => exact absurd hret (hstage v)
    | error e => exact .inl ⟨_, hmem, rfl, rfl, ha.found k t e ht het hret⟩

theorem change (hs : s.Sound) (ht : s.Tended runner) (ha : s.Attended) (hw : s.Swept runner)
    (hc : Change s s') : s'.Swept runner := by
  intro hd hentry
  have hd : s.Deleted runner := by
    unfold Deleted at hd ⊢
    rw [← commands_change hc]
    exact hd
  rcases operation_change hs hc with
    ⟨t, op, x, htask, hop, hkeeps, hhosting, hvms, hstages⟩ | ⟨hbundles, hstages⟩
  · have hother : ∀ k, k ≠ t.token → s'.stages k = s.stages k := by
      intro k hk
      rw [hstages]
      exact if_neg hk
    rw [hvms] at hentry
    by_cases hr : t.runner = runner
    · subst hr
      rcases he : t.errand with ⟨script, reg, point⟩ | inFlight | _
      · -- the teardown that is to cancel the provisioning has not begun
        obtain ⟨j, u, hu, hur, hue⟩ := ht.handedOver hd _ t htask rfl (by rw [he]; rfl)
        have hj : j ≠ t.token := by
          rintro rfl
          obtain rfl : t = u := Option.some.inj (htask.symm.trans hu)
          rw [he] at hue
          cases hue
        refine .inr ⟨j, u, hhosting ▸ hu, hur, by rw [hue]; rfl, fun v => ?_⟩
        rw [hother j hj, hs.stage_idle hu (by rw [hue]; rfl)]
        exact nofun
      · rw [he] at hop
        cases hop
      · rw [he] at hop
        cases hop
        refine .inr ⟨_, t, hhosting ▸ htask, rfl, by rw [he]; rfl, fun v hv => ?_⟩
        rw [hstages] at hv
        simp only [if_true] at hv
        refine hentry (hkeeps.ok rfl v ?_)
        rcases hx : x.2 with (e | v') | q
        · rw [hx] at hv
          cases hv
        · rw [hx] at hv
          cases hv
          rfl
        · rw [hx] at hv
          cases hv
    · have hne : bundleName runner ≠ bundleName t.runner :=
        fun h => hr (BundleRoot.bundleName_injective h).symm
      rw [hkeeps.agree _ hne] at hentry
      rcases hw hd hentry with hfail | ⟨k, u, hu, hur, hue, hstage⟩
      · exact .inl (hfail.change hc)
      · have hk : k ≠ t.token := by
          rintro rfl
          obtain rfl : t = u := Option.some.inj (htask.symm.trans hu)
          exact hr hur
        exact .inr ⟨k, u, hhosting ▸ hu, hur, hue, fun v => hother k hk ▸ hstage v⟩
  · rw [hbundles] at hentry
    rcases hw hd hentry with hfail | ⟨k, u, hu, rfl, hue, hstage⟩
    · exact .inl (hfail.change hc)
    · exact (teardown_kept hs ha hc hstages hu hue hstage).imp_right fun h => ⟨k, h⟩

end Swept

/-! ## Commands -/

theorem Attended.received (hs : s.Sound) (ha : s.Attended) (hr : Received s c s') :
    s'.Attended := by
  obtain ⟨hvms, hstages, -, -⟩ := received_same hr
  refine ⟨fun w hw => ?_, fun k t e ht he hstage => ?_⟩
  · obtain ⟨k, t, p, ht, hrun, hp, htoken⟩ := ha.waits w (hvms ▸ hw)
    exact ⟨k, t, p, received_tasks hs hr ht, hrun, hstages ▸ hp, htoken⟩
  · rw [hstages] at hstage
    obtain ⟨u, -, hu, -⟩ := hs.staged k _ hstage
    have ht' := received_tasks hs hr hu
    rw [ht] at ht'
    cases ht'
    exact ha.found k t e hu he hstage

theorem Swept.received (hs : s.Sound) (hw : s.Swept runner) (hr : Received s c s') :
    s'.Swept runner := by
  intro hd hentry
  obtain ⟨hvms, hstages, hreturns, -⟩ := received_same hr
  by_cases hold : s.Deleted runner
  · rcases hw hold (hvms ▸ hentry) with ⟨x, hx, h⟩ | ⟨k, t, ht, hrun, he, hstage⟩
    · exact .inl ⟨x, hreturns ▸ hx, h⟩
    · exact .inr ⟨k, t, received_tasks hs hr ht, hrun, he, hstages ▸ hstage⟩
  · cases hr with
    | idle c hc =>
      rcases hc with rfl | rfl
      · exact absurd (by simpa [Deleted] using hd) hold
      · exact absurd ((Tended.deleted_append (c := .noop) rfl rfl).1 hd) hold
    | known r name script requestId x hx =>
      exact absurd ((Tended.deleted_append (c := .createRunner r name script requestId) rfl
        rfl).1 hd) hold
    | created r name script requestId x hnew hid hstate =>
      exact absurd ((Tended.deleted_append (c := .createRunner r name script requestId) rfl
        rfl).1 hd) hold
    | deleting r requestId =>
      by_cases hrun : r = runner
      · -- the teardown that the command has begun
        refine .inr ⟨s.hosting.nextToken,
          ⟨s.hosting.nextToken, r, .teardown (s.hosting.provisions.get? r)⟩, ?_, hrun, rfl,
          fun v hv => ?_⟩
        · rw [hs.task?_deleting, if_pos rfl]
        · obtain ⟨u, -, hu, -⟩ := hs.staged _ _ hv
          exact hs.token_ne hu rfl
      · exact absurd ((Tended.deleted_append (c := .deleteRunner r requestId)
          (beq_eq_false_iff_ne.2 hrun) rfl).1 hd) hold

/-! ## Runs -/

theorem attended_begun (bundles : BundleRoot) : (begun bundles).Attended := by
  refine ⟨fun w hw => ?_, fun k t e ht => ?_⟩
  · cases hw
  · cases ht

theorem attended_after (bundles : BundleRoot) (es : List (HostEvent lifecycle)) :
    ((begun bundles).after es).Attended := by
  induction es using List.reverseRecOn with
  | nil => exact attended_begun bundles
  | append_singleton es e ih =>
    have hs : ((begun bundles).after es).Sound := (sound_start _).after es
    rw [after_append_singleton]
    cases e with
    | receive agent now reply => exact ih.received hs (receive_received _ agent now reply)
    | move m => exact ih.change hs (step_change _ m)

theorem swept_after (bundles : BundleRoot) (es : List (HostEvent lifecycle))
    (ho : Orderly runner ((begun bundles).after es).commands) :
    ((begun bundles).after es).Swept runner := by
  induction es using List.reverseRecOn with
  | nil =>
    rintro ⟨c, hc, -⟩
    cases hc
  | append_singleton es e ih =>
    have hs : ((begun bundles).after es).Sound := (sound_start _).after es
    rw [after_append_singleton] at ho ⊢
    have hbefore := ho.sublist (commands_onEvent _ e).sublist
    cases e with
    | receive agent now reply =>
      exact (ih hbefore).received hs (receive_received _ agent now reply)
    | move m =>
      exact (ih hbefore).change hs (tended_after _ es hbefore) (attended_after bundles es)
        (step_change _ m)

/-- Once a deletion of a runner has come, no task of it is left and no deletion of its VM failed,
the host has forgotten the runner: it has no record and no registry entry, and nothing was asked
for its VM after the last deletion. Over real VMs it has no bundle and no wait for an address
either. -/
theorem removed_leaves_nothing (runner : RunnerId) :
    (∀ (V : VmService) (vms : V.State) (es : List (HostEvent V)),
      ((start vms).after es).Removed runner → ((start vms).after es).Forgotten runner) ∧
    ∀ (bundles : BundleRoot) (es : List (HostEvent lifecycle)),
      ((begun bundles).after es).Removed runner →
      ((begun bundles).after es).vms.host.bundles.hasBundle runner = false ∧
      ∀ w ∈ ((begun bundles).after es).vms.host.arbiter.waits, w.runner ≠ runner := by
  refine ⟨fun V vms es hr => hr.forgotten (tended_after vms es hr.orderly),
    fun bundles es hr => ⟨?_, fun w hw heq => ?_⟩⟩
  · refine Bool.eq_false_iff.2 fun hbundle => ?_
    have hentry := BundleRoot.entryAt_of_hasBundle hbundle
    rcases swept_after bundles es hr.orderly hr.deleted hentry with hfail | ⟨k, t, ht, hrun, -⟩
    · exact hr.clean hfail
    · exact hr.idle t (task?_mem ht) hrun
  · obtain ⟨k, t, p, ht, hrun, -⟩ := (attended_after bundles es).waits w hw
    exact hr.idle t (task?_mem ht) (hrun.trans heq)

/-- A deletion comes while the VM is being cloned, and a second one while the first is carried
out. -/
def removalMidway : List (HostEvent lifecycle) :=
  let limits : VmLimits :=
    ⟨.ofSecs 60, .ofSecs 1, .ofSecs 60, .ofSecs 60, .ofSecs 1, .ofSecs 30, .ofSecs 1⟩
  let input (stimulus : Lifecycle.Stimulus) : Lifecycle.Input :=
    ⟨⟨limits, 0, ⟨0, 0⟩⟩, stimulus⟩
  let failure := input (.signalled (.replied (.error (.hypervisor "no such VM"))))
  [.receive "a1" 0 ⟨some (.createRunner "r1" "one" "" "q1")⟩,
    .move (.begin 0), .move (.ask 0 failure),
    .move (.work 0 (input (.touched (some (.directory .empty))))),
    .receive "a1" 0 ⟨some (.deleteRunner "r1" "q2")⟩,
    .move (.drop 0), .move (.begin 1), .move (.ask 1 failure),
    .receive "a1" 0 ⟨some (.deleteRunner "r1" "q3")⟩,
    .move (.begin 2), .move (.work 1 failure), .move (.goOn 1),
    .move (.ask 2 failure), .move (.goOn 2)]

theorem removalMidway_leaves_nothing :
    ((begun .missing).after removalMidway).Removed "r1" ∧
      ((begun .missing).after removalMidway).Forgotten "r1" ∧
      ((begun .missing).after removalMidway).vms.host.bundles.hasBundle "r1" = false ∧
      ∀ w ∈ ((begun .missing).after removalMidway).vms.host.arbiter.waits, w.runner ≠ "r1" := by
  have hr : ((begun .missing).after removalMidway).Removed "r1" := by
    refine ⟨?_, ⟨.deleteRunner "r1" "q2", ?_, ?_⟩, ?_, ?_⟩
    · unfold Orderly
      decide +kernel
    · decide +kernel
    · decide +kernel
    · decide +kernel
    · unfold DeleteFailed
      decide +kernel
  exact ⟨hr, (removed_leaves_nothing "r1").1 lifecycle _ removalMidway hr,
    (removed_leaves_nothing "r1").2 .missing removalMidway hr⟩

end HostRun

end RunnerFleet

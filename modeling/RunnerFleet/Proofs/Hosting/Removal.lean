import RunnerFleet.Proofs.Hosting.Sound
import Mathlib.Data.List.Induction

/-!
# What a removed runner leaves behind

Deletions may come before a provisioning has begun, at any of its steps, or twice. What carries the
argument is who holds a provisioning that has not ended (`Tended`): the registry, until the first
deletion comes, and from then on a teardown that does not begin before the provisioning is gone.
-/

namespace RunnerFleet

/-- Whether the command deletes this runner. -/
def Command.deletes (c : Command) (runner : RunnerId) : Bool :=
  match c with
  | .deleteRunner id _ => id == runner
  | _ => false

/-- Whether the errand tears a runner down. -/
def Errand.isTeardown : Errand → Bool
  | .teardown _ => true
  | .deletion => true
  | _ => false

namespace HostRun

open Hosting

variable {V : VmService} {s s' : HostRun V} {c : Option Command} {runner : RunnerId}

/-- The runner is created once at most, and deleted only after that. -/
def Orderly (runner : RunnerId) (commands : List Command) : Prop :=
  commands.Pairwise fun c d =>
    d.creates runner = true → c.creates runner = false ∧ c.deletes runner = false

/-- Some deletion of the runner has come. -/
def Deleted (s : HostRun V) (runner : RunnerId) : Prop := ∃ c ∈ s.commands, c.deletes runner = true

/-- Some deletion of the runner's VM has failed. -/
def DeleteFailed (s : HostRun V) (runner : RunnerId) : Prop :=
  ∃ x ∈ s.returns, x.runner = runner ∧ x.operation = .delete ∧ Teardown.Failed x.result

/-- What was asked for last for the runner. -/
def lastOperation (s : HostRun V) (runner : RunnerId) : Option VmOperation :=
  ((s.calls.filter (·.runner == runner)).getLast?).map (·.operation)

/-- A teardown of the runner is still to ask for the deletion of the VM. -/
def Pending (s : HostRun V) (runner : RunnerId) : Prop :=
  ∃ k t, s.hosting.task? k = some t ∧ t.runner = runner ∧
    ((∃ inFlight, t.errand = .teardown inFlight) ∨ t.errand = .deletion ∧ s.stages k = none)

theorem lastOperation_append {r : RunnerId} {op : VmOperation}
    (h : s'.calls = s.calls ++ [⟨r, op⟩]) :
    s'.lastOperation runner = if r = runner then some op else s.lastOperation runner := by
  unfold lastOperation
  rw [h, List.filter_append]
  by_cases hr : r = runner
  · simp [hr]
  · simp [hr]

theorem lastOperation_same (h : s'.calls = s.calls) :
    s'.lastOperation runner = s.lastOperation runner := by
  unfold lastOperation
  rw [h]

/-! ## What a step does to teardowns -/

theorem DeleteFailed.change (hc : Change s s') (hf : s.DeleteFailed runner) :
    s'.DeleteFailed runner := by
  obtain ⟨x, hx, h⟩ := hf
  exact ⟨x, (returns_change hc).subset hx, h⟩

/-- What becomes of a task: it is as it was, or the step was one of a provisioning, the first of a
teardown, which comes only after the task that it has cancelled is gone, or the last of one. -/
theorem task_change (hs : s.Sound) (hc : Change s s') {k : Nat} {u : HostTask}
    (hu : s.hosting.task? k = some u) :
    s'.hosting.task? k = some u ∨ u.errand.isProvision ∨
      (∃ inFlight, u.errand = .teardown inFlight ∧
        (∀ j, inFlight = some j → s.hosting.task? j = none) ∧
        s'.hosting.task? k = some { u with errand := .deletion } ∧ s'.stages k = none) ∨
      (u.errand = .deletion ∧ ∃ result, s.stages k = some (.returned result) ∧
        s'.hosting.roster = Teardown.conclude s.hosting.roster u.runner result ∧
        (⟨u.runner, .delete, result⟩ : VmReturn) ∈ s'.returns) := by
  have hown : ∀ {t : HostTask}, s.hosting.task? t.token = some t → k = t.token → t = u := by
    rintro t ht rfl
    exact Option.some.inj (ht.symm.trans hu)
  cases hc with
  | stays | asked | worked | happened | noted | noticed => exact .inl hu
  | entered t script reg p roster ht he =>
    by_cases hk : k = t.token
    · exact .inr (.inl (by rw [← hown ht hk, he]; rfl))
    · exact .inl (by rw [task?_setErrand, if_neg hk]; exact hu)
  | advanced t script reg p q result roster ht he =>
    by_cases hk : k = t.token
    · exact .inr (.inl (by rw [← hown ht hk, he]; rfl))
    · exact .inl (by simp only [setStage]; rw [task?_setErrand, if_neg hk]; exact hu)
  | refused t script reg ht he =>
    by_cases hk : k = t.token
    · exact .inr (.inl (by rw [← hown ht hk, he]; rfl))
    · exact .inl (by rw [task?_finish, if_neg hk]; exact hu)
  | ended t script reg p result roster ht he =>
    by_cases hk : k = t.token
    · exact .inr (.inl (by rw [← hown ht hk, he]; rfl))
    · exact .inl (by simp only [setStage]; rw [task?_finish, if_neg hk]; exact hu)
  | dropped t holder ht hmem hholder =>
    by_cases hk : k = t.token
    · have hprov := (hs.held _ holder _ (hs.tokens.task?_of_mem hmem) hholder).2.2 t ht
      exact .inr (.inl (hown ht hk ▸ hprov.2))
    · exact .inl (by simp only [setStage]; rw [task?_remove, if_neg hk]; exact hu)
  | undertaken t inFlight ht he hclear =>
    by_cases hk : k = t.token
    · obtain rfl := hown ht hk
      subst hk
      refine .inr (.inr (.inl ⟨inFlight, he, hclear, ?_, hs.stage_idle ht (by rw [he]; rfl)⟩))
      rw [task?_setErrand, if_pos rfl]
      exact congrArg (Option.map _) hu
    · exact .inl (by rw [task?_setErrand, if_neg hk]; exact hu)
  | concluded t result ht he hstage =>
    by_cases hk : k = t.token
    · obtain rfl := hown ht hk
      subst hk
      exact .inr (.inr (.inr ⟨he, result, hstage, finish_roster,
        List.mem_append_right _ (List.mem_singleton_self _)⟩))
    · exact .inl (by simp only [setStage]; rw [task?_finish, if_neg hk]; exact hu)

/-- A teardown stays as it is, or begins; then the task that it has cancelled is gone. -/
theorem teardown_change (hs : s.Sound) (hc : Change s s') {k : Nat} {u : HostTask}
    {inFlight : Option Nat} (hu : s.hosting.task? k = some u) (he : u.errand = .teardown inFlight) :
    s'.hosting.task? k = some u ∨
      (∀ j, inFlight = some j → s.hosting.task? j = none) ∧
        s'.hosting.task? k = some { u with errand := .deletion } ∧ s'.stages k = none := by
  rcases task_change hs hc hu with h | hprov | ⟨j, he', h⟩ | ⟨he', -⟩
  · exact .inl h
  · rw [he] at hprov
    cases hprov
  · rw [he] at he'
    cases he'
    exact .inr h
  · rw [he] at he'
    cases he'

/-- A teardown that waits for the deletion of its VM goes on waiting, or ends with what the deletion
returned. -/
theorem deletion_change (hs : s.Sound) (hc : Change s s') {k : Nat} {u : HostTask}
    (hu : s.hosting.task? k = some u) (he : u.errand = .deletion) :
    s'.hosting.task? k = some u ∨
      ∃ result, s.stages k = some (.returned result) ∧
        s'.hosting.roster = Teardown.conclude s.hosting.roster u.runner result ∧
        (⟨u.runner, .delete, result⟩ : VmReturn) ∈ s'.returns := by
  rcases task_change hs hc hu with h | hprov | ⟨j, he', -⟩ | ⟨-, h⟩
  · exact .inl h
  · rw [he] at hprov
    cases hprov
  · rw [he] at he'
    cases he'
  · exact .inr h

/-- A deletion that was not asked for yet stays so, or is asked for now. -/
theorem idle_change (hc : Change s s') {k : Nat} {u : HostTask}
    (hu : s.hosting.task? k = some u) (hidle : s.stages k = none) (he : u.errand = .deletion) :
    s'.stages k = none ∨ s'.calls = s.calls ++ [⟨u.runner, .delete⟩] := by
  cases hc with
  | asked t op i ht hop hstage =>
    by_cases hk : k = t.token
    · subst hk
      obtain rfl : t = u := Option.some.inj (ht.symm.trans hu)
      rw [he] at hop
      cases hop
      exact .inr rfl
    · exact .inl (by simp only [setStage]; rw [if_neg hk]; exact hidle)
  | worked t p i ht hstage =>
    have hk : k ≠ t.token := by
      rintro rfl
      rw [hidle] at hstage
      cases hstage
    exact .inl (by simp only [setStage]; rw [if_neg hk]; exact hidle)
  | advanced | ended | concluded | dropped =>
    exact .inl (by simp only [setStage]; split <;> trivial)
  | _ => exact .inl hidle

/-! ## Who holds a provisioning -/

/-- What holds of a runner that is created and deleted in order. -/
structure Tended (runner : RunnerId) (s : HostRun V) : Prop where
  unseen : (∀ c ∈ s.commands, c.creates runner = false ∧ c.deletes runner = false) →
    s.hosting.roster.runners.get? runner = none ∧ s.hosting.provisions.get? runner = none ∧
    ∀ k t, s.hosting.task? k = some t → t.runner ≠ runner
  /-- Before the first deletion, the registry holds the provisioning. -/
  kept : ¬ s.Deleted runner → ∀ k t, s.hosting.task? k = some t → t.runner = runner →
    t.errand.isProvision → s.hosting.provisions.get? runner = some k
  /-- From the first deletion on, a teardown holds it that has not begun. -/
  handedOver : s.Deleted runner → ∀ k t, s.hosting.task? k = some t → t.runner = runner →
    t.errand.isProvision →
    ∃ j u, s.hosting.task? j = some u ∧ u.runner = runner ∧ u.errand = .teardown (some k)
  unregistered : s.Deleted runner → s.hosting.provisions.get? runner = none
  /-- A record that is still there has a teardown to forget it. -/
  recorded : s.Deleted runner → s.hosting.roster.runners.get? runner ≠ none →
    s.DeleteFailed runner ∨
      ∃ k t, s.hosting.task? k = some t ∧ t.runner = runner ∧ t.errand.isTeardown
  last : s.Deleted runner → s.Pending runner ∨ s.lastOperation runner = some .delete

theorem tended_start (vms : V.State) : Tended runner (start vms) := by
  refine ⟨fun _ => ⟨rfl, rfl, ?_⟩, ?_, ?_, fun _ => rfl, ?_, ?_⟩
  · intro k t ht
    cases ht
  · intro _ k t ht
    cases ht
  all_goals
    rintro ⟨c, hc, -⟩
    cases hc

namespace Tended

/-- A step takes an entry off the registry only when the provisioning of the runner ends. -/
theorem registry_change (hs : s.Sound) (hc : Change s s') {k : Nat}
    (hk : s.hosting.provisions.get? runner = some k) :
    s'.hosting.provisions.get? runner = some k ∨ ∃ t, s.hosting.task? t.token = some t ∧
      t.runner = runner ∧ t.errand.isProvision ∧ s'.hosting.task? t.token = none := by
  cases hc with
  | refused t script reg ht he =>
    obtain rfl := hs.registered _ t script reg none ht he
    by_cases hr : t.runner = runner
    · refine .inr ⟨t, ht, hr, by rw [he]; rfl, ?_⟩
      rw [task?_finish, if_pos rfl]
    · refine .inl ?_
      rw [finish_provisions_of_provision he, Table.get?_erase, if_neg (Ne.symm hr)]
      exact hk
  | ended t script reg p result roster ht he =>
    obtain rfl := hs.registered _ t script reg _ ht he
    by_cases hr : t.runner = runner
    · refine .inr ⟨t, ht, hr, by rw [he]; rfl, ?_⟩
      simp only [setStage]
      rw [task?_finish, if_pos rfl]
    · refine .inl ?_
      simp only [setStage]
      rw [finish_provisions_of_provision he, Table.get?_erase, if_neg (Ne.symm hr)]
      exact hk
  | concluded t result ht he =>
    refine .inl ?_
    simp only [setStage]
    rw [finish_provisions_of_deletion he]
    exact hk
  | _ => exact .inl hk

theorem pending_change (hs : s.Sound) (hc : Change s s') (hp : s.Pending runner) :
    s'.Pending runner ∨ s'.lastOperation runner = some .delete := by
  obtain ⟨k, t, ht, rfl, ⟨inFlight, he⟩ | ⟨he, hidle⟩⟩ := hp
  · rcases teardown_change hs hc ht he with ht' | ⟨-, ht', hidle'⟩
    · exact .inl ⟨k, t, ht', rfl, .inl ⟨inFlight, he⟩⟩
    · exact .inl ⟨k, _, ht', rfl, .inr ⟨rfl, hidle'⟩⟩
  · rcases idle_change hc ht hidle he with hidle' | hcall
    · rcases deletion_change hs hc ht he with ht' | ⟨result, hret, -⟩
      · exact .inl ⟨k, t, ht', rfl, .inr ⟨he, hidle'⟩⟩
      · rw [hidle] at hret
        cases hret
    · exact .inr (by rw [lastOperation_append hcall, if_pos rfl])

theorem last_change (hs : s.Sound) (ht : s.Tended runner) (hc : Change s s')
    (hd : s.Deleted runner) : s'.Pending runner ∨ s'.lastOperation runner = some .delete := by
  rcases ht.last hd with hp | hlast
  · exact pending_change hs hc hp
  · rcases calls_change hc with hsame | ⟨t, op, htask, hop, hcall⟩
    · exact .inr (by rw [lastOperation_same hsame, hlast])
    · by_cases hr : t.runner = runner
      · rcases he : t.errand with ⟨script, reg, point⟩ | inFlight | _
        · -- the teardown that is to cancel the provisioning has not begun
          obtain ⟨j, u, hu, hur, hue⟩ := ht.handedOver hd _ t htask hr (by rw [he]; rfl)
          exact pending_change hs hc ⟨j, u, hu, hur, .inl ⟨_, hue⟩⟩
        · rw [he] at hop
          cases hop
        · rw [he] at hop
          cases hop
          exact .inr (by rw [lastOperation_append hcall, if_pos hr])
      · exact .inr (by rw [lastOperation_append hcall, if_neg hr, hlast])

theorem recorded_change (hs : s.Sound) (ht : s.Tended runner) (hc : Change s s')
    (hd : s.Deleted runner) (hrec : s'.hosting.roster.runners.get? runner ≠ none) :
    s'.DeleteFailed runner ∨
      ∃ k t, s'.hosting.task? k = some t ∧ t.runner = runner ∧ t.errand.isTeardown := by
  have hold : s.hosting.roster.runners.get? runner ≠ none := by
    obtain ⟨x', hx'⟩ := Option.ne_none_iff_exists'.1 hrec
    obtain ⟨x, hx, -⟩ := Sound.record_change hc hx'
    rw [hx]
    exact Option.some_ne_none x
  rcases ht.recorded hd hold with hfail | ⟨k, t, htask, rfl, hteardown⟩
  · exact .inl (hfail.change hc)
  · rcases he : t.errand with ⟨script, reg, point⟩ | inFlight | _
    · rw [he] at hteardown
      cases hteardown
    · rcases teardown_change hs hc htask he with ht' | ⟨-, ht', -⟩
      · exact .inr ⟨k, t, ht', rfl, hteardown⟩
      · exact .inr ⟨k, _, ht', rfl, rfl⟩
    · rcases deletion_change hs hc htask he with ht' | ⟨result, -, hroster, hret⟩
      · exact .inr ⟨k, t, ht', rfl, hteardown⟩
      · by_cases hfail : Teardown.Failed result
        · exact .inl ⟨_, hret, rfl, rfl, hfail⟩
        · rw [hroster, Teardown.get?_conclude_of_not_failed hfail, if_pos rfl] at hrec
          exact absurd rfl hrec

theorem change (hs : s.Sound) (ht : s.Tended runner) (hc : Change s s') : s'.Tended runner := by
  have hcommands := commands_change hc
  have hdeleted : s'.Deleted runner ↔ s.Deleted runner := by
    unfold Deleted
    rw [hcommands]
  refine ⟨fun hun => ?_, fun hd => ?_, fun hd => ?_, fun hd => ?_, fun hd => ?_, fun hd => ?_⟩
  · obtain ⟨hrec, hreg, htask⟩ := ht.unseen (hcommands ▸ hun)
    refine ⟨?_, ?_, ?_⟩
    · refine Option.eq_none_iff_forall_ne_some.2 fun x' hx' => ?_
      obtain ⟨x, hx, -⟩ := Sound.record_change hc hx'
      rw [hrec] at hx
      cases hx
    · refine Option.eq_none_iff_forall_ne_some.2 fun k hk => ?_
      rw [Sound.provisions_change hc hk] at hreg
      cases hreg
    · intro k u hu
      obtain ⟨t, ht, hr⟩ := runner_before hc hu
      exact hr ▸ htask k t ht
  · intro k u hu hr hprov
    obtain ⟨t, ht', hr', hprov'⟩ := provision_before hc hu hprov
    have hk := ht.kept (mt hdeleted.2 hd) k t ht' (hr'.symm.trans hr) hprov'
    rcases registry_change hs hc hk with hk' | ⟨v, hv, hvr, hvp, hgone⟩
    · exact hk'
    · -- the provisioning that ended would be the one in the registry
      have hv' := ht.kept (mt hdeleted.2 hd) _ v hv hvr hvp
      rw [hk] at hv'
      cases hv'
      rw [hgone] at hu
      cases hu
  · intro k u hu hr hprov
    obtain ⟨t, ht', hr', hprov'⟩ := provision_before hc hu hprov
    obtain ⟨j, v, hv, hvr, hve⟩ := ht.handedOver (hdeleted.1 hd) k t ht' (hr'.symm.trans hr) hprov'
    rcases teardown_change hs hc hv hve with hv' | ⟨hclear, -⟩
    · exact ⟨j, v, hv', hvr, hve⟩
    · rw [hclear k rfl] at ht'
      cases ht'
  · refine Option.eq_none_iff_forall_ne_some.2 fun k hk => ?_
    have hold := Sound.provisions_change hc hk
    rw [ht.unregistered (hdeleted.1 hd)] at hold
    cases hold
  · exact recorded_change hs ht hc (hdeleted.1 hd)
  · exact last_change hs ht hc (hdeleted.1 hd)

/-! ### Commands -/

/-- A command that creates the runner comes before any other about it. -/
theorem unseen_of_orderly {commands : List Command} {c : Command}
    (ho : Orderly runner (commands ++ [c])) (hc : c.creates runner = true) :
    ∀ d ∈ commands, d.creates runner = false ∧ d.deletes runner = false := by
  intro d hd
  exact (List.pairwise_append.1 ho).2.2 d hd c (List.mem_singleton_self c) hc

/-- After a command that is not about the runner, its tasks, its record and its registry entry are
what they were. -/
theorem of_same (ht : s.Tended runner) (hreturns : s'.returns = s.returns)
    (hcalls : s'.calls = s.calls) (hstages : s'.stages = s.stages)
    (hcommands : ∀ c ∈ s.commands, c ∈ s'.commands)
    (hdeleted : s'.Deleted runner ↔ s.Deleted runner)
    (hrecord : s'.hosting.roster.runners.get? runner = s.hosting.roster.runners.get? runner)
    (hregistry : s'.hosting.provisions.get? runner = s.hosting.provisions.get? runner)
    (htasks : ∀ k t, t.runner = runner →
      (s'.hosting.task? k = some t ↔ s.hosting.task? k = some t)) : s'.Tended runner := by
  refine ⟨fun hun => ?_, fun hd => ?_, fun hd => ?_, fun hd => ?_, fun hd => ?_, fun hd => ?_⟩
  · obtain ⟨hrec, hreg, htask⟩ := ht.unseen fun c hc => hun c (hcommands c hc)
    refine ⟨hrecord.trans hrec, hregistry.trans hreg, fun k t hk hr => ?_⟩
    exact htask k t ((htasks k t hr).1 hk) hr
  · intro k t hk hr hprov
    exact hregistry.trans (ht.kept (mt hdeleted.2 hd) k t ((htasks k t hr).1 hk) hr hprov)
  · intro k t hk hr hprov
    obtain ⟨j, u, hu, hur, hue⟩ :=
      ht.handedOver (hdeleted.1 hd) k t ((htasks k t hr).1 hk) hr hprov
    exact ⟨j, u, (htasks j u hur).2 hu, hur, hue⟩
  · exact hregistry.trans (ht.unregistered (hdeleted.1 hd))
  · intro hrec
    rcases ht.recorded (hdeleted.1 hd) (hrecord ▸ hrec) with ⟨x, hx, h⟩ | ⟨k, t, hk, hr, he⟩
    · exact .inl ⟨x, hreturns ▸ hx, h⟩
    · exact .inr ⟨k, t, (htasks k t hr).2 hk, hr, he⟩
  · rw [lastOperation_same hcalls]
    refine (ht.last (hdeleted.1 hd)).imp_left fun ⟨k, t, hk, hr, he⟩ => ?_
    exact ⟨k, t, (htasks k t hr).2 hk, hr, hstages ▸ he⟩

theorem deleted_append {c : Command} (hc : c.deletes runner = false)
    (h : s'.commands = s.commands ++ [c]) : s'.Deleted runner ↔ s.Deleted runner := by
  unfold Deleted
  rw [h]
  constructor
  · rintro ⟨d, hd, hdel⟩
    rcases List.mem_append.1 hd with hd | hd
    · exact ⟨d, hd, hdel⟩
    · rw [List.mem_singleton.1 hd, hc] at hdel
      cases hdel
  · rintro ⟨d, hd, hdel⟩
    exact ⟨d, List.mem_append_left _ hd, hdel⟩

/-- The first creation of a runner puts its provisioning into the registry. -/
theorem received_create (hs : s.Sound) (ht : s.Tended runner) (name script requestId : String)
    {x : Runner}
    (ho : Orderly runner (s.commands ++ [.createRunner runner name script requestId])) :
    Tended runner ({ s with
      hosting := { (({ s.hosting with
          roster := ⟨s.hosting.roster.runners.insert runner x, true⟩ } : Hosting).spawn runner
            (.provision script true none)).1 with
        provisions := s.hosting.provisions.insert runner s.hosting.nextToken }
      commands := s.commands ++ [.createRunner runner name script requestId] } : HostRun V) := by
  have hcreates : (Command.createRunner runner name script requestId).creates runner = true :=
    beq_self_eq_true runner
  have hunseen := unseen_of_orderly ho hcreates
  obtain ⟨-, -, htask⟩ := ht.unseen hunseen
  have hnotDeleted : ¬ s.Deleted runner := by
    rintro ⟨d, hd, hdel⟩
    rw [(hunseen d hd).2] at hdel
    cases hdel
  have hnotDeleted' : ¬ ({ s with
      commands := s.commands ++ [.createRunner runner name script requestId] } :
        HostRun V).Deleted runner :=
    mt (deleted_append (c := .createRunner runner name script requestId) rfl rfl).1 hnotDeleted
  refine ⟨fun hun => ?_, fun _ => ?_, fun hd => absurd hd hnotDeleted',
    fun hd => absurd hd hnotDeleted', fun hd => absurd hd hnotDeleted',
    fun hd => absurd hd hnotDeleted'⟩
  · have := (hun _ (List.mem_append_right _ (List.mem_singleton_self _))).1
    rw [hcreates] at this
    cases this
  · intro k t hk hr hprov
    rw [hs.task?_created] at hk
    split at hk
    · next hk' =>
      subst hk'
      simp
    · exact absurd hr (htask k t hk)

/-- A deletion takes the runner's provisioning over from the registry. -/
theorem received_delete (hs : s.Sound) (ht : s.Tended runner) (requestId : String) :
    Tended runner ({ s with
      hosting := (({ s.hosting with
          provisions := s.hosting.provisions.erase runner } : Hosting).spawn runner
            (.teardown (s.hosting.provisions.get? runner))).1
      commands := s.commands ++ [.deleteRunner runner requestId] } : HostRun V) := by
  have hdeletes : (Command.deleteRunner runner requestId).deletes runner = true :=
    beq_self_eq_true runner
  have hmem : Command.deleteRunner runner requestId ∈
      s.commands ++ [Command.deleteRunner runner requestId] :=
    List.mem_append_right _ (List.mem_singleton_self _)
  have hnew : (({ s.hosting with
      provisions := s.hosting.provisions.erase runner } : Hosting).spawn runner
        (.teardown (s.hosting.provisions.get? runner))).1.task? s.hosting.nextToken =
      some ⟨s.hosting.nextToken, runner, .teardown (s.hosting.provisions.get? runner)⟩ := by
    rw [hs.task?_deleting, if_pos rfl]
  refine ⟨fun hun => ?_, fun hd => absurd ⟨_, hmem, hdeletes⟩ hd, fun _ => ?_, fun _ => ?_,
    fun _ _ => .inr ⟨_, _, hnew, rfl, rfl⟩, fun _ => .inl ⟨_, _, hnew, rfl, .inl ⟨_, rfl⟩⟩⟩
  · have := (hun _ hmem).2
    rw [hdeletes] at this
    cases this
  · intro k t hk hr hprov
    rw [hs.task?_deleting] at hk
    split at hk
    · cases hk
      cases hprov
    · by_cases hd : s.Deleted runner
      · obtain ⟨j, u, hu, hur, hue⟩ := ht.handedOver hd k t hk hr hprov
        refine ⟨j, u, ?_, hur, hue⟩
        rw [hs.task?_deleting, if_neg (hs.token_ne hu)]
        exact hu
      · refine ⟨_, _, hnew, rfl, ?_⟩
        rw [ht.kept hd k t hk hr hprov]
  · simp [Hosting.spawn]

/-- A task that has just been spawned is the only one under the next token. -/
theorem spawned_other {k : Nat} {r : RunnerId} {e : Errand} (hs : s.Sound) (hr : r ≠ runner)
    {t : HostTask} (ht : t.runner = runner) :
    (if k = s.hosting.nextToken then some ⟨s.hosting.nextToken, r, e⟩ else s.hosting.task? k) =
      some t ↔ s.hosting.task? k = some t := by
  split
  · next hk =>
    subst hk
    rw [hs.tokens.task?_nextToken]
    refine ⟨fun h => ?_, fun h => by cases h⟩
    cases h
    exact absurd ht hr
  · exact .rfl

theorem received (hs : s.Sound) (ht : s.Tended runner) (hr : Received s c s')
    (ho : Orderly runner s'.commands) : s'.Tended runner := by
  cases hr with
  | idle c hc =>
    rcases hc with rfl | rfl
    · exact ht.of_same rfl rfl rfl (fun d hd => by simpa using hd) (by simp [Deleted]) rfl rfl
        fun _ _ _ => .rfl
    · exact ht.of_same rfl rfl rfl (fun d hd => List.mem_append_left _ hd)
        (deleted_append (c := .noop) rfl rfl) rfl rfl fun _ _ _ => .rfl
  | known r name script requestId x hx =>
    exact ht.of_same rfl rfl rfl (fun d hd => List.mem_append_left _ hd)
      (deleted_append (c := .createRunner r name script requestId) rfl rfl) rfl rfl
      fun _ _ _ => .rfl
  | created r name script requestId x hnew hid hstate =>
    by_cases hrun : r = runner
    · subst hrun
      exact ht.received_create hs name script requestId ho
    · refine ht.of_same rfl rfl rfl (fun d hd => List.mem_append_left _ hd)
        (deleted_append (c := .createRunner r name script requestId) rfl rfl) ?_ ?_ ?_
      · simp [Hosting.spawn, Ne.symm hrun]
      · simp [Ne.symm hrun]
      · intro k t hr
        rw [hs.task?_created]
        exact spawned_other hs hrun hr
  | deleting r requestId =>
    by_cases hrun : r = runner
    · subst hrun
      exact ht.received_delete hs requestId
    · have hdeletes : (Command.deleteRunner r requestId).deletes runner = false :=
        beq_eq_false_iff_ne.2 hrun
      refine ht.of_same rfl rfl rfl (fun d hd => List.mem_append_left _ hd)
        (deleted_append hdeletes rfl) rfl ?_ ?_
      · simp [Hosting.spawn, Ne.symm hrun]
      · intro k t hr
        rw [hs.task?_deleting]
        exact spawned_other hs hrun hr

end Tended

/-- As long as its commands come in order, a runner stays tended. -/
theorem tended_after (vms : V.State) (es : List (HostEvent V))
    (ho : Orderly runner ((start vms).after es).commands) :
    ((start vms).after es).Tended runner := by
  induction es using List.reverseRecOn with
  | nil => exact tended_start vms
  | append_singleton es e ih =>
    rw [after_append_singleton] at ho ⊢
    have hs : ((start vms).after es).Sound := (sound_start vms).after es
    have ht := ih (ho.sublist (commands_onEvent _ e).sublist)
    cases e with
    | receive agent now reply => exact ht.received hs (receive_received _ agent now reply) ho
    | move m => exact ht.change hs (step_change _ m)

end HostRun

end RunnerFleet

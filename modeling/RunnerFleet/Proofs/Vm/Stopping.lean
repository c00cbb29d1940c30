import RunnerFleet.Proofs.Vm.Courses

/-!
# How a stop ends

Which calls a stop makes is settled by the answers to those before: `Stop.Reaches` lists the ways to
each point. The graceful deadline is looked at before a poll only, so a poll that is under way at
the deadline still counts, and its answer is the last word before the force. From the last call of a
stop, answered or not (`Stop.Last`), all else is read off (`Stop.stops_as_answered`).
-/

namespace RunnerFleet

namespace Stop

open VmCourse (State)

section Phases

variable (v : VmCourse)

/-- A state call that was answered with a state other than stopped. -/
def Unstopped (c : Call) : Prop :=
  c.request = .powerState v.runner ∧ ∃ s, c.Says (.ok (.power s)) ∧ s ≠ .stopped

/-- The guest agreed to shut down at this moment, and no state call since has found it off. -/
inductive Agreed (accepted : Nat) : List Call → Prop where
  | intro {first : Call} {polls : List Call} (asked : Nat) (hfirst : Unstopped v first)
      (hpolls : ∀ c ∈ polls, Unstopped v c ∧ c.begun < accepted + v.limits.gracefulStop.ticks) :
      Agreed accepted
        (first :: ⟨asked, .requestStop v.runner, some (accepted, .ok (.accepted true))⟩ :: polls)

/-- Where a stop is at a moment after these calls. -/
inductive Reaches : List Call → Nat → Point → Prop where
  | asking {now : Nat} : Reaches [] now .asking
  | requesting {first : Call} {now : Nat} (hfirst : Unstopped v first) :
      Reaches [first] now .requesting
  | polling {calls : List Call} {accepted now : Nat} (h : Agreed v accepted calls)
      (hearly : now < accepted + v.limits.gracefulStop.ticks) :
      Reaches calls now (.polling (accepted + v.limits.gracefulStop.ticks))
  | pausing {calls : List Call} {accepted now : Nat} (h : Agreed v accepted calls) :
      Reaches calls now (.pausing (accepted + v.limits.gracefulStop.ticks)
        (now + v.limits.stopPoll.ticks))
  | refused {first request : Call} {now : Nat} (hfirst : Unstopped v first)
      (hrequest : request.request = .requestStop v.runner)
      (hrefused : request.Says (.ok (.accepted false)) ∨ ∃ error, request.Says (.error error)) :
      Reaches [first, request] now .forcing
  | late {calls : List Call} {accepted now : Nat} (h : Agreed v accepted calls)
      (hlate : accepted + v.limits.gracefulStop.ticks ≤ now) : Reaches calls now .forcing

/-- The answer that ends a stop. -/
inductive Closes (x : State) (c : Call) : Prop where
  | stopped (hanswer : c.request = .powerState v.runner ∧ c.Says (.ok (.power .stopped)) ∨
        c.request = .forceStop v.runner ∧ c.Says (.ok .done))
      (hturn : x.turn = .finished (.ok .done))
      (hmarked : ∃ (host : VmHost) (calendar : Timestamp),
        x.host = host.mark v.runner calendar .stopped) : Closes x c
  | failed {error : VmError} (hasked : c.request ≠ .requestStop v.runner)
      (hanswer : c.Says (.error error)) (hturn : x.turn = .finished (.error error)) : Closes x c

/-- A stop stands at a point that its calls lead to, or has been closed by the last of them. -/
inductive Standing (x : State) : Prop where
  | waits {calls : List Call} {p : Point} (hcalls : x.returned = calls)
      (h : Reaches v calls x.now p) (hturn : x.turn = .waits (.stopping p)) : Standing x
  | ended {calls : List Call} {c : Call} {p : Point} (hcalls : x.returned = calls ++ [c])
      (h : Reaches v calls c.begun p) (hasked : (p.waiting v.runner).request? = some c.request)
      (hcloses : Closes v x c) : Standing x

/-- How many steps are left at most: two for each moment before the deadline, and those around. -/
def left (x : State) : Nat :=
  match x.turn with
  | .waits (.stopping .asking) => 2 * v.limits.gracefulStop.ticks + 5
  | .waits (.stopping .requesting) => 2 * v.limits.gracefulStop.ticks + 4
  | .waits (.stopping (.polling deadline)) => 2 * (deadline - x.now) + 3
  | .waits (.stopping (.pausing deadline _)) => 2 * (deadline - x.now) + 2
  | .waits _ => 1
  | .finished _ => 0

end Phases

variable {v : VmCourse} {x y : State} {calls : List Call} {accepted now : Nat}

/-! ## Steps -/

theorem Agreed.append {c : Call} (h : Agreed v accepted calls) (hc : Unstopped v c)
    (hearly : c.begun < accepted + v.limits.gracefulStop.ticks) :
    Agreed v accepted (calls ++ [c]) := by
  cases h with
  | @intro first polls asked hfirst hpolls =>
    have happend : ∀ c' ∈ polls ++ [c],
        Unstopped v c' ∧ c'.begun < accepted + v.limits.gracefulStop.ticks := by
      intro c' hc'
      rcases List.mem_append.1 hc' with hc' | hc'
      · exact hpolls c' hc'
      · rw [List.mem_singleton.1 hc']
        exact ⟨hc, hearly⟩
    exact .intro asked hfirst happend

/-- The step that follows the answer to a call. -/
theorem exists_reply {p : Point} {q : Request} (hturn : x.turn = .waits (.stopping p))
    (hwaiting : p.waiting v.runner = .reply q) (hnext : v.next x = some y) :
    ∃ (r : Except VmError Reply) (host : VmHost), x.now ≤ y.now ∧
      (∀ reply, r = .ok reply → q.Takes reply) ∧
      y.returned = x.returned ++ [⟨x.now, q, some (y.now, r)⟩] ∧
      let step := resume (v.context y.now) v.runner host p (.replied r)
      y.host = step.1 ∧ y.turn = step.2.map .stopping fun _ => .done := by
  obtain ⟨_, signal, hending, rfl, hpast, hhost, hturny⟩ := VmCourse.exists_of_next hturn hnext
  have hpoint : (VmPoint.stopping p).waiting v.runner = .reply q := hwaiting
  rw [hpoint] at hending hpast
  obtain ⟨hsince, r, rfl, hfits⟩ := VmCourse.ending_reply hending
  exact ⟨r, _, hsince, hfits, VmCourse.returned_of_past hpast, hhost, hturny⟩

theorem poll_early {c : VmContext} {host : VmHost} {deadline : Nat} (h : c.now < deadline) :
    poll c host deadline = (host, .waits (.polling deadline)) := if_pos h

theorem poll_late {c : VmContext} {host : VmHost} {deadline : Nat} (h : deadline ≤ c.now) :
    poll c host deadline = (host, .waits .forcing) := if_neg (Nat.not_lt.2 h)

theorem turn_of_resumed (c : VmContext) (runner : RunnerId) (host : VmHost)
    (deadline until_ : Nat) :
    (VmOperation.resume c runner host (.stopping (.pausing deadline until_)) .resumed).2 =
      (poll c host deadline).2.map .stopping fun _ => .done := rfl

theorem left_of_finished {result : Except VmError VmValue} (h : y.turn = .finished result) :
    left v y = 0 := by
  simp only [left, h]

theorem Standing.closed {p : Point} {c : Call} (h : Reaches v calls c.begun p)
    (hasked : (p.waiting v.runner).request? = some c.request)
    (hreturned : y.returned = calls ++ [c]) (hcloses : Closes v y c) :
    Standing v y ∧ left v y = 0 := by
  refine ⟨.ended hreturned h hasked hcloses, ?_⟩
  cases hcloses with
  | stopped _ hturn | failed _ _ hturn => exact left_of_finished hturn

/-- A state call closes the stop, unless it is answered with another state than stopped. -/
theorem next_of_stateCall {p : Point} (hp : p = .asking ∨ ∃ deadline, p = .polling deadline)
    (hturn : x.turn = .waits (.stopping p)) (h : Reaches v x.returned x.now p)
    (hnext : v.next x = some y) : (Standing v y ∧ left v y = 0) ∨
      ∃ c host s, Unstopped v c ∧ c.begun = x.now ∧ x.now ≤ y.now ∧
        y.returned = x.returned ++ [c] ∧ s ≠ .stopped ∧
        y.turn = (resume (v.context y.now) v.runner host p (.replied (.ok (.power s)))).2.map
          .stopping fun _ => .done := by
  have hwaiting : p.waiting v.runner = .reply (.powerState v.runner) := by
    rcases hp with rfl | ⟨deadline, rfl⟩ <;> rfl
  have hasked : (p.waiting v.runner).request? = some (.powerState v.runner) := by
    rw [hwaiting]
    rfl
  obtain ⟨r, host, hsince, hfits, hreturned, hhost, hturny⟩ := exists_reply hturn hwaiting hnext
  cases r with
  | error error =>
    refine .inl (Standing.closed h hasked hreturned (.failed nofun ⟨_, rfl⟩ ?_))
    rcases hp with rfl | ⟨deadline, rfl⟩ <;> exact hturny
  | ok reply =>
    cases hfits reply rfl with
    | powerState _ s =>
      by_cases hs : s = .stopped
      · subst hs
        refine .inl (Standing.closed h hasked hreturned
          (.stopped (.inl ⟨rfl, _, rfl⟩) ?_ ⟨host, v.calendar y.now, ?_⟩))
        · rcases hp with rfl | ⟨deadline, rfl⟩ <;> exact hturny
        · rcases hp with rfl | ⟨deadline, rfl⟩ <;> exact hhost
      · exact .inr ⟨_, host, s, ⟨rfl, s, ⟨_, rfl⟩, hs⟩, rfl, hsince, hreturned, hs, hturny⟩

/-- The answer to a force closes the stop. -/
theorem next_of_forcing (hturn : x.turn = .waits (.stopping .forcing))
    (h : Reaches v x.returned x.now .forcing) (hnext : v.next x = some y) :
    Standing v y ∧ left v y < left v x := by
  have hleft : left v x = 1 := by simp only [left, hturn]
  obtain ⟨r, host, -, hfits, hreturned, hhost, hturny⟩ := exists_reply hturn rfl hnext
  cases r with
  | error error =>
    obtain ⟨hy, hlefty⟩ := Standing.closed h rfl hreturned (.failed nofun ⟨_, rfl⟩ hturny)
    exact ⟨hy, by omega⟩
  | ok reply =>
    cases hfits reply rfl
    obtain ⟨hy, hlefty⟩ := Standing.closed h rfl hreturned
      (.stopped (.inr ⟨rfl, _, rfl⟩) hturny ⟨host, _, hhost⟩)
    exact ⟨hy, by omega⟩

/-- What is decided before a poll: another one before the deadline, and the force from it on. -/
theorem Agreed.next (h : Agreed v accepted calls) (hcalls : y.returned = calls)
    {host : VmHost} {deadline : Nat} (hdeadline : deadline = accepted + v.limits.gracefulStop.ticks)
    (hturn : y.turn = (poll (v.context y.now) host deadline).2.map .stopping fun _ => .done) :
    Standing v y ∧ left v y ≤ 2 * (deadline - y.now) + 3 ∧ (left v y = 1 ∨ y.now < deadline) := by
  by_cases hearly : (v.context y.now).now < deadline
  · rw [poll_early hearly] at hturn
    have hleft : left v y = 2 * (deadline - y.now) + 3 := by simp only [left, hturn, Turn.map]
    refine ⟨?_, Nat.le_of_eq hleft, .inr hearly⟩
    rw [hdeadline] at hturn hearly
    exact .waits hcalls (.polling h hearly) hturn
  · have hlate := Nat.le_of_not_lt hearly
    rw [poll_late hlate] at hturn
    have hleft : left v y = 1 := by simp only [left, hturn, Turn.map]
    exact ⟨.waits hcalls (.late h (hdeadline ▸ hlate)) hturn, by omega, .inl hleft⟩

/-- A graceful stop that is agreed to leads to the polls, and one that is not to the force. -/
theorem next_of_requesting {first : Call} (hturn : x.turn = .waits (.stopping .requesting))
    (hfirst : Unstopped v first) (hcalls : x.returned = [first]) (hnext : v.next x = some y) :
    Standing v y ∧ left v y < left v x := by
  have hleft : left v x = 2 * v.limits.gracefulStop.ticks + 4 := by simp only [left, hturn]
  obtain ⟨r, host, -, hfits, hreturned, -, hturny⟩ := exists_reply hturn rfl hnext
  rw [hcalls] at hreturned
  have hrefused : (r = .ok (.accepted false) ∨ ∃ error, r = .error error) →
      y.turn = .waits (.stopping .forcing) → Standing v y ∧ left v y < left v x := by
    intro hr hturny
    have hlefty : left v y = 1 := by simp only [left, hturny]
    have hreaches : Reaches v
        ([first] ++ [⟨x.now, .requestStop v.runner, some (y.now, r)⟩]) y.now .forcing := by
      refine .refused hfirst rfl ?_
      rcases hr with rfl | ⟨error, rfl⟩
      · exact .inl ⟨_, rfl⟩
      · exact .inr ⟨error, _, rfl⟩
    exact ⟨.waits hreturned hreaches hturny, by omega⟩
  cases r with
  | error error => exact hrefused (.inr ⟨error, rfl⟩) hturny
  | ok reply =>
    cases hfits reply rfl with
    | requestStop _ yes =>
      cases yes with
      | false => exact hrefused (.inl rfl) hturny
      | true =>
        have hpolls : ∀ c ∈ ([] : List Call), Unstopped v c ∧
            c.begun < y.now + v.limits.gracefulStop.ticks := by
          intro c hc
          cases hc
        have hagreed : Agreed v y.now _ := .intro x.now hfirst hpolls
        simp only [resume] at hturny
        obtain ⟨hy, hle, -⟩ := hagreed.next hreturned rfl hturny
        exact ⟨hy, by omega⟩

theorem Standing.next (hpoll : 0 < v.limits.stopPoll.ticks) (hx : Standing v x)
    (hnext : v.next x = some y) : Standing v y ∧ left v y < left v x := by
  cases hx with
  | ended _ _ _ hcloses =>
    have hlast : v.next x = none := by
      cases hcloses with
      | stopped _ hturn | failed _ _ hturn => rw [VmCourse.next, hturn]
    cases hlast.symm.trans hnext
  | @waits calls p hcalls h hturn =>
    cases h with
    | asking =>
      have hleft : left v x = 2 * v.limits.gracefulStop.ticks + 5 := by simp only [left, hturn]
      obtain ⟨hy, hlefty⟩ | ⟨c, host, s, hc, -, -, hreturned, hs, hturny⟩ :=
        next_of_stateCall (.inl rfl) hturn (hcalls ▸ .asking) hnext
      · exact ⟨hy, by omega⟩
      · rw [hcalls] at hreturned
        simp only [resume, if_neg hs] at hturny
        have hlefty : left v y = 2 * v.limits.gracefulStop.ticks + 4 := by
          simp only [left, hturny, Turn.map]
        exact ⟨.waits hreturned (.requesting hc) hturny, by omega⟩
    | requesting hfirst => exact next_of_requesting hturn hfirst hcalls hnext
    | @polling _ accepted _ h hearly =>
      have hleft : left v x = 2 * (accepted + v.limits.gracefulStop.ticks - x.now) + 3 := by
        simp only [left, hturn]
      obtain ⟨hy, hlefty⟩ | ⟨c, host, s, hc, hbegun, hsince, hreturned, hs, hturny⟩ :=
        next_of_stateCall (.inr ⟨_, rfl⟩) hturn (hcalls ▸ .polling h hearly) hnext
      · exact ⟨hy, by omega⟩
      · rw [hcalls] at hreturned
        simp only [resume, if_neg hs] at hturny
        have hlefty : left v y = 2 * (accepted + v.limits.gracefulStop.ticks - y.now) + 2 := by
          simp only [left, hturny, Turn.map]
        exact ⟨.waits hreturned (.pausing (h.append hc (hbegun ▸ hearly))) hturny, by omega⟩
    | @pausing _ accepted _ h =>
      have hleft : left v x = 2 * (accepted + v.limits.gracefulStop.ticks - x.now) + 2 := by
        simp only [left, hturn]
      obtain ⟨ended, signal, hending, hnow, hpast, -, hturny⟩ :=
        VmCourse.exists_of_next hturn hnext
      cases (VmCourse.ending_pause (Nat.le_add_right _ _)).symm.trans hending
      have hreturned : y.returned = calls := by
        rw [VmCourse.returned_of_past hpast, hcalls]
        exact List.append_nil _
      rw [← hnow, turn_of_resumed] at hturny
      obtain ⟨hstanding, hle, hlefty⟩ := h.next hreturned rfl hturny
      exact ⟨hstanding, by omega⟩
    | refused hfirst hrequest hrefused =>
      exact next_of_forcing hturn (hcalls ▸ .refused hfirst hrequest hrefused) hnext
    | late h hlate => exact next_of_forcing hturn (hcalls ▸ .late h hlate) hnext

/-! ## The calls of a stop -/

variable (v) in
/-- A stop that goes no further has made its last call: that is not answered, or closes it. -/
structure Last (e : State) (calls : List Call) (c : Call) (p : Point) : Prop where
  reaches : Reaches v calls c.begun p
  asked : (p.waiting v.runner).request? = some c.request
  leaves : c.answer = none ∧ (∀ result, e.turn ≠ .finished result) ∨ Closes v e c

theorem Standing.last (hx : Standing v x) (hlast : v.next x = none) :
    ∃ calls c p, v.calls x = calls ++ [c] ∧ Last v x calls c p := by
  cases hx with
  | @ended calls c p hcalls h hasked hcloses =>
    refine ⟨calls, c, p, ?_, h, hasked, .inr hcloses⟩
    cases hcloses with
    | stopped _ hturn | failed _ _ hturn => simp only [VmCourse.calls, hturn, hcalls]
  | @waits calls p hcalls h hturn =>
    cases hasked : (p.waiting v.runner).request? with
    | none =>
      cases h with
      | pausing h =>
        have hnext := VmCourse.next_of_waits hturn
          (VmCourse.ending_pause (v := v) (Nat.le_add_right _ _))
        cases hlast.symm.trans hnext
      | asking | requesting | polling | refused | late => cases hasked
    | some q =>
      refine ⟨calls, ⟨x.now, q, none⟩, p, ?_, h, hasked, .inl ⟨rfl, fun result hresult => ?_⟩⟩
      · have hwaiting : ((VmPoint.stopping p).waiting v.runner).request? = some q := hasked
        simp only [VmCourse.calls, hturn, hwaiting, hcalls]
        rfl
      · cases hturn.symm.trans hresult

/-- How often a request was made. -/
def timesAsked (q : Request) (calls : List Call) : Nat := calls.countP (·.request = q)

theorem Unstopped.ne_requestStop {c : Call} (h : Unstopped v c) :
    c.request ≠ .requestStop v.runner := by
  rw [h.1]
  exact nofun

/-- A call behind a stop asked for the state and was not answered that the VM is off, or it was the
one that the guest agreed to. -/
theorem Agreed.mem {c : Call} (h : Agreed v accepted calls) (hc : c ∈ calls) : Unstopped v c ∨
    c.request = .requestStop v.runner ∧ c.answer = some (accepted, .ok (.accepted true)) := by
  obtain ⟨asked, hfirst, hpolls⟩ := h
  rcases List.mem_cons.1 hc with rfl | hc
  · exact .inl hfirst
  · rcases List.mem_cons.1 hc with rfl | hc
    · exact .inr ⟨rfl, rfl⟩
    · exact .inl (hpolls c hc).1

theorem Reaches.mem {p : Point} {c : Call} (h : Reaches v calls now p) (hc : c ∈ calls) :
    Unstopped v c ∨ c.request = .requestStop v.runner := by
  cases h with
  | asking => cases hc
  | requesting hfirst => exact .inl (List.mem_singleton.1 hc ▸ hfirst)
  | polling h | pausing h | late h => exact (h.mem hc).imp_right And.left
  | refused hfirst hrequest =>
    rcases List.mem_cons.1 hc with rfl | hc
    · exact .inl hfirst
    · exact .inr (List.mem_singleton.1 hc ▸ hrequest)

theorem timesAsked_of_unstopped (h : ∀ c ∈ calls, Unstopped v c) :
    timesAsked (.requestStop v.runner) calls = 0 := by
  rw [timesAsked, List.countP_eq_zero]
  intro c hc
  simpa using (h c hc).ne_requestStop

theorem Agreed.timesAsked (h : Agreed v accepted calls) :
    timesAsked (.requestStop v.runner) calls = 1 := by
  obtain ⟨asked, hfirst, hpolls⟩ := h
  have hzero := timesAsked_of_unstopped fun c hc => (hpolls c hc).1
  have hne := hfirst.ne_requestStop
  simp only [Stop.timesAsked] at hzero ⊢
  simp [hzero, hne]

namespace Last

variable {p : Point} {c : Call}

theorem closes {r : Except VmError Reply} (h : Last v x calls c p) (hanswered : c.Says r) :
    Closes v x c := by
  rcases h.leaves with ⟨hnone, -⟩ | hcloses
  · obtain ⟨ended, hanswer⟩ := hanswered
    cases hnone.symm.trans hanswer
  · exact hcloses

theorem finished (h : Last v x calls c p) (hanswered : c.answer ≠ none) :
    ∃ result, x.turn = .finished result := by
  rcases h.leaves with ⟨hnone, -⟩ | ⟨-, hturn, -⟩ | ⟨-, -, hturn⟩
  · exact absurd hnone hanswered
  · exact ⟨_, hturn⟩
  · exact ⟨_, hturn⟩

end Last

/-! ## Whole courses -/

variable {h : VmHost} {e : State}

theorem standing_start (hbundle : h.bundles.hasBundle v.runner) :
    Standing v (v.start .stop h) ∧ (v.start .stop h).host = h := by
  have hbegin : begin v.runner h = (h, .waits .asking) := if_pos hbundle
  have hstart : v.start .stop h = ⟨v.began, h, .waits (.stopping .asking), []⟩ := by
    rw [VmCourse.start, VmOperation.begin, hbegin]
    rfl
  rw [hstart]
  exact ⟨.waits rfl .asking rfl, rfl⟩

theorem exists_last (hpoll : 0 < v.limits.stopPoll.ticks)
    (hbundle : h.bundles.hasBundle v.runner) :
    ∃ e calls c p, v.Ends (v.start .stop h) e ∧ v.calls e = calls ++ [c] ∧ Last v e calls c p := by
  have hstep : ∀ x, Standing v x →
      v.next x = none ∨ ∃ y, v.next x = some y ∧ Standing v y ∧ left v y < left v x := by
    intro x hx
    cases hnext : v.next x with
    | none => exact .inl rfl
    | some y => exact .inr ⟨y, rfl, hx.next hpoll hnext⟩
  obtain ⟨e, hleads, he, hlast⟩ :=
    VmCourse.exists_goal (left v) hstep (standing_start hbundle).1
  obtain ⟨calls, c, p, hcalls, hc⟩ := he.last hlast
  exact ⟨e, calls, c, p, ⟨hleads, hlast⟩, hcalls, hc⟩

end Stop

end RunnerFleet

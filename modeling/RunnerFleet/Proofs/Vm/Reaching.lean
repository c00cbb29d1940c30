import RunnerFleet.Proofs.Vm.Courses

/-!
# How a wait for the shell ends

A pause comes before every check, and whether another check follows is looked at after a check only.
So a wait makes one check at least, a pause may run past the deadline, and a check that begins there
is given no time: its answer has to be there at once (`Reach.Due` and `Reach.Closes`). What the wait
ends with is read off its last check (`Reach.reaches_as_checked`). The number of checks is bounded
by the number of pauses that the bound on the wait has room for (`Reach.Last.length_le`), which
keeps it within 32 bits.
-/

namespace RunnerFleet

/-- A bound that so many intervals span is spanned by them in ticks as well. -/
theorem Span.ticks_le_mul {bound interval : Span} {n : Nat}
    (h : bound.nanos ≤ n * interval.nanos) : bound.ticks ≤ n * interval.ticks := by
  have hup : interval.nanos ≤ 1000000 * interval.ticks := by
    unfold ticks
    omega
  have hspan : bound.nanos ≤ 1000000 * (n * interval.ticks) := by
    rw [Nat.mul_left_comm]
    exact Nat.le_trans h (Nat.mul_le_mul_left n hup)
  rw [ticks]
  omega

namespace Reach

open VmCourse (State)

section Phases

variable (v : VmCourse) (address : String)

/-- The moment from which on no check is repeated. -/
def deadline : Nat := v.began + v.limits.ssh.ticks

/-- A check of the address that was answered with an error. -/
def Refused (c : Call) : Prop :=
  c.request = .checkReachable address ∧ ∃ error, c.Says (.error error)

/-- After these checks another one is due at this moment. -/
structure Due (checks : List Call) (begun : Nat) : Prop where
  refused : ∀ c ∈ checks, Refused address c
  early : checks = [] ∨ checks.length * v.limits.sshPoll.ticks < v.limits.ssh.ticks
  paused : v.began + (checks.length + 1) * v.limits.sshPoll.ticks ≤ begun
  soon : begun ≤ deadline v + v.limits.sshPoll.ticks

/-- A check that failed, or has just been cut off: at the deadline, or at once if it began behind
it. -/
def Missed (x : State) (c : Call) : Prop :=
  (∃ error, c.Says (.error error)) ∨ c.answer = none ∧ x.now = max c.begun (deadline v)

/-- The check that ends the wait: the guest lets it in, or it is missed with no time left. -/
inductive Closes (x : State) (c : Call) : Prop where
  | letIn (hanswer : c.answer = some (x.now, .ok .done))
      (hturn : x.turn = .finished (.ok .done)) : Closes x c
  | timedOut (hmissed : Missed v x c) (hlate : deadline v ≤ x.now)
      (hturn : x.turn = .finished (.error (.sshTimeout x.returned.length))) : Closes x c

/-- The wait is over, and this was its last check. -/
structure Last (x : State) (checks : List Call) (c : Call) : Prop where
  returned : x.returned = checks ++ [c]
  due : Due v address checks c.begun
  asked : c.request = .checkReachable address
  now_le : x.now ≤ max c.begun (deadline v)
  closes : Closes v x c

/-- A wait pauses before a check, makes it, or is over. -/
inductive Standing (x : State) : Prop where
  | pausing {until_ : Nat} (h : Due v address x.returned until_) (hnow : x.now ≤ until_)
      (hturn : x.turn =
        .waits (.reaching (.pausing address (deadline v) x.returned.length until_))) : Standing x
  | checking (h : Due v address x.returned x.now)
      (hturn : x.turn =
        .waits (.reaching (.checking address (deadline v) (x.returned.length + 1)))) : Standing x
  | ended {checks : List Call} {c : Call} (h : Last v address x checks c) : Standing x

/-- How many steps are left at most: two for each moment before the deadline, and those around. A
pause counts from its end, which the deadline may be behind. -/
def left (x : State) : Nat :=
  match x.turn with
  | .waits (.reaching (.pausing _ deadline _ until_)) => 2 * (deadline - until_) + 4
  | .waits (.reaching (.checking _ deadline _)) => 2 * (deadline - x.now) + 3
  | .waits _ => 1
  | .finished _ => 0

end Phases

variable {v : VmCourse} {address : String} {x y : State} {checks : List Call} {c : Call}

/-! ## Steps -/

theorem onFailure_early {context : VmContext} {deadline attempts : Nat}
    (h : context.now < deadline) :
    onFailure context address deadline attempts = pause context address deadline attempts :=
  if_neg (Nat.not_le.2 h)

theorem onFailure_late {context : VmContext} {deadline attempts : Nat}
    (h : deadline ≤ context.now) :
    onFailure context address deadline attempts = .finished (.error (.sshTimeout attempts)) :=
  if_pos h

/-- A refused check that leaves time is followed by another. -/
theorem Due.append (h : Due v address checks c.begun) (hc : Refused address c) {now : Nat}
    (hsince : c.begun ≤ now) (hearly : now < deadline v) :
    Due v address (checks ++ [c]) (now + v.limits.sshPoll.ticks) where
  refused := by
    intro c' hc'
    rw [List.mem_append, List.mem_singleton] at hc'
    rcases hc' with hc' | rfl
    · exact h.refused c' hc'
    · exact hc
  early := by
    have hpaused := h.paused
    unfold deadline at hearly
    rw [List.length_append, List.length_singleton]
    exact .inr (by omega)
  paused := by
    have hpaused := h.paused
    rw [List.length_append, List.length_singleton, Nat.add_mul (checks.length + 1), Nat.one_mul]
    omega
  soon := Nat.add_le_add_right (Nat.le_of_lt hearly) _

/-- The step that follows a wait, by the call that it was for. -/
theorem exists_next {p : Point} {ended : Nat} {signal : Signal}
    (hturn : x.turn = .waits (.reaching p))
    (hending : v.ending x.past.length x.now p.waiting = some (ended, signal)) :
    ∃ y, v.next x = some y ∧ y.now = ended ∧
      y.returned = x.returned ++ (Episode.call? ⟨x.now, p.waiting, ended, signal⟩).toList ∧
      y.turn = (resume (v.context ended) p signal).map .reaching fun _ => .done :=
  ⟨_, VmCourse.next_of_waits hturn hending, rfl, VmCourse.returned_of_past rfl, rfl⟩

/-- After a pause the check is made. -/
theorem next_of_pausing {until_ : Nat} (h : Due v address x.returned until_)
    (hnow : x.now ≤ until_)
    (hturn : x.turn =
      .waits (.reaching (.pausing address (deadline v) x.returned.length until_))) :
    ∃ y, v.next x = some y ∧ Standing v address y ∧ left y < left x := by
  have hleft : left x = 2 * (deadline v - until_) + 4 := by simp only [left, hturn]
  obtain ⟨y, hnext, hnowy, hreturned, hturny⟩ := exists_next hturn (VmCourse.ending_pause hnow)
  replace hreturned : y.returned = x.returned := hreturned.trans (List.append_nil _)
  have hlefty : left y = 2 * (deadline v - until_) + 3 := by
    simp only [left, hturny, resume, Turn.map, hnowy]
  refine ⟨y, hnext, .checking ?_ ?_, by omega⟩
  · rw [hreturned, hnowy]
    exact h
  · rw [hreturned]
    exact hturny

/-- A check that did not succeed is followed by another one before the deadline, and is the last
from it on. -/
theorem Due.next (hpoll : 0 < v.limits.sshPoll.ticks) (h : Due v address checks c.begun)
    (hasked : c.request = .checkReachable address)
    (hmissed : Missed v y c) (hsince : c.begun ≤ y.now)
    (hle : y.now ≤ max c.begun (deadline v)) (hreturned : y.returned = checks ++ [c])
    (hturn : y.turn = (onFailure (v.context y.now) address (deadline v) (checks.length + 1)).map
      .reaching fun _ => .done) :
    Standing v address y ∧ left y ≤ 2 * (deadline v - y.now) + 2 := by
  have hlength : y.returned.length = checks.length + 1 := by
    rw [hreturned, List.length_append, List.length_singleton]
  by_cases hearly : y.now < deadline v
  · have hrefused : ∃ error, c.Says (.error error) := by
      rcases hmissed with herror | ⟨-, hcut⟩
      · exact herror
      · omega
    rw [onFailure_early hearly] at hturn
    have hdue := h.append ⟨hasked, hrefused⟩ hsince hearly
    rw [← hreturned] at hdue
    refine ⟨.pausing hdue (Nat.le_add_right _ _) ?_, ?_⟩
    · rw [hlength]
      exact hturn
    · have hlefty : left y = 2 * (deadline v - (y.now + v.limits.sshPoll.ticks)) + 4 := by
        simp only [left, hturn, pause, Turn.map, VmCourse.context]
      omega
  · have hlate := Nat.le_of_not_lt hearly
    rw [onFailure_late hlate, ← hlength] at hturn
    have hlefty : left y = 0 := by simp only [left, hturn, Turn.map]
    exact ⟨.ended ⟨hreturned, h, hasked, hle, .timedOut hmissed hlate hturn⟩, by omega⟩

/-- A check ends the wait, unless it fails before the deadline. -/
theorem next_of_checking (hpoll : 0 < v.limits.sshPoll.ticks) (h : Due v address x.returned x.now)
    (hturn : x.turn =
      .waits (.reaching (.checking address (deadline v) (x.returned.length + 1)))) :
    ∃ y, v.next x = some y ∧ Standing v address y ∧ left y < left x := by
  have hleft : left x = 2 * (deadline v - x.now) + 3 := by simp only [left, hturn]
  obtain ⟨ended, signal, hending, hsince, hle, hsignal⟩ := v.exists_ending_replyBy x.past.length
    x.now (.checkReachable address) (deadline v)
  obtain ⟨y, hnext, rfl, hreturned, hturny⟩ := exists_next hturn hending
  refine ⟨y, hnext, ?_⟩
  rcases hsignal with ⟨rfl, hlate⟩ | ⟨error | reply, rfl, hfits⟩
  · have hcut : y.now = max x.now (deadline v) := Nat.le_antisymm hle (Nat.max_le.2 ⟨hsince, hlate⟩)
    obtain ⟨hy, hlefty⟩ := Due.next (c := ⟨x.now, .checkReachable address, none⟩) hpoll h rfl
      (.inr ⟨rfl, hcut⟩) hsince hle hreturned hturny
    exact ⟨hy, by omega⟩
  · obtain ⟨hy, hlefty⟩ := Due.next
      (c := ⟨x.now, .checkReachable address, some (y.now, .error error)⟩) hpoll h rfl
      (.inl ⟨error, y.now, rfl⟩) hsince hle hreturned hturny
    exact ⟨hy, by omega⟩
  · cases hfits reply rfl
    have hlefty : left y = 0 := by simp only [left, hturny, resume, Turn.map]
    exact ⟨.ended ⟨hreturned, h, rfl, hle, .letIn rfl hturny⟩, by omega⟩

/-! ## The last check -/

namespace Last

theorem mem (h : Last v address x checks c) : c ∈ x.returned := by
  rw [h.returned]
  exact List.mem_append_right _ (List.mem_singleton_self c)

theorem refused_or (h : Last v address x checks c) {c' : Call} (hc' : c' ∈ x.returned) :
    Refused address c' ∨ c' = c := by
  rw [h.returned, List.mem_append, List.mem_singleton] at hc'
  exact hc'.imp_left (h.due.refused c')

/-- A wait that does not succeed has timed out, and none of its checks let it in. -/
theorem finished (h : Last v address x checks c) :
    x.turn = .finished (.ok .done) ∧ c.Says (.ok .done) ∨
      x.turn = .finished (.error (.sshTimeout x.returned.length)) ∧ deadline v ≤ x.now ∧
        ∀ c' ∈ x.returned, Missed v x c' := by
  cases h.closes with
  | letIn hanswer hturn => exact .inl ⟨hturn, x.now, hanswer⟩
  | timedOut hmissed hlate hturn =>
    refine .inr ⟨hturn, hlate, fun c' hc' => ?_⟩
    rcases h.refused_or hc' with ⟨-, hrefused⟩ | rfl
    · exact .inl hrefused
    · exact hmissed

/-- Every pause but the last ends before the deadline, so as many checks as pauses have room, and
one in any case. -/
theorem length_le (h : Last v address x checks c) {n : Nat}
    (hn : v.limits.ssh.nanos ≤ n * v.limits.sshPoll.nanos) : x.returned.length ≤ max 1 n := by
  have hlength : x.returned.length = checks.length + 1 := by
    rw [h.returned, List.length_append, List.length_singleton]
  rcases h.due.early with hnone | hearly
  · rw [hlength, hnone]
    exact Nat.le_max_left _ _
  · have hroom : v.limits.ssh.ticks ≤ n * v.limits.sshPoll.ticks := Span.ticks_le_mul hn
    have hlt : checks.length < n := Nat.lt_of_mul_lt_mul_right (Nat.lt_of_lt_of_le hearly hroom)
    rw [hlength]
    exact Nat.le_trans hlt (Nat.le_max_right _ _)

end Last

/-! ## Whole courses -/

variable {h : VmHost}

theorem standing_start (haddress : h.addressOf v.runner = .ok address) :
    Standing v address (v.start .awaitSsh h) := by
  have hbegin : begin (v.context v.began) v.runner h =
      .waits (.pausing address (deadline v) 0 (v.began + v.limits.sshPoll.ticks)) := by
    rw [begin, haddress]
    rfl
  have hstart : v.start .awaitSsh h = ⟨v.began, h, .waits (.reaching (.pausing address (deadline v)
      0 (v.began + v.limits.sshPoll.ticks))), []⟩ := by
    rw [VmCourse.start, VmOperation.begin, hbegin]
    rfl
  rw [hstart]
  have hbegan : v.began ≤ deadline v := Nat.le_add_right _ _
  refine .pausing ⟨List.forall_mem_nil _, .inl rfl, ?_, Nat.add_le_add_right hbegan _⟩
    (Nat.le_add_right _ _) rfl
  exact Nat.le_of_eq (by rw [State.returned, List.filterMap_nil, List.length_nil, Nat.zero_add,
    Nat.one_mul])

theorem exists_last (hpoll : 0 < v.limits.sshPoll.ticks)
    (haddress : h.addressOf v.runner = .ok address) :
    ∃ e checks c, v.Leads (v.start .awaitSsh h) e ∧ Last v address e checks c := by
  have hstep : ∀ x, Standing v address x → (∃ checks c, Last v address x checks c) ∨
      ∃ y, v.next x = some y ∧ Standing v address y ∧ left y < left x := by
    intro x hx
    cases hx with
    | pausing hdue hnow hturn => exact .inr (next_of_pausing hdue hnow hturn)
    | checking hdue hturn => exact .inr (next_of_checking hpoll hdue hturn)
    | ended hlast => exact .inl ⟨_, _, hlast⟩
  obtain ⟨e, hleads, -, checks, c, hlast⟩ :=
    VmCourse.exists_goal left hstep (standing_start haddress)
  exact ⟨e, checks, c, hleads, hlast⟩

end Reach

end RunnerFleet

import RunnerFleet.Hosting.Session
import RunnerFleet.Proofs.Coordinator.Snapshots

/-!
# No change of a roster goes unreported

The loop that reports a roster waits for a tick or for a notice of a change, whichever comes first,
takes a snapshot and sends it. A notice wakes the wait if there is one and is stored otherwise, at
most once; a wait that was woken and loses to a tick stores its notice again. Changes and ticks may
come between any two steps of the loop, the first of them before it has begun.

Whenever the loop is about to wait, what it sent last is the roster as it is, unless a notice is
stored (`Covered`). So nothing is missed while it waits (`reported_while_waiting`).
-/

namespace RunnerFleet

namespace Roster

/-- A change that the host makes; notices are taken by the session only. -/
abbrev Change := { e : Edit // e ≠ .takeNotice }

/-- A change leaves a notice, and a refused one leaves the roster as it is. -/
theorem edit_notice (r : Roster) (e : Change) : r.edit e = r ∨ (r.edit e).notice = true := by
  cases h : (r.attempt e).2 with
  | error error => exact .inl (edit_of_error h)
  | ok => exact .inr (notice_edit h e.2)

end Roster

/-! ## The loop -/

namespace Reporting

/-- Where the loop is between two of its steps. -/
inductive Point where
  /-- About to look for a notice; so it is also before it has begun. -/
  | choosing
  | waiting
  /-- A notice was given to its wait. -/
  | woken
  | reporting
  | sending (snapshot : Wire.Snapshot)
  deriving DecidableEq, Repr

end Reporting

/-- A host in a session, beside the loop that reports its roster. -/
structure Reporting where
  hosting : Hosting
  session : Session
  point : Reporting.Point

namespace Reporting

inductive Event where
  | changes (e : Roster.Change)
  | ticks
  | goesOn

/-- A session opens: the first snapshot is sent, and the loop is about to begin. -/
def opened (h : Hosting) (agent : AgentId) (advertisedSeconds : UInt32) : Reporting :=
  ⟨h, .start h agent advertisedSeconds, .choosing⟩

def withRoster (s : Reporting) (roster : Roster) (point : Point) : Reporting :=
  { s with hosting := { s.hosting with roster }, point }

/-- The host changes its roster. -/
def change (s : Reporting) (e : Roster.Change) : Reporting :=
  match s.point with
  | .waiting =>
    -- A wait takes the notice at once, so none is stored.
    let (roster, noticed) := (s.hosting.roster.edit e).takeNotice
    s.withRoster roster (if noticed then .woken else .waiting)
  | p => s.withRoster (s.hosting.roster.edit e) p

/-- A tick is due. One that comes while the loop reports waits until it chooses again. -/
def tick (s : Reporting) : Reporting :=
  match s.point with
  | .choosing | .waiting => { s with point := .reporting }
  | .woken => s.withRoster { s.hosting.roster with notice := true } .reporting
  | .reporting | .sending _ => s

/-- The loop makes its next step, if it does not wait. -/
def step (s : Reporting) : Reporting :=
  match s.point with
  | .choosing =>
    let (roster, noticed) := s.hosting.roster.takeNotice
    s.withRoster roster (if noticed then .reporting else .waiting)
  | .waiting => s
  | .woken => { s with point := .reporting }
  | .reporting => { s with point := .sending (s.session.report s.hosting).last }
  | .sending snapshot =>
    { s with session := { s.session with last := snapshot }, point := .choosing }

def onEvent (s : Reporting) : Event → Reporting
  | .changes e => s.change e
  | .ticks => s.tick
  | .goesOn => s.step

def after (s : Reporting) (es : List Event) : Reporting := es.foldl onEvent s

theorem after_append_singleton (s : Reporting) (es : List Event) (e : Event) :
    s.after (es ++ [e]) = (s.after es).onEvent e := by
  simp only [after, List.foldl_append, List.foldl_cons, List.foldl_nil]

variable {s : Reporting} {hosting : Hosting} {session : Session}

/-- A round of the loop that nothing comes between is the session's waking on a notice. -/
theorem round_onNotice (hpoint : s.point = .choosing)
    (h : s.session.onNotice s.hosting = some (session, hosting)) :
    s.after [.goesOn, .goesOn, .goesOn] = ⟨hosting, session, .choosing⟩ := by
  obtain ⟨host, old, point⟩ := s
  obtain rfl : point = .choosing := hpoint
  unfold Session.onNotice at h
  split at h
  · next roster htake =>
    cases h
    simp only [after, List.foldl_cons, List.foldl_nil, onEvent, step, htake, withRoster]
    rfl
  · cases h

/-- A round that a tick begins is the session's waking on a tick. -/
theorem round_onTick (hpoint : s.point = .choosing) :
    s.after [.ticks, .goesOn, .goesOn] =
      ⟨s.hosting, (s.session.onTick s.hosting).1, .choosing⟩ := by
  obtain ⟨host, old, point⟩ := s
  obtain rfl : point = .choosing := hpoint
  rfl

/-! ## What is covered -/

/-- What the loop knows at a point: a snapshot is up to date unless a notice is stored, and while
the loop waits none is. -/
def Covered (s : Reporting) : Prop :=
  let current := s.hosting.roster.snapshot s.session.agentId
  match s.point with
  | .choosing => s.session.last = current ∨ s.hosting.roster.notice = true
  | .waiting => s.session.last = current ∧ s.hosting.roster.notice = false
  | .woken | .reporting => True
  | .sending snapshot => snapshot = current ∨ s.hosting.roster.notice = true

theorem covered_opened (h : Hosting) (agent : AgentId) (advertisedSeconds : UInt32) :
    Covered (opened h agent advertisedSeconds) := .inl rfl

theorem Covered.change (h : Covered s) (e : Roster.Change) : Covered (s.change e) := by
  obtain ⟨host, session, point⟩ := s
  have hedit := host.roster.edit_notice e
  cases point with
  | choosing =>
    rcases hedit with hsame | hnotice
    · simp only [Reporting.change, withRoster, hsame]
      exact h
    · exact .inr hnotice
  | waiting =>
    rcases hedit with hsame | hnotice
    · obtain ⟨hlast, hnone⟩ := h
      have hnone : host.roster.notice = false := hnone
      simp only [Reporting.change, Roster.takeNotice, hsame, hnone]
      exact ⟨hlast, rfl⟩
    · simp only [Reporting.change, Roster.takeNotice, hnotice]
      trivial
  | woken | reporting => trivial
  | sending snapshot =>
    rcases hedit with hsame | hnotice
    · simp only [Reporting.change, withRoster, hsame]
      exact h
    · exact .inr hnotice

theorem Covered.tick (h : Covered s) : Covered s.tick := by
  obtain ⟨host, session, point⟩ := s
  cases point with
  | choosing | waiting | woken | reporting => trivial
  | sending snapshot => exact h

theorem Covered.step (h : Covered s) : Covered s.step := by
  obtain ⟨host, session, point⟩ := s
  cases point with
  | choosing =>
    cases hnotice : host.roster.notice with
    | true =>
      simp only [Reporting.step, Roster.takeNotice, hnotice]
      trivial
    | false =>
      simp only [Reporting.step, Roster.takeNotice, hnotice]
      rcases h with hlast | hstored
      · exact ⟨hlast, rfl⟩
      · cases hnotice.symm.trans hstored
  | waiting => exact h
  | woken => trivial
  | reporting => exact .inl rfl
  | sending snapshot => exact h

theorem Covered.after (h : Covered s) (es : List Event) : Covered (s.after es) := by
  induction es using List.reverseRecOn with
  | nil => exact h
  | append_singleton es e ih =>
    rw [after_append_singleton]
    cases e with
    | changes e => exact ih.change e
    | ticks => exact ih.tick
    | goesOn => exact ih.step

theorem agentId_after (s : Reporting) (es : List Event) :
    (s.after es).session.agentId = s.session.agentId := by
  induction es using List.reverseRecOn with
  | nil => rfl
  | append_singleton es e ih =>
    rw [after_append_singleton, ← ih]
    generalize s.after es = t
    obtain ⟨host, session, point⟩ := t
    cases e with
    | changes | ticks | goesOn => cases point <;> rfl

/-! ## The loop left alone -/

/-- How many steps are ahead of a point until the loop waits, if no notice is stored. -/
def Point.ahead : Point → Nat
  | waiting => 0
  | choosing => 1
  | sending _ => 2
  | reporting => 3
  | woken => 4

/-- How many steps the loop makes before it waits. A stored notice costs it one more round. -/
def stepsLeft (s : Reporting) : Nat :=
  s.point.ahead + 3 * s.hosting.roster.notice.toNat

theorem stepsLeft_step (h : s.point ≠ .waiting) : s.step.stepsLeft + 1 = s.stepsLeft := by
  obtain ⟨host, session, point⟩ := s
  cases point with
  | choosing =>
    cases hnotice : host.roster.notice with
    | true => simp [Reporting.step, Roster.takeNotice, withRoster, stepsLeft, Point.ahead, hnotice]
    | false => simp [Reporting.step, Roster.takeNotice, withRoster, stepsLeft, Point.ahead, hnotice]
  | waiting => exact absurd rfl h
  | woken | reporting | sending =>
    simp only [Reporting.step, stepsLeft, Point.ahead]
    omega

theorem runners_step (s : Reporting) :
    s.step.hosting.roster.runners = s.hosting.roster.runners := by
  obtain ⟨host, session, point⟩ := s
  cases point <;> rfl

theorem waits_of_stepsLeft (hs : Covered s) (n : Nat) (h : s.stepsLeft = n) :
    (s.after (List.replicate n .goesOn)).point = .waiting ∧
      (s.after (List.replicate n .goesOn)).hosting.roster.runners = s.hosting.roster.runners := by
  induction n generalizing s with
  | zero =>
    refine ⟨?_, rfl⟩
    by_contra hpoint
    have hleft : s.step.stepsLeft + 1 = s.stepsLeft := stepsLeft_step hpoint
    omega
  | succ n ih =>
    have hpoint : s.point ≠ .waiting := by
      intro hpoint
      unfold Covered at hs
      rw [hpoint] at hs
      simp [stepsLeft, Point.ahead, hpoint, hs.2] at h
    have hleft : s.step.stepsLeft + 1 = s.stepsLeft := stepsLeft_step hpoint
    obtain ⟨hwaiting, hrunners⟩ := ih hs.step (by omega)
    exact ⟨hwaiting, hrunners.trans (runners_step s)⟩

theorem stepsLeft_le (s : Reporting) : s.stepsLeft ≤ 7 := by
  have hahead : s.point.ahead ≤ 4 := by
    cases s.point <;> simp [Point.ahead]
  have hnotice : s.hosting.roster.notice.toNat ≤ 1 := Bool.toNat_le _
  unfold stepsLeft
  omega

/-- The snapshot is the agent's, and it lists the table: every runner as its record, in order, under
the agent's id. -/
structure Lists (snapshot : Wire.Snapshot) (agent : AgentId) (r : Roster) : Prop where
  agentId : snapshot.agentId = agent
  active : snapshot.activeRunners = UInt32.ofNat r.list.length
  runners : snapshot.runners =
    r.list.map fun runner => { Wire.RunnerRecord.ofRunner runner with agentId := agent }

theorem lists_snapshot (r : Roster) (agent : AgentId) : Lists (r.snapshot agent) agent r :=
  ⟨rfl, rfl, rfl⟩

/-- Whenever the loop waits and no notice is stored, the last snapshot lists the roster as it is.
At any moment the loop is few steps away from that: left alone it makes at most seven and then
waits, having sent the roster as it was. -/
theorem reported_while_waiting (h : Hosting) (agent : AgentId) (advertisedSeconds : UInt32)
    (es : List Event) :
    let s := (opened h agent advertisedSeconds).after es
    (s.point = .waiting → s.hosting.roster.notice = false →
      s.session.last = s.hosting.roster.snapshot agent ∧
        Lists s.session.last agent s.hosting.roster) ∧
    ∃ n ≤ 7, (s.after (List.replicate n .goesOn)).point = .waiting ∧
      (s.after (List.replicate n .goesOn)).hosting.roster.notice = false ∧
      (s.after (List.replicate n .goesOn)).session.last = s.hosting.roster.snapshot agent ∧
      Lists (s.after (List.replicate n .goesOn)).session.last agent s.hosting.roster := by
  intro s
  have hcovered : Covered s := (covered_opened h agent advertisedSeconds).after es
  have hagent : s.session.agentId = agent := agentId_after _ es
  refine ⟨fun hpoint _ => ?_, s.stepsLeft, stepsLeft_le s, ?_⟩
  · unfold Covered at hcovered
    rw [hpoint, hagent] at hcovered
    exact ⟨hcovered.1, hcovered.1 ▸ lists_snapshot s.hosting.roster agent⟩
  · obtain ⟨hwaiting, hrunners⟩ := waits_of_stepsLeft hcovered s.stepsLeft rfl
    have hlater := hcovered.after (List.replicate s.stepsLeft .goesOn)
    unfold Covered at hlater
    rw [hwaiting, agentId_after, hagent] at hlater
    obtain ⟨hlast, hnotice⟩ := hlater
    have hsent : (s.after (List.replicate s.stepsLeft .goesOn)).session.last =
        s.hosting.roster.snapshot agent := by
      refine hlast.trans ?_
      unfold Roster.snapshot Roster.list
      rw [hrunners]
    exact ⟨hwaiting, hnotice, hsent, hsent ▸ lists_snapshot s.hosting.roster agent⟩

/-- A runner is accepted while the loop waits, and a tick wins over the notice. The notice is stored
again, so the loop reports twice before it waits with nothing stored. -/
theorem reported_while_waiting_tick :
    let s := (opened .empty "a1" 5).after
      [.goesOn, .changes ⟨.create (.accepted "r1" "ci" "a1" "" 0), by decide⟩, .ticks, .goesOn,
        .goesOn, .goesOn, .goesOn, .goesOn, .goesOn]
    s.point = .waiting ∧ s.hosting.roster.notice = false ∧
      s.session.last = s.hosting.roster.snapshot "a1" ∧
      Lists s.session.last "a1" s.hosting.roster := by
  intro s
  have hpoint : s.point = .waiting := by decide +kernel
  have hnotice : s.hosting.roster.notice = false := by decide +kernel
  exact ⟨hpoint, hnotice, (reported_while_waiting .empty "a1" 5 _).1 hpoint hnotice⟩

end Reporting

end RunnerFleet

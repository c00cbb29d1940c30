import RunnerFleet.Arbiter
import Mathlib.Data.List.Induction

/-!
# Where a guest's announcements go

The history of a run keeps the deliveries and the cancellations (`Deed`). What the arbiter knows of
a guest is a function of that history alone (`run_matched`): the runner of the guest's last
delivery, unless that runner was cancelled since. So the announcements of a guest keep going to one
runner exactly as long as that runner waits when they are made (`announce_after_delivery`). A guest
that announces itself while its runner does not wait is handed to the oldest wait of another runner,
and stays with that one (`deliveries_can_move_on`).
-/

namespace RunnerFleet.Arbiter

/-! ## Runs -/

/-- What may happen to an arbiter. A wait that ends by itself was given up, or its time is up. -/
inductive Event where
  | wait (runner : RunnerId)
  | endWait (token : Nat)
  | announce (guest : GuestId)
  | cancel (runner : RunnerId)
  deriving DecidableEq, Repr

/-- What later announcements depend on. -/
inductive Deed where
  | delivered (guest : GuestId) (runner : RunnerId)
  | cancelled (runner : RunnerId)
  deriving DecidableEq, Repr

/-- An arbiter with its history, oldest deed first. -/
structure Record where
  arbiter : Arbiter
  deeds : List Deed
  deriving DecidableEq, Repr

/-- Lets one thing happen. -/
def Record.step (s : Record) : Event → Record
  | .wait runner => { s with arbiter := (s.arbiter.await runner).1 }
  | .endWait token => { s with arbiter := s.arbiter.endWait token }
  | .announce guest =>
    match s.arbiter.announce guest with
    | (arbiter, .ok w) => ⟨arbiter, s.deeds ++ [.delivered guest w.runner]⟩
    | (arbiter, .error _) => { s with arbiter }
  | .cancel runner => ⟨(s.arbiter.cancel runner).1, s.deeds ++ [.cancelled runner]⟩

/-- The arbiter and its history after some events. -/
def run (es : List Event) : Record := es.foldl Record.step ⟨.empty, []⟩

theorem run_append_singleton (es : List Event) (e : Event) :
    run (es ++ [e]) = (run es).step e := by
  simp only [run, List.foldl_append, List.foldl_cons, List.foldl_nil]

/-! ## What the arbiter knows of a guest -/

section Matched

variable {a : Arbiter} {guest : GuestId} {w : AddressWait}

/-- A delivery goes to the recipient and matches the guest to its runner. -/
theorem announce_of_recipient (h : a.recipient? guest = some w) :
    (a.announce guest).2 = .ok w ∧
      (a.announce guest).1.matched = a.matched.insert guest w.runner := by
  unfold announce
  rw [h]
  exact ⟨rfl, rfl⟩

theorem announce_of_no_recipient (h : a.recipient? guest = none) :
    a.announce guest = (a, .error .noPendingRequests) := by
  unfold announce
  rw [h]

theorem announce_eq_ok_iff : (a.announce guest).2 = .ok w ↔ a.recipient? guest = some w := by
  constructor
  · intro hok
    cases h : a.recipient? guest with
    | none =>
      rw [announce_of_no_recipient h] at hok
      cases hok
    | some v =>
      rw [(announce_of_recipient h).1] at hok
      cases hok
      rfl
  · intro h
    exact (announce_of_recipient h).1

theorem runnerOfGuest?_announce (h : a.recipient? guest = some w) :
    (a.announce guest).1.runnerOfGuest? guest = some w.runner := by
  rw [runnerOfGuest?, (announce_of_recipient h).2, Table.get?_insert, if_pos rfl]

theorem recipient?_mem (h : a.recipient? guest = some w) : w ∈ a.waits := by
  simp only [recipient?, Option.orElse_eq_orElse, Option.orElse_eq_or] at h
  rcases Option.or_eq_some_iff.1 h with hknown | ⟨-, holdest⟩
  · obtain ⟨runner, -, hfind⟩ := Option.bind_eq_some_iff.1 hknown
    exact List.mem_of_find?_eq_some hfind
  · exact List.mem_of_head? holdest

theorem recipient?_eq_none_iff : a.recipient? guest = none ↔ a.waits = [] := by
  constructor
  · intro h
    simp only [recipient?, Option.orElse_eq_orElse, Option.orElse_eq_or] at h
    exact List.head?_eq_none_iff.1 (Option.or_eq_none_iff.1 h).2
  · intro h
    cases hrec : a.recipient? guest with
    | none => rfl
    | some w =>
      have hw := recipient?_mem hrec
      rw [h] at hw
      cases hw

/-- Only a matched runner's own wait comes before the oldest one. -/
theorem recipient?_of_idle {runner : RunnerId} (hm : a.matched.get? guest = some runner)
    (hidle : ∀ v ∈ a.waits, v.runner ≠ runner) : a.recipient? guest = a.waits.head? := by
  have hfind : a.waits.find? (·.runner == runner) = none := by
    rw [List.find?_eq_none]
    intro v hv
    simpa using hidle v hv
  unfold recipient?
  simp [hm, hfind]

theorem recipient?_of_waiting {runner : RunnerId} (hm : a.matched.get? guest = some runner)
    (hw : a.waits.find? (·.runner == runner) = some w) : a.recipient? guest = some w := by
  unfold recipient?
  simp [hm, hw]

/-- A matched guest goes to another runner when its own does not wait, and only then. -/
theorem recipient?_elsewhere_iff {runner : RunnerId} (hm : a.matched.get? guest = some runner)
    (h : a.recipient? guest = some w) :
    w.runner ≠ runner ↔ ∀ v ∈ a.waits, v.runner ≠ runner := by
  constructor
  · intro hne
    cases hfind : a.waits.find? (·.runner == runner) with
    | none =>
      intro v hv
      simpa using List.find?_eq_none.1 hfind v hv
    | some v =>
      have hv : v.runner = runner := by simpa using List.find?_some hfind
      obtain rfl : v = w := Option.some.inj ((recipient?_of_waiting hm hfind).symm.trans h)
      exact absurd hv hne
  · intro hidle
    exact hidle w (recipient?_mem h)

end Matched

/-- What is known of a guest after one more deed. -/
def recalledAfter (guest : GuestId) (known : Option RunnerId) : Deed → Option RunnerId
  | .delivered g runner => if g = guest then some runner else known
  | .cancelled runner => if known = some runner then none else known

/-- The runner of the guest's last delivery, unless it was cancelled since. -/
def recalled (guest : GuestId) (deeds : List Deed) : Option RunnerId :=
  deeds.foldl (recalledAfter guest) none

theorem recalled_append_singleton (guest : GuestId) (deeds : List Deed) (d : Deed) :
    recalled guest (deeds ++ [d]) = recalledAfter guest (recalled guest deeds) d := by
  simp only [recalled, List.foldl_append, List.foldl_cons, List.foldl_nil]

/-- The arbiter knows of a guest what its history says. -/
theorem run_matched (es : List Event) (guest : GuestId) :
    (run es).arbiter.matched.get? guest = recalled guest (run es).deeds := by
  induction es using List.reverseRecOn with
  | nil => rfl
  | append_singleton es e ih =>
    rw [run_append_singleton]
    cases e with
    | wait runner => exact ih
    | endWait token => exact ih
    | announce g =>
      cases h : (run es).arbiter.recipient? g with
      | none =>
        simp only [Record.step, announce_of_no_recipient h]
        exact ih
      | some w =>
        obtain ⟨hok, hmatched⟩ := announce_of_recipient h
        have hstep : (run es).step (.announce g) =
            ⟨((run es).arbiter.announce g).1,
              (run es).deeds ++ [.delivered g w.runner]⟩ := by
          rcases out : (run es).arbiter.announce g with ⟨arbiter, result⟩
          rw [out] at hok
          simp only at hok
          simp only [Record.step, out, hok]
        rw [hstep, recalled_append_singleton, hmatched, Table.get?_insert, ih, recalledAfter]
        simp only [eq_comm]
    | cancel runner =>
      simp only [Record.step, cancel, recalled_append_singleton, Table.get?_filter, ih,
        recalledAfter]
      cases recalled guest (run es).deeds with
      | none => rfl
      | some known => by_cases hk : known = runner <;> simp [hk]

/-- A delivery is recalled until its runner is cancelled or the guest is delivered elsewhere. -/
theorem recalled_of_delivered {guest : GuestId} {runner : RunnerId} (before between : List Deed)
    (hcancel : Deed.cancelled runner ∉ between)
    (hother : ∀ other, Deed.delivered guest other ∈ between → other = runner) :
    recalled guest (before ++ .delivered guest runner :: between) = some runner := by
  induction between using List.reverseRecOn with
  | nil => rw [recalled_append_singleton, recalledAfter, if_pos rfl]
  | append_singleton ds d ih =>
    have hcancel' : Deed.cancelled runner ∉ ds :=
      fun h => hcancel (List.mem_append_left [d] h)
    have hrest := ih hcancel' fun other h => hother other (List.mem_append_left [d] h)
    rw [← List.cons_append, ← List.append_assoc, recalled_append_singleton, hrest]
    cases d with
    | delivered g other =>
      by_cases hg : g = guest
      · subst hg
        rw [recalledAfter, if_pos rfl, hother other (by simp)]
      · rw [recalledAfter, if_neg hg]
    | cancelled other =>
      have hne : other ≠ runner := fun h => hcancel (by simp [h])
      rw [recalledAfter, if_neg (fun h => hne (Option.some.inj h).symm)]

/-! ## Later announcements -/

/-- After a delivery to `runner`, while it is not cancelled and the guest is delivered nowhere else,
an announcement of the guest goes to the oldest wait of `runner`; it goes to another runner exactly
when `runner` does not wait, then to the oldest wait of all. The guest stays with whom it goes to,
and an announcement that no one waits for changes nothing. -/
theorem announce_after_delivery (es : List Event) (guest : GuestId) (runner : RunnerId)
    (before between : List Deed)
    (hdeeds : (run es).deeds = before ++ .delivered guest runner :: between)
    (hcancel : Deed.cancelled runner ∉ between)
    (hother : ∀ other, Deed.delivered guest other ∈ between → other = runner) :
    let a := (run es).arbiter
    (∀ w, a.waits.find? (·.runner == runner) = some w → (a.announce guest).2 = .ok w) ∧
      (∀ w, (a.announce guest).2 = .ok w →
        (w.runner ≠ runner ↔ ∀ v ∈ a.waits, v.runner ≠ runner) ∧
        (w.runner ≠ runner → a.waits.head? = some w) ∧
        (a.announce guest).1.runnerOfGuest? guest = some w.runner) ∧
      ((∃ w, (a.announce guest).2 = .ok w) ↔ a.waits ≠ []) ∧
      (a.waits = [] → a.announce guest = (a, .error .noPendingRequests)) := by
  intro a
  have hm : a.matched.get? guest = some runner := by
    rw [run_matched, hdeeds]
    exact recalled_of_delivered before between hcancel hother
  refine ⟨?_, ?_, ?_, ?_⟩
  · intro w hw
    exact announce_eq_ok_iff.2 (recipient?_of_waiting hm hw)
  · intro w hok
    have hrec := announce_eq_ok_iff.1 hok
    have hiff := recipient?_elsewhere_iff hm hrec
    refine ⟨hiff, fun hne => ?_, runnerOfGuest?_announce hrec⟩
    rw [← recipient?_of_idle hm (hiff.1 hne)]
    exact hrec
  · constructor
    · rintro ⟨w, hok⟩
      exact List.ne_nil_of_mem (recipient?_mem (announce_eq_ok_iff.1 hok))
    · intro hwaits
      obtain ⟨w, hrec⟩ := Option.ne_none_iff_exists'.1 (mt recipient?_eq_none_iff.1 hwaits)
      exact ⟨w, announce_eq_ok_iff.2 hrec⟩
  · intro hnil
    exact announce_of_no_recipient (recipient?_eq_none_iff.2 hnil)

/-- A guest that was delivered to `"r1"` announces itself again while `"r2"` waits and `"r1"`, which
was not cancelled, does not. -/
theorem announce_after_delivery_unwaited :
    let es : List Event := [.wait "r1", .announce "g", .wait "r2"]
    (run es).deeds = [] ++ .delivered "g" "r1" :: [] ∧
      ((run es).arbiter.announce "g").2 = .ok ⟨1, "r2"⟩ ∧
      ((run es).arbiter.announce "g").1.runnerOfGuest? "g" = some "r2" := by
  intro es
  have hdeeds : (run es).deeds = [] ++ .delivered "g" "r1" :: [] := by decide +kernel
  have hok : ((run es).arbiter.announce "g").2 = .ok ⟨1, "r2"⟩ := by decide +kernel
  have h := announce_after_delivery es "g" "r1" [] [] hdeeds (by simp) (by simp)
  exact ⟨hdeeds, hok, (h.2.1 ⟨1, "r2"⟩ hok).2.2⟩

/-- Deliveries of one guest need not stay with one runner, although that runner is never
cancelled. -/
theorem deliveries_can_move_on :
    ¬ ∀ (es : List Event) (guest : GuestId) (runner other : RunnerId)
      (before between after : List Deed),
      (run es).deeds =
        before ++ .delivered guest runner :: (between ++ .delivered guest other :: after) →
      Deed.cancelled runner ∉ between → other = runner := by
  intro h
  have hdeeds : (run [.wait "r1", .announce "g", .wait "r2", .announce "g"]).deeds =
      [] ++ .delivered "g" "r1" :: ([] ++ .delivered "g" "r2" :: []) := by decide +kernel
  have heq : "r2" = "r1" := h _ "g" "r1" "r2" [] [] [] hdeeds (by simp)
  exact absurd heq (by decide)

end RunnerFleet.Arbiter

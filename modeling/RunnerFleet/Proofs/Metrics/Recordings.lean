import RunnerFleet.Metrics.Counters
import RunnerFleet.Proofs.Coordinator.Outbox

/-!
# What recordings add up to

The counters after some recordings depend on which recordings were made and not on their order, the
sums of the histograms apart (`Counters.Tell`). A counter tells how often it was recorded, and a
bucket how many of the recorded durations are not above its bound (`Histogram.Tells`).
-/

namespace RunnerFleet

/-- What a request has counted: the failed or the successful start of a runner, or its own end. -/
inductive Tally where
  | failure (reason : String)
  | startup
  | added (status : String)
  | deleted (status : String)
  deriving DecidableEq, Repr

namespace Tally

def isStartup : Tally → Bool
  | startup => true
  | _ => false

def isAdded : Tally → Bool
  | added _ => true
  | _ => false

def isDeleted : Tally → Bool
  | deleted _ => true
  | _ => false

/-- The label under which the end of a request is counted. -/
def label? : Tally → Option String
  | added status => some status
  | deleted status => some status
  | _ => none

end Tally

/-- One recording of a request, made when the request has taken so long. -/
structure Recording where
  tally : Tally
  elapsed : Span
  deriving DecidableEq, Repr

namespace Recording

/-- The durations of the recordings of a kind. -/
def spans (kind : Tally → Bool) (rs : List Recording) : List Span :=
  (rs.filter (kind ·.tally)).map (·.elapsed)

theorem length_spans (kind : Tally → Bool) (rs : List Recording) :
    (spans kind rs).length = (rs.map (·.tally)).countP kind := by
  rw [spans, List.length_map, ← List.countP_eq_length_filter, List.countP_map]
  rfl

theorem spans_append_singleton (kind : Tally → Bool) (rs : List Recording) (r : Recording) :
    spans kind (rs ++ [r]) =
      if kind r.tally = true then spans kind rs ++ [r.elapsed] else spans kind rs := by
  rw [spans, List.filter_append, List.map_append, List.filter_singleton]
  cases kind r.tally with
  | true => rfl
  | false => exact List.append_nil _

end Recording

/-! ## Histograms -/

namespace Histogram

/-- The histogram tells the number of the durations, and each bucket how many of them are not above
its bound. -/
structure Tells (h : Histogram) (ds : List Span) : Prop where
  buckets : h.buckets = durationBounds.map fun bound =>
    ⟨bound, ds.countP fun d => d.toSeconds ≤ bound⟩
  count : h.count = ds.length

variable {h : Histogram} {ds ds' : List Span}

theorem tells_durations : durations.Tells [] := ⟨rfl, rfl⟩

theorem Tells.observe (htells : h.Tells ds) (d : Span) :
    (h.observe d.toSeconds).Tells (ds ++ [d]) where
  buckets := by
    simp only [Histogram.observe, htells.buckets, List.map_map]
    refine List.map_congr_left fun bound _ => ?_
    simp only [Function.comp_apply, Bucket.observe, List.countP_append, List.countP_singleton,
      decide_eq_true_iff]
    split <;> rfl
  count := by
    rw [List.length_append, ← htells.count]
    rfl

theorem Tells.perm (htells : h.Tells ds) (hperm : ds.Perm ds') : h.Tells ds' where
  buckets := by
    rw [htells.buckets]
    exact List.map_congr_left fun bound _ => congrArg (Bucket.mk bound) (hperm.countP_eq _)
  count := htells.count.trans hperm.length_eq

end Histogram

/-! ## Counters -/

namespace Counters

/-- What a table counts under a label. -/
def under (t : Table Nat) (label : String) : Nat := (t.get? label).getD 0

theorem under_bump (t : Table Nat) (label k : String) :
    under (bump t label) k = under t k + if label = k then 1 else 0 := by
  unfold under bump
  rw [Table.get?_insert]
  by_cases hk : k = label
  · subst hk
    rw [if_pos rfl, if_pos rfl]
    rfl
  · rw [if_neg hk, if_neg (Ne.symm hk)]
    rfl

theorem sum_bump (t : Table Nat) (label : String) :
    (bump t label).values.sum = t.values.sum + 1 := by
  have h := Table.total_insert (f := id) t label (under t label + 1)
  simp only [Table.total, List.map_id, Option.map_id, id_eq] at h
  unfold bump
  rw [← under]
  change _ + under t label = _ at h
  omega

/-- Makes a recording. -/
def enter (c : Counters) (r : Recording) : Counters :=
  match r.tally with
  | .failure reason => c.recordFailure reason
  | .startup => c.recordStartup r.elapsed
  | .added status => c.recordAdd status r.elapsed
  | .deleted status => c.recordDelete status

def enterAll (c : Counters) (rs : List Recording) : Counters := rs.foldl enter c

/-- A table's counts, each label as often as it was counted. -/
def talliesOf (kind : String → Tally) (t : Table Nat) : List Tally :=
  t.entries.flatMap fun e => List.replicate e.2 (kind e.1)

/-- All that was counted; the end of a request comes last. -/
def tallies (c : Counters) : List Tally :=
  talliesOf .failure c.failures ++ List.replicate c.startupDuration.count .startup ++
    talliesOf .added c.added ++ talliesOf .deleted c.deleted

/-- How often the counters say that something was counted. -/
def reading (c : Counters) : Tally → Nat
  | .failure reason => under c.failures reason
  | .startup => c.startupDuration.count
  | .added status => under c.added status
  | .deleted status => under c.deleted status

variable {c : Counters} {rs rs' : List Recording}

theorem reading_enter (c : Counters) (r : Recording) (t : Tally) :
    (c.enter r).reading t = c.reading t + if r.tally = t then 1 else 0 := by
  obtain ⟨tally, elapsed⟩ := r
  cases tally with
  | startup => cases t <;> rfl
  | failure reason =>
    cases t with
    | failure k =>
      simp only [Tally.failure.injEq]
      exact under_bump c.failures reason k
    | _ => rfl
  | added status =>
    cases t with
    | added k =>
      simp only [Tally.added.injEq]
      exact under_bump c.added status k
    | _ => rfl
  | deleted status =>
    cases t with
    | deleted k =>
      simp only [Tally.deleted.injEq]
      exact under_bump c.deleted status k
    | _ => rfl

/-- What the counters say when these recordings were made, in whatever order. -/
structure Tell (c : Counters) (rs : List Recording) : Prop where
  reading : ∀ t, c.reading t = (rs.map (·.tally)).count t
  added : c.added.values.sum = (rs.map (·.tally)).countP Tally.isAdded
  deleted : c.deleted.values.sum = (rs.map (·.tally)).countP Tally.isDeleted
  addDuration : c.addDuration.Tells (Recording.spans Tally.isAdded rs)
  startupDuration : c.startupDuration.Tells (Recording.spans Tally.isStartup rs)

theorem tell_zero : zero.Tell [] where
  reading t := by cases t <;> rfl
  added := rfl
  deleted := rfl
  addDuration := Histogram.tells_durations
  startupDuration := Histogram.tells_durations

theorem Tell.perm (h : c.Tell rs) (hperm : rs.Perm rs') : c.Tell rs' where
  reading t := (h.reading t).trans ((hperm.map _).count_eq t)
  added := h.added.trans ((hperm.map _).countP_eq _)
  deleted := h.deleted.trans ((hperm.map _).countP_eq _)
  addDuration := h.addDuration.perm ((hperm.filter _).map _)
  startupDuration := h.startupDuration.perm ((hperm.filter _).map _)

theorem Tell.enter (h : c.Tell rs) (r : Recording) : (c.enter r).Tell (rs ++ [r]) := by
  have hreading : ∀ t, (c.enter r).reading t = ((rs ++ [r]).map (·.tally)).count t := by
    intro t
    rw [reading_enter, h.reading, List.map_append, List.count_append, List.map_singleton,
      List.count_singleton]
    simp only [beq_iff_eq]
  obtain ⟨tally, elapsed⟩ := r
  refine ⟨hreading, ?_, ?_, ?_, ?_⟩
  · rw [List.map_append, List.countP_append, ← h.added]
    cases tally with
    | added status => exact sum_bump c.added status
    | _ => rfl
  · rw [List.map_append, List.countP_append, ← h.deleted]
    cases tally with
    | deleted status => exact sum_bump c.deleted status
    | _ => rfl
  · rw [Recording.spans_append_singleton]
    cases tally with
    | added status => exact h.addDuration.observe elapsed
    | _ => exact h.addDuration
  · rw [Recording.spans_append_singleton]
    cases tally with
    | startup => exact h.startupDuration.observe elapsed
    | _ => exact h.startupDuration

theorem Tell.enterAll (h : c.Tell rs) (more : List Recording) :
    (c.enterAll more).Tell (rs ++ more) := by
  induction more generalizing c rs with
  | nil => exact (List.append_nil rs).symm ▸ h
  | cons r more ih =>
    have hrest := ih (h.enter r)
    rwa [List.append_assoc] at hrest

end Counters

end RunnerFleet

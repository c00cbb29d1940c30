import RunnerFleet.Proofs.Coordinator.Sweeps
import RunnerFleet.Proofs.Fleet.Stores
import RunnerFleet.Proofs.Store.Replacement
import RunnerFleet.Settings

/-!
# How long a runner is spared

The store keeps of each runner what the last snapshot of its agent says, and nothing of what earlier
ones said (`Store.Recorded`). A sweep has only that to go by: it takes a runner that is in error now
and was created longer ago than the grace period (`Coordinator.sweeps_aged_failures`). When the
runner failed makes no difference, so one that fails late in its life is swept at once
(`Coordinator.late_failure_not_spared`).
-/

namespace RunnerFleet

/-! ## Snapshots that were taken -/

/-- A snapshot that the coordinator has taken: when it came, whose it is and what it lists. -/
structure TakenSnapshot where
  moment : UInt64
  agent : AgentId
  runners : List Runner
  deriving DecidableEq, Repr

/-- The agent's last snapshot lists the runner, in the end with this record, and no snapshot that
was taken since lists it. -/
def LastShown (taken : List TakenSnapshot) (agent : AgentId) (id : RunnerId) (runner : Runner) :
    Prop :=
  ∃ before t after, taken = before ++ t :: after ∧ t.agent = agent ∧
    Store.LastListed t.runners id runner ∧
    ∀ later ∈ after, later.agent ≠ agent ∧ id ∉ later.runners.map Runner.id

theorem LastShown.append_singleton {taken : List TakenSnapshot} {agent : AgentId} {id : RunnerId}
    {runner : Runner} (h : LastShown taken agent id runner) {t : TakenSnapshot}
    (hagent : t.agent ≠ agent) (hid : id ∉ t.runners.map Runner.id) :
    LastShown (taken ++ [t]) agent id runner := by
  obtain ⟨before, last, after, rfl, hlast, hlisted, hafter⟩ := h
  refine ⟨before, last, after ++ [t], by simp, hlast, hlisted, fun later hlater => ?_⟩
  rcases List.mem_append.1 hlater with hlater | hlater
  · exact hafter later hlater
  · rw [List.mem_singleton.1 hlater]
    exact ⟨hagent, hid⟩

namespace Store

variable {s s' : Store} {taken : List TakenSnapshot}

/-- A registered agent is marked online, and then its report is taken. -/
theorem exists_marked_report {agent : AgentId} (h : s.agents.contains agent = true)
    (reported : List Runner) :
    ∃ marked s', s.setAgentStatus agent .online = (marked, .ok ()) ∧
      marked.report agent reported = (s', .ok ()) := by
  obtain ⟨a, ha⟩ := Table.contains_iff.1 h
  obtain ⟨marked, hmarked⟩ : ∃ marked, s.setAgentStatus agent .online = (marked, .ok ()) :=
    ⟨_, setAgentStatus_eq_ok_iff.2 ⟨a, ha, rfl⟩⟩
  have hknown : marked.agents.contains agent = true := by
    obtain ⟨x, -, rfl⟩ := setAgentStatus_eq_ok_iff.1 hmarked
    rw [Table.contains, Table.get?_insert, if_pos rfl]
    rfl
  exact ⟨marked, _, hmarked, report_eq_ok_iff.2 ⟨hknown, rfl⟩⟩

/-- Each record is the last one that the runner's agent has sent. -/
def Recorded (s : Store) (taken : List TakenSnapshot) : Prop :=
  ∀ id runner agent, s.runners.get? id = some runner → s.owners.get? id = some agent →
    LastShown taken agent id runner

theorem Recorded.of_tables (h : s.Recorded taken) (hrunners : s'.runners = s.runners)
    (howners : s'.owners = s.owners) : s'.Recorded taken := by
  intro id runner agent hrunner howner
  exact h id runner agent (hrunners ▸ hrunner) (howners ▸ howner)

theorem Recorded.report (h : s.Recorded taken) {agent : AgentId} {reported : List Runner}
    (hs : s.report agent reported = (s', .ok ())) (moment : UInt64) :
    s'.Recorded (taken ++ [⟨moment, agent, reported⟩]) := by
  intro id runner owner hrunner howner
  rw [get?_runners_report hs] at hrunner
  rw [get?_owners_report hs] at howner
  by_cases hlisted : id ∈ reported.map Runner.id
  · obtain ⟨last, hlast⟩ := exists_lastListed hlisted
    rw [find?_reverse_eq_some_iff.2 hlast, Option.some_or] at hrunner
    rw [if_pos (any_id_eq_true_iff.2 hlisted)] at howner
    obtain rfl := Option.some.inj hrunner
    obtain rfl := Option.some.inj howner
    exact ⟨taken, _, [], rfl, rfl, hlast, List.forall_mem_nil _⟩
  · rw [find?_reverse_eq_none hlisted, Option.none_or] at hrunner
    rw [if_neg (any_id_eq_true_iff.not.2 hlisted)] at howner
    -- the agent's other runners are gone, so what is left belongs to another agent
    split at hrunner
    · cases hrunner
    · next hother =>
      rw [if_neg hother] at howner
      have hagent : agent ≠ owner := fun heq => hother (heq ▸ howner)
      exact (h id runner owner hrunner howner).append_singleton hagent hlisted

end Store

/-! ## What a snapshot leaves -/

namespace SyncStream

variable {c : Coordinator} {s : SyncStream} {snapshot : Wire.Snapshot}

/-- The agent whose report a snapshot on this stream is. -/
def reporter (c : Coordinator) (s : SyncStream) (snapshot : Wire.Snapshot) : AgentId :=
  (s.bind c snapshot).2.agentId

theorem store_onSnapshot_of_unknown
    (h : c.store.agents.contains (s.reporter c snapshot) = false) :
    (s.onSnapshot c snapshot).1.store = c.store := by
  have hunknown : c.store.agents.get? (s.reporter c snapshot) = none := by
    simpa [Table.contains] using h
  rcases hbind : s.bind c snapshot with ⟨c', b⟩
  have hsame : c'.store = c.store := (congrArg (·.1.store) hbind).symm.trans store_bind
  have hagent : s.reporter c snapshot = b.agentId := congrArg (·.2.agentId) hbind
  rw [hagent] at hunknown
  simp only [onSnapshot, hbind, Store.setAgentStatus, hsame, hunknown, refuse]

theorem store_onSnapshot_of_known (h : c.store.agents.contains (s.reporter c snapshot) = true) :
    ∃ marked store, c.store.setAgentStatus (s.reporter c snapshot) .online = (marked, .ok ()) ∧
      marked.report (s.reporter c snapshot) (snapshot.runners.map (·.toRunner)) = (store, .ok ()) ∧
      store.Next (s.onSnapshot c snapshot).1.store ∧
      (s.onSnapshot c snapshot).1.store.runners = store.runners ∧
      (s.onSnapshot c snapshot).1.store.owners = store.owners := by
  rcases hbind : s.bind c snapshot with ⟨c', b⟩
  have hsame : c'.store = c.store := (congrArg (·.1.store) hbind).symm.trans store_bind
  have hagent : s.reporter c snapshot = b.agentId := congrArg (·.2.agentId) hbind
  rw [hagent] at h ⊢
  obtain ⟨marked, store, hmarked, hreport⟩ :=
    Store.exists_marked_report h (snapshot.runners.map (·.toRunner))
  refine ⟨marked, store, hmarked, hreport, ?_⟩
  simp only [onSnapshot, hbind, hsame, hmarked, reconcile, hreport]
  split
  · exact ⟨.same, rfl, rfl⟩
  · have hfinish := next_finish { c' with store, outbox := (c'.outbox.next b.agentId).1 }
      { s with binding := some b }
    exact ⟨hfinish, tables_finish⟩

end SyncStream

/-! ## Ages -/

namespace Sweep

theorem takes_eq_true_iff {now graceMillis : UInt64} {runner : Runner} :
    takes now graceMillis runner = true ↔
      runner.state = .error ∧ runner.createdAt.toNat + graceMillis.toNat < now.toNat := by
  unfold takes
  rw [Bool.and_eq_true, beq_iff_eq, decide_eq_true_iff, gt_iff_lt, UInt64.lt_iff_toNat_lt]
  refine and_congr_right fun _ => ?_
  split
  · next hearly =>
    rw [UInt64.lt_iff_toNat_lt] at hearly
    have hzero : (0 : UInt64).toNat = 0 := rfl
    omega
  · next hlate =>
    have hle := UInt64.not_lt.1 hlate
    rw [UInt64.toNat_sub_of_le _ _ hle]
    rw [UInt64.le_iff_toNat_le] at hle
    omega

/-- A grace period of whole seconds, as long as its milliseconds fit in 64 bits. -/
theorem toNat_graceMillis {seconds : UInt64} (h : seconds.toNat * 1000 < UInt64.size) :
    (graceMillis (secondsOf seconds)).toNat = seconds.toNat * 1000 := by
  have hmillis : (secondsOf seconds).millis = seconds.toNat * 1000 := by
    simp only [secondsOf, Span.ofSecs, Span.millis]
    omega
  rw [graceMillis, hmillis]
  exact UInt64.toNat_ofNat_of_lt' h

/-- Of a longer one little is left. -/
example : graceMillis (secondsOf 18446744073709552) = 384 := by decide

end Sweep

/-! ## Runs -/

namespace Coordinator

/-- What may happen to a coordinator. -/
inductive Happening where
  | register (minted : AgentId) (r : Wire.Registration)
  | snapshot (stream : SyncStream) (s : Wire.Snapshot)
  | hangUp (stream : SyncStream)
  | sweep
  /-- Its other tasks leave the agents and the runners alone; all else becomes as it is in `c'`. -/
  | beside (c' : Coordinator)

variable {c : Coordinator} {moment now : UInt64} {grace : Span} {agent : AgentId} {id : RunnerId}

/-- The coordinator after what happens at some moment of the wall clock. -/
def onHappening (grace : Span) (c : Coordinator) (moment : UInt64) : Happening → Coordinator
  | .register minted r => c.register minted r
  | .snapshot stream s => (stream.onSnapshot c s).1
  | .hangUp stream => (stream.finish c).1
  | .sweep => (c.sweep moment grace).1
  | .beside c' => { c' with store := { c.store with cloudIds := c'.store.cloudIds } }

/-- A snapshot is taken if its agent is registered. -/
def takenSnapshots (c : Coordinator) (moment : UInt64) : Happening → List TakenSnapshot
  | .snapshot stream s =>
    if c.store.agents.contains (stream.reporter c s) then
      [⟨moment, stream.reporter c s, s.runners.map (·.toRunner)⟩]
    else []
  | _ => []

/-- A coordinator with the snapshots that it has taken, oldest first. -/
structure Chronicle where
  coordinator : Coordinator
  taken : List TakenSnapshot

namespace Chronicle

def start : Chronicle := ⟨initial, []⟩

def next (grace : Span) (h : Chronicle) (x : UInt64 × Happening) : Chronicle :=
  ⟨h.coordinator.onHappening grace x.1 x.2, h.taken ++ h.coordinator.takenSnapshots x.1 x.2⟩

/-- After all that happened, each at its moment. -/
def after (grace : Span) (xs : List (UInt64 × Happening)) : Chronicle := xs.foldl (next grace) start

theorem after_append_singleton (grace : Span) (xs : List (UInt64 × Happening))
    (x : UInt64 × Happening) : after grace (xs ++ [x]) = (after grace xs).next grace x := by
  simp only [after, List.foldl_append, List.foldl_cons, List.foldl_nil]

/-- The tables agree, and the records are the last ones that the agents have sent. -/
structure Sound (h : Chronicle) : Prop where
  linked : h.coordinator.store.Linked
  recorded : h.coordinator.store.Recorded h.taken

/-- Where no snapshot is taken, the runners and their agents have to stay as they are. -/
theorem Sound.next_of_untaken {h : Chronicle} (hsound : h.Sound) {x : UInt64 × Happening}
    (hnone : h.coordinator.takenSnapshots x.1 x.2 = [])
    (hlinked : (h.coordinator.onHappening grace x.1 x.2).store.Linked)
    (hrunners : (h.coordinator.onHappening grace x.1 x.2).store.runners =
      h.coordinator.store.runners)
    (howners : (h.coordinator.onHappening grace x.1 x.2).store.owners =
      h.coordinator.store.owners) : (h.next grace x).Sound := by
  refine ⟨hlinked, ?_⟩
  rw [next, hnone, List.append_nil]
  exact hsound.recorded.of_tables hrunners howners

theorem Sound.next_snapshot {h : Chronicle} (hsound : h.Sound) (grace : Span) (moment : UInt64)
    (stream : SyncStream) (s : Wire.Snapshot) :
    (h.next grace (moment, .snapshot stream s)).Sound := by
  cases hknown : h.coordinator.store.agents.contains (stream.reporter h.coordinator s) with
  | false =>
    have hsame := SyncStream.store_onSnapshot_of_unknown hknown
    refine hsound.next_of_untaken ?_ ?_ (congrArg Store.runners hsame)
      (congrArg Store.owners hsame)
    · exact if_neg (hknown ▸ Bool.false_ne_true)
    · exact hsame.symm ▸ hsound.linked
  | true =>
    obtain ⟨marked, store, hmarked, hreport, hnext, hrunners, howners⟩ :=
      SyncStream.store_onSnapshot_of_known hknown
    have hlinked := hsound.linked.setAgentStatus hmarked
    have hrecorded : marked.Recorded h.taken := by
      obtain ⟨a, -, rfl⟩ := Store.setAgentStatus_eq_ok_iff.1 hmarked
      exact hsound.recorded
    refine ⟨(hlinked.report hreport).next hnext, ?_⟩
    simp only [next, takenSnapshots, if_pos hknown]
    exact (hrecorded.report hreport moment).of_tables hrunners howners

theorem Sound.next {h : Chronicle} (hsound : h.Sound) (grace : Span) (x : UInt64 × Happening) :
    (h.next grace x).Sound := by
  have hlinked := hsound.linked
  obtain ⟨moment, happening⟩ := x
  cases happening with
  | register minted r => exact hsound.next_of_untaken rfl (hlinked.registerAgent _) rfl rfl
  | snapshot stream s => exact hsound.next_snapshot grace moment stream s
  | hangUp stream =>
    obtain ⟨hrunners, howners⟩ := SyncStream.tables_finish (c := h.coordinator) (s := stream)
    exact hsound.next_of_untaken rfl (hlinked.next (SyncStream.next_finish _ _)) hrunners howners
  | sweep =>
    obtain ⟨outbox, hsweep, -⟩ := sweep_eq hlinked moment grace
    have hstore : (h.coordinator.sweep moment grace).1.store = h.coordinator.store :=
      congrArg (·.1.store) hsweep
    refine hsound.next_of_untaken rfl ?_ (congrArg Store.runners hstore)
      (congrArg Store.owners hstore)
    exact hstore.symm ▸ hlinked
  | beside c' =>
    exact hsound.next_of_untaken rfl ⟨hlinked.1, hlinked.2, hlinked.3, hlinked.4⟩ rfl rfl

theorem sound_after (grace : Span) (xs : List (UInt64 × Happening)) : (after grace xs).Sound := by
  induction xs using List.reverseRecOn with
  | nil => exact ⟨.empty, nofun⟩
  | append_singleton xs x ih =>
    rw [after_append_singleton]
    exact ih.next grace x

end Chronicle

/-! ## What a sweep goes by -/

/-- A sweep at the moment puts the runner's deletion at the end of the agent's queue. -/
def QueuesDeletion (c : Coordinator) (now : UInt64) (grace : Span) (agent : AgentId)
    (id : RunnerId) : Prop :=
  ∃ queued, (c.sweep now grace).1.outbox.queueOf agent = c.outbox.queueOf agent ++ queued ∧
    Sweep.deletion id ∈ queued

/-- What a sweep queues for an agent is the deletion of one of its runners that it takes. -/
theorem QueuesDeletion.exists_taken (h : c.QueuesDeletion now grace agent id)
    (hlinked : c.store.Linked) :
    ∃ runner, c.store.runners.get? id = some runner ∧ c.store.owners.get? id = some agent ∧
      Sweep.takes now (Sweep.graceMillis grace) runner = true := by
  obtain ⟨queued, hqueued, hid⟩ := h
  obtain ⟨outbox, hsweep, hqueues⟩ := sweep_eq hlinked now grace
  rw [hsweep] at hqueued
  have hsame := List.append_cancel_left ((hqueues agent).symm.trans hqueued)
  rw [← hsame] at hid
  obtain ⟨runner, hrunner, hdeletion⟩ := List.mem_map.1 hid
  obtain rfl := Sweep.deletion_inj.1 hdeletion
  obtain ⟨hfresh, howner⟩ := List.mem_filter.1 hrunner
  obtain ⟨hlisted, htakes⟩ := List.mem_filter.1 (List.mem_filter.1 hfresh).1
  exact ⟨runner, hlinked.runners_filed.mem_values.1 hlisted, eq_of_beq howner, htakes⟩

/-- Of a runner whose deletion a sweep queues for an agent, this agent's last snapshot says that it
is in error, no snapshot that was taken since lists it, and it was created more than the grace
period before the sweep. -/
theorem sweeps_aged_failures (settings : CoordinatorSettings) (xs : List (UInt64 × Happening))
    (now : UInt64) (agent : AgentId) (id : RunnerId)
    (hgrace : settings.graceSeconds.toNat * 1000 < UInt64.size)
    (hqueues : (Chronicle.after settings.gracePeriod xs).coordinator.QueuesDeletion now
      settings.gracePeriod agent id) :
    ∃ runner, LastShown (Chronicle.after settings.gracePeriod xs).taken agent id runner ∧
      runner.state = .error ∧
      runner.createdAt.toNat + settings.graceSeconds.toNat * 1000 < now.toNat := by
  have hsound := Chronicle.sound_after settings.gracePeriod xs
  obtain ⟨runner, hrunner, howner, htakes⟩ := hqueues.exists_taken hsound.linked
  obtain ⟨herror, hage⟩ := Sweep.takes_eq_true_iff.1 htakes
  rw [CoordinatorSettings.gracePeriod, Sweep.toNat_graceMillis hgrace] at hage
  exact ⟨runner, hsound.recorded id runner agent hrunner howner, herror, hage⟩

/-- A runner is created, runs for an hour and fails. -/
def lateFailure : List (UInt64 × Happening) :=
  let snapshot (state : RunnerState) : Happening :=
    .snapshot .opened ⟨"a1", 1,
      [⟨"r1", "ci", "a1", Wire.codeOfState state, "192.168.64.3", 1000, "", 0⟩]⟩
  [(1000, .register "a1" ⟨"mini-1", some ⟨2, 8, 17179869184⟩⟩), (3601000, snapshot .running),
    (3602000, snapshot .error)]

theorem queuesDeletion_lateFailure :
    (Chronicle.after CoordinatorSettings.initial.gracePeriod lateFailure).coordinator.QueuesDeletion
      3603000 CoordinatorSettings.initial.gracePeriod "a1" "r1" :=
  ⟨[Sweep.deletion "r1"], by decide +kernel, List.mem_singleton_self _⟩

theorem sweeps_aged_failures_late :
    ∃ runner, LastShown
        (Chronicle.after CoordinatorSettings.initial.gracePeriod lateFailure).taken "a1" "r1"
        runner ∧
      runner.state = .error ∧ runner.createdAt.toNat + 300000 < 3603000 :=
  sweeps_aged_failures .initial lateFailure 3603000 "a1" "r1" (by decide)
    queuesDeletion_lateFailure

/-- No snapshot of the grace period shows the runner in another state than error. -/
def FailedThroughout (taken : List TakenSnapshot) (now : UInt64) (grace : Span) (id : RunnerId) :
    Prop :=
  ∀ t ∈ taken, ∀ runner ∈ t.runners, runner.id = id → runner.state ≠ .error →
    t.moment.toNat + grace.millis < now.toNat

/-- A runner can be swept within the grace period of its failure. -/
theorem late_failure_not_spared :
    ¬ ∀ (settings : CoordinatorSettings) (xs : List (UInt64 × Happening)) (now : UInt64)
      (agent : AgentId) (id : RunnerId), (xs.map Prod.fst ++ [now]).Pairwise (· ≤ ·) →
      (Chronicle.after settings.gracePeriod xs).coordinator.QueuesDeletion now
        settings.gracePeriod agent id →
      FailedThroughout (Chronicle.after settings.gracePeriod xs).taken now settings.gracePeriod
        id := by
  intro h
  have hfailed := h .initial lateFailure 3603000 "a1" "r1" (by decide) queuesDeletion_lateFailure
  have hrunning : ∃ t ∈ (Chronicle.after CoordinatorSettings.initial.gracePeriod lateFailure).taken,
      t.moment = 3601000 ∧ ∃ runner ∈ t.runners, runner.id = "r1" ∧ runner.state = .running := by
    decide +kernel
  obtain ⟨t, ht, hmoment, runner, hrunner, hid, hstate⟩ := hrunning
  have hlate := hfailed t ht runner hrunner hid (hstate ▸ nofun)
  rw [hmoment] at hlate
  exact absurd hlate (by decide)

end Coordinator

end RunnerFleet

import RunnerFleet.Proofs.Sync.Run

/-!
# Which streams of an agent count

The stream that named an agent last is the live one for as long as it is open (`Bound.live`), and
its end is the only one that marks the agent offline. What the coordinator believes of an agent is
therefore a function of the history alone (`standing`): the agent is online from each snapshot of
any of its streams on, and offline from the end of the newest one on. Once all of them have ended
none is live, and the agent is offline unless an older stream has outlived the newest one and
brought another snapshot (`ended_streams`).
-/

namespace RunnerFleet

/-! ## What the history says -/

/-- What the history says of an agent. -/
structure Standing where
  /-- The stream that named the agent last. -/
  newest : Option Nat
  /-- The agent's status, once it is registered. -/
  status : Option AgentStatus
  deriving DecidableEq, Repr

namespace Standing

/-- What is said of the agent after one more deed. -/
def after (agent : AgentId) (x : Standing) : SyncDeed → Standing
  | .registered a => if a = agent then { x with status := some .online } else x
  | .named i a => if a = agent then { x with newest := some i } else x
  | .marked _ a => if a = agent then { x with status := some .online } else x
  | .ended i => if x.newest = some i then { x with status := some .offline } else x
  | _ => x

end Standing

/-- What some deeds say of the agent. -/
def standing (agent : AgentId) (ds : List SyncDeed) : Standing :=
  ds.foldl (Standing.after agent) ⟨none, none⟩

section Standing

variable {agent : AgentId} {ds es : List SyncDeed}

theorem standing_append (ds es : List SyncDeed) :
    standing agent (ds ++ es) = es.foldl (Standing.after agent) (standing agent ds) := by
  simp only [standing, List.foldl_append]

/-- Only a deed that names the agent changes which stream did so last. -/
theorem newest_foldl (h : ∀ i, .named i agent ∉ es) (x : Standing) :
    (es.foldl (Standing.after agent) x).newest = x.newest := by
  induction es generalizing x with
  | nil => rfl
  | cons d rest ih =>
    rw [List.foldl_cons, ih fun i hi => h i (List.mem_cons_of_mem d hi)]
    cases d with
    | named i a =>
      have hne : a ≠ agent := fun heq => h i (heq ▸ List.mem_cons_self)
      simp only [Standing.after, if_neg hne]
    | registered a =>
      simp only [Standing.after]
      split <;> rfl
    | marked i a =>
      simp only [Standing.after]
      split <;> rfl
    | ended i =>
      simp only [Standing.after]
      split <;> rfl
    | _ => rfl

theorem newest_append (h : ∀ i, .named i agent ∉ es) :
    (standing agent (ds ++ es)).newest = (standing agent ds).newest := by
  rw [standing_append, newest_foldl h]

/-- Whether the deeds put the agent online. -/
def Raised (agent : AgentId) (ds : List SyncDeed) : Prop :=
  .registered agent ∈ ds ∨ ∃ i, .marked i agent ∈ ds

theorem raised_append_singleton {d : SyncDeed} : Raised agent (ds ++ [d]) ↔
    Raised agent ds ∨ d = .registered agent ∨ ∃ i, d = .marked i agent := by
  simp only [Raised, List.mem_append, List.mem_singleton, eq_comm (b := d)]
  grind

/-- While the agent's newest stream stays the same and does not end, nothing puts the agent
offline. -/
theorem status_foldl {n : Nat} (hnamed : ∀ i, .named i agent ∉ es) (hended : .ended n ∉ es)
    {x : Standing} (hx : x.newest = some n) :
    (Raised agent es → (es.foldl (Standing.after agent) x).status = some .online) ∧
      (¬ Raised agent es → (es.foldl (Standing.after agent) x).status = x.status) := by
  induction es using List.reverseRecOn with
  | nil => exact ⟨fun h => by simp [Raised] at h, fun _ => rfl⟩
  | append_singleton es d ih =>
    have hnamed' : ∀ i, .named i agent ∉ es := fun i hi => hnamed i (List.mem_append_left _ hi)
    have hnewest := (newest_foldl hnamed' x).trans hx
    have ih := ih hnamed' fun h => hended (List.mem_append_left _ h)
    rw [raised_append_singleton, List.foldl_append, List.foldl_cons, List.foldl_nil]
    cases d with
    | registered a =>
      by_cases ha : a = agent
      · simp [Standing.after, ha]
      · simpa [Standing.after, ha] using ih
    | marked i a =>
      by_cases ha : a = agent
      · simp [Standing.after, ha]
      · simpa [Standing.after, ha] using ih
    | named i a =>
      have ha : a ≠ agent := fun ha => hnamed i (ha ▸ List.mem_append_right es List.mem_cons_self)
      simpa [Standing.after, ha] using ih
    | ended j =>
      have hj : n ≠ j := fun hj => hended (hj ▸ List.mem_append_right es List.mem_cons_self)
      simpa [Standing.after, hnewest, hj] using ih
    | _ => simpa [Standing.after] using ih

end Standing

/-! ## Bindings -/

namespace SyncRun

/-- The stream with this number has the binding. -/
def Holds (r : SyncRun) (i : Nat) (b : StreamBinding) : Prop :=
  ∃ l, r.links[i]? = some l ∧ l.stream.binding = some b

/-- The stream has the binding, and the coordinator has not ended it. -/
def Keeps (r : SyncRun) (i : Nat) (b : StreamBinding) : Prop :=
  ∃ l, r.links[i]? = some l ∧ l.stream.binding = some b ∧ l.stream.closed = false

variable {r r' : SyncRun} {i : Nat} {b b' : StreamBinding}

theorem Keeps.holds (h : r.Keeps i b) : r.Holds i b := by
  obtain ⟨l, hl, hb, -⟩ := h
  exact ⟨l, hl, hb⟩

theorem Holds.unique (h : r.Holds i b) (h' : r.Holds i b') : b = b' := by
  obtain ⟨l, hl, hb⟩ := h
  obtain ⟨m, hm, hb'⟩ := h'
  obtain rfl := Option.some.inj (hl.symm.trans hm)
  exact Option.some.inj (hb.symm.trans hb')

/-- Of the streams, the agents' live ones are the newest ones that are open. -/
structure Bound (r : SyncRun) : Prop where
  fresh : ∀ i b, r.Holds i b → b.generation ≤ r.coordinator.streams.lastGeneration
  distinct : ∀ i j b b', r.Holds i b → r.Holds j b' → b.generation = b'.generation → i = j
  newest : ∀ agent n, (standing agent r.deeds).newest = some n →
    ∃ b, r.Holds n b ∧ b.agentId = agent
  live : ∀ agent g, r.coordinator.streams.live.get? agent = some g ↔
    ∃ n, (standing agent r.deeds).newest = some n ∧ r.Keeps n ⟨agent, g⟩

namespace Bound

theorem start : SyncRun.start.Bound := by
  refine ⟨?_, ?_, ?_, ?_⟩
  · rintro i b ⟨l, hl, -⟩
    cases hl
  · rintro i j b b' ⟨l, hl, -⟩
    cases hl
  · intro agent n hn
    cases hn
  · intro agent g
    constructor
    · intro h
      cases h
    · rintro ⟨n, hn, -⟩
      cases hn

/-- A step that neither binds nor ends a stream. -/
theorem still (h : r.Bound) (hstreams : r'.coordinator.streams = r.coordinator.streams)
    (hholds : ∀ j b, r'.Holds j b ↔ r.Holds j b) (hkeeps : ∀ j b, r'.Keeps j b ↔ r.Keeps j b)
    (hnewest : ∀ agent,
      (standing agent r'.deeds).newest = (standing agent r.deeds).newest) : r'.Bound := by
  refine ⟨fun i b hb => ?_, fun i j b b' hb hb' => ?_, fun agent n hn => ?_, fun agent g => ?_⟩
  · rw [hstreams]
    exact h.fresh i b ((hholds i b).1 hb)
  · exact h.distinct i j b b' ((hholds i b).1 hb) ((hholds j b').1 hb')
  · rw [hnewest] at hn
    obtain ⟨b, hb, hagent⟩ := h.newest agent n hn
    exact ⟨b, (hholds n b).2 hb, hagent⟩
  · rw [hstreams, h.live]
    simp only [hnewest, hkeeps]

/-- The first snapshot of a stream makes it the live one of the agent that it names. -/
theorem bind (h : r.Bound) (i : Nat) (agent : AgentId)
    (hfirst : ∀ b, ¬ r.Holds i b)
    (hstreams : r'.coordinator.streams = (r.coordinator.streams.attach agent).1)
    (hholds : ∀ j b, r'.Holds j b ↔ r.Holds j b ∨
      j = i ∧ b = ⟨agent, r.coordinator.streams.lastGeneration + 1⟩)
    (hkeeps : ∀ j b, r'.Keeps j b ↔ r.Keeps j b ∨
      j = i ∧ b = ⟨agent, r.coordinator.streams.lastGeneration + 1⟩)
    (hnewest : ∀ a, (standing a r'.deeds).newest =
      if agent = a then some i else (standing a r.deeds).newest) : r'.Bound := by
  have hlast : r'.coordinator.streams.lastGeneration =
      r.coordinator.streams.lastGeneration + 1 := by rw [hstreams, Streams.attach]
  refine ⟨fun j b hb => ?_, fun j k b b' hb hb' heq => ?_, fun a n hn => ?_, fun a g => ?_⟩
  · rw [hlast]
    rcases (hholds j b).1 hb with hold | ⟨-, rfl⟩
    · exact Nat.le_succ_of_le (h.fresh j b hold)
    · exact Nat.le_refl _
  · rcases (hholds j b).1 hb with hold | ⟨rfl, rfl⟩ <;>
      rcases (hholds k b').1 hb' with hold' | ⟨rfl, rfl⟩
    · exact h.distinct j k b b' hold hold' heq
    · -- the new generation is above all others
      have hle := h.fresh j b hold
      simp only at heq
      omega
    · have hle := h.fresh k b' hold'
      simp only at heq
      omega
    · rfl
  · rw [hnewest] at hn
    split at hn
    · next heq =>
      cases hn
      exact ⟨_, (hholds i _).2 (.inr ⟨rfl, rfl⟩), heq⟩
    · obtain ⟨b, hb, hagent⟩ := h.newest a n hn
      exact ⟨b, (hholds n b).2 (.inl hb), hagent⟩
  · rw [hstreams, Streams.attach, Table.get?_insert, hnewest]
    by_cases ha : a = agent
    · subst ha
      rw [if_pos rfl, if_pos rfl]
      constructor
      · intro hg
        cases hg
        exact ⟨i, rfl, (hkeeps i _).2 (.inr ⟨rfl, rfl⟩)⟩
      · rintro ⟨n, hn, hkept⟩
        cases hn
        rcases (hkeeps i _).1 hkept with hold | ⟨-, hb⟩
        · exact absurd hold.holds (hfirst _)
        · cases hb
          rfl
    · rw [if_neg ha, if_neg (Ne.symm ha), h.live]
      refine exists_congr fun n => and_congr_right fun _ => ?_
      rw [hkeeps]
      refine ⟨.inl, fun hkept => hkept.resolve_right ?_⟩
      rintro ⟨-, hb⟩
      cases hb
      exact ha rfl

/-- The end of a stream takes it out of the live ones, if it was among them. -/
theorem close (h : r.Bound) (hb : r.Holds i b)
    (hstreams : r'.coordinator.streams =
      (r.coordinator.streams.detach b.agentId b.generation).1)
    (hholds : ∀ j b, r'.Holds j b ↔ r.Holds j b)
    (hkeeps : ∀ j b, r'.Keeps j b ↔ r.Keeps j b ∧ j ≠ i)
    (hnewest : ∀ agent,
      (standing agent r'.deeds).newest = (standing agent r.deeds).newest) : r'.Bound := by
  have hlive : ∀ agent g, r'.coordinator.streams.live.get? agent = some g ↔
      r.coordinator.streams.live.get? agent = some g ∧ (⟨agent, g⟩ : StreamBinding) ≠ b := by
    intro agent g
    obtain ⟨owner, generation⟩ := b
    rw [hstreams, Streams.detach]
    split <;> simp only [Table.get?_erase] <;> grind
  have hlast : r'.coordinator.streams.lastGeneration =
      r.coordinator.streams.lastGeneration := by
    rw [hstreams, Streams.detach]
    split <;> rfl
  refine ⟨fun j b hb => ?_, fun j k b b' hb hb' => ?_, fun agent n hn => ?_, fun agent g => ?_⟩
  · rw [hlast]
    exact h.fresh j b ((hholds j b).1 hb)
  · exact h.distinct j k b b' ((hholds j b).1 hb) ((hholds k b').1 hb')
  · rw [hnewest] at hn
    obtain ⟨b, hb, hagent⟩ := h.newest agent n hn
    exact ⟨b, (hholds n b).2 hb, hagent⟩
  · rw [hlive, h.live, ← exists_and_right]
    refine exists_congr fun n => ?_
    rw [hnewest, hkeeps, and_assoc]
    refine and_congr_right fun _ => and_congr_right fun hkept => not_congr ?_
    constructor
    · rintro rfl
      exact h.distinct n i _ _ hkept.holds hb rfl
    · rintro rfl
      exact hkept.holds.unique hb

end Bound

/-! ## Steps -/

section

variable {l l' : Link} {c' : Coordinator} {ds : List SyncDeed}

theorem holds_set (hl : r.links[i]? = some l) (hlinks : r'.links = r.links.set i l') (j : Nat)
    (b : StreamBinding) :
    r'.Holds j b ↔ if j = i then l'.stream.binding = some b else r.Holds j b := by
  simp only [Holds, hlinks, getElem?_set_eq_some hl]
  split
  · rw [exists_eq_left]
  · rfl

theorem keeps_set (hl : r.links[i]? = some l) (hlinks : r'.links = r.links.set i l') (j : Nat)
    (b : StreamBinding) :
    r'.Keeps j b ↔ if j = i then l'.stream.binding = some b ∧ l'.stream.closed = false
      else r.Keeps j b := by
  simp only [Keeps, hlinks, getElem?_set_eq_some hl]
  split
  · rw [exists_eq_left]
  · rfl

theorem holds_self (hl : r.links[i]? = some l) : r.Holds i b ↔ l.stream.binding = some b := by
  simp only [Holds, hl, Option.some.injEq, exists_eq_left']

theorem keeps_self (hl : r.links[i]? = some l) :
    r.Keeps i b ↔ l.stream.binding = some b ∧ l.stream.closed = false := by
  simp only [Keeps, hl, Option.some.injEq, exists_eq_left']

theorem holds_set_of_same (hl : r.links[i]? = some l) (hlinks : r'.links = r.links.set i l')
    (hbinding : l'.stream.binding = l.stream.binding) (j : Nat) (b : StreamBinding) :
    r'.Holds j b ↔ r.Holds j b := by
  rw [holds_set hl hlinks, hbinding]
  split
  · next hj => rw [hj, holds_self hl]
  · rfl

namespace Bound

/-- A step that keeps the stream's binding and its openness. -/
theorem still_set (h : r.Bound) (hl : r.links[i]? = some l)
    (hstreams : c'.streams = r.coordinator.streams)
    (hbinding : l'.stream.binding = l.stream.binding)
    (hclosed : l'.stream.closed = l.stream.closed) (hds : ∀ agent j, .named j agent ∉ ds) :
    Bound ⟨c', r.links.set i l', r.deeds ++ ds⟩ := by
  refine h.still hstreams (holds_set_of_same hl rfl hbinding) (fun j b => ?_) fun agent =>
    newest_append (hds agent)
  rw [keeps_set hl rfl, hbinding, hclosed]
  split
  · next hj => rw [hj, keeps_self hl]
  · rfl

/-- A step that ends the stream. -/
theorem close_set (h : r.Bound) (hl : r.links[i]? = some l)
    (hstreams : c'.streams = match l.stream.binding with
      | some b => (r.coordinator.streams.detach b.agentId b.generation).1
      | none => r.coordinator.streams)
    (hbinding : l'.stream.binding = l.stream.binding) (hclosed : l'.stream.closed = true)
    (hds : ∀ agent j, .named j agent ∉ ds) :
    Bound ⟨c', r.links.set i l', r.deeds ++ ds⟩ := by
  have hholds : ∀ j b, Holds ⟨c', r.links.set i l', r.deeds ++ ds⟩ j b ↔ r.Holds j b :=
    holds_set_of_same hl rfl hbinding
  have hkeeps : ∀ j b,
      Keeps ⟨c', r.links.set i l', r.deeds ++ ds⟩ j b ↔ r.Keeps j b ∧ j ≠ i := by
    intro j b
    rw [keeps_set hl rfl, hclosed]
    split <;> simp_all
  cases hb : l.stream.binding with
  | none =>
    rw [hb] at hstreams
    refine h.still hstreams hholds (fun j b => ?_) fun agent => newest_append (hds agent)
    rw [hkeeps]
    refine and_iff_left_of_imp fun hkept hj => ?_
    subst hj
    rw [keeps_self hl, hb] at hkept
    cases hkept.1
  | some b =>
    rw [hb] at hstreams
    exact h.close ((holds_self hl).2 hb) hstreams hholds hkeeps fun agent =>
      newest_append (hds agent)

/-- A step that binds the stream. -/
theorem bind_set (h : r.Bound) (hl : r.links[i]? = some l) (agent : AgentId)
    (hfirst : l.stream.binding = none)
    (hstreams : c'.streams = (r.coordinator.streams.attach agent).1)
    (hbinding : l'.stream.binding =
      some ⟨agent, r.coordinator.streams.lastGeneration + 1⟩)
    (hopen : l'.stream.closed = false)
    (hnewest : ∀ a, (standing a (r.deeds ++ ds)).newest =
      if agent = a then some i else (standing a r.deeds).newest) :
    Bound ⟨c', r.links.set i l', r.deeds ++ ds⟩ := by
  refine h.bind i agent (fun b hb => ?_) hstreams (fun j b => ?_) (fun j b => ?_) hnewest
  · rw [holds_self hl, hfirst] at hb
    cases hb
  · rw [holds_set hl rfl, hbinding]
    by_cases hj : j = i
    · subst hj
      rw [if_pos rfl, holds_self hl, hfirst]
      simp only [Option.some.injEq, reduceCtorEq, false_or, true_and, eq_comm]
    · simp [hj]
  · rw [keeps_set hl rfl, hbinding, hopen]
    by_cases hj : j = i
    · subst hj
      rw [if_pos rfl, keeps_self hl, hfirst]
      simp only [Option.some.injEq, reduceCtorEq, false_and, false_or, true_and, and_true, eq_comm]
    · simp [hj]

/-- The bindings after a step of one stream. -/
theorem change (h : r.Bound) (hl : r.links[i]? = some l)
    (hchange : l.Change i r.coordinator c' l' ds) :
    Bound ⟨c', r.links.set i l', r.deeds ++ ds⟩ := by
  cases hchange with
  | named s hidle hopen hfirst =>
    refine h.bind_set hl s.agentId hfirst rfl rfl hopen fun a => ?_
    rw [standing_append]
    simp only [List.foldl_cons, List.foldl_nil, Standing.after]
    split <;> rfl
  | refused s b hpoint hbinding hagent => exact h.close_set hl (by rw [hbinding]) rfl rfl (by simp)
  | missed command hpoint hdeaf =>
    exact h.close_set hl SyncStream.streams_finish rfl rfl (by simp)
  | ended hidle hopen => exact h.close_set hl SyncStream.streams_finish rfl rfl (by simp)
  | reported s b => exact h.still_set hl SyncStream.streams_reconcile rfl rfl (by simp)
  | none => exact h.still_set hl rfl rfl rfl (by simp)
  | deafened => exact h.still_set hl rfl rfl rfl (by simp)
  | heard s b => exact h.still_set hl rfl rfl rfl (by simp)
  | marked s b agent => exact h.still_set hl rfl rfl rfl (by simp)
  | popped b => exact h.still_set hl rfl rfl rfl (by simp)
  | replied command => exact h.still_set hl rfl rfl rfl (by simp)

end Bound

end

/-- What the coordinator holds of agents and streams, as the history says. -/
structure Attached (r : SyncRun) : Prop where
  bound : r.Bound
  /-- An open stream gets past the marking of its agent only if the agent is registered. -/
  known : ∀ (i : Nat) (l : Link) (b : StreamBinding), r.links[i]? = some l →
    l.stream.binding = some b → l.stream.closed = false → (∀ s, l.point ≠ .bound s) →
      r.coordinator.store.agents.contains b.agentId = true
  idle : ∀ (i : Nat) (l : Link), r.links[i]? = some l → l.stream.closed = true → l.point = .idle
  status : ∀ agent, (r.coordinator.store.agents.get? agent).map (·.status) =
    (standing agent r.deeds).status
  ended : ∀ i, .ended i ∈ r.deeds → ∃ l, r.links[i]? = some l ∧ l.stream.closed = true
  /-- A stream that has ended does nothing more. -/
  silent : r.deeds.Pairwise fun d e => ∀ i, d = .ended i → e.stream? ≠ some i

namespace Attached

theorem start : SyncRun.start.Attached := by
  refine ⟨.start, ?_, ?_, fun agent => rfl, ?_, .nil⟩
  · intro i l b hl
    cases hl
  · intro i l hl
    cases hl
  · intro i hi
    cases hi

/-- The end of an open stream that is past the marking puts its agent offline, if it is the
newest. -/
theorem status_finish (h : r.Attached) {l : Link} (hl : r.links[i]? = some l)
    (hopen : l.stream.closed = false) (hpoint : ∀ s, l.point ≠ .bound s) (agent : AgentId) :
    ((l.stream.finish r.coordinator).1.store.agents.get? agent).map (·.status) =
      if (standing agent r.deeds).newest = some i then some .offline
      else (standing agent r.deeds).status := by
  cases hbinding : l.stream.binding with
  | none =>
    have hother : (standing agent r.deeds).newest ≠ some i := by
      intro hn
      obtain ⟨b, hb, -⟩ := h.bound.newest agent i hn
      rw [holds_self hl, hbinding] at hb
      cases hb
    rw [SyncStream.finish_of_silent hbinding, if_neg hother, h.status]
  | some b =>
    have hholds : r.Holds i b := (holds_self hl).2 hbinding
    have howner : (standing agent r.deeds).newest = some i → agent = b.agentId := by
      intro hn
      obtain ⟨b', hb', hagent⟩ := h.bound.newest agent i hn
      rw [← hagent, hb'.unique hholds]
    have hlive : r.coordinator.streams.live.get? b.agentId = some b.generation ↔
        (standing b.agentId r.deeds).newest = some i := by
      rw [h.bound.live]
      constructor
      · rintro ⟨n, hn, hkept⟩
        rw [hn, h.bound.distinct n i _ _ hkept.holds hholds rfl]
      · intro hn
        exact ⟨i, hn, (keeps_self hl).2 ⟨hbinding, hopen⟩⟩
    rw [SyncStream.finish_of_bound hbinding, SyncStream.left]
    split
    · next hgeneration =>
      simp only [Table.get?_modify]
      by_cases ha : agent = b.agentId
      · subst ha
        obtain ⟨x, hx⟩ := Table.contains_iff.1 (h.known i l b hl hbinding hopen hpoint)
        rw [if_pos (hlive.1 hgeneration), if_pos rfl, hx]
        rfl
      · rw [if_neg ha, if_neg (mt howner ha), h.status]
    · next hgeneration =>
      have hother : (standing agent r.deeds).newest ≠ some i := by
        intro hn
        obtain rfl := howner hn
        exact hgeneration (hlive.2 hn)
      rw [if_neg hother, h.status]

section

variable {l l' : Link} {c' : Coordinator} {ds : List SyncDeed}

theorem known_change (h : r.Attached) (hl : r.links[i]? = some l)
    (hchange : l.Change i r.coordinator c' l' ds) {b : StreamBinding}
    (hb : l'.stream.binding = some b) (hopen : l'.stream.closed = false)
    (hpast : ∀ s, l'.point ≠ .bound s) :
    c'.store.agents.contains b.agentId = true := by
  rw [hchange.contains]
  have hknown := h.known i l b hl
  cases hchange with
  | none => exact hknown hb hopen hpast
  | deafened => exact hknown hb hopen hpast
  | named s => exact absurd rfl (hpast s)
  | heard s => exact absurd rfl (hpast s)
  | marked s b' agent hpoint hbinding hagent =>
    obtain rfl := Option.some.inj (hbinding.symm.trans hb)
    exact Table.contains_iff.2 ⟨agent, hagent⟩
  | reported s b' hpoint => exact hknown hb hopen (by simp [hpoint])
  | popped b' hpoint => exact hknown hb hopen (by simp [hpoint])
  | replied command hpoint => exact hknown hb hopen (by simp [hpoint])
  | refused s b' => cases hopen
  | missed command => cases hopen
  | ended => cases hopen

theorem status_change (h : r.Attached) (hl : r.links[i]? = some l)
    (hchange : l.Change i r.coordinator c' l' ds) (agent : AgentId) :
    (c'.store.agents.get? agent).map (·.status) = (standing agent (r.deeds ++ ds)).status := by
  have hstatus := h.status agent
  rw [standing_append]
  cases hchange with
  | none => exact hstatus
  | deafened => exact hstatus
  | named s =>
    simp only [List.foldl_cons, List.foldl_nil, Standing.after]
    split <;> exact hstatus
  | heard s => exact hstatus
  | marked s b known hpoint hbinding hagent =>
    simp only [Table.get?_insert, List.foldl_cons, List.foldl_nil, Standing.after, eq_comm]
    split
    · rfl
    · exact hstatus.symm
  | refused s b => exact hstatus
  | reported s b =>
    rw [SyncStream.agents_reconcile]
    exact hstatus
  | popped b => exact hstatus
  | replied command => exact hstatus
  | missed command hpoint hdeaf =>
    have hopen : l.stream.closed = false := by
      rw [← Bool.not_eq_true]
      exact fun hclosed => nomatch hpoint.symm.trans (h.idle i l hl hclosed)
    rw [h.status_finish hl hopen (by simp [hpoint])]
    simp only [List.foldl_cons, List.foldl_nil, Standing.after]
    split <;> rfl
  | ended hidle hopen =>
    rw [h.status_finish hl hopen (by simp [hidle])]
    simp only [List.foldl_cons, List.foldl_nil, Standing.after]
    split <;> rfl

/-- A step of one stream keeps it all. -/
theorem change (h : r.Attached) (hl : r.links[i]? = some l)
    (hchange : l.Change i r.coordinator c' l' ds) :
    Attached ⟨c', r.links.set i l', r.deeds ++ ds⟩ := by
  have hself : (r.links.set i l')[i]? = some l' := by rw [getElem?_set_eq_some hl, if_pos rfl]
  refine ⟨h.bound.change hl hchange, fun j m b hm hb hopen hpast => ?_,
    fun j m hm hclosed => ?_, h.status_change hl hchange, fun j hj => ?_, ?_⟩
  · rw [getElem?_set_eq_some hl] at hm
    split at hm
    · subst hm
      exact h.known_change hl hchange hb hopen hpast
    · rw [hchange.contains]
      exact h.known j m b hm hb hopen hpast
  · rw [getElem?_set_eq_some hl] at hm
    split at hm
    · subst hm
      exact hchange.idle (h.idle i l hl) hclosed
    · exact h.idle j m hm hclosed
  · rcases List.mem_append.1 hj with hold | hnew
    · obtain ⟨m, hm, hclosed⟩ := h.ended j hold
      by_cases hij : j = i
      · subst hij
        obtain rfl := Option.some.inj (hl.symm.trans hm)
        exact ⟨l', hself, hchange.closed hclosed⟩
      · exact ⟨m, by rw [getElem?_set_eq_some hl, if_neg hij, hm], hclosed⟩
    · obtain rfl := Option.some.inj (hchange.stream hnew)
      exact ⟨l', hself, hchange.closed_of_ended hnew⟩
  · refine List.pairwise_append.2 ⟨h.silent, ?_, ?_⟩
    · cases hchange <;> simp
    · rintro d hd e he j rfl hj
      obtain rfl := Option.some.inj ((hchange.stream he).symm.trans hj)
      obtain ⟨m, hm, hclosed⟩ := h.ended _ hd
      obtain rfl := Option.some.inj (hl.symm.trans hm)
      rw [hchange.eq_nil_of_closed hclosed (h.idle _ l hl hclosed)] at he
      cases he

end

/-- Opening a stream binds none. -/
theorem connect (h : r.Attached) (host : Nat) :
    Attached ⟨r.coordinator, r.links ++ [.opened host], r.deeds⟩ := by
  refine ⟨h.bound.still rfl (fun j b => ?_) (fun j b => ?_) fun _ => rfl,
    fun j l b hl hb hopen hpast => ?_, fun j l hl hclosed => ?_, h.status, fun j hj => ?_,
    h.silent⟩
  · simp only [Holds, getElem?_append_singleton_eq_some, or_and_right, exists_or]
    refine or_iff_left ?_
    rintro ⟨l, ⟨-, rfl⟩, hb⟩
    cases hb
  · simp only [Keeps, getElem?_append_singleton_eq_some, or_and_right, exists_or]
    refine or_iff_left ?_
    rintro ⟨l, ⟨-, rfl⟩, hb, -⟩
    cases hb
  · rcases getElem?_append_singleton_eq_some.1 hl with hl | ⟨-, rfl⟩
    · exact h.known j l b hl hb hopen hpast
    · cases hb
  · rcases getElem?_append_singleton_eq_some.1 hl with hl | ⟨-, rfl⟩
    · exact h.idle j l hl hclosed
    · cases hclosed
  · obtain ⟨l, hl, hclosed⟩ := h.ended j hj
    exact ⟨l, getElem?_append_singleton_eq_some.2 (.inl hl), hclosed⟩

/-- What happens outside of the streams binds none and ends none. -/
theorem outside (h : r.Attached) {c' : Coordinator} {ds : List SyncDeed}
    (hstreams : c'.streams = r.coordinator.streams)
    (hagents : ∀ agent, r.coordinator.store.agents.contains agent = true →
      c'.store.agents.contains agent = true)
    (hds : ∀ d ∈ ds, d.stream? = none)
    (hstatus : ∀ agent, (c'.store.agents.get? agent).map (·.status) =
      (standing agent (r.deeds ++ ds)).status) :
    Attached ⟨c', r.links, r.deeds ++ ds⟩ := by
  have hnamed : ∀ agent j, .named j agent ∉ ds := fun agent j hj => by cases hds _ hj
  have hbound : Bound ⟨c', r.links, r.deeds ++ ds⟩ :=
    h.bound.still hstreams (fun _ _ => .rfl) (fun _ _ => .rfl) fun agent =>
      newest_append (hnamed agent)
  refine ⟨hbound, fun j l b hl hb hopen hpast => ?_, h.idle, hstatus, fun j hj => ?_,
    List.pairwise_append.2 ⟨h.silent, ?_, ?_⟩⟩
  · exact hagents b.agentId (h.known j l b hl hb hopen hpast)
  · rcases List.mem_append.1 hj with hold | hnew
    · exact h.ended j hold
    · cases hds _ hnew
  · exact List.pairwise_of_forall_mem_list fun d _ e he j _ hj => by
      rw [hds e he] at hj
      cases hj
  · intro d _ e he j _ hj
    rw [hds e he] at hj
    cases hj

/-- A step keeps it all. -/
theorem step (h : r.Attached) (hstep : r.Stepped r') : r'.Attached := by
  cases hstep with
  | still => exact h
  | registered minted registration =>
    refine h.outside rfl (fun agent ha => ?_) (by simp [SyncDeed.stream?]) fun agent => ?_
    · simp only [Coordinator.register, Store.registerAgent, Table.contains, Table.get?_insert]
      split
      · rfl
      · exact ha
    · simp only [Coordinator.register, Store.registerAgent, Table.get?_insert, standing_append,
        List.foldl_cons, List.foldl_nil, Standing.after, eq_comm]
      split
      · rfl
      · exact (h.status agent).symm
  | accepted agent command =>
    refine h.outside rfl (fun _ ha => ha) (by simp [SyncDeed.stream?]) fun a => ?_
    rw [standing_append]
    exact h.status a
  | withdrew runner agent =>
    refine h.outside rfl (fun _ ha => ha) (by simp [SyncDeed.stream?]) fun a => ?_
    rw [standing_append]
    exact h.status a
  | connected host => exact h.connect host
  | stream i l l' c' ds hl hchange => exact h.change hl hchange

end Attached

theorem attached_run (es : List SyncEvent) : (run es).Attached :=
  run_induction .start (fun _ _ h hstep => h.step hstep) es

/-! ## Once all streams have ended -/

theorem exists_last {α : Type} {p : α → Prop} {l : List α} (h : ∃ x ∈ l, p x) :
    ∃ before x after, l = before ++ x :: after ∧ p x ∧ ∀ y ∈ after, ¬ p y := by
  induction l using List.reverseRecOn with
  | nil =>
    obtain ⟨x, hx, -⟩ := h
    cases hx
  | append_singleton l y ih =>
    by_cases hy : p y
    · exact ⟨l, y, [], rfl, hy, nofun⟩
    · obtain ⟨x, hx, hp⟩ := h
      have hmem : x ∈ l := (List.mem_append.1 hx).resolve_right fun hxy =>
        hy (List.mem_singleton.1 hxy ▸ hp)
      obtain ⟨before, z, after, rfl, hz, hafter⟩ := ih ⟨x, hmem, hp⟩
      refine ⟨before, z, after ++ [y], by simp, hz, fun w hw => ?_⟩
      rcases List.mem_append.1 hw with hw | hw
      · exact hafter w hw
      · exact List.mem_singleton.1 hw ▸ hy

section Ended

variable {agent : AgentId} {n : Nat} {before between after : List SyncDeed}

/-- If all streams of an agent have ended, the newest one has ended after it named the agent, and
has done nothing since. -/
theorem Attached.exists_end (h : r.Attached) (hnamed : ∃ i, .named i agent ∈ r.deeds)
    (hended : ∀ i, .named i agent ∈ r.deeds → .ended i ∈ r.deeds) :
    ∃ n before between after,
      r.deeds = before ++ .named n agent :: (between ++ .ended n :: after) ∧
      (∀ i, .named i agent ∉ between ++ after) ∧ ∀ d ∈ after, d.stream? ≠ some n := by
  obtain ⟨i, hi⟩ := hnamed
  obtain ⟨before, d, rest, hdeeds, ⟨n, rfl⟩, hlast⟩ :=
    exists_last (p := fun d => ∃ i, d = .named i agent) ⟨_, hi, i, rfl⟩
  have hend : .ended n ∈ r.deeds :=
    hended n (hdeeds ▸ List.mem_append_right before List.mem_cons_self)
  have hsilent := h.silent
  rw [hdeeds] at hend hsilent
  obtain ⟨-, hlater, hcross⟩ := List.pairwise_append.1 hsilent
  have hrest : .ended n ∈ rest := by
    rcases List.mem_append.1 hend with hbefore | hafter
    · exact absurd rfl (hcross _ hbefore _ List.mem_cons_self n rfl)
    · exact (List.mem_cons.1 hafter).resolve_left nofun
  obtain ⟨between, after, rfl⟩ := List.append_of_mem hrest
  refine ⟨n, before, between, after, hdeeds, fun i hi => ?_, fun d hd => ?_⟩
  · refine hlast _ ?_ ⟨i, rfl⟩
    rcases List.mem_append.1 hi with hb | ha
    · exact List.mem_append_left _ hb
    · exact List.mem_append_right between (List.mem_cons_of_mem _ ha)
  · rw [← List.cons_append] at hlater
    exact (List.pairwise_cons.1 (List.pairwise_append.1 hlater).2.1).1 d hd n rfl

/-- The end of the newest stream puts the agent offline. -/
theorem standing_at_end (hothers : ∀ i, .named i agent ∉ between) :
    standing agent (before ++ .named n agent :: (between ++ [.ended n])) =
      ⟨some n, some .offline⟩ := by
  have hnewest : (standing agent (before ++ [.named n agent] ++ between)).newest = some n := by
    rw [newest_append hothers, standing_append]
    simp only [List.foldl_cons, List.foldl_nil, Standing.after, if_true]
  have hsplit : before ++ .named n agent :: (between ++ [.ended n]) =
      before ++ [.named n agent] ++ between ++ [.ended n] := by simp
  rw [hsplit, standing_append]
  simp only [List.foldl_cons, List.foldl_nil, Standing.after, hnewest, if_true]

/-- No stream of an agent is live once the newest one has ended. -/
theorem Attached.not_connected (h : r.Attached)
    (hnewest : (standing agent r.deeds).newest = some n) (hend : .ended n ∈ r.deeds) :
    r.coordinator.streams.isConnected agent = false := by
  rw [← Bool.not_eq_true]
  intro hconnected
  obtain ⟨g, hg⟩ := Table.contains_iff.1 hconnected
  obtain ⟨m, hm, l, hl, -, hopen⟩ := (h.bound.live agent g).1 hg
  obtain rfl := Option.some.inj (hnewest.symm.trans hm)
  obtain ⟨l', hl', hclosed⟩ := h.ended n hend
  obtain rfl := Option.some.inj (hl.symm.trans hl')
  cases hopen.symm.trans hclosed

end Ended

/-- Once every stream that named the agent has ended, none of them is live. The agent's status is
decided by what comes after the end of the stream that named it last: it is offline if nothing
there raised it, and online if a stream that named it earlier brought a snapshot there. -/
theorem ended_streams (es : List SyncEvent) (agent : AgentId)
    (hnamed : ∃ i, .named i agent ∈ (run es).deeds)
    (hended : ∀ i, .named i agent ∈ (run es).deeds → .ended i ∈ (run es).deeds) :
    (run es).coordinator.streams.isConnected agent = false ∧
      ∃ n before between after,
        (run es).deeds = before ++ .named n agent :: (between ++ .ended n :: after) ∧
        (∀ i, .named i agent ∉ between ++ after) ∧ (∀ d ∈ after, d.stream? ≠ some n) ∧
        (Raised agent after →
          ((run es).coordinator.store.agents.get? agent).map (·.status) = some .online) ∧
        (¬ Raised agent after →
          ((run es).coordinator.store.agents.get? agent).map (·.status) = some .offline) := by
  have h := attached_run es
  obtain ⟨n, before, between, after, hdeeds, hothers, hafter⟩ := h.exists_end hnamed hended
  have hthen : standing agent (before ++ .named n agent :: (between ++ [.ended n])) =
      ⟨some n, some .offline⟩ :=
    standing_at_end fun i hi => hothers i (List.mem_append_left _ hi)
  have hlater : ∀ i, .named i agent ∉ after := fun i hi => hothers i (List.mem_append_right _ hi)
  have hsplit : (run es).deeds =
      before ++ .named n agent :: (between ++ [.ended n]) ++ after := by simp [hdeeds]
  have hnewest : (standing agent (run es).deeds).newest = some n := by
    rw [hsplit, newest_append hlater, hthen]
  have hstatus := status_foldl hlater (fun hm => hafter _ hm rfl)
    (congrArg Standing.newest hthen)
  rw [← standing_append, ← hsplit, ← h.status, hthen] at hstatus
  exact ⟨h.not_connected hnewest (by simp [hdeeds]), n, before, between, after, hdeeds, hothers,
    hafter, hstatus⟩

/-- Two streams of one agent, of which the older one brings a snapshot after the newer one has
ended. -/
def outlived : List SyncEvent :=
  let process : Nat → List SyncEvent := fun i =>
    .stream i (.snapshot ⟨"a", 0, []⟩) :: List.replicate 4 (.stream i .goesOn)
  [.register "a" ⟨"mini-1", none⟩, .connect 0, .connect 0] ++ process 0 ++ process 1 ++
    [.stream 1 .hangUp] ++ process 0 ++ [.stream 0 .hangUp]

theorem deeds_outlived :
    let process : Nat → List SyncDeed := fun i =>
      [.heard i ⟨"a", 0, []⟩, .marked i "a", .popped i "a" none, .replied i ⟨some .noop⟩ true]
    (run outlived).deeds = [.registered "a", .named 0 "a"] ++ process 0 ++ [.named 1 "a"] ++
      process 1 ++ [.ended 1] ++ process 0 ++ [.ended 0] := by
  decide +kernel

theorem ended_outlived (i : Nat) (h : .named i "a" ∈ (run outlived).deeds) :
    .ended i ∈ (run outlived).deeds := by
  rw [deeds_outlived] at h ⊢
  simpa [or_comm] using h

theorem ended_streams_outlived :
    (∃ i, .named i "a" ∈ (run outlived).deeds) ∧
      (∀ i, .named i "a" ∈ (run outlived).deeds → .ended i ∈ (run outlived).deeds) ∧
      (run outlived).coordinator.streams.isConnected "a" = false := by
  have hnamed : ∃ i, .named i "a" ∈ (run outlived).deeds := ⟨0, by decide +kernel⟩
  exact ⟨hnamed, ended_outlived, (ended_streams outlived "a" hnamed ended_outlived).1⟩

/-- The end of all streams of an agent need not leave it offline. -/
theorem not_offline_once_ended :
    ¬ ∀ (es : List SyncEvent) (agent : AgentId),
      (∃ i, .named i agent ∈ (run es).deeds) →
      (∀ i, .named i agent ∈ (run es).deeds → .ended i ∈ (run es).deeds) →
      (run es).coordinator.streams.isConnected agent = false ∧
        ((run es).coordinator.store.agents.get? agent).map (·.status) = some .offline := by
  intro h
  have hoffline := (h outlived "a" ⟨0, by decide +kernel⟩ ended_outlived).2
  have honline : ((run outlived).coordinator.store.agents.get? "a").map (·.status) =
      some .online := by decide +kernel
  rw [honline] at hoffline
  cases hoffline

end SyncRun

end RunnerFleet

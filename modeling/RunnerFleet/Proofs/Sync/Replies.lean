import RunnerFleet.Proofs.Sync.Ledger

/-!
# Every snapshot has its reply

What a stream has done is a first naming of its agent and then one round after the other (`Round`):
the snapshot, the marking of the agent, one command taken and one reply that carries it. The last
round may be under way (`Rest`). A stream is never stuck in a round: four steps of its own end it,
whatever else happens in between (`idle_after`).
-/

namespace RunnerFleet

/-! ## Rounds -/

/-- The processing of one snapshot. -/
structure Round where
  snapshot : Wire.Snapshot
  /-- The oldest command of the agent's queue, if there was one. -/
  oldest : Option Command
  listened : Bool
  deriving DecidableEq, Repr

namespace Round

/-- The reply carries the command; without one it carries `noop`. -/
def reply (x : Round) : Wire.Reply := .ofCommand (x.oldest.getD .noop)

/-- What the stream with this number does in a round for its agent. -/
def deeds (i : Nat) (agent : AgentId) (x : Round) : List SyncDeed :=
  [.heard i x.snapshot, .marked i agent, .popped i agent x.oldest, .replied i x.reply x.listened]

end Round

/-- How far a stream is after its last full round: where it is, whether it is closed, and what it
has done since. -/
inductive Rest (i : Nat) (agent : AgentId) : StreamPoint → Bool → List SyncDeed → Prop
  | idle : Rest i agent .idle false []
  | heard (s : Wire.Snapshot) : Rest i agent (.bound s) false [.heard i s]
  | marked (s : Wire.Snapshot) : Rest i agent (.marked s) false [.heard i s, .marked i agent]
  | reported (s : Wire.Snapshot) : Rest i agent .reported false [.heard i s, .marked i agent]
  | taken (s : Wire.Snapshot) (oldest : Option Command) :
      Rest i agent (.taken (oldest.getD .noop)) false
        [.heard i s, .marked i agent, .popped i agent oldest]
  | refused (s : Wire.Snapshot) : Rest i agent .idle true [.heard i s, .refused i agent]
  | ended : Rest i agent .idle true [.ended i]

/-- The reply that an item is. -/
def StreamItem.reply? : StreamItem → Option Wire.Reply
  | .reply r => some r
  | _ => none

/-- What a stream has done, with what it has sent. -/
inductive Talk (i : Nat) (l : Link) : List SyncDeed → Prop
  | silent (hbinding : l.stream.binding = none) (hidle : l.point = .idle)
      (hopen : l.stream.closed = false) (hsent : l.underway = []) : Talk i l []
  | unused (hbinding : l.stream.binding = none) (hidle : l.point = .idle)
      (hclosed : l.stream.closed = true) (hsent : l.underway.filterMap (·.reply?) = []) :
      Talk i l [.ended i]
  /-- The first snapshot of the stream names the agent of all its rounds. -/
  | bound (b : StreamBinding) (rounds : List Round) (rest : List SyncDeed)
      (hbinding : l.stream.binding = some b)
      (hrest : Rest i b.agentId l.point l.stream.closed rest)
      (hfirst : ∃ s more, s.agentId = b.agentId ∧
        rounds.flatMap (·.deeds i b.agentId) ++ rest = .heard i s :: more)
      (hsent : l.underway.filterMap (·.reply?) =
        (rounds.filter (·.listened)).map (·.reply)) :
      Talk i l (.named i b.agentId :: (rounds.flatMap (·.deeds i b.agentId) ++ rest))

namespace Talk

variable {i : Nat} {l l' : Link} {c c' : Coordinator} {own ds : List SyncDeed}

/-- A stream that processes a snapshot has its binding. -/
theorem exists_binding (h : Talk i l own) (hpoint : l.point ≠ .idle) :
    ∃ b, l.stream.binding = some b := by
  cases h with
  | silent _ hidle => exact absurd hidle hpoint
  | unused _ hidle => exact absurd hidle hpoint
  | bound b rounds rest hb => exact ⟨b, hb⟩

theorem open_of_taken (h : Talk i l own) {command : Command} (hpoint : l.point = .taken command) :
    l.stream.closed = false := by
  cases h with
  | silent _ _ hopen => exact hopen
  | unused _ hidle => cases hidle.symm.trans hpoint
  | bound b rounds rest hb hrest =>
    rw [hpoint] at hrest
    generalize l.stream.closed = closed at hrest
    cases hrest
    rfl

theorem of_bound (h : Talk i l own) {b : StreamBinding} (hbinding : l.stream.binding = some b) :
    ∃ (rounds : List Round) (rest : List SyncDeed),
      own = .named i b.agentId :: (rounds.flatMap (·.deeds i b.agentId) ++ rest) ∧
      Rest i b.agentId l.point l.stream.closed rest ∧
      (∃ s more, s.agentId = b.agentId ∧
        rounds.flatMap (·.deeds i b.agentId) ++ rest = .heard i s :: more) ∧
      l.underway.filterMap (·.reply?) = (rounds.filter (·.listened)).map (·.reply) := by
  cases h with
  | silent hb => cases hbinding.symm.trans hb
  | unused hb => cases hbinding.symm.trans hb
  | bound b' rounds rest hb hrest hfirst hsent =>
    obtain rfl := Option.some.inj (hbinding.symm.trans hb)
    exact ⟨rounds, rest, rfl, hrest, hfirst, hsent⟩

/-- A bound stream does more: its rounds and what came since are regrouped. -/
theorem more (h : Talk i l own) {b : StreamBinding} (hbinding : l.stream.binding = some b)
    (hbinding' : l'.stream.binding = some b)
    (hmore : ∀ (rounds : List Round) (rest : List SyncDeed),
      Rest i b.agentId l.point l.stream.closed rest →
      l.underway.filterMap (·.reply?) = (rounds.filter (·.listened)).map (·.reply) →
      ∃ (rounds' : List Round) (rest' : List SyncDeed),
        rounds'.flatMap (·.deeds i b.agentId) ++ rest' =
          rounds.flatMap (·.deeds i b.agentId) ++ rest ++ ds ∧
        Rest i b.agentId l'.point l'.stream.closed rest' ∧
        l'.underway.filterMap (·.reply?) = (rounds'.filter (·.listened)).map (·.reply)) :
    Talk i l' (own ++ ds) := by
  obtain ⟨rounds, rest, rfl, hrest, ⟨s, later, hs, heq⟩, hsent⟩ := h.of_bound hbinding
  obtain ⟨rounds', rest', hdeeds, hrest', hsent'⟩ := hmore rounds rest hrest hsent
  rw [List.cons_append, ← hdeeds]
  refine .bound b rounds' rest' hbinding' hrest' ⟨s, later ++ ds, hs, ?_⟩ hsent'
  rw [hdeeds, heq, List.cons_append]

/-- A bound stream goes on in its round. -/
theorem goesOn (h : Talk i l own) {b : StreamBinding} (hbinding : l.stream.binding = some b)
    (hbinding' : l'.stream.binding = some b)
    (hsent : l'.underway.filterMap (·.reply?) = l.underway.filterMap (·.reply?))
    (hrest : ∀ rest, Rest i b.agentId l.point l.stream.closed rest →
      Rest i b.agentId l'.point l'.stream.closed (rest ++ ds)) : Talk i l' (own ++ ds) :=
  h.more hbinding hbinding' fun rounds rest hr hs =>
    ⟨rounds, rest ++ ds, (List.append_assoc _ _ _).symm, hrest rest hr, hsent.trans hs⟩

theorem deafen (h : Talk i l own) : Talk i l.deafen own := by
  cases h with
  | silent hbinding hidle hopen hsent => exact .silent hbinding hidle hopen hsent
  | unused hbinding hidle hclosed hsent => exact .unused hbinding hidle hclosed hsent
  | bound b rounds rest hbinding hrest hfirst hsent =>
    exact .bound b rounds rest hbinding hrest hfirst hsent

/-- The first snapshot. -/
theorem named (h : Talk i l own) (hopen : l.stream.closed = false)
    (hfirst : l.stream.binding = none) (s : Wire.Snapshot) (generation : Nat) :
    Talk i
      { l with
        stream := { l.stream with binding := some ⟨s.agentId, generation⟩ }
        point := .bound s }
      (own ++ [.named i s.agentId, .heard i s]) := by
  cases h with
  | silent _ _ _ hsent =>
    refine .bound ⟨s.agentId, generation⟩ [] [.heard i s] rfl ?_ ⟨s, [], rfl, rfl⟩ ?_
    · simp only [hopen]
      exact .heard s
    · simp only [hsent]
      rfl
  | unused _ _ hclosed => cases hopen.symm.trans hclosed
  | bound b rounds rest hb => cases hfirst.symm.trans hb

theorem sent_close (l : Link) {items : List StreamItem} (h : items.filterMap (·.reply?) = []) :
    (l.close items).underway.filterMap (·.reply?) = l.underway.filterMap (·.reply?) := by
  simp only [Link.close, List.filterMap_append, SyncStream.heard]
  split
  · rw [h, List.append_nil]
  · exact List.append_nil _

/-- The end of an idle stream. -/
theorem ended (h : Talk i l own) (hidle : l.point = .idle) (hopen : l.stream.closed = false) :
    Talk i (l.close [.ended]) (own ++ [.ended i]) := by
  have hsent : (l.close [.ended]).underway.filterMap (·.reply?) =
      l.underway.filterMap (·.reply?) := sent_close l rfl
  cases hbinding : l.stream.binding with
  | none =>
    cases h with
    | silent _ _ _ hnone =>
      refine .unused hbinding rfl rfl ?_
      rw [hsent, hnone]
      rfl
    | unused _ _ hclosed => cases hopen.symm.trans hclosed
    | bound b rounds rest hb => cases hbinding.symm.trans hb
  | some b =>
    refine h.goesOn hbinding hbinding hsent fun rest hrest => ?_
    rw [hidle, hopen] at hrest
    cases hrest
    exact .ended

/-- A reply ends the round, whether anyone listens or not. -/
theorem replied (h : Talk i l own) {command : Command} (hpoint : l.point = .taken command)
    (listened : Bool) {rest' : List SyncDeed} (hbinding : l'.stream.binding = l.stream.binding)
    (hrest : ∀ agent, Rest i agent l'.point l'.stream.closed rest')
    (hsent : l'.underway.filterMap (·.reply?) = l.underway.filterMap (·.reply?) ++
      if listened then [.ofCommand command] else []) :
    Talk i l' (own ++ (.replied i (.ofCommand command) listened :: rest')) := by
  obtain ⟨b, hb⟩ := h.exists_binding (by simp [hpoint])
  refine h.more hb (hbinding.trans hb) fun rounds rest hr hs => ?_
  rw [hpoint] at hr
  generalize l.stream.closed = closed at hr
  cases hr with
  | taken s oldest =>
    refine ⟨rounds ++ [⟨s, oldest, listened⟩], rest', ?_, hrest b.agentId, ?_⟩
    · simp [Round.deeds, Round.reply]
    · rw [hsent, hs]
      cases listened <;> simp [Round.reply]

theorem change (h : Talk i l own) (hchange : l.Change i c c' l' ds) : Talk i l' (own ++ ds) := by
  cases hchange with
  | none =>
    rw [List.append_nil]
    exact h
  | deafened =>
    rw [List.append_nil]
    exact h.deafen
  | named s hidle hopen hfirst => exact h.named hopen hfirst s _
  | heard s b hidle hopen hbinding =>
    refine h.goesOn hbinding hbinding rfl fun rest hrest => ?_
    rw [hidle, hopen] at hrest
    cases hrest
    simp only [hopen]
    exact .heard s
  | marked s b agent hpoint hbinding =>
    refine h.goesOn hbinding hbinding rfl fun rest hrest => ?_
    rw [hpoint] at hrest
    simp only at hrest ⊢
    generalize l.stream.closed = closed at hrest ⊢
    cases hrest
    exact .marked s
  | refused s b hpoint hbinding =>
    refine h.goesOn hbinding hbinding (sent_close l rfl) fun rest hrest => ?_
    rw [hpoint] at hrest
    generalize l.stream.closed = closed at hrest
    cases hrest
    exact .refused s
  | reported s b hpoint hbinding =>
    refine h.goesOn hbinding hbinding rfl fun rest hrest => ?_
    rw [hpoint] at hrest
    simp only at hrest ⊢
    generalize l.stream.closed = closed at hrest ⊢
    cases hrest
    exact .reported s
  | popped b hpoint hbinding =>
    refine h.goesOn hbinding hbinding rfl fun rest hrest => ?_
    rw [hpoint] at hrest
    simp only [Outbox.next_command] at hrest ⊢
    generalize l.stream.closed = closed at hrest ⊢
    cases hrest with
    | reported s => exact .taken s _
  | replied command hpoint hlistens =>
    refine h.replied hpoint true rfl (fun agent => ?_) ?_
    · simp only [h.open_of_taken hpoint]
      exact .idle
    · rw [List.filterMap_append]
      rfl
  | missed command hpoint hdeaf =>
    refine h.replied hpoint false rfl (fun agent => .ended) ?_
    rw [sent_close l rfl]
    exact (List.append_nil _).symm
  | ended hidle hopen => exact h.ended hidle hopen

end Talk

/-! ## Runs -/

namespace SyncRun

variable {r r' : SyncRun} {i : Nat}

/-- What the stream with this number has done. -/
def own (r : SyncRun) (i : Nat) : List SyncDeed := r.deeds.filter fun d => d.stream? = some i

/-- Every stream has done its rounds, and streams that are not opened yet have done nothing. -/
structure Talking (r : SyncRun) : Prop where
  talk : ∀ (i : Nat) (l : Link), r.links[i]? = some l → Talk i l (r.own i)
  opened : ∀ d ∈ r.deeds, ∀ i, d.stream? = some i → i < r.links.length

namespace Talking

/-- What happens outside of the streams is no part of what they have done. -/
theorem outside (h : r.Talking) {c' : Coordinator} {ds : List SyncDeed}
    (hds : ∀ d ∈ ds, d.stream? = none) : Talking ⟨c', r.links, r.deeds ++ ds⟩ := by
  have hnone : ∀ i, ds.filter (fun d => d.stream? = some i) = [] := by
    intro i
    rw [List.filter_eq_nil_iff]
    intro d hd
    simp [hds d hd]
  refine ⟨fun i l hl => ?_, fun d hd i hi => ?_⟩
  · rw [own, List.filter_append, hnone, List.append_nil]
    exact h.talk i l hl
  · rcases List.mem_append.1 hd with hold | hnew
    · exact h.opened d hold i hi
    · rw [hds d hnew] at hi
      cases hi

theorem change (h : r.Talking) {l l' : Link} {c' : Coordinator} {ds : List SyncDeed}
    (hl : r.links[i]? = some l) (hchange : l.Change i r.coordinator c' l' ds) :
    Talking ⟨c', r.links.set i l', r.deeds ++ ds⟩ := by
  have hlt : i < r.links.length := (List.getElem?_eq_some_iff.1 hl).1
  refine ⟨fun j m hm => ?_, fun d hd j hj => ?_⟩
  · rw [own, List.filter_append]
    rw [getElem?_set_eq_some hl] at hm
    split at hm
    · next hj =>
      subst hj hm
      have hall : ds.filter (fun d => d.stream? = some j) = ds := by
        rw [List.filter_eq_self]
        intro d hd
        simp [hchange.stream hd]
      rw [hall]
      exact (h.talk j l hl).change hchange
    · next hj =>
      have hnone : ds.filter (fun d => d.stream? = some j) = [] := by
        rw [List.filter_eq_nil_iff]
        intro d hd
        simp [hchange.stream hd, Ne.symm hj]
      rw [hnone, List.append_nil]
      exact h.talk j m hm
  · simp only [List.length_set]
    rcases List.mem_append.1 hd with hold | hnew
    · exact h.opened d hold j hj
    · obtain rfl := Option.some.inj ((hchange.stream hnew).symm.trans hj)
      exact hlt

theorem step (h : r.Talking) (hstep : r.Stepped r') : r'.Talking := by
  cases hstep with
  | still => exact h
  | registered minted registration => exact h.outside (by simp [SyncDeed.stream?])
  | accepted agent command => exact h.outside (by simp [SyncDeed.stream?])
  | withdrew runner agent => exact h.outside (by simp [SyncDeed.stream?])
  | connected host =>
    refine ⟨fun j l hl => ?_, fun d hd j hj => ?_⟩
    · rcases getElem?_append_singleton_eq_some.1 hl with hl | ⟨rfl, rfl⟩
      · exact h.talk j l hl
      · have hnone : r.own r.links.length = [] := by
          rw [own, List.filter_eq_nil_iff]
          intro d hd
          simpa using fun hs => Nat.lt_irrefl _ (h.opened d hd _ hs)
        simp only [own] at hnone ⊢
        rw [hnone]
        exact .silent rfl rfl rfl rfl
    · rw [List.length_append]
      exact Nat.lt_add_right _ (h.opened d hd j hj)
  | stream i l l' c' ds hl hchange => exact h.change hl hchange

end Talking

theorem talking_run (es : List SyncEvent) : (run es).Talking :=
  run_induction ⟨nofun, nofun⟩ (fun _ _ h hstep => h.step hstep) es

/-! ## Registered agents -/

/-- The store knows the agents that the history has registered. -/
theorem registered_run (es : List SyncEvent) (agent : AgentId) :
    (run es).coordinator.store.agents.contains agent = true ↔
      .registered agent ∈ (run es).deeds := by
  refine run_induction (P := fun r => r.coordinator.store.agents.contains agent = true ↔
    .registered agent ∈ r.deeds) ?_ (fun r r' h hstep => ?_) es
  · simp [start, Coordinator.initial, Store.empty, Table.contains]
  · cases hstep with
    | still => exact h
    | registered minted registration =>
      rw [List.mem_append, ← h]
      simp only [Coordinator.register, Store.registerAgent, Table.contains, Table.get?_insert]
      by_cases ha : agent = minted
      · simp [ha]
      · simp [ha]
    | accepted a command => simpa using h
    | withdrew runner a => simpa using h
    | connected host => exact h
    | stream i l l' c' ds hl hchange =>
      have hds : .registered agent ∉ ds := fun hd => by cases hchange.stream hd
      rw [hchange.contains, List.mem_append, h]
      exact (or_iff_left hds).symm

end SyncRun

/-! ## Rounds come to their end -/

/-- How many steps of its own a stream needs to end the round that it is in. -/
def StreamPoint.left : StreamPoint → Nat
  | .idle => 0
  | .bound _ => 4
  | .marked _ => 3
  | .reported => 2
  | .taken _ => 1

theorem Link.left_work (c : Coordinator) (l : Link)
    (hbound : l.point ≠ .idle → ∃ b, l.stream.binding = some b) :
    (l.work c).2.point.left ≤ l.point.left - 1 := by
  cases hpoint : l.point with
  | idle => simp [work, hpoint, StreamPoint.left]
  | taken command =>
    simp only [work, hpoint, after]
    split <;> exact Nat.le_refl _
  | bound s =>
    obtain ⟨b, hb⟩ := hbound (by simp [hpoint])
    simp only [work, hpoint, hb, after]
    split
    · exact Nat.zero_le _
    · exact Nat.le_refl _
  | marked s =>
    obtain ⟨b, hb⟩ := hbound (by simp [hpoint])
    simp only [work, hpoint, hb]
    exact Nat.le_refl _
  | reported =>
    obtain ⟨b, hb⟩ := hbound (by simp [hpoint])
    simp only [work, hpoint, hb]
    exact Nat.le_refl _

theorem StreamPoint.left_le (p : StreamPoint) : p.left ≤ 4 := by
  cases p <;> simp [left]

namespace SyncRun

variable {r : SyncRun} {i : Nat}

/-- How many steps of its own the stream with this number needs to end its round. -/
def left (r : SyncRun) (i : Nat) : Nat := (r.links[i]?.map (·.point.left)).getD 0

theorem left_of_link {l : Link} (hl : r.links[i]? = some l) : r.left i = l.point.left := by
  rw [left, hl, Option.map_some, Option.getD_some]

theorem left_le (r : SyncRun) (i : Nat) : r.left i ≤ 4 := by
  unfold left
  cases r.links[i]? with
  | none => exact Nat.zero_le _
  | some l => exact l.point.left_le

/-- Until the next snapshot a stream gets nearer to the end of its round by its own steps, and what
else happens does not set it back. -/
theorem left_step (h : r.Talking) (e : SyncEvent) (he : ∀ s, e ≠ .stream i (.snapshot s)) :
    (r.step e).left i ≤ r.left i - if e = .stream i .goesOn then 1 else 0 := by
  cases e with
  | register minted registration => exact Nat.le_refl _
  | enqueue agent command => exact Nat.le_refl _
  | enqueueUnique agent command => exact Nat.le_refl _
  | withdraw runner => exact Nat.le_refl _
  | connect host =>
    simp only [step, change, left, List.getElem?_append]
    split
    · exact Nat.le_refl _
    · rw [List.getElem?_singleton]
      split <;> exact Nat.zero_le _
  | stream j a =>
    cases hl : r.links[j]? with
    | none =>
      have hsame : (r.step (.stream j a)).left i = r.left i := by
        simp only [step, change, left, hl]
      rw [hsame]
      split
      · next heq =>
        cases heq
        have hzero : r.left i = 0 := by rw [left, hl, Option.map_none, Option.getD_none]
        rw [hzero]
      · exact Nat.le_refl _
    | some l =>
      have hlinks : (r.step (.stream j a)).links =
          r.links.set j (l.act r.coordinator a).2 := by
        simp only [step, change, hl]
      by_cases hj : j = i
      · subst hj
        have hset : (r.step (.stream j a)).links[j]? = some (l.act r.coordinator a).2 := by
          rw [hlinks, getElem?_set_eq_some hl, if_pos rfl]
        rw [left_of_link hset, left_of_link hl]
        cases a with
        | snapshot s => exact absurd rfl (he s)
        | goesOn =>
          rw [if_pos rfl]
          exact Link.left_work r.coordinator l (h.talk j l hl).exists_binding
        | hangUp =>
          rw [if_neg (by simp)]
          simp only [Link.act, Link.hangUp]
          split
          · split
            · exact Nat.le_refl _
            · exact Nat.zero_le _
          · exact Nat.le_refl _
        | deafen =>
          rw [if_neg (by simp)]
          exact Nat.le_refl _
      · have hother : SyncEvent.stream j a ≠ .stream i .goesOn := by
          rintro heq
          cases heq
          exact hj rfl
        rw [if_neg hother]
        simp only [left, hlinks, List.getElem?_set_ne hj]
        exact Nat.le_refl _

theorem left_run (es more : List SyncEvent) (hmore : ∀ s, .stream i (.snapshot s) ∉ more) :
    (run (es ++ more)).left i ≤ (run es).left i - more.count (.stream i .goesOn) := by
  induction more using List.reverseRecOn with
  | nil =>
    rw [List.append_nil]
    exact Nat.le_refl _
  | append_singleton more e ih =>
    have ih := ih fun s hs => hmore s (List.mem_append_left _ hs)
    have he : ∀ s, e ≠ .stream i (.snapshot s) := fun s hs =>
      hmore s (hs ▸ List.mem_append_right more List.mem_cons_self)
    have hstep := left_step (talking_run (es ++ more)) e he
    rw [← List.append_assoc, run_append_singleton, List.count_append, List.count_singleton]
    simp only [beq_iff_eq]
    omega

/-- Four steps of its own end the round that a stream is in, whatever else happens. -/
theorem idle_after (es more : List SyncEvent) (hmore : ∀ s, .stream i (.snapshot s) ∉ more)
    (hsteps : 4 ≤ more.count (.stream i .goesOn)) {l : Link}
    (hl : (run (es ++ more)).links[i]? = some l) : l.point = .idle := by
  have hleft := left_run es more hmore
  have hle := (run es).left_le i
  rw [left_of_link hl] at hleft
  cases hpoint : l.point with
  | idle => rfl
  | _ =>
    rw [hpoint] at hleft
    simp only [StreamPoint.left] at hleft
    omega

/-! ## Commands and replies -/

/-- In every run, for every agent, the commands taken from its queue and those that still wait in it
are the accepted ones in the order of acceptance, without those taken back. Every stream that has
bound itself belongs to the agent that its first snapshot names, and answers each snapshot in one
round: one command is taken for that agent, and one reply is made that carries it, or `noop` when
none waited. A stream comes to the end of its round by four steps of its own. Agents that are not
registered are refused: no round is made for them, and their snapshots change neither the store nor
a queue. -/
theorem commands_and_replies (es : List SyncEvent) :
    (∀ agent,
      (ledger agent (run es).deeds).map (·.command) =
        (run es).deeds.filterMap (·.accepted? agent) ∧
      (run es).deeds.filterMap (·.popped? agent) ++
          (run es).coordinator.outbox.queueOf agent =
        ((ledger agent (run es).deeds).filter fun e => e.fate ≠ .withdrawn).map (·.command) ∧
      ∀ runner, (Ledger.commandsOf .withdrawn (ledger agent (run es).deeds)).countP
        (·.creates runner) = (run es).deeds.count (.withdrew agent runner)) ∧
    (∀ (i : Nat) (l : Link), (run es).links[i]? = some l → Talk i l ((run es).own i)) ∧
    (∀ (i : Nat) (more : List SyncEvent), (∀ s, .stream i (.snapshot s) ∉ more) →
      4 ≤ more.count (.stream i .goesOn) →
      ∀ l, (run (es ++ more)).links[i]? = some l → l.point = .idle) ∧
    (∀ e i agent oldest, .popped i agent oldest ∈ (run es).news e →
      oldest = ((run es).coordinator.outbox.queueOf agent).head?) ∧
    (∀ e i agent, .marked i agent ∈ (run es).news e → .registered agent ∈ (run es).deeds) ∧
    (∀ e i agent, .refused i agent ∈ (run es).news e →
      .registered agent ∉ (run es).deeds ∧
      (run (es ++ [e])).coordinator.store = (run es).coordinator.store ∧
      (run (es ++ [e])).coordinator.outbox = (run es).coordinator.outbox) ∧
    ∀ e i s, .heard i s ∈ (run es).news e →
      (run (es ++ [e])).coordinator.store = (run es).coordinator.store ∧
      (run (es ++ [e])).coordinator.outbox = (run es).coordinator.outbox := by
  refine ⟨fun agent => ?_, (talking_run es).talk, fun i more hmore hsteps l hl => ?_,
    fun e i agent oldest hd => ?_, fun e i agent hd => ?_, fun e i agent hd => ?_,
    fun e i s hd => ?_⟩
  · have h := balanced_run es agent
    exact ⟨h.accepted, h.not_withdrawn, h.withdrawn⟩
  · exact idle_after es more hmore hsteps hl
  · obtain ⟨l, l', ds, -, hchange, hmem⟩ := change_of_news hd rfl
    exact hchange.oldest_of_popped hmem
  · obtain ⟨l, l', ds, -, hchange, hmem⟩ := change_of_news hd rfl
    exact (registered_run es agent).1 (hchange.contains_of_marked hmem)
  · obtain ⟨l, l', ds, -, hchange, hmem⟩ := change_of_news hd rfl
    obtain ⟨hunknown, hstore, houtbox⟩ := hchange.still_of_refused hmem
    rw [run_append_singleton]
    refine ⟨fun hregistered => ?_, hstore, houtbox⟩
    rw [(registered_run es agent).2 hregistered] at hunknown
    cases hunknown
  · obtain ⟨l, l', ds, -, hchange, hmem⟩ := change_of_news hd rfl
    rw [run_append_singleton]
    exact hchange.still_of_heard hmem

end SyncRun

end RunnerFleet

import RunnerFleet.Proofs.Coordinator.Snapshots
import RunnerFleet.Proofs.Fleet.Attributions
import RunnerFleet.Proofs.Hosting.Lifecycle

/-!
# A host that comes back

A host whose session has failed registers again, under a new id, and reports its roster under that
id from then on. A report replaces what was attributed to the id it came under and nothing else. So
what is gone from the roster while the host is away stays attributed to a session that reports no
more.

The coordinator's other tasks may do anything between two steps, snapshots of earlier sessions may
still be on their way, and the roster changes freely.
-/

namespace RunnerFleet

/-! ## Runs -/

/-- A session of the host: the id that it registered under, and the snapshots on their way. -/
structure HostSession where
  agent : AgentId
  sent : List Wire.Snapshot

/-- A fleet with one host. The stream of its `i`-th session is the fleet's `i`-th. -/
structure Rejoining (V : VmService) where
  fleet : Fleet V
  roster : Roster
  sessions : List HostSession
  deeds : List TenureDeed

namespace Rejoining

variable {V : VmService}

inductive Event (V : VmService) where
  | changes (e : Roster.Edit)
  /-- The host registers, opens a stream and sends a first snapshot. -/
  | rejoins (minted : AgentId) (r : Wire.Registration)
  /-- The host sends a snapshot in its present session. -/
  | reports
  /-- The oldest snapshot on its way comes to the coordinator's end of its stream. -/
  | arrives (i : Nat)
  | beside (e : FleetEvent V) (he : Fleet.Aside e)

/-- No session has begun yet. -/
def start (roster : Roster) : Rejoining V := ⟨.start, roster, [], []⟩

def store (r : Rejoining V) : Store := r.fleet.coordinator.store

/-- Lets one thing happen. A registration gives an id that no agent has. -/
def onEvent (limits : RequestLimits) (r : Rejoining V) : Event V → Rejoining V
  | .changes e => { r with roster := r.roster.edit e }
  | .rejoins minted registration =>
    if r.store.agents.contains minted then r
    else
      { r with
        fleet := (r.fleet.onEvent limits (.register minted registration)).onEvent limits
          (.connect 0)
        sessions := r.sessions ++ [⟨minted, [r.roster.snapshot minted]⟩] }
  | .reports =>
    let present := r.sessions.length - 1
    match r.sessions[present]? with
    | some h =>
      { r with
        sessions := r.sessions.set present
          { h with sent := h.sent ++ [r.roster.snapshot h.agent] } }
    | none => r
  | .arrives i =>
    match r.sessions[i]?, r.fleet.links[i]? with
    | some ⟨agent, s :: rest⟩, some l =>
      match l.point with
      | .idle =>
        { r with
          fleet := r.fleet.onEvent limits (.snapshot i s)
          sessions := r.sessions.set i ⟨agent, rest⟩ }
      | _ => r
    | _, _ => r
  | .beside e _ =>
    { r with
      fleet := r.fleet.onEvent limits e
      deeds := r.deeds ++ r.fleet.tenureDeeds e }

def after (limits : RequestLimits) (r : Rejoining V) (es : List (Event V)) : Rejoining V :=
  es.foldl (onEvent limits) r

theorem after_append_singleton (limits : RequestLimits) (r : Rejoining V) (es : List (Event V))
    (e : Event V) : r.after limits (es ++ [e]) = (r.after limits es).onEvent limits e := by
  simp only [after, List.foldl_append, List.foldl_cons, List.foldl_nil]

/-- The id that a session goes under. -/
def agentOf (r : Rejoining V) (i : Nat) : Option AgentId := (r.sessions.map (·.agent))[i]?

variable {limits : RequestLimits} {r : Rejoining V} {i : Nat}

/-! ## Attributions follow the history -/

/-- Every session goes under an id of its own, and the store attributes each runner to the session
that holds it. -/
structure Sound (r : Rejoining V) : Prop where
  linked : r.store.Linked
  busy : r.fleet.Bound
  length : r.fleet.bindings.length = r.sessions.length
  known : ∀ i a, r.agentOf i = some a → r.store.agents.contains a = true
  distinct : ∀ i j a, r.agentOf i = some a → r.agentOf j = some a → i = j
  own : ∀ h ∈ r.sessions, ∀ s ∈ h.sent, s.agentId = h.agent
  bound : ∀ i b, r.fleet.bindings[i]? = some (some b) → r.agentOf i = some b.agentId
  begun : ∀ id i, holder id r.deeds = some i → ∃ a, r.agentOf i = some a
  attributed : ∀ id, r.store.owners.get? id = (holder id r.deeds).bind r.agentOf

theorem sound_start (roster : Roster) : Sound (start roster : Rejoining V) where
  linked := .empty
  busy := List.forall_mem_nil _
  length := rfl
  known i a h := by cases h
  distinct i j a h := by cases h
  own h hh := by cases hh
  bound i b h := by cases h
  begun id i h := by cases h
  attributed id := rfl

theorem Sound.rejoins (h : Sound r) (minted : AgentId) (registration : Wire.Registration) :
    Sound (r.onEvent limits (.rejoins minted registration)) := by
  simp only [onEvent]
  split
  · exact h
  · next hnew =>
    have hagent : ∀ i a, ((r.sessions ++ [(⟨minted, [r.roster.snapshot minted]⟩ :
        HostSession)]).map (·.agent))[i]? = some a ↔
          r.agentOf i = some a ∨ i = r.sessions.length ∧ a = minted := by
      intro i a
      rw [List.map_append, List.map_singleton, getElem?_append_singleton_eq_some,
        List.length_map, agentOf]
    have hcontains : ∀ a, (r.store.registerAgent ⟨minted, registration.hostname,
        registration.capacity.getD .none, .online⟩).agents.contains a = true ↔
          a = minted ∨ r.store.agents.contains a = true := by
      intro a
      simp only [Store.registerAgent, Table.contains, Table.get?_insert]
      by_cases ha : a = minted
      · simp [ha]
      · simp [ha]
    have hfresh : ∀ i, r.agentOf i ≠ some minted := fun i hi => hnew (h.known i minted hi)
    constructor
    case linked => exact h.linked.registerAgent _
    case busy => exact (h.busy.onEvent limits _).onEvent limits _
    case length =>
      have hlength := h.length
      simp only [Fleet.bindings, Fleet.onEvent, List.length_map, List.length_append,
        List.length_singleton] at hlength ⊢
      rw [hlength]
    case known =>
      intro i a hi
      rcases (hagent i a).1 hi with hold | ⟨-, hlast⟩
      · exact (hcontains a).2 (.inr (h.known i a hold))
      · exact (hcontains a).2 (.inl hlast)
    case distinct =>
      intro i j a hi hj
      rcases (hagent i a).1 hi with hold | ⟨hlast, hminted⟩
      · rcases (hagent j a).1 hj with hold' | ⟨-, hminted⟩
        · exact h.distinct i j a hold hold'
        · exact absurd (hminted ▸ hold) (hfresh i)
      · rcases (hagent j a).1 hj with hold' | ⟨hlast', -⟩
        · exact absurd (hminted ▸ hold') (hfresh j)
        · exact hlast.trans hlast'.symm
    case own =>
      intro session hsession s hs
      rcases List.mem_append.1 hsession with hsession | hsession
      · exact h.own session hsession s hs
      · obtain rfl := List.mem_singleton.1 hsession
        obtain rfl := List.mem_singleton.1 hs
        rfl
    case bound =>
      intro i b hi
      have hbindings : ((r.fleet.onEvent limits (.register minted registration)).onEvent limits
          (.connect 0)).bindings = r.fleet.bindings ++ [none] := by
        simp [Fleet.bindings, Fleet.onEvent, Link.opened, SyncStream.opened]
      rw [hbindings, getElem?_append_singleton_eq_some] at hi
      rcases hi with hi | ⟨-, hb⟩
      · exact (hagent i b.agentId).2 (.inl (h.bound i b hi))
      · cases hb
    case begun =>
      intro id i hi
      obtain ⟨a, ha⟩ := h.begun id i hi
      exact ⟨a, (hagent i a).2 (.inl ha)⟩
    case attributed =>
      intro id
      refine (h.attributed id).trans ?_
      cases hholder : holder id r.deeds with
      | none => rfl
      | some i =>
        obtain ⟨a, ha⟩ := h.begun id i hholder
        simp only [Option.bind_some, ha]
        exact ((hagent i a).2 (.inl ha)).symm

theorem agentOf_resend {session session' : HostSession} (hi : r.sessions[i]? = some session)
    (hsame : session'.agent = session.agent) :
    agentOf { r with sessions := r.sessions.set i session' } = r.agentOf := by
  funext j
  simp only [agentOf, map_set_of_same hi hsame]

/-- What is on the way makes no difference to the rest. -/
theorem Sound.resend (h : Sound r) {session session' : HostSession}
    (hi : r.sessions[i]? = some session) (hsame : session'.agent = session.agent)
    (hown : ∀ s ∈ session'.sent, s.agentId = session'.agent) :
    Sound { r with sessions := r.sessions.set i session' } := by
  have hagent := agentOf_resend hi hsame
  constructor
  case linked => exact h.linked
  case busy => exact h.busy
  case length => exact h.length.trans List.length_set.symm
  case known =>
    rw [hagent]
    exact h.known
  case distinct =>
    rw [hagent]
    exact h.distinct
  case own =>
    intro x hx s hs
    rcases List.mem_or_eq_of_mem_set hx with hx | rfl
    · exact h.own x hx s hs
    · exact hown s hs
  case bound =>
    rw [hagent]
    exact h.bound
  case begun =>
    rw [hagent]
    exact h.begun
  case attributed =>
    rw [hagent]
    exact h.attributed

theorem Sound.reports (h : Sound r) : Sound (r.onEvent limits .reports) := by
  simp only [onEvent]
  split
  · next session hi =>
    refine h.resend hi rfl ?_
    intro s hs
    rcases List.mem_append.1 hs with hs | hs
    · exact h.own session (List.mem_of_getElem? hi) s hs
    · rw [List.mem_singleton.1 hs]
      rfl
  · exact h

/-- A snapshot that comes to the stream of its session is bound to the session's agent. -/
theorem Sound.hear (h : Sound r) {s : Wire.Snapshot} (hs : r.agentOf i = some s.agentId) :
    Sound { r with fleet := r.fleet.onEvent limits (.snapshot i s) } := by
  have hbusy := h.busy.onEvent limits (.snapshot i s)
  simp only [Fleet.onEvent, Fleet.onLink] at hbusy ⊢
  split at hbusy
  · next l hl =>
    have hstore := l.store_hear r.fleet.coordinator s
    constructor
    case linked =>
      rw [store, hstore]
      exact h.linked
    case busy => exact hbusy
    case length =>
      refine Eq.trans ?_ h.length
      simp only [Fleet.bindings, List.length_map, List.length_set]
    case known =>
      simp only [store, hstore]
      exact h.known
    case distinct => exact h.distinct
    case own => exact h.own
    case bound =>
      intro j b hj
      simp only [Fleet.bindings, List.getElem?_map, Option.map_eq_some_iff,
        getElem?_set_eq_some hl] at hj
      obtain ⟨l', hl', hb⟩ := hj
      have hold : ∀ x : Link, r.fleet.links[j]? = some x → x.stream.binding = some b →
          r.agentOf j = some b.agentId := by
        intro x hx hb
        refine h.bound j b ?_
        rw [Fleet.bindings, List.getElem?_map, hx, Option.map_some, hb]
      split at hl'
      · next heq =>
        subst heq hl'
        rcases Link.binding_hear hb with hbefore | hnamed
        · exact hold l hl hbefore
        · rw [hnamed]
          exact hs
      · exact hold l' hl' hb
    case begun => exact h.begun
    case attributed =>
      simp only [store, hstore]
      exact h.attributed
  · exact h

theorem Sound.arrives (h : Sound r) (i : Nat) : Sound (r.onEvent limits (.arrives i)) := by
  simp only [onEvent]
  split
  · next agent s rest l hi hl =>
    split
    · have hs : ∀ x ∈ s :: rest, x.agentId = agent := h.own _ (List.mem_of_getElem? hi)
      have hagent : r.agentOf i = some agent := by
        rw [agentOf, List.getElem?_map, hi, Option.map_some]
      have hresent : Sound { r with sessions := r.sessions.set i ⟨agent, rest⟩ } := by
        refine h.resend hi rfl ?_
        intro x hx
        exact hs x (List.mem_cons_of_mem s hx)
      have hsame : agentOf { r with sessions := r.sessions.set i ⟨agent, rest⟩ } = r.agentOf :=
        agentOf_resend hi rfl
      refine hresent.hear ?_
      rw [hs s List.mem_cons_self, hsame]
      exact hagent
    · exact h
  · exact h

theorem any_toRunner {s : Wire.Snapshot} {id : RunnerId} :
    (s.runners.map (·.toRunner)).any (·.id == id) = true ↔ id ∈ s.ids := by
  simp only [List.any_map, List.any_eq_true, Wire.Snapshot.ids, List.mem_map, Function.comp_apply,
    Wire.RunnerRecord.toRunner, beq_iff_eq]

/-- A session holds a runner exactly if the store attributes the runner to the session's agent. -/
theorem Sound.holder_iff (h : Sound r) {a : AgentId} (hi : r.agentOf i = some a) (id : RunnerId) :
    r.store.owners.get? id = some a ↔ holder id r.deeds = some i := by
  rw [h.attributed id, Option.bind_eq_some_iff]
  constructor
  · rintro ⟨j, hj, ha⟩
    rw [hj, h.distinct j i a ha hi]
  · intro hholder
    exact ⟨i, hholder, hi⟩

/-- The attributions after a session's snapshot is processed. -/
theorem Sound.owners_processed (h : Sound r) {a : AgentId} (hi : r.agentOf i = some a)
    (s : Wire.Snapshot) (id : RunnerId) :
    (SyncStream.reconcile r.fleet.coordinator a s).store.owners.get? id =
      (holder id (r.deeds ++ [.processed i s.ids])).bind r.agentOf := by
  obtain ⟨s', hreport⟩ : ∃ s', r.store.report a (s.runners.map (·.toRunner)) = (s', .ok ()) :=
    ⟨_, Store.report_eq_ok_iff.2 ⟨h.known i a hi, rfl⟩⟩
  have hstore : (SyncStream.reconcile r.fleet.coordinator a s).store = s' :=
    congrArg Prod.fst hreport
  rw [hstore, Store.get?_owners_report hreport, holder_append_singleton, holderAfter]
  by_cases hids : id ∈ s.ids
  · rw [if_pos (any_toRunner.2 hids), if_pos hids]
    exact hi.symm
  · rw [if_neg (mt any_toRunner.1 hids), if_neg hids]
    by_cases hholder : holder id r.deeds = some i
    · rw [if_pos hholder, if_pos ((h.holder_iff hi id).2 hholder)]
      rfl
    · rw [if_neg hholder, if_neg (mt (h.holder_iff hi id).1 hholder)]
      exact h.attributed id

theorem Sound.beside (h : Sound r) (limits : RequestLimits) (e : FleetEvent V)
    (he : Fleet.Aside e) : Sound (r.onEvent limits (.beside e he)) := by
  obtain ⟨hchange, hagents, hbindings⟩ := Fleet.tenureStep_onEvent limits r.fleet e he
  have hlinked : (r.fleet.onEvent limits e).coordinator.store.Linked :=
    Fleet.linked_onEvent h.linked e
  have hbusy := h.busy.onEvent limits e
  simp only [onEvent]
  generalize r.fleet.onEvent limits e = f' at hchange hagents hbindings hlinked hbusy
  generalize r.fleet.tenureDeeds e = ds at hchange
  have hagentOf : ∀ deeds, agentOf ⟨f', r.roster, r.sessions, deeds⟩ = r.agentOf := fun _ => rfl
  have hbound : ∀ i b, f'.bindings[i]? = some (some b) → r.agentOf i = some b.agentId := by
    rw [hbindings]
    exact h.bound
  constructor
  case linked => exact hlinked
  case busy => exact hbusy
  case length => exact (congrArg List.length hbindings).trans h.length
  case known =>
    intro i a hi
    exact (hagents a).trans (h.known i a hi)
  case distinct => exact h.distinct
  case own => exact h.own
  case bound => exact hbound
  case begun =>
    -- only a snapshot gives a runner to a session, and it came on the stream of that session
    intro id j hj
    cases hchange with
    | quiet howners =>
      rw [List.append_nil] at hj
      exact h.begun id j hj
    | processed i l s b hl hbinding hstore =>
      rw [holder_append_singleton] at hj
      rcases of_holderAfter hj with ⟨ids, hdeed, -⟩ | ⟨hknown, -⟩
      · cases hdeed
        refine ⟨b.agentId, h.bound _ b ?_⟩
        rw [Fleet.bindings, List.getElem?_map, hl, Option.map_some, hbinding]
      · exact h.begun id j hknown
    | dropped runner hstore =>
      rw [holder_append_singleton] at hj
      rcases of_holderAfter hj with ⟨ids, hdeed, -⟩ | ⟨hknown, -⟩
      · cases hdeed
      · exact h.begun id j hknown
  case attributed =>
    intro id
    cases hchange with
    | quiet howners =>
      simp only [store, howners, List.append_nil]
      exact h.attributed id
    | processed i l s b hl hbinding hstore =>
      have hi : r.agentOf i = some b.agentId := by
        refine h.bound i b ?_
        rw [Fleet.bindings, List.getElem?_map, hl, Option.map_some, hbinding]
      simp only [store, hstore]
      exact h.owners_processed hi s id
    | dropped runner hstore =>
      simp only [store, hstore, Store.dropRunner, Table.get?_erase, holder_append_singleton,
        holderAfter, eq_comm (a := runner)]
      split
      · rfl
      · exact h.attributed id

theorem sound_after (limits : RequestLimits) (roster : Roster) (es : List (Event V)) :
    Sound ((start roster : Rejoining V).after limits es) := by
  induction es using List.reverseRecOn with
  | nil => exact sound_start roster
  | append_singleton es e ih =>
    rw [after_append_singleton]
    cases e with
    | changes e => exact ⟨ih.1, ih.2, ih.3, ih.4, ih.5, ih.6, ih.7, ih.8, ih.9⟩
    | rejoins minted registration => exact ih.rejoins minted registration
    | reports => exact ih.reports
    | arrives i => exact ih.arrives i
    | beside e he => exact ih.beside limits e he

/-! ## What the store lists -/

theorem Store.Linked.mem_ids {s : Store} (h : s.Linked) {id : RunnerId} :
    id ∈ s.listRunners.map Runner.id ↔ ∃ a, s.owners.get? id = some a := by
  rw [Store.listRunners, h.runners_filed.map_values, Table.mem_keys, h.same_keys,
    Table.contains_iff]

/-- The store lists the runners that some session holds. -/
theorem Sound.mem_ids (h : Sound r) {id : RunnerId} :
    id ∈ r.store.listRunners.map Runner.id ↔ ∃ i, holder id r.deeds = some i := by
  rw [Store.Linked.mem_ids h.linked, h.attributed id]
  constructor
  · rintro ⟨a, ha⟩
    obtain ⟨i, hi, -⟩ := Option.bind_eq_some_iff.1 ha
    exact ⟨i, hi⟩
  · rintro ⟨i, hi⟩
    obtain ⟨a, ha⟩ := h.begun id i hi
    exact ⟨a, by rw [hi, Option.bind_some, ha]⟩

theorem Sound.tenureDeeds_of_recording (h : Sound r) {s : Wire.Snapshot}
    (hs : r.fleet.recording? i = some s) :
    r.fleet.tenureDeeds (.streamGoesOn i) = [.processed i s.ids] := by
  obtain ⟨l, hl, hpoint⟩ := Fleet.recording?_eq_some_iff.1 hs
  rcases h.busy l (List.mem_of_getElem? hl) with hidle | ⟨b, hbinding⟩
  · cases hidle.symm.trans hpoint
  · simp only [Fleet.tenureDeeds, hl, hpoint, hbinding]

/-- Immediately after a snapshot of a session is processed, the store lists the runners of that
snapshot and those that the last processed snapshot of another session listed, as long as no
snapshot processed since has listed them and no sweep has dropped them for having no agent. -/
theorem store_after_snapshot (limits : RequestLimits) (roster : Roster) (es : List (Event V))
    (i : Nat) (s : Wire.Snapshot) (id : RunnerId)
    (hs : ((start roster : Rejoining V).after limits es).fleet.recording? i = some s) :
    let r := (start roster : Rejoining V).after limits es
    id ∈ (r.onEvent limits (.beside (.streamGoesOn i) trivial)).store.listRunners.map Runner.id ↔
      id ∈ s.ids ∨ ∃ j before ids after, r.deeds = before ++ .processed j ids :: after ∧ j ≠ i ∧
        id ∈ ids ∧ ∀ d ∈ after, ¬ d.Ends j id := by
  intro r
  have hsound : Sound r := sound_after limits roster es
  have hdeeds : (r.onEvent limits (.beside (.streamGoesOn i) trivial)).deeds =
      r.deeds ++ [.processed i s.ids] :=
    congrArg (r.deeds ++ ·) (hsound.tenureDeeds_of_recording hs)
  rw [(hsound.beside limits (.streamGoesOn i) trivial).mem_ids, hdeeds]
  simp only [holder_append_singleton, holderAfter]
  constructor
  -- whoever holds the runner now has just listed it, or is another session that held it before
  · rintro ⟨j, hj⟩
    split at hj
    · next hids => exact .inl hids
    · split at hj
      · cases hj
      · next hother =>
        obtain ⟨before, ids, after, hsplit, hmem, hafter⟩ := holder_eq_some_iff.1 hj
        have hne : j ≠ i := fun heq => hother (heq ▸ hj)
        exact .inr ⟨j, before, ids, after, hsplit, hne, hmem, hafter⟩
  · rintro (hids | ⟨j, before, ids, after, hsplit, hne, hmem, hafter⟩)
    · exact ⟨i, if_pos hids⟩
    · by_cases hids : id ∈ s.ids
      · exact ⟨i, if_pos hids⟩
      · have hj : holder id r.deeds = some j :=
          holder_eq_some_iff.2 ⟨before, ids, after, hsplit, hmem, hafter⟩
        refine ⟨j, ?_⟩
        rw [if_neg hids, hj, if_neg fun heq => hne (Option.some.inj heq)]

/-! ## A runner that goes while the host is away -/

/-- The host reports a runner, loses its connection and the runner, and comes back. Its first
snapshot is about to be recorded. -/
def goneWhileAway : List (Event lifecycle) :=
  let goesOn i : Event lifecycle := .beside (.streamGoesOn i) trivial
  [.changes (.create (.accepted "r1" "ci" "" "" 0)),
    .rejoins "a1" ⟨"mini-1", some ⟨1, 4, 8⟩⟩, .arrives 0, goesOn 0, goesOn 0, goesOn 0, goesOn 0,
    .beside (.hangUp 0) trivial, .changes (.delete "r1"),
    .rejoins "a2" ⟨"mini-1", some ⟨1, 4, 8⟩⟩, .arrives 1, goesOn 1]

theorem recording_goneWhileAway :
    ((start .empty : Rejoining lifecycle).after ⟨⟨1⟩, ⟨1⟩, ⟨1⟩⟩ goneWhileAway).fleet.recording? 1 =
      some ⟨"a2", 0, []⟩ := by
  decide +kernel

theorem store_after_snapshot_goneWhileAway :
    let r := (start .empty : Rejoining lifecycle).after ⟨⟨1⟩, ⟨1⟩, ⟨1⟩⟩ goneWhileAway
    r.fleet.recording? 1 = some ⟨"a2", 0, []⟩ ∧
      "r1" ∈ (r.onEvent ⟨⟨1⟩, ⟨1⟩, ⟨1⟩⟩ (.beside (.streamGoesOn 1) trivial)).store.listRunners.map
        Runner.id := by
  intro r
  have hiff := store_after_snapshot ⟨⟨1⟩, ⟨1⟩, ⟨1⟩⟩ .empty goneWhileAway 1 ⟨"a2", 0, []⟩ "r1"
    recording_goneWhileAway
  have hdeeds : r.deeds = [] ++ .processed 0 ["r1"] :: [] := by decide +kernel
  refine ⟨recording_goneWhileAway, hiff.2 (.inr ⟨0, [], ["r1"], [], hdeeds, ?_⟩)⟩
  exact ⟨by decide, by decide, List.forall_mem_nil _⟩

/-- When the snapshot of the present session is processed, the store can list more than it does. -/
theorem store_can_list_more :
    ¬ ∀ (limits : RequestLimits) (roster : Roster) (es : List (Event lifecycle)) (i : Nat)
      (s : Wire.Snapshot) (id : RunnerId),
      let r := (start roster : Rejoining lifecycle).after limits es
      r.sessions.length = i + 1 → r.fleet.recording? i = some s →
      (id ∈ (r.onEvent limits (.beside (.streamGoesOn i) trivial)).store.listRunners.map
        Runner.id ↔ id ∈ s.ids) := by
  intro h
  have hpresent : ((start .empty : Rejoining lifecycle).after ⟨⟨1⟩, ⟨1⟩, ⟨1⟩⟩
      goneWhileAway).sessions.length = 1 + 1 := by
    decide +kernel
  have hiff := h ⟨⟨1⟩, ⟨1⟩, ⟨1⟩⟩ .empty goneWhileAway 1 ⟨"a2", 0, []⟩ "r1" hpresent
    recording_goneWhileAway
  have hlisted : "r1" ∈ (((start .empty : Rejoining lifecycle).after ⟨⟨1⟩, ⟨1⟩, ⟨1⟩⟩
      goneWhileAway).onEvent ⟨⟨1⟩, ⟨1⟩, ⟨1⟩⟩
        (.beside (.streamGoesOn 1) trivial)).store.listRunners.map Runner.id := by
    decide +kernel
  exact absurd (hiff.1 hlisted) (by decide)

end Rejoining

end RunnerFleet

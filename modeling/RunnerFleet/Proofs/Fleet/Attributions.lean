import RunnerFleet.Proofs.Fleet.Stores

/-!
# Whom a runner is attributed to

A session is what goes over one stream. The coordinator attributes a runner to the session that
listed it last, until that very session reports without it or a sweep drops it. Which session this
is can be read off the history alone (`holder`). The fleet's tasks do to the store's attributions
what their deeds in the history say (`Fleet.tenureStep_onEvent`), whatever order they go on in.
-/

namespace RunnerFleet

/-- The runners that a snapshot lists. -/
def Wire.Snapshot.ids (s : Wire.Snapshot) : List RunnerId := s.runners.map (·.runnerId)

/-! ## What the history says -/

/-- What becomes of attributions: a snapshot of a session is processed, or a sweep drops a runner
that it found without an agent. Sessions are numbered in the order they begin. -/
inductive TenureDeed where
  | processed (session : Nat) (ids : List RunnerId)
  | dropped (runner : RunnerId)
  deriving DecidableEq, Repr

/-- After the deed, the runner is not attributed to the session any more. -/
def TenureDeed.Ends (session : Nat) (runner : RunnerId) : TenureDeed → Prop
  | processed i ids => i = session ∨ runner ∈ ids
  | dropped k => k = runner

section Holder

variable {runner : RunnerId} {i : Nat} {ds : List TenureDeed}

def holderAfter (runner : RunnerId) (known : Option Nat) : TenureDeed → Option Nat
  | .processed i ids => if runner ∈ ids then some i else if known = some i then none else known
  | .dropped k => if k = runner then none else known

/-- The session that the runner is attributed to. -/
def holder (runner : RunnerId) (ds : List TenureDeed) : Option Nat :=
  ds.foldl (holderAfter runner) none

theorem holder_append_singleton (runner : RunnerId) (ds : List TenureDeed) (d : TenureDeed) :
    holder runner (ds ++ [d]) = holderAfter runner (holder runner ds) d := by
  simp only [holder, List.foldl_append, List.foldl_cons, List.foldl_nil]

theorem holderAfter_of_not_ends {d : TenureDeed} (h : ¬ d.Ends i runner) :
    holderAfter runner (some i) d = some i := by
  cases d with
  | processed j ids =>
    have hids : runner ∉ ids := fun hmem => h (.inr hmem)
    have hne : some i ≠ some j := fun heq => h (.inl (Option.some.inj heq).symm)
    rw [holderAfter, if_neg hids, if_neg hne]
  | dropped k =>
    have hne : k ≠ runner := h
    rw [holderAfter, if_neg hne]

/-- A session that holds the runner after a deed has just listed it, or held it before. -/
theorem of_holderAfter {known : Option Nat} {d : TenureDeed}
    (h : holderAfter runner known d = some i) :
    (∃ ids, d = .processed i ids ∧ runner ∈ ids) ∨ known = some i ∧ ¬ d.Ends i runner := by
  cases d with
  | processed j ids =>
    simp only [holderAfter] at h
    split at h
    · next hmem =>
      cases h
      exact .inl ⟨ids, rfl, hmem⟩
    · next hids =>
      split at h
      · cases h
      · next hne =>
        subst h
        refine .inr ⟨rfl, ?_⟩
        rintro (rfl | hmem)
        · exact hne rfl
        · exact hids hmem
  | dropped k =>
    simp only [holderAfter] at h
    split at h
    · cases h
    · next hne => exact .inr ⟨h, hne⟩

/-- A session holds the runners that it listed in a snapshot and that nothing has ended since. -/
theorem holder_eq_some_iff : holder runner ds = some i ↔ ∃ before ids after,
    ds = before ++ .processed i ids :: after ∧ runner ∈ ids ∧ ∀ d ∈ after, ¬ d.Ends i runner := by
  induction ds using List.reverseRecOn with
  | nil => simp [holder]
  | append_singleton ds d ih =>
    rw [holder_append_singleton]
    constructor
    · intro h
      rcases of_holderAfter h with ⟨ids, rfl, hmem⟩ | ⟨hknown, hends⟩
      · exact ⟨ds, ids, [], rfl, hmem, List.forall_mem_nil _⟩
      · obtain ⟨before, ids, after, rfl, hmem, hafter⟩ := ih.1 hknown
        refine ⟨before, ids, after ++ [d], by simp, hmem, ?_⟩
        intro e he
        rcases List.mem_append.1 he with he | he
        · exact hafter e he
        · rw [List.mem_singleton.1 he]
          exact hends
    · rintro ⟨before, ids, after, hds, hmem, hafter⟩
      rcases List.eq_nil_or_concat' after with rfl | ⟨init, last, rfl⟩
      · obtain ⟨-, hlast⟩ := List.append_inj' hds rfl
        cases hlast
        exact if_pos hmem
      · rw [← List.cons_append, ← List.append_assoc] at hds
        obtain ⟨hinit, hlast⟩ := List.append_inj' hds rfl
        cases hlast
        have hknown : holder runner ds = some i := by
          refine ih.2 ⟨before, ids, init, hinit, hmem, ?_⟩
          intro e he
          exact hafter e (List.mem_append_left _ he)
        rw [hknown]
        exact holderAfter_of_not_ends (hafter d (List.mem_append_right _ List.mem_cons_self))

end Holder

/-! ## What a fleet's tasks do to attributions -/

namespace Link

/-- The link's stream goes on under the same binding. -/
theorem binding_work (c : Coordinator) (l : Link) :
    (l.work c).2.stream.binding = l.stream.binding := by
  unfold work
  split
  · split
    · rfl
    · rfl
  · rfl
  · rfl
  · split
    · rfl
    · rw [after_finish]
      rfl
  · rfl

/-- A snapshot that is heard leaves the stream's binding as it is, or makes the first one. -/
theorem binding_hear {c : Coordinator} {l : Link} {s : Wire.Snapshot} {b : StreamBinding}
    (h : (l.hear c s).2.stream.binding = some b) :
    l.stream.binding = some b ∨ b.agentId = s.agentId := by
  unfold hear at h
  split at h
  · split at h
    · exact .inl h
    · cases hbinding : l.stream.binding with
      | some b' =>
        simp only [SyncStream.bind, hbinding] at h
        exact .inl h
      | none =>
        simp only [SyncStream.bind, hbinding, Option.some.injEq] at h
        subst h
        exact .inr rfl
  · exact .inl h

theorem store_hear (c : Coordinator) (l : Link) (s : Wire.Snapshot) :
    (l.hear c s).1.store = c.store := by
  unfold hear
  split
  · split
    · rfl
    · exact SyncStream.store_bind
  · rfl

theorem binding_hangUp (c : Coordinator) (l : Link) :
    (l.hangUp c).2.stream.binding = l.stream.binding := by
  unfold hangUp
  split
  · split
    · rfl
    · rw [after_finish]
      rfl
  · rfl

/-- A stream that is at work on a snapshot is bound to an agent. -/
def Bound (l : Link) : Prop := l.point = .idle ∨ ∃ b, l.stream.binding = some b

theorem Change.bound {i : Nat} {c c' : Coordinator} {l l' : Link} {ds : List SyncDeed}
    (h : l.Change i c c' l' ds) (hl : l.Bound) : l'.Bound := by
  cases h with
  | none => exact hl
  | deafened => exact hl
  | named s => exact .inr ⟨_, rfl⟩
  | heard s b _ _ hbinding => exact .inr ⟨b, hbinding⟩
  | marked s b _ _ hbinding => exact .inr ⟨b, hbinding⟩
  | reported s b _ hbinding => exact .inr ⟨b, hbinding⟩
  | popped b _ hbinding => exact .inr ⟨b, hbinding⟩
  | refused | replied | missed | ended => exact .inl rfl

end Link

namespace SyncStream

theorem owners_finish (c : Coordinator) (s : SyncStream) :
    (s.finish c).1.store.owners = c.store.owners :=
  tables_finish.2

end SyncStream

theorem Link.owners_hangUp (c : Coordinator) (l : Link) :
    (l.hangUp c).1.store.owners = c.store.owners := by
  unfold hangUp
  split
  · split
    · rfl
    · rw [after_finish]
      exact SyncStream.owners_finish c l.stream
  · rfl

theorem Adding.owners_step (c : Coordinator) (limits : RequestLimits) (now : Instant)
    (a : Adding) : (a.step c limits now).1.store.owners = c.store.owners ∧
      (a.step c limits now).1.store.agents = c.store.agents := by
  unfold step
  split
  · exact ⟨rfl, rfl⟩
  · exact ⟨rfl, rfl⟩
  · exact ⟨rfl, rfl⟩
  · exact ⟨rfl, rfl⟩
  · exact ⟨rfl, rfl⟩
  · next watch _ =>
    have hstore := AddCall.store_resume c limits now ⟨a.runner, a.began, watch⟩
    split
    · next hresume =>
      rw [hresume] at hstore
      exact ⟨congrArg Store.owners hstore, congrArg Store.agents hstore⟩
    · next hresume =>
      rw [hresume] at hstore
      exact ⟨congrArg Store.owners hstore, congrArg Store.agents hstore⟩

theorem DeleteCall.owners_step (c : Coordinator) (limits : RequestLimits) (now : Instant)
    (call : DeleteCall) : (call.step c limits now).1.store.owners = c.store.owners ∧
      (call.step c limits now).1.store.agents = c.store.agents := by
  unfold step
  cases call.point with
  | resolving =>
    simp only
    split
    · exact ⟨rfl, rfl⟩
    · exact ⟨rfl, rfl⟩
    · split <;> exact ⟨rfl, rfl⟩
  | withdrawing | awaitingReport | routing | awaitingRemoval =>
    simp only
    split <;> exact ⟨rfl, rfl⟩
  | forgetting | ordering => exact ⟨rfl, rfl⟩

namespace Fleet

variable {V : VmService} {limits : RequestLimits} {f f' : Fleet V}

/-- The event is not one by which a host takes part in the fleet. -/
def Aside : FleetEvent V → Prop
  | .register .. | .connect .. | .snapshot .. | .restart => False
  | _ => True

def bindings (f : Fleet V) : List (Option StreamBinding) := f.links.map (·.stream.binding)

/-- The snapshot that the stream records with its next step. -/
def recording? (f : Fleet V) (i : Nat) : Option Wire.Snapshot := do
  let l ← f.links[i]?
  match l.point with
  | .marked s => some s
  | _ => none

theorem recording?_eq_some_iff {i : Nat} {s : Wire.Snapshot} :
    f.recording? i = some s ↔ ∃ l, f.links[i]? = some l ∧ l.point = .marked s := by
  unfold recording?
  cases hl : f.links[i]? with
  | none => simp
  | some l =>
    rcases hpoint : l.point with _ | s' | s' | _ | command <;> simp [hpoint]

/-- What an event aside adds to the history. -/
def tenureDeeds (f : Fleet V) : FleetEvent V → List TenureDeed
  | .streamGoesOn i =>
    match f.links[i]? with
    | some l =>
      match l.point, l.stream.binding with
      | .marked s, some _ => [.processed i s.ids]
      | _, _ => []
    | none => []
  | .sweepGoesOn i =>
    match f.sweeps[i]? with
    | some ⟨runner :: _, .dropping⟩ => [.dropped runner.id]
    | _ => []
  | _ => []

/-- What an event aside can do to attributions. -/
inductive TenureChange (f f' : Fleet V) : List TenureDeed → Prop where
  | quiet (howners : f'.coordinator.store.owners = f.coordinator.store.owners) :
      TenureChange f f' []
  | processed (i : Nat) (l : Link) (s : Wire.Snapshot) (b : StreamBinding)
      (hl : f.links[i]? = some l) (hbinding : l.stream.binding = some b)
      (hstore : f'.coordinator.store =
        (SyncStream.reconcile f.coordinator b.agentId s).store) :
      TenureChange f f' [.processed i s.ids]
  | dropped (runner : RunnerId)
      (hstore : f'.coordinator.store = f.coordinator.store.dropRunner runner) :
      TenureChange f f' [.dropped runner]

/-- An event aside registers no agent and forgets none, and no stream is bound or loses its
binding. -/
structure TenureStep (f f' : Fleet V) (ds : List TenureDeed) : Prop where
  change : TenureChange f f' ds
  agents : ∀ a, f'.coordinator.store.agents.contains a = f.coordinator.store.agents.contains a
  bindings : f'.bindings = f.bindings

theorem TenureStep.still (hstore : f'.coordinator.store = f.coordinator.store)
    (hbindings : f'.bindings = f.bindings) : TenureStep f f' [] := by
  refine ⟨.quiet (congrArg Store.owners hstore), ?_, hbindings⟩
  intro a
  rw [hstore]

theorem TenureStep.of_tables
    (h : f'.coordinator.store.owners = f.coordinator.store.owners ∧
      f'.coordinator.store.agents = f.coordinator.store.agents)
    (hbindings : f'.bindings = f.bindings) : TenureStep f f' [] := by
  refine ⟨.quiet h.1, ?_, hbindings⟩
  intro a
  rw [h.2]

theorem tenureStep_link {i : Nat} {l : Link} {act : Coordinator → Link → Coordinator × Link}
    (hl : f.links[i]? = some l) (ds : List TenureDeed)
    (hbinding : (act f.coordinator l).2.stream.binding = l.stream.binding)
    (hagents : ∀ a, (act f.coordinator l).1.store.agents.contains a =
      f.coordinator.store.agents.contains a)
    (hchange : TenureChange f (f.onLink i act) ds) : TenureStep f (f.onLink i act) ds := by
  refine ⟨hchange, ?_, ?_⟩
  · simpa only [onLink, hl] using hagents
  · simp only [onLink, hl]
    exact map_set_of_same hl hbinding

/-- A stream can go on in a way that leaves the attributions as they are. -/
theorem tenureStep_aside {i : Nat} {act : Coordinator → Link → Coordinator × Link}
    (hbinding : ∀ l, (act f.coordinator l).2.stream.binding = l.stream.binding)
    (hagents : ∀ l a, (act f.coordinator l).1.store.agents.contains a =
      f.coordinator.store.agents.contains a)
    (howners : ∀ l, (act f.coordinator l).1.store.owners = f.coordinator.store.owners) :
    TenureStep f (f.onLink i act) [] := by
  cases hl : f.links[i]? with
  | none =>
    simp only [onLink, hl]
    exact .still rfl rfl
  | some l =>
    refine tenureStep_link hl _ (hbinding l) (hagents l) (.quiet ?_)
    simp only [onLink, hl]
    exact howners l

theorem tenureStep_streamGoesOn (limits : RequestLimits) (f : Fleet V) (i : Nat) :
    TenureStep f (f.onEvent limits (.streamGoesOn i)) (f.tenureDeeds (.streamGoesOn i)) := by
  simp only [onEvent, tenureDeeds]
  cases hl : f.links[i]? with
  | none =>
    simp only [onLink, hl]
    exact .still rfl rfl
  | some l =>
    have hchange := l.change_work i f.coordinator
    have hcoordinator : (f.onLink i fun c l => l.work c).coordinator =
        (l.work f.coordinator).1 := by
      simp only [onLink, hl]
    refine tenureStep_link hl _ (l.binding_work f.coordinator) hchange.contains ?_
    dsimp only
    rcases hpoint : l.point with _ | s | s | _ | command
    · refine .quiet ?_
      rw [hcoordinator, Link.work, hpoint]
    · refine .quiet ?_
      rw [hcoordinator]
      cases hbinding : l.stream.binding with
      | none => rw [Link.work, hpoint, hbinding]
      | some b =>
        simp only [Link.work, hpoint, hbinding, Store.setAgentStatus]
        cases f.coordinator.store.agents.get? b.agentId with
        | none => rfl
        | some agent => rfl
    · cases hbinding : l.stream.binding with
      | none =>
        refine .quiet ?_
        rw [hcoordinator, Link.work, hpoint, hbinding]
      | some b =>
        refine .processed i l s b hl hbinding ?_
        rw [hcoordinator, Link.work, hpoint, hbinding]
    · refine .quiet ?_
      rw [hcoordinator]
      cases hbinding : l.stream.binding with
      | none => rw [Link.work, hpoint, hbinding]
      | some b => rw [Link.work, hpoint, hbinding]
    · refine .quiet ?_
      rw [hcoordinator]
      simp only [Link.work, hpoint]
      split
      · rfl
      · rw [Link.after_finish]
        exact SyncStream.owners_finish f.coordinator l.stream

theorem tenureStep_sweepGoesOn (limits : RequestLimits) (f : Fleet V) (i : Nat) :
    TenureStep f (f.onEvent limits (.sweepGoesOn i)) (f.tenureDeeds (.sweepGoesOn i)) := by
  simp only [onEvent, tenureDeeds, onSweep]
  cases f.sweeps[i]? with
  | none => exact .still rfl rfl
  | some w =>
    obtain ⟨rest, point⟩ := w
    cases rest with
    | nil => exact .still rfl rfl
    | cons runner rest =>
      cases point with
      | attributing =>
        simp only [Sweeping.step]
        split <;> exact .still rfl rfl
      | queueing agent => exact .still rfl rfl
      | dropping => exact ⟨.dropped runner.id rfl, fun _ => rfl, rfl⟩

theorem bindings_onHost {i : Nat} {act : HostRun V → HostRun V} :
    (f.onHost i act).bindings = f.bindings := by
  unfold onHost
  split <;> rfl

theorem tenureStep_onEvent (limits : RequestLimits) (f : Fleet V) (e : FleetEvent V)
    (he : Aside e) : TenureStep f (f.onEvent limits e) (f.tenureDeeds e) := by
  cases e with
  | register | connect | snapshot | restart => exact he.elim
  | streamGoesOn i => exact tenureStep_streamGoesOn limits f i
  | sweepGoesOn i => exact tenureStep_sweepGoesOn limits f i
  | hangUp i =>
    exact tenureStep_aside (·.binding_hangUp f.coordinator)
      (fun l => (l.change_hangUp i f.coordinator).contains) (·.owners_hangUp f.coordinator)
  | deafen i | lose i j =>
    simp only [onEvent, tenureDeeds]
    refine tenureStep_aside ?_ ?_ ?_
    · exact fun l => rfl
    · exact fun l a => rfl
    · exact fun l => rfl
  | addGoesOn i now =>
    simp only [onEvent, tenureDeeds, onAdd]
    split
    · next a _ => exact .of_tables (a.owners_step f.coordinator limits now) rfl
    · exact .still rfl rfl
  | deleteGoesOn i now =>
    simp only [onEvent, tenureDeeds, onDelete]
    split
    · next call _ => exact .of_tables (call.owners_step f.coordinator limits now) rfl
    · exact .still rfl rfl
  | collect =>
    simp only [onEvent, tenureDeeds, Coordinator.collect?]
    cases Gauges.ofStore? f.coordinator.store with
    | none => exact .still rfl rfl
    | some gauges => exact .still rfl rfl
  | deliver i j agent now =>
    refine .still ?_ ?_
    · simp only [onEvent, coordinator_deliver]
    · simp only [onEvent, deliver]
      split
      · next l hl =>
        split
        · rw [bindings_onHost]
          exact map_set_of_same hl rfl
        · rfl
      · rfl
  | host i m =>
    refine .still ?_ bindings_onHost
    simp only [onEvent, coordinator_onHost]
  | joins | add | addGivenUp | delete | deleteGivenUp | sweep => exact .still rfl rfl

def Bound (f : Fleet V) : Prop := ∀ l ∈ f.links, l.Bound

theorem Bound.onLink {i : Nat} {act : Coordinator → Link → Coordinator × Link} (h : f.Bound)
    (hact : ∀ c l, l.Bound → (act c l).2.Bound) : (f.onLink i act).Bound := by
  unfold Fleet.onLink
  split
  · next l hl =>
    intro l' hl'
    rcases List.mem_or_eq_of_mem_set hl' with hl' | rfl
    · exact h l' hl'
    · exact hact f.coordinator l (h l (List.mem_of_getElem? hl))
  · exact h

theorem Bound.onHost {i : Nat} {act : HostRun V → HostRun V} (h : f.Bound) :
    (f.onHost i act).Bound := by
  unfold Fleet.onHost
  split <;> exact h

theorem Bound.onEvent (h : f.Bound) (limits : RequestLimits) (e : FleetEvent V) :
    (f.onEvent limits e).Bound := by
  cases e with
  | snapshot i s => exact h.onLink fun c l hl => (l.change_hear i c s).bound hl
  | streamGoesOn i => exact h.onLink fun c l hl => (l.change_work i c).bound hl
  | hangUp i => exact h.onLink fun c l hl => (l.change_hangUp i c).bound hl
  | deafen i => exact h.onLink fun c l hl => hl
  | lose i j => exact h.onLink fun c l hl => hl
  | connect host =>
    intro l hl
    rcases List.mem_append.1 hl with hl | hl
    · exact h l hl
    · rw [List.mem_singleton.1 hl]
      exact .inl rfl
  | deliver i j agent now =>
    simp only [Fleet.onEvent, deliver]
    split
    · next l hl =>
      split
      · refine Bound.onHost ?_
        intro l' hl'
        rcases List.mem_or_eq_of_mem_set hl' with hl' | rfl
        · exact h l' hl'
        · exact h l (List.mem_of_getElem? hl)
      · exact h
    · exact h
  | host i m => exact h.onHost
  | restart =>
    intro l hl
    obtain ⟨l, -, rfl⟩ := List.mem_map.1 hl
    exact .inl rfl
  | addGoesOn i now =>
    simp only [Fleet.onEvent, onAdd]
    split <;> exact h
  | deleteGoesOn i now =>
    simp only [Fleet.onEvent, onDelete]
    split <;> exact h
  | sweepGoesOn i =>
    simp only [Fleet.onEvent, onSweep]
    split <;> exact h
  | joins | register | add | addGivenUp | delete | deleteGivenUp | sweep | collect => exact h

end Fleet

end RunnerFleet

import RunnerFleet.Proofs.Fleet.Creations
import RunnerFleet.Proofs.Fleet.Rejoining

/-!
# Where an undelivered deletion waits

A request or a sweep looks up the runner's agent once, and the deletion that it then queues stays in
the queue of that agent. Attributions go on changing: every recorded snapshot takes the runners that
it lists over. So a deletion waits with the agent of its look-up, and the runner belongs to whoever
has listed it last since then (`Fleet.deletion_waits`).
-/

namespace RunnerFleet

theorem mem_replaceAt {α : Type} {l : List α} {i : Nat} {next : Option α} {a : α}
    (h : a ∈ replaceAt l i next) : a ∈ l ∨ next = some a := by
  cases next with
  | none => exact .inl (List.mem_of_mem_eraseIdx h)
  | some b =>
    rcases List.mem_or_eq_of_mem_set h with hmem | rfl
    · exact .inl hmem
    · exact .inr rfl

/-! ## Queues

No step queues a deletion but the last but one of a delete request and the last of a sweep. -/

section Queues

variable {c : Coordinator} {limits : RequestLimits} {now : Instant} {agent : AgentId}
  {runner : RunnerId} {requestId : String}

theorem Outbox.of_mem_queueOf_enqueue {m : Outbox} {target : AgentId} {command d : Command}
    (h : d ∈ (m.enqueue target command).queueOf agent) :
    d ∈ m.queueOf agent ∨ agent = target ∧ d = command := by
  rw [queueOf_enqueue] at h
  split at h
  · next ha =>
    subst ha
    rcases List.mem_append.1 h with hmem | hmem
    · exact .inl hmem
    · exact .inr ⟨rfl, List.mem_singleton.1 hmem⟩
  · exact .inl h

theorem Outbox.mem_of_mem_withdrawCreate {m : Outbox} {d : Command}
    (h : d ∈ (m.withdrawCreate runner).1.queueOf agent) : d ∈ m.queueOf agent := by
  cases htaken : (m.withdrawCreate runner).2 with
  | none => rwa [withdrawCreate_of_none htaken] at h
  | some holder =>
    rw [(queueOf_withdrawCreate htaken).2] at h
    split at h
    · next ha =>
      subst ha
      exact List.mem_of_mem_eraseP h
    · exact h

theorem Adding.queued_step {a : Adding}
    (h : .deleteRunner runner requestId ∈ (a.step c limits now).1.outbox.queueOf agent) :
    .deleteRunner runner requestId ∈ c.outbox.queueOf agent := by
  unfold step at h
  split at h
  · exact h
  · exact h
  · exact h
  · exact h
  · rcases Outbox.of_mem_queueOf_enqueue h with hmem | ⟨-, hcommand⟩
    · exact hmem
    · cases hcommand
  · next watch _ =>
    have houtbox := AddCall.outbox_resume c limits now ⟨a.runner, a.began, watch⟩
    split at h
    · next hresume =>
      rw [hresume] at houtbox
      exact houtbox ▸ h
    · next hresume =>
      rw [hresume] at houtbox
      exact houtbox ▸ h

theorem DeleteCall.queued_step {call : DeleteCall} {d : Command}
    (h : d ∈ (call.step c limits now).1.outbox.queueOf agent) : d ∈ c.outbox.queueOf agent ∨
      ∃ runner, call.point = .ordering runner agent ∧ d = .deleteRunner runner call.requestId := by
  unfold step at h
  cases hpoint : call.point with
  | resolving =>
    left
    simp only [hpoint] at h
    split at h
    · exact h
    · exact h
    · split at h <;> exact h
  | withdrawing runner =>
    left
    simp only [hpoint] at h
    split at h
    · next hwithdraw =>
      have houtbox := congrArg Prod.fst hwithdraw
      dsimp only at houtbox h
      rw [← houtbox] at h
      exact Outbox.mem_of_mem_withdrawCreate h
    · exact h
  | awaitingReport runner watch | routing runner | awaitingRemoval runner watch =>
    left
    simp only [hpoint] at h
    split at h <;> exact h
  | forgetting label =>
    simp only [hpoint] at h
    exact .inl h
  | ordering runner target =>
    simp only [hpoint] at h
    rcases Outbox.of_mem_queueOf_enqueue h with hmem | ⟨rfl, hcommand⟩
    · exact .inl hmem
    · exact .inr ⟨runner, rfl, hcommand⟩

/-- A request is about to queue a deletion for the agent that it has just looked up. -/
theorem DeleteCall.ordering_step {call next : DeleteCall}
    (h : (call.step c limits now).2.call? = some next)
    (hpoint : next.point = .ordering runner agent) :
    call.point = .routing runner ∧ c.store.agentOfRunner runner = .ok agent ∧
      next.requestId = call.requestId := by
  unfold step at h
  cases hbefore : call.point with
  | resolving =>
    simp only [hbefore] at h
    split at h
    · cases h
      cases hpoint
    · cases h
      cases hpoint
    · split at h <;> cases h
  | withdrawing id | awaitingReport id watch =>
    simp only [hbefore] at h
    split at h <;> cases h <;> cases hpoint
  | forgetting label =>
    simp only [hbefore] at h
    cases h
  | routing id =>
    simp only [hbefore] at h
    split at h
    · next howner =>
      cases h
      cases hpoint
      exact ⟨rfl, howner, rfl⟩
    · cases h
  | ordering id target =>
    simp only [hbefore] at h
    cases h
    cases hpoint
  | awaitingRemoval id watch =>
    simp only [hbefore] at h
    split at h <;> cases h
    cases hpoint

theorem Sweeping.queued_step {w : Sweeping} {d : Command}
    (h : d ∈ (w.step c).1.outbox.queueOf agent) : d ∈ c.outbox.queueOf agent ∨
      ∃ runner rest, w = ⟨runner :: rest, .queueing agent⟩ ∧ d = Sweep.deletion runner.id := by
  obtain ⟨rest, point⟩ := w
  cases rest with
  | nil => exact .inl h
  | cons runner rest =>
    cases point with
    | attributing =>
      left
      simp only [step] at h
      split at h <;> exact h
    | queueing target =>
      simp only [step, Outbox.enqueueUnique] at h
      split at h
      · exact .inl h
      · rcases Outbox.of_mem_queueOf_enqueue h with hmem | ⟨rfl, hcommand⟩
        · exact .inl hmem
        · exact .inr ⟨runner, rest, rfl, hcommand⟩
    | dropping => exact .inl h

theorem Sweeping.queueing_step {w : Sweeping} {runner : Runner} {rest : List Runner}
    (h : (w.step c).2 = ⟨runner :: rest, .queueing agent⟩) :
    w = ⟨runner :: rest, .attributing⟩ ∧ c.store.agentOfRunner runner.id = .ok agent := by
  obtain ⟨before, point⟩ := w
  cases before with
  | nil => cases h
  | cons first others =>
    cases point with
    | attributing =>
      simp only [step] at h
      split at h
      · next howner =>
        cases h
        exact ⟨rfl, howner⟩
      · cases h
    | queueing target => cases h
    | dropping => cases h

/-- A stream takes commands from queues and puts none there. -/
theorem Link.Change.queued {i : Nat} {c' : Coordinator} {l l' : Link} {ds : List SyncDeed}
    (hchange : l.Change i c c' l' ds) {d : Command} (h : d ∈ c'.outbox.queueOf agent) :
    d ∈ c.outbox.queueOf agent := by
  cases hchange with
  | reported s b => rwa [SyncStream.outbox_reconcile] at h
  | popped b =>
    rw [Outbox.queueOf_next] at h
    split at h
    · next ha =>
      subst ha
      exact List.mem_of_mem_tail h
    · exact h
  | missed command => rwa [SyncStream.outbox_finish] at h
  | ended => rwa [SyncStream.outbox_finish] at h
  | _ => exact h

end Queues

namespace Fleet

variable {V : VmService} {limits : RequestLimits} {f : Fleet V} {agent : AgentId}
  {runner : RunnerId} {requestId : String}

/-! ## From the look-up to the queue -/

/-- The deletion that an event's look-up of a runner's agent is for, with the agent found. -/
def routes? (f : Fleet V) : FleetEvent V → Option (AgentId × Command)
  | .deleteGoesOn i _ =>
    match f.deletes[i]? with
    | some ⟨_, requestId, .routing runner⟩ =>
      (f.coordinator.store.agentOfRunner runner).toOption.map fun agent =>
        (agent, .deleteRunner runner requestId)
    | _ => none
  | .sweepGoesOn i =>
    match f.sweeps[i]? with
    | some ⟨runner :: _, .attributing⟩ =>
      (f.coordinator.store.agentOfRunner runner.id).toOption.map fun agent =>
        (agent, Sweep.deletion runner.id)
    | _ => none
  | _ => none

/-- The command waits for the agent, or a request or a sweep is about to queue it for the agent. -/
def Addressed (f : Fleet V) (agent : AgentId) (command : Command) : Prop :=
  command ∈ f.coordinator.outbox.queueOf agent ∨
    (∃ call ∈ f.deletes, ∃ runner, call.point = .ordering runner agent ∧
      command = .deleteRunner runner call.requestId) ∨
    ∃ w ∈ f.sweeps, ∃ runner rest, w = ⟨runner :: rest, .queueing agent⟩ ∧
      command = Sweep.deletion runner.id

theorem Addressed.of_same {f' : Fleet V} {command : Command} (h : f'.Addressed agent command)
    (hqueue : command ∈ f'.coordinator.outbox.queueOf agent →
      command ∈ f.coordinator.outbox.queueOf agent)
    (hdeletes : ∀ call ∈ f'.deletes, call ∈ f.deletes) (hsweeps : f'.sweeps = f.sweeps) :
    f.Addressed agent command := by
  rcases h with hmem | ⟨call, hcall, hrest⟩ | hsweep
  · exact .inl (hqueue hmem)
  · exact .inr (.inl ⟨call, hdeletes call hcall, hrest⟩)
  · exact .inr (.inr (hsweeps ▸ hsweep))

/-- A coordinator that has just started has nothing addressed to anyone. -/
theorem not_addressed {command : Command} (hcoordinator : f.coordinator = .initial)
    (hdeletes : f.deletes = []) (hsweeps : f.sweeps = []) : ¬ f.Addressed agent command := by
  rintro (hqueued | ⟨call, hcall, -⟩ | ⟨w, hw, -⟩)
  · rw [hcoordinator] at hqueued
    cases hqueued
  · rw [hdeletes] at hcall
    cases hcall
  · rw [hsweeps] at hw
    cases hw

theorem addressed_onLink {i : Nat} {act : Coordinator → Link → Coordinator × Link}
    {command : Command}
    (hact : ∀ c l, command ∈ (act c l).1.outbox.queueOf agent → command ∈ c.outbox.queueOf agent)
    (h : (f.onLink i act).Addressed agent command) : f.Addressed agent command := by
  unfold onLink at h
  split at h
  · next l _ => exact h.of_same (hact f.coordinator l) (fun _ hcall => hcall) rfl
  · exact h

theorem addressed_onDelete {i : Nat} {now : Instant} {command : Command}
    (h : (f.onDelete limits now i).Addressed agent command) : f.Addressed agent command ∨
      f.routes? (.deleteGoesOn i now) = some (agent, command) := by
  unfold onDelete at h
  split at h
  · next call hcall =>
    have hmem := List.mem_of_getElem? hcall
    rcases h with hqueued | ⟨next, hnext, runner, hpoint, hcommand⟩ | hsweep
    · rcases DeleteCall.queued_step hqueued with hbefore | hordering
      · exact .inl (.inl hbefore)
      · exact .inl (.inr (.inl ⟨call, hmem, hordering⟩))
    · rcases mem_replaceAt hnext with hbefore | hstep
      · exact .inl (.inr (.inl ⟨next, hbefore, runner, hpoint, hcommand⟩))
      · obtain ⟨hrouting, howner, hid⟩ := DeleteCall.ordering_step hstep hpoint
        obtain ⟨cloudId, requestId, point⟩ := call
        dsimp only at hrouting hid
        subst hrouting
        right
        simp only [routes?, hcall, howner, Except.toOption, Option.map_some, hcommand, hid]
    · exact .inl (.inr (.inr hsweep))
  · exact .inl h

theorem addressed_onSweep {i : Nat} {command : Command}
    (h : (f.onSweep i).Addressed agent command) : f.Addressed agent command ∨
      f.routes? (.sweepGoesOn i) = some (agent, command) := by
  unfold onSweep at h
  split at h
  · next w hw =>
    have hmem := List.mem_of_getElem? hw
    rcases h with hqueued | hdelete | ⟨next, hnext, runner, rest, hstep, hcommand⟩
    · rcases Sweeping.queued_step hqueued with hbefore | hqueueing
      · exact .inl (.inl hbefore)
      · exact .inl (.inr (.inr ⟨w, hmem, hqueueing⟩))
    · exact .inl (.inr (.inl hdelete))
    · rcases List.mem_or_eq_of_mem_set hnext with hbefore | rfl
      · exact .inl (.inr (.inr ⟨next, hbefore, runner, rest, hstep, hcommand⟩))
      · obtain ⟨rfl, howner⟩ := Sweeping.queueing_step hstep
        right
        simp only [routes?, hw, howner, Except.toOption, Option.map_some, hcommand]
  · exact .inl h

/-- A deletion that is newly addressed to an agent has just been looked up. -/
theorem addressed_onEvent {e : FleetEvent V}
    (h : (f.onEvent limits e).Addressed agent (.deleteRunner runner requestId)) :
    f.Addressed agent (.deleteRunner runner requestId) ∨
      f.routes? e = some (agent, .deleteRunner runner requestId) := by
  cases e with
  | deleteGoesOn i now => exact addressed_onDelete h
  | sweepGoesOn i => exact addressed_onSweep h
  | restart => exact absurd h (not_addressed rfl rfl rfl)
  | snapshot i s => exact .inl (addressed_onLink (fun c l => (l.change_hear i c s).queued) h)
  | streamGoesOn i => exact .inl (addressed_onLink (fun c l => (l.change_work i c).queued) h)
  | hangUp i => exact .inl (addressed_onLink (fun c l => (l.change_hangUp i c).queued) h)
  | deafen i => exact .inl (addressed_onLink (fun c l hqueued => hqueued) h)
  | lose i j => exact .inl (addressed_onLink (fun c l hqueued => hqueued) h)
  | addGoesOn i now =>
    simp only [onEvent, onAdd] at h
    split at h
    · exact .inl (h.of_same Adding.queued_step (fun _ hcall => hcall) rfl)
    · exact .inl h
  | delete cloudId requestId =>
    rcases h with hqueued | ⟨call, hcall, hrest⟩ | hsweep
    · exact .inl (.inl hqueued)
    · rcases List.mem_append.1 hcall with hbefore | hnew
      · exact .inl (.inr (.inl ⟨call, hbefore, hrest⟩))
      · obtain rfl := List.mem_singleton.1 hnew
        obtain ⟨_, hpoint, -⟩ := hrest
        cases hpoint
    · exact .inl (.inr (.inr hsweep))
  | deleteGivenUp i =>
    exact .inl (h.of_same id (fun _ hcall => List.mem_of_mem_eraseIdx hcall) rfl)
  | sweep now grace =>
    rcases h with hqueued | hdelete | ⟨w, hw, runner, rest, hpoint, hcommand⟩
    · exact .inl (.inl hqueued)
    · exact .inl (.inr (.inl hdelete))
    · rcases List.mem_append.1 hw with hbefore | hnew
      · exact .inl (.inr (.inr ⟨w, hbefore, runner, rest, hpoint, hcommand⟩))
      · obtain rfl := List.mem_singleton.1 hnew
        cases (Sweeping.mk.inj hpoint).2
  | collect =>
    refine .inl (h.of_same ?_ (fun _ hcall => hcall) rfl)
    intro hqueued
    simp only [onEvent] at hqueued
    rwa [outbox_collect] at hqueued
  | deliver i j target now =>
    simp only [onEvent, deliver, onHost] at h
    split at h
    · split at h
      · split at h <;> exact .inl h
      · exact .inl h
    · exact .inl h
  | host i m =>
    simp only [onEvent, onHost] at h
    split at h <;> exact .inl h
  | joins | register | add | addGivenUp | connect => exact .inl h

/-! ## Whose the runner becomes -/

/-- The agent under which the event records a snapshot that lists the runner. -/
def lister? (f : Fleet V) (runner : RunnerId) (e : FleetEvent V) : Option AgentId :=
  match f.tenureDeeds e with
  | [.processed i ids] =>
    if runner ∈ ids then
      (f.bindings[i]?.join.map (·.agentId)).filter f.coordinator.store.agents.contains
    else none
  | _ => none

/-- The agent under which the last such snapshot is recorded. -/
def lastLister? (limits : RequestLimits) (runner : RunnerId) (f : Fleet V) :
    List (FleetEvent V) → Option AgentId
  | [] => none
  | e :: es => (lastLister? limits runner (f.onEvent limits e) es).or (f.lister? runner e)

theorem lastLister?_append_singleton (f : Fleet V) (es : List (FleetEvent V)) (e : FleetEvent V) :
    f.lastLister? limits runner (es ++ [e]) =
      ((f.after limits es).lister? runner e).or (f.lastLister? limits runner es) := by
  induction es generalizing f with
  | nil =>
    simp only [List.nil_append, lastLister?, Option.none_or, Option.or_none]
    rfl
  | cons first rest ih =>
    simp only [List.cons_append, lastLister?, ih, Option.or_assoc]
    rfl

theorem lister?_of_routes {e : FleetEvent V} {command : Command}
    (h : f.routes? e = some (agent, command)) : f.lister? runner e = none := by
  cases e with
  | deleteGoesOn i now => rfl
  | sweepGoesOn i =>
    simp only [routes?] at h
    split at h
    · next hw => simp only [lister?, tenureDeeds, hw]
    · cases h
  | _ => cases h

/-- A runner that an agent has after a report was listed in it, or the agent had it before. -/
theorem owner_reconcile {c : Coordinator} {s : Wire.Snapshot} {owner : AgentId}
    (h : (SyncStream.reconcile c agent s).store.owners.get? runner = some owner) :
    let listed := if runner ∈ s.ids then (some agent).filter c.store.agents.contains else none
    listed = some owner ∨ listed = none ∧ c.store.owners.get? runner = some owner := by
  intro listed
  rcases c.store.report_cases agent (s.runners.map (·.toRunner)) with
    ⟨store, hreport⟩ | ⟨hunknown, hreport⟩
  · have hknown := (Store.report_eq_ok_iff.1 hreport).1
    have hlisted : listed = if runner ∈ s.ids then some agent else none := by
      simp only [listed, Option.filter_some, if_pos hknown]
    simp only [SyncStream.reconcile, hreport, Store.get?_owners_report hreport,
      Rejoining.any_toRunner] at h
    rw [hlisted]
    split at h
    · next hids =>
      rw [if_pos hids]
      exact .inl h
    · next hids =>
      rw [if_neg hids]
      split at h
      · cases h
      · exact .inr ⟨rfl, h⟩
  · have hlisted : listed = none := by
      simp [listed, Option.filter_some, Table.contains, hunknown]
    simp only [SyncStream.reconcile, hreport] at h
    exact .inr ⟨hlisted, h⟩

theorem owners_of_not_aside (limits : RequestLimits) (f : Fleet V) {e : FleetEvent V}
    (he : e ≠ .restart) (haside : ¬ Aside e) :
    (f.onEvent limits e).coordinator.store.owners = f.coordinator.store.owners ∧
      f.tenureDeeds e = [] := by
  cases e with
  | restart => exact absurd rfl he
  | register minted r => exact ⟨rfl, rfl⟩
  | connect host => exact ⟨rfl, rfl⟩
  | snapshot i s =>
    refine ⟨?_, rfl⟩
    simp only [onEvent, onLink]
    split
    · next l _ => exact congrArg Store.owners (l.store_hear f.coordinator s)
    · rfl
  | _ => exact absurd trivial haside

/-- Between two starts of the coordinator, a runner comes to an agent by a snapshot only. -/
theorem owner_onEvent {e : FleetEvent V} (he : e ≠ .restart) {owner : AgentId}
    (h : (f.onEvent limits e).coordinator.store.owners.get? runner = some owner) :
    f.lister? runner e = some owner ∨
      f.lister? runner e = none ∧ f.coordinator.store.owners.get? runner = some owner := by
  by_cases haside : Aside e
  · have hchange := (tenureStep_onEvent limits f e haside).change
    unfold lister?
    generalize f.tenureDeeds e = ds at hchange ⊢
    cases hchange with
    | quiet howners =>
      rw [howners] at h
      exact .inr ⟨rfl, h⟩
    | processed i l s b hl hbinding hstore =>
      have hbound : f.bindings[i]?.join.map (·.agentId) = some b.agentId := by
        rw [bindings, List.getElem?_map, hl, Option.map_some, hbinding]
        rfl
      rw [hstore] at h
      simp only [hbound]
      exact owner_reconcile h
    | dropped id hstore =>
      rw [hstore, Store.dropRunner, Table.get?_erase] at h
      split at h
      · cases h
      · exact .inr ⟨rfl, h⟩
  · obtain ⟨howners, hdeeds⟩ := owners_of_not_aside limits f he haside
    have hnone : f.lister? runner e = none := by simp only [lister?, hdeeds]
    rw [howners] at h
    exact .inr ⟨hnone, h⟩

/-! ## Runs -/

/-- In the run, the agent was looked up for the deletion, and the runner belongs to whoever has
listed it last since. -/
def Routed (limits : RequestLimits) (es : List (FleetEvent V)) (agent : AgentId)
    (runner : RunnerId) (requestId : String) : Prop :=
  ∃ before e after, es = before ++ e :: after ∧
    (start.after limits before).routes? e = some (agent, .deleteRunner runner requestId) ∧
    ∀ owner, ((start : Fleet V).after limits es).coordinator.store.owners.get? runner = some owner →
      owner = ((start.after limits (before ++ [e])).lastLister? limits runner after).getD agent

theorem owner_of_routes {e : FleetEvent V}
    (h : f.routes? e = some (agent, .deleteRunner runner requestId)) :
    f.coordinator.store.agentOfRunner runner = .ok agent := by
  have hfound : ∀ {id : RunnerId} {command : AgentId → Command},
      (f.coordinator.store.agentOfRunner id).toOption.map (fun a => (a, command a)) =
        some (agent, .deleteRunner runner requestId) →
      f.coordinator.store.agentOfRunner id = .ok agent ∧
        command agent = .deleteRunner runner requestId := by
    intro id command hlook
    cases howner : f.coordinator.store.agentOfRunner id with
    | error cause =>
      rw [howner] at hlook
      cases hlook
    | ok a =>
      rw [howner] at hlook
      obtain ⟨rfl, hcommand⟩ := Prod.mk.inj (Option.some.inj hlook)
      exact ⟨rfl, hcommand⟩
  unfold routes? at h
  split at h
  · split at h
    · obtain ⟨howner, hcommand⟩ := hfound h
      cases hcommand
      exact howner
    · cases h
  · split at h
    · obtain ⟨howner, hcommand⟩ := hfound h
      cases hcommand
      exact howner
    · cases h
  · cases h

theorem routed_of_addressed (limits : RequestLimits) (es : List (FleetEvent V))
    (h : (start.after limits es).Addressed agent (.deleteRunner runner requestId)) :
    Routed limits es agent runner requestId := by
  induction es using List.reverseRecOn with
  | nil => exact absurd h (not_addressed rfl rfl rfl)
  | append_singleton es e ih =>
    rw [after_append_singleton] at h
    have he : e ≠ .restart := by
      rintro rfl
      exact not_addressed rfl rfl rfl h
    rcases addressed_onEvent h with hbefore | hroutes
    · obtain ⟨before, e', after, rfl, hroutes, howner⟩ := ih hbefore
      refine ⟨before, e', after ++ [e], by simp, hroutes, ?_⟩
      intro owner hafter
      have hrun : (start.after limits (before ++ [e'])).after limits after =
          (start : Fleet V).after limits (before ++ e' :: after) := by
        simp only [Fleet.after, ← List.foldl_append, List.append_assoc, List.singleton_append]
      rw [after_append_singleton] at hafter
      rw [lastLister?_append_singleton, hrun]
      rcases owner_onEvent he hafter with hlists | ⟨hnone, hkept⟩
      · rw [hlists]
        rfl
      · rw [hnone]
        exact howner owner hkept
    · refine ⟨es, e, [], rfl, hroutes, ?_⟩
      intro owner hafter
      rw [after_append_singleton] at hafter
      rcases owner_onEvent he hafter with hlists | ⟨-, hkept⟩
      · rw [lister?_of_routes hroutes] at hlists
        cases hlists
      · have hlooked := owner_of_routes hroutes
        rw [Store.agentOfRunner, hkept] at hlooked
        exact Except.ok.inj hlooked

/-- An undelivered deletion of a runner waits for the agent that the store attributed the runner to
when it was looked up. While the store holds the runner, this is the agent that the runner is
attributed to, unless the last snapshot recorded since the look-up that lists the runner came under
another id; then it is attributed to that one. -/
theorem deletion_waits (limits : RequestLimits) (es : List (FleetEvent V)) (agent : AgentId)
    (runner : RunnerId) (requestId : String)
    (h : .deleteRunner runner requestId ∈
      ((start : Fleet V).after limits es).coordinator.outbox.queueOf agent) :
    ∃ before e after, es = before ++ e :: after ∧
      (start.after limits before).routes? e = some (agent, .deleteRunner runner requestId) ∧
      (start.after limits before).coordinator.store.agentOfRunner runner = .ok agent ∧
      let store := ((start : Fleet V).after limits es).coordinator.store
      let f := (start : Fleet V).after limits (before ++ [e])
      store.runners.contains runner = true →
        store.agentOfRunner runner = .ok ((f.lastLister? limits runner after).getD agent) := by
  obtain ⟨before, e, after, hes, hroutes, howner⟩ := routed_of_addressed limits es (.inl h)
  refine ⟨before, e, after, hes, hroutes, owner_of_routes hroutes, ?_⟩
  intro store f hheld
  have hlinked : store.Linked := linked_after limits es
  rw [hlinked.same_keys] at hheld
  obtain ⟨owner, hget⟩ := Table.contains_iff.1 hheld
  rw [Store.agentOfRunner, hget, howner owner hget]

/-! ## A runner that moves on -/

/-- A host loses its connection before it takes the deletion of a runner, comes back under another
id and reports the runner. -/
def movedOn : List (FleetEvent lifecycle) :=
  let registration : Wire.Registration := ⟨"mini-1", some ⟨1, 4, 8⟩⟩
  let listing : List Wire.RunnerRecord := [.ofRunner (.accepted "r1" "ci" "" "" 0)]
  [.register "a1" registration, .connect 0,
    .add 0 [⟨"a1", "mini-1", ⟨1, 4, 8⟩, .online⟩] "r1" ⟨"ci", "", "", []⟩ "q1", .addGoesOn 0 0,
    .addGoesOn 0 0, .addGoesOn 0 0, .addGoesOn 0 0, .snapshot 0 ⟨"a1", 0, []⟩, .streamGoesOn 0,
    .streamGoesOn 0, .streamGoesOn 0, .streamGoesOn 0, .snapshot 0 ⟨"a1", 1, listing⟩,
    .streamGoesOn 0, .streamGoesOn 0, .streamGoesOn 0, .streamGoesOn 0, .delete "hangar-r1" "q2",
    .deleteGoesOn 0 0, .deleteGoesOn 0 0, .deleteGoesOn 0 0, .hangUp 0,
    .register "a2" registration, .connect 0,
    .snapshot 1 ⟨"a2", 1, listing⟩, .streamGoesOn 1, .streamGoesOn 1]

theorem queueOf_movedOn :
    ((start : Fleet lifecycle).after ⟨⟨1⟩, ⟨1⟩, ⟨1⟩⟩ movedOn).coordinator.outbox.queueOf "a1" =
      [.deleteRunner "r1" "q2"] := by
  decide +kernel

theorem agentOfRunner_movedOn :
    let store := ((start : Fleet lifecycle).after ⟨⟨1⟩, ⟨1⟩, ⟨1⟩⟩ movedOn).coordinator.store
    store.runners.contains "r1" = true ∧ store.owners.get? "r1" = some "a2" := by
  decide +kernel

theorem deletion_waits_movedOn :
    .deleteRunner "r1" "q2" ∈ ((start : Fleet lifecycle).after ⟨⟨1⟩, ⟨1⟩, ⟨1⟩⟩
      movedOn).coordinator.outbox.queueOf "a1" ∧
    ∃ before e after, movedOn = before ++ e :: after ∧
      (start.after ⟨⟨1⟩, ⟨1⟩, ⟨1⟩⟩ before).routes? e = some ("a1", .deleteRunner "r1" "q2") ∧
      (start.after ⟨⟨1⟩, ⟨1⟩, ⟨1⟩⟩ (before ++ [e])).lastLister? ⟨⟨1⟩, ⟨1⟩, ⟨1⟩⟩ "r1" after =
        some "a2" := by
  have hqueued : .deleteRunner "r1" "q2" ∈ ((start : Fleet lifecycle).after ⟨⟨1⟩, ⟨1⟩, ⟨1⟩⟩
      movedOn).coordinator.outbox.queueOf "a1" := by
    rw [queueOf_movedOn]
    exact List.mem_singleton_self _
  obtain ⟨before, e, after, hes, hroutes, -, howner⟩ :=
    deletion_waits ⟨⟨1⟩, ⟨1⟩, ⟨1⟩⟩ movedOn "a1" "r1" "q2" hqueued
  refine ⟨hqueued, before, e, after, hes, hroutes, ?_⟩
  obtain ⟨hheld, hget⟩ := agentOfRunner_movedOn
  have hagent := howner hheld
  rw [Store.agentOfRunner, hget] at hagent
  have hlast := Except.ok.inj hagent
  cases hlister : (start.after ⟨⟨1⟩, ⟨1⟩, ⟨1⟩⟩ (before ++ [e])).lastLister? ⟨⟨1⟩, ⟨1⟩, ⟨1⟩⟩ "r1"
      after with
  | none =>
    rw [hlister] at hlast
    exact absurd hlast (by decide)
  | some owner =>
    rw [hlister] at hlast
    exact congrArg some hlast.symm

/-- An undelivered deletion can wait for an agent that has lost the runner to another one. -/
theorem deletion_can_be_stranded :
    ¬ ∀ (limits : RequestLimits) (es : List (FleetEvent lifecycle)) (agent : AgentId)
      (runner : RunnerId) (requestId : String),
      let c := (start.after limits es).coordinator
      .deleteRunner runner requestId ∈ c.outbox.queueOf agent →
        c.store.runners.contains runner = true → c.store.agentOfRunner runner = .ok agent := by
  intro h
  obtain ⟨hheld, hget⟩ := agentOfRunner_movedOn
  have hagent := h ⟨⟨1⟩, ⟨1⟩, ⟨1⟩⟩ movedOn "a1" "r1" "q2"
    (queueOf_movedOn ▸ List.mem_singleton_self _) hheld
  rw [Store.agentOfRunner, hget] at hagent
  exact absurd (Except.ok.inj hagent) (by decide)

end Fleet

end RunnerFleet

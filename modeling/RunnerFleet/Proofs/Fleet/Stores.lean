import RunnerFleet.Proofs.Coordinator.Adding
import RunnerFleet.Proofs.Sync.Run

/-!
# The store of a fleet

A step of a task makes at most one change of the coordinator's store, and every change is one of
`Store.Edit` (`Store.Next`). What all of these keep therefore holds throughout a run of a fleet
(`Fleet.linked_after`), whatever its tasks do between two steps of one of them.
-/

namespace RunnerFleet

/-- One store comes from another by at most one change. -/
inductive Store.Next (s : Store) : Store → Prop
  | same : Next s s
  | edit (e : Store.Edit) : Next s (s.edit e)

theorem Store.Linked.next {s s' : Store} (h : s.Linked) (hnext : s.Next s') : s'.Linked := by
  cases hnext with
  | same => exact h
  | edit e => exact h.edit e

theorem Store.edit_setAgentStatus {s : Store} {id : AgentId} {agent : Agent}
    (h : s.agents.get? id = some agent) (status : AgentStatus) :
    s.edit (.setAgentStatus id status) =
      { s with agents := s.agents.insert id { agent with status } } := by
  simp only [Store.edit, Store.setAgentStatus, h]

/-! ## Streams -/

namespace SyncStream

theorem store_reconcile (c : Coordinator) (agent : AgentId) (snapshot : Wire.Snapshot) :
    (reconcile c agent snapshot).store =
      c.store.edit (.report agent (snapshot.runners.map (·.toRunner))) := rfl

theorem next_finish (c : Coordinator) (s : SyncStream) : c.store.Next (s.finish c).1.store := by
  refine finish_keeps (P := fun x => c.store.Next x.store) .same fun b => ?_
  unfold left
  split
  · simp only [Table.modify]
    cases hagent : c.store.agents.get? b.agentId with
    | none => exact .same
    | some agent => exact Store.edit_setAgentStatus hagent .offline ▸ .edit _
  · exact .same

end SyncStream

theorem Link.Change.next {i : Nat} {c c' : Coordinator} {l l' : Link} {ds : List SyncDeed}
    (h : l.Change i c c' l' ds) : c.store.Next c'.store := by
  cases h with
  | marked s b agent _ _ hagent =>
    simp only [← Store.edit_setAgentStatus hagent]
    exact .edit _
  | reported s b =>
    rw [SyncStream.store_reconcile]
    exact .edit _
  | missed command => exact SyncStream.next_finish c l.stream
  | ended => exact SyncStream.next_finish c l.stream
  | _ => exact .same

/-! ## Requests and sweeps -/

theorem Adding.next_step (c : Coordinator) (limits : RequestLimits) (now : Instant) (a : Adding) :
    c.store.Next (a.step c limits now).1.store := by
  unfold step
  split
  · exact .same
  · exact .same
  · exact .same
  · exact .edit (.registerCloudId (cloudIdOf a.runner) a.runner)
  · exact .same
  · next watch _ =>
    have hstore := AddCall.store_resume c limits now ⟨a.runner, a.began, watch⟩
    split
    · next hresume =>
      rw [hresume] at hstore
      exact hstore ▸ .same
    · next hresume =>
      rw [hresume] at hstore
      exact hstore ▸ .same

theorem DeleteCall.next_step (c : Coordinator) (limits : RequestLimits) (now : Instant)
    (call : DeleteCall) : c.store.Next (call.step c limits now).1.store := by
  unfold step
  cases call.point with
  | resolving =>
    simp only
    split
    · exact .same
    · exact .same
    · split
      · exact .same
      · exact .same
  | withdrawing runner =>
    simp only
    split
    · exact .same
    · exact .same
  | forgetting label => exact .edit (.forgetCloudId call.cloudId)
  | awaitingReport runner watch =>
    simp only
    split
    · exact .same
    · exact .same
    · exact .same
  | routing runner =>
    simp only
    split
    · exact .same
    · exact .same
  | ordering runner agent => exact .same
  | awaitingRemoval runner watch =>
    simp only
    split
    · exact .same
    · exact .same
    · exact .same

theorem Sweeping.next_step (c : Coordinator) (w : Sweeping) :
    c.store.Next (w.step c).1.store := by
  unfold step
  split
  · exact .same
  · split
    · exact .same
    · exact .same
  · exact .same
  · next runner _ _ _ => exact .edit (.deleteRunner runner.id)

/-! ## Fleets -/

namespace Fleet

variable {V : VmService} {limits : RequestLimits} {f : Fleet V}

theorem next_onAdd {i : Nat} {now : Instant} :
    f.coordinator.store.Next (f.onAdd limits now i).coordinator.store := by
  unfold onAdd
  split
  · next a _ => exact a.next_step f.coordinator limits now
  · exact .same

theorem next_onDelete {i : Nat} {now : Instant} :
    f.coordinator.store.Next (f.onDelete limits now i).coordinator.store := by
  unfold onDelete
  split
  · next call _ => exact call.next_step f.coordinator limits now
  · exact .same

theorem next_onSweep {i : Nat} :
    f.coordinator.store.Next (f.onSweep i).coordinator.store := by
  unfold onSweep
  split
  · next w _ => exact w.next_step f.coordinator
  · exact .same

theorem next_onLink {i : Nat} {act : Coordinator → Link → Coordinator × Link}
    (h : ∀ (c : Coordinator) (l : Link), c.store.Next (act c l).1.store) :
    f.coordinator.store.Next (f.onLink i act).coordinator.store := by
  unfold onLink
  split
  · next l _ => exact h f.coordinator l
  · exact .same

theorem coordinator_onHost {i : Nat} {act : HostRun V → HostRun V} :
    (f.onHost i act).coordinator = f.coordinator := by
  unfold onHost
  split <;> rfl

theorem coordinator_deliver {i j : Nat} {agent : AgentId} {now : UInt64} :
    (f.deliver i j agent now).coordinator = f.coordinator := by
  unfold deliver
  split
  · split
    · rw [coordinator_onHost]
    · rfl
  · rfl

/-- Whatever happens makes at most one change of the store, unless the coordinator starts anew. -/
theorem next_onEvent (limits : RequestLimits) (f : Fleet V) (e : FleetEvent V) :
    e = .restart ∨ f.coordinator.store.Next (f.onEvent limits e).coordinator.store := by
  cases e with
  | restart => exact .inl rfl
  | register minted r => exact .inr (.edit (.registerAgent _))
  | addGoesOn i now => exact .inr next_onAdd
  | deleteGoesOn i now => exact .inr next_onDelete
  | sweepGoesOn i => exact .inr next_onSweep
  | collect =>
    right
    simp only [onEvent, Coordinator.collect?]
    cases Gauges.ofStore? f.coordinator.store with
    | none => exact .same
    | some gauges => exact .same
  | snapshot i s => exact .inr (next_onLink fun c l => (l.change_hear i c s).next)
  | streamGoesOn i => exact .inr (next_onLink fun c l => (l.change_work i c).next)
  | hangUp i => exact .inr (next_onLink fun c l => (l.change_hangUp i c).next)
  | deafen i => exact .inr (next_onLink fun c l => .same)
  | lose i j => exact .inr (next_onLink fun c l => .same)
  | deliver i j agent now =>
    right
    simp only [onEvent, coordinator_deliver]
    exact .same
  | host i m =>
    right
    simp only [onEvent, coordinator_onHost]
    exact .same
  | joins | add | addGivenUp | delete | deleteGivenUp | sweep | connect => exact .inr .same

theorem linked_onEvent (h : f.coordinator.store.Linked) (e : FleetEvent V) :
    (f.onEvent limits e).coordinator.store.Linked := by
  rcases next_onEvent limits f e with rfl | hnext
  · exact .empty
  · exact h.next hnext

theorem linked_after (limits : RequestLimits) (es : List (FleetEvent V)) :
    ((start : Fleet V).after limits es).coordinator.store.Linked := by
  induction es using List.reverseRecOn with
  | nil => exact .empty
  | append_singleton es e ih =>
    rw [after_append_singleton]
    exact linked_onEvent ih e

end Fleet

end RunnerFleet

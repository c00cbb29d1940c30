import RunnerFleet.Coordinator.SyncStream
import RunnerFleet.Proofs.Store.Reports

/-!
# What the parts of processing a snapshot change

Binding a stream changes the streams, a report changes the runners, and the end of a stream changes
the streams and one agent's status (`SyncStream.left`). Everything else of the coordinator stays as
it is.
-/

namespace RunnerFleet.SyncStream

variable {c : Coordinator} {s : SyncStream} {agent : AgentId} {snapshot : Wire.Snapshot}

/-! ## Binding -/

theorem store_bind : (s.bind c snapshot).1.store = c.store := by
  unfold bind
  split <;> rfl

theorem agentId_bind (hbound : ∀ b, s.binding = some b → b.agentId = agent)
    (hagent : snapshot.agentId = agent) : (s.bind c snapshot).2.agentId = agent := by
  unfold bind
  split
  · next b hb => exact hbound b hb
  · exact hagent

/-! ## Reports -/

theorem agents_reconcile : (reconcile c agent snapshot).store.agents = c.store.agents := by
  unfold reconcile
  rcases c.store.report_cases agent (snapshot.runners.map (·.toRunner)) with
    ⟨s', hs⟩ | ⟨-, hs⟩
  · exact (congrArg (fun x => x.1.agents) hs).trans (Store.agents_report hs)
  · exact congrArg (fun x => x.1.agents) hs

theorem outbox_reconcile : (reconcile c agent snapshot).outbox = c.outbox := rfl

theorem streams_reconcile : (reconcile c agent snapshot).streams = c.streams := rfl

/-! ## Ending -/

/-- The coordinator after a stream with this binding has ended. -/
def left (c : Coordinator) (b : StreamBinding) : Coordinator :=
  if c.streams.live.get? b.agentId = some b.generation then
    { c with
      streams := { c.streams with live := c.streams.live.erase b.agentId }
      store := { c.store with
        agents := c.store.agents.modify b.agentId ({ · with status := .offline }) } }
  else c

theorem streams_left (c : Coordinator) (b : StreamBinding) :
    (left c b).streams = (c.streams.detach b.agentId b.generation).1 := by
  unfold left Streams.detach
  split <;> rfl

theorem finish_of_silent (h : s.binding = none) : (s.finish c).1 = c := by
  unfold finish
  rw [h]

theorem finish_of_bound {b : StreamBinding} (h : s.binding = some b) :
    (s.finish c).1 = left c b := by
  simp only [finish, h, Streams.detach, left, Store.setAgentStatus, Table.modify]
  by_cases hlive : c.streams.live.get? b.agentId = some b.generation
  · simp only [if_pos hlive, if_true]
    cases c.store.agents.get? b.agentId <;> rfl
  · simp only [if_neg hlive, Bool.false_eq_true, if_false]

theorem streams_finish : (s.finish c).1.streams = match s.binding with
    | some b => (c.streams.detach b.agentId b.generation).1
    | none => c.streams := by
  cases h : s.binding with
  | none => rw [finish_of_silent h]
  | some b => rw [finish_of_bound h, streams_left]

/-- What the end of a stream keeps for every binding is kept. -/
theorem finish_keeps {P : Coordinator → Prop} (hsame : P c) (hleft : ∀ b, P (left c b)) :
    P (s.finish c).1 := by
  cases h : s.binding with
  | none => exact finish_of_silent h ▸ hsame
  | some b => exact finish_of_bound h ▸ hleft b

theorem outbox_finish : (s.finish c).1.outbox = c.outbox := by
  refine finish_keeps (P := fun x => x.outbox = c.outbox) rfl fun b => ?_
  unfold left
  split <;> rfl

theorem tables_finish : (s.finish c).1.store.runners = c.store.runners ∧
    (s.finish c).1.store.owners = c.store.owners := by
  refine finish_keeps
    (P := fun x => x.store.runners = c.store.runners ∧ x.store.owners = c.store.owners)
    ⟨rfl, rfl⟩ fun b => ?_
  unfold left
  split <;> exact ⟨rfl, rfl⟩

theorem runnersOf_finish : (s.finish c).1.store.runnersOf agent = c.store.runnersOf agent := by
  rw [Store.runnersOf, tables_finish.1, tables_finish.2, Store.runnersOf]

theorem contains_finish :
    (s.finish c).1.store.agents.contains agent = c.store.agents.contains agent := by
  refine finish_keeps (P := fun x => x.store.agents.contains agent = _) rfl fun b => ?_
  unfold left
  split
  · simp only [Table.contains, Table.get?_modify]
    split
    · rw [Option.isSome_map]
    · rfl
  · rfl

end RunnerFleet.SyncStream

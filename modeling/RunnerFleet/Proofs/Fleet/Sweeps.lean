import RunnerFleet.Coordinator.Timeline
import RunnerFleet.Proofs.Coordinator.Sweeps
import RunnerFleet.Proofs.Fleet.Deletion
import RunnerFleet.Proofs.Fleet.Undelivered

/-!
# Sweeps beside everything else

A sweep's deletion carries no request id, and every request has one: its caller's, which is not
empty, or a minted one. So no request queues what a sweep queues, and as a sweep queues nothing that
already waits, at most one sweep's deletion of a runner waits for an agent, however long the agent
does not come for it (`Fleet.SweptOnce`). `Fleet.sweep_exact` says what a sweep does in any fleet
that some turns have led to.
-/

namespace RunnerFleet

/-! ## Ids of requests -/

/-- The id of a request: its caller's, or the text of a fresh identity. -/
def requestIdOf (header : Option (List UInt8)) (fresh : Nat) : String :=
  (header.bind callerRequestId?).getD (Text.uuid fresh)

theorem Coordinator.Timeline.requestId_eq (t : Timeline) (header : Option (List UInt8)) :
    (t.requestId header).2 = requestIdOf header (t.minted + 1) := by
  unfold requestId requestIdOf
  cases header.bind callerRequestId? <;> rfl

theorem callerRequestId?_ne_empty {header : List UInt8} {id : String}
    (h : callerRequestId? header = some id) : id ≠ "" := by
  unfold callerRequestId? at h
  split at h
  · cases h
  · next htaken =>
    cases h
    intro hempty
    have hlist := congrArg String.toList hempty
    rw [String.toList_ofList] at hlist
    have hnil : header = [] := List.map_eq_nil_iff.1 hlist
    rw [hnil] at htaken
    exact htaken rfl

theorem Text.uuid_ne_empty (n : Nat) : uuid n ≠ "" := by
  intro hempty
  have hlength := congrArg String.length hempty
  simp only [uuid, String.length_append] at hlength
  have hhyphen : "-".length = 1 := rfl
  have hnone : "".length = 0 := rfl
  omega

theorem requestIdOf_ne_empty (header : Option (List UInt8)) (fresh : Nat) :
    requestIdOf header fresh ≠ "" := by
  unfold requestIdOf
  cases hcaller : header.bind callerRequestId? with
  | none => exact Text.uuid_ne_empty fresh
  | some id =>
    obtain ⟨bytes, -, hid⟩ := Option.bind_eq_some_iff.1 hcaller
    exact callerRequestId?_ne_empty hid

/-! ## Queues -/

namespace Outbox

variable {m m' : Outbox} {new : Command → Prop} {command : Command}

/-- One outbox comes from another by at most one change, and none but a new command is queued. -/
inductive Next (new : Command → Prop) (m : Outbox) : Outbox → Prop
  | same : Next new m m
  | queued (agent : AgentId) (command : Command) (hnew : new command) :
      Next new m (m.enqueue agent command)
  | taken (agent : AgentId) : Next new m (m.next agent).1
  | withdrawn (runner : RunnerId) : Next new m (m.withdrawCreate runner).1

theorem Next.of_eq (h : m' = m) : m.Next new m' := h ▸ .same

/-- A command that is not new does not come to wait more often. -/
theorem Next.count_le (h : m.Next new m') (hold : ¬ new command) (agent : AgentId) :
    (m'.queueOf agent).count command ≤ (m.queueOf agent).count command := by
  cases h with
  | same => exact Nat.le_refl _
  | queued target other hnew =>
    have hne : other ≠ command := fun heq => hold (heq ▸ hnew)
    rw [queueOf_enqueue]
    split
    · next ha => rw [ha, List.count_append, List.count_singleton, beq_false_of_ne hne]; rfl
    · exact Nat.le_refl _
  | taken target =>
    rw [queueOf_next]
    split
    · next ha => exact ha ▸ (List.tail_sublist _).count_le _
    · exact Nat.le_refl _
  | withdrawn runner =>
    cases hholder : (m.withdrawCreate runner).2 with
    | none => rw [withdrawCreate_of_none hholder]
    | some holder =>
      rw [(queueOf_withdrawCreate hholder).2]
      split
      · next ha => exact ha ▸ List.eraseP_sublist.count_le _
      · exact Nat.le_refl _

end Outbox

/-- No sweep queues the command. -/
def Sweep.Foreign (command : Command) : Prop := ∀ runner, command ≠ deletion runner

theorem Sweep.foreign_deleteRunner {runner : RunnerId} {requestId : String}
    (hid : requestId ≠ "") : Foreign (.deleteRunner runner requestId) := by
  intro other heq
  injection heq with _ hempty
  exact hid hempty

theorem Sweep.foreign_createRunner {runner : RunnerId} {name setupScript requestId : String} :
    Foreign (.createRunner runner name setupScript requestId) := nofun

/-! ## What a step does to the queues -/

section Steps

variable {c : Coordinator} {limits : RequestLimits} {now : Instant}

theorem Adding.outbox_next (c : Coordinator) (limits : RequestLimits) (now : Instant)
    (a : Adding) : c.outbox.Next Sweep.Foreign (a.step c limits now).1.outbox := by
  unfold step
  split
  · exact .same
  · exact .same
  · exact .same
  · exact .same
  · exact .queued _ _ Sweep.foreign_createRunner
  · next watch _ =>
    have houtbox := AddCall.outbox_resume c limits now ⟨a.runner, a.began, watch⟩
    split
    · next hresume =>
      rw [hresume] at houtbox
      exact .of_eq houtbox
    · next hresume =>
      rw [hresume] at houtbox
      exact .of_eq houtbox

theorem DeleteCall.outbox_next {call : DeleteCall} (hid : call.requestId ≠ "") :
    c.outbox.Next Sweep.Foreign (call.step c limits now).1.outbox := by
  rcases hstep : call.step c limits now with ⟨c', progress⟩
  rcases outbox_step hstep with
    ⟨houtbox, -⟩ | ⟨runner, agent, -, houtbox⟩ | ⟨runner, agent, -, hwithdraw⟩
  · exact .of_eq houtbox
  · dsimp only
    rw [houtbox]
    exact .queued agent _ (Sweep.foreign_deleteRunner hid)
  · have houtbox : (c.outbox.withdrawCreate runner).1 = c'.outbox := congrArg Prod.fst hwithdraw
    dsimp only
    rw [← houtbox]
    exact .withdrawn runner

theorem DeleteCall.requestId_step {call next : DeleteCall}
    (h : (call.step c limits now).2 = .waits next) : next.requestId = call.requestId := by
  have hchange := change_step c limits now call
  rw [h] at hchange
  cases hchange <;> rfl

theorem Link.Change.outbox_next {i : Nat} {c' : Coordinator} {l l' : Link} {ds : List SyncDeed}
    (h : l.Change i c c' l' ds) : c.outbox.Next Sweep.Foreign c'.outbox := by
  cases h with
  | reported s b => exact .of_eq SyncStream.outbox_reconcile
  | popped b => exact .taken b.agentId
  | missed command => exact .of_eq SyncStream.outbox_finish
  | ended => exact .of_eq SyncStream.outbox_finish
  | _ => exact .same

end Steps

/-! ## Turns -/

/-- Whether an event is neither a request that comes in nor a part of a sweep. -/
def FleetEvent.isInner {V : VmService} : FleetEvent V → Bool
  | .add .. | .delete .. | .sweep .. | .sweepGoesOn .. => false
  | _ => true

/-- What may happen where requests come in with their headers and a sweep is one step. -/
inductive FleetTurn (V : VmService) where
  | add (now : Instant) (online : List Agent) (runner : RunnerId) (request : Wire.AddRequest)
      (header : Option (List UInt8)) (fresh : Nat)
  | delete (cloudId : CloudId) (header : Option (List UInt8)) (fresh : Nat)
  | sweep (now : UInt64) (grace : Span)
  | inner (e : FleetEvent V) (he : e.isInner = true)

namespace Fleet

variable {V : VmService} {limits : RequestLimits} {f : Fleet V}

def onTurn (limits : RequestLimits) (f : Fleet V) : FleetTurn V → Fleet V
  | .add now online runner request header fresh =>
    f.onEvent limits (.add now online runner request (requestIdOf header fresh))
  | .delete cloudId header fresh => f.onEvent limits (.delete cloudId (requestIdOf header fresh))
  | .sweep now grace => { f with coordinator := (f.coordinator.sweep now grace).1 }
  | .inner e _ => f.onEvent limits e

def turned (limits : RequestLimits) (f : Fleet V) (ts : List (FleetTurn V)) : Fleet V :=
  ts.foldl (onTurn limits) f

theorem turned_append_singleton (limits : RequestLimits) (f : Fleet V) (ts : List (FleetTurn V))
    (t : FleetTurn V) : f.turned limits (ts ++ [t]) = (f.turned limits ts).onTurn limits t := by
  simp only [turned, List.foldl_append, List.foldl_cons, List.foldl_nil]

/-- What all turns keep: sweeps find an agent for each runner, no delete request lacks an id, and no
sweep's deletion waits twice for an agent. -/
structure SweptOnce (f : Fleet V) : Prop where
  linked : f.coordinator.store.Linked
  named : ∀ call ∈ f.deletes, call.requestId ≠ ""
  once : ∀ agent runner,
    (f.coordinator.outbox.queueOf agent).count (Sweep.deletion runner) ≤ 1

theorem sweptOnce_start : (start : Fleet V).SweptOnce where
  linked := .empty
  named := nofun
  once _ _ := Nat.zero_le _

theorem outbox_next_onLink {i : Nat} {act : Coordinator → Link → Coordinator × Link}
    (h : ∀ (c : Coordinator) (l : Link), c.outbox.Next Sweep.Foreign (act c l).1.outbox) :
    f.coordinator.outbox.Next Sweep.Foreign (f.onLink i act).coordinator.outbox := by
  unfold onLink
  split
  · next l _ => exact h f.coordinator l
  · exact .same

theorem outbox_next_onDelete (hnamed : ∀ call ∈ f.deletes, call.requestId ≠ "") {i : Nat}
    {now : Instant} :
    f.coordinator.outbox.Next Sweep.Foreign (f.onDelete limits now i).coordinator.outbox := by
  unfold onDelete
  split
  · next call hcall => exact DeleteCall.outbox_next (hnamed call (List.mem_of_getElem? hcall))
  · exact .same

/-- Whatever happens apart from sweeps changes the queues at most once and queues no sweep's
deletion, unless the coordinator starts anew. -/
theorem outbox_next_onEvent (limits : RequestLimits)
    (hnamed : ∀ call ∈ f.deletes, call.requestId ≠ "") {e : FleetEvent V}
    (hsweep : ∀ i, e ≠ .sweepGoesOn i) : e = .restart ∨
      f.coordinator.outbox.Next Sweep.Foreign (f.onEvent limits e).coordinator.outbox := by
  cases e with
  | restart => exact .inl rfl
  | sweepGoesOn i => exact absurd rfl (hsweep i)
  | addGoesOn i now =>
    right
    simp only [onEvent, onAdd]
    split
    · next a _ => exact a.outbox_next f.coordinator limits now
    · exact .same
  | deleteGoesOn i now => exact .inr (outbox_next_onDelete hnamed)
  | collect => exact .inr (.of_eq (outbox_collect f.coordinator))
  | snapshot i s => exact .inr (outbox_next_onLink fun c l => (l.change_hear i c s).outbox_next)
  | streamGoesOn i => exact .inr (outbox_next_onLink fun c l => (l.change_work i c).outbox_next)
  | hangUp i => exact .inr (outbox_next_onLink fun c l => (l.change_hangUp i c).outbox_next)
  | deafen i => exact .inr (outbox_next_onLink fun c l => .same)
  | lose i j => exact .inr (outbox_next_onLink fun c l => .same)
  | deliver i j agent now =>
    exact .inr (.of_eq (congrArg Coordinator.outbox coordinator_deliver))
  | host i m => exact .inr (.of_eq (congrArg Coordinator.outbox coordinator_onHost))
  | joins | register | add | addGivenUp | delete | deleteGivenUp | sweep | connect =>
    exact .inr .same

theorem mem_deletes_onDelete {i : Nat} {now : Instant} {call : DeleteCall}
    (h : call ∈ (f.onDelete limits now i).deletes) :
    ∃ before ∈ f.deletes, call.requestId = before.requestId := by
  unfold onDelete at h
  split at h
  · next before hbefore =>
    rcases mem_replaceAt h with hmem | hnext
    · exact ⟨call, hmem, rfl⟩
    · exact ⟨before, List.mem_of_getElem? hbefore,
        DeleteCall.requestId_step (Progress.call?_eq_some_iff.1 hnext)⟩
  · exact ⟨call, h, rfl⟩

/-- A delete request that is under way has the id that it came with. -/
theorem mem_deletes_onEvent {e : FleetEvent V} {call : DeleteCall}
    (h : call ∈ (f.onEvent limits e).deletes) :
    (∃ before ∈ f.deletes, call.requestId = before.requestId) ∨
      ∃ cloudId, e = .delete cloudId call.requestId := by
  have hsame : call ∈ f.deletes → ∃ before ∈ f.deletes, call.requestId = before.requestId :=
    fun hmem => ⟨call, hmem, rfl⟩
  cases e with
  | delete cloudId requestId =>
    rcases List.mem_append.1 h with hmem | hmem
    · exact .inl (hsame hmem)
    · rw [List.mem_singleton.1 hmem]
      exact .inr ⟨cloudId, rfl⟩
  | deleteGoesOn i now => exact .inl (mem_deletes_onDelete h)
  | deleteGivenUp i => exact .inl (hsame (List.mem_of_mem_eraseIdx h))
  | restart => cases h
  | addGoesOn i now =>
    simp only [onEvent, onAdd] at h
    split at h <;> exact .inl (hsame h)
  | sweepGoesOn i =>
    simp only [onEvent, onSweep] at h
    split at h <;> exact .inl (hsame h)
  | snapshot | streamGoesOn | hangUp | deafen | lose =>
    simp only [onEvent, onLink] at h
    split at h <;> exact .inl (hsame h)
  | deliver i j agent now =>
    simp only [onEvent, deliver] at h
    split at h
    · split at h
      · simp only [onHost] at h
        split at h <;> exact .inl (hsame h)
      · exact .inl (hsame h)
    · exact .inl (hsame h)
  | host i m =>
    simp only [onEvent, onHost] at h
    split at h <;> exact .inl (hsame h)
  | joins | register | add | addGivenUp | sweep | collect | connect => exact .inl (hsame h)

theorem SweptOnce.onEvent (h : f.SweptOnce) (limits : RequestLimits) (e : FleetEvent V)
    (hsweep : ∀ i, e ≠ .sweepGoesOn i)
    (hnew : ∀ cloudId requestId, e = .delete cloudId requestId → requestId ≠ "") :
    (f.onEvent limits e).SweptOnce where
  linked := linked_onEvent h.linked e
  named call hcall := by
    rcases mem_deletes_onEvent hcall with ⟨before, hmem, hid⟩ | ⟨cloudId, rfl⟩
    · exact hid ▸ h.named before hmem
    · exact hnew cloudId call.requestId rfl
  once agent runner := by
    rcases outbox_next_onEvent limits h.named hsweep with rfl | hnext
    · exact Nat.zero_le _
    · exact (hnext.count_le (fun hforeign => hforeign runner rfl) agent).trans
        (h.once agent runner)

theorem SweptOnce.sweep (h : f.SweptOnce) (now : UInt64) (grace : Span) :
    ({ f with coordinator := (f.coordinator.sweep now grace).1 } : Fleet V).SweptOnce where
  linked := by
    obtain ⟨outbox, hsweep, -⟩ := Coordinator.sweep_eq h.linked now grace
    rw [hsweep]
    exact h.linked
  named := h.named
  once := Coordinator.count_sweep_le h.linked h.once now grace

theorem SweptOnce.onTurn (h : f.SweptOnce) (t : FleetTurn V) : (f.onTurn limits t).SweptOnce := by
  cases t with
  | add now online runner request header fresh =>
    exact h.onEvent limits (.add now online runner request (requestIdOf header fresh)) nofun nofun
  | delete cloudId header fresh =>
    refine h.onEvent limits (.delete cloudId (requestIdOf header fresh)) nofun ?_
    intro cloudId' requestId heq
    cases heq
    exact requestIdOf_ne_empty header fresh
  | sweep now grace => exact h.sweep now grace
  | inner e he =>
    refine h.onEvent limits e (fun i heq => ?_) (fun cloudId requestId heq => ?_)
    · rw [heq] at he
      cases he
    · rw [heq] at he
      cases he

theorem sweptOnce_turned (limits : RequestLimits) (ts : List (FleetTurn V)) :
    ((start : Fleet V).turned limits ts).SweptOnce := by
  induction ts using List.reverseRecOn with
  | nil => exact sweptOnce_start
  | append_singleton ts t ih =>
    rw [turned_append_singleton]
    exact ih.onTurn t

/-- In every fleet that some turns have led to, each queue holds a sweep's deletion of a runner at
most once. A sweep queues the deletions of the runners in error past the grace period for which none
waits yet, in the order of their ids, each for the agent that the runner belongs to; it does nothing
else, and a second sweep at the same moment does nothing at all. -/
theorem sweep_exact (limits : RequestLimits) (ts : List (FleetTurn V)) (now : UInt64)
    (grace : Span) :
    let c := ((start : Fleet V).turned limits ts).coordinator
    (∀ agent runner, (c.outbox.queueOf agent).count (Sweep.deletion runner) ≤ 1) ∧
      ∃ (fresh : List Runner) (outbox : Outbox),
        (∀ runner, runner ∈ fresh ↔ runner ∈ c.store.listRunners ∧
          Sweep.takes now (Sweep.graceMillis grace) runner = true ∧
          ∃ agent, c.store.owners.get? runner.id = some agent ∧
            Sweep.deletion runner.id ∉ c.outbox.queueOf agent) ∧
        fresh.Pairwise (·.id < ·.id) ∧
        (∀ agent, outbox.queueOf agent = c.outbox.queueOf agent ++
          (fresh.filter (c.store.owners.get? ·.id == some agent)).map
            fun runner => Sweep.deletion runner.id) ∧
        c.sweep now grace = ({ c with outbox }, ⟨fresh.length, 0⟩) ∧
        (c.sweep now grace).1.sweep now grace = ((c.sweep now grace).1, ⟨0, 0⟩) := by
  intro c
  have h : ((start : Fleet V).turned limits ts).SweptOnce := sweptOnce_turned limits ts
  have hlinked : c.store.Linked := h.linked
  obtain ⟨outbox, hsweep, hqueues⟩ := Coordinator.sweep_eq hlinked now grace
  refine ⟨h.once, (c.overdue now grace).filter fun runner => Sweep.Lacks c runner, outbox, ?_, ?_,
    hqueues, hsweep, Coordinator.sweep_again hlinked now grace⟩
  · intro runner
    rw [List.mem_filter, Coordinator.overdue, List.mem_filter, decide_eq_true_iff, and_assoc]
    rfl
  · exact (Coordinator.overdue_ascending hlinked now grace).sublist List.filter_sublist

end Fleet

end RunnerFleet

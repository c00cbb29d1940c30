import Mathlib
import RunnerFleet.Proofs.Coordinator.Adding
import RunnerFleet.Proofs.Coordinator.Streams
import RunnerFleet.Proofs.Fleet.System
import RunnerFleet.Proofs.Hosting.Lifecycle

/-!
# A runner is created at most once

An add request that has minted its runner owes one creation. The debt is with the request until it
queues the command, with the command while it waits, with the stream that has taken it, with the
reply that is under way, with the host's provisioning that is to ask for the creation, and at last
with the request to the VM manager. `Fleet.creations` counts all of these, and the creations that
were taken back. No step but a minting adds to them.
-/

namespace RunnerFleet

/-! ## Sums over lists -/

section Sums

variable {α : Type} {l : List α} {i : Nat} {a : α}

theorem exists_split (h : l[i]? = some a) :
    ∃ before after, l = before ++ a :: after ∧ l.eraseIdx i = before ++ after ∧
      ∀ b, l.set i b = before ++ b :: after := by
  induction l generalizing i with
  | nil => cases h
  | cons x rest ih =>
    cases i with
    | zero =>
      cases h
      exact ⟨[], rest, rfl, rfl, fun _ => rfl⟩
    | succ i =>
      obtain ⟨before, after, hlist, herase, hset⟩ := ih h
      refine ⟨x :: before, after, congrArg (x :: ·) hlist, congrArg (x :: ·) herase, ?_⟩
      exact fun b => congrArg (x :: ·) (hset b)

theorem sum_replaceAt (h : l[i]? = some a) (f : α → Nat) (next : Option α) :
    ((replaceAt l i next).map f).sum + f a = (l.map f).sum + (next.map f).getD 0 := by
  obtain ⟨before, after, hlist, herase, hset⟩ := exists_split h
  cases next with
  | none =>
    have hnext : replaceAt l i none = before ++ after := herase
    rw [hnext, hlist]
    simp only [List.map_append, List.map_cons, List.sum_append, List.sum_cons, Option.map_none,
      Option.getD_none]
    omega
  | some b =>
    have hnext : replaceAt l i (some b) = before ++ b :: after := hset b
    rw [hnext, hlist]
    simp only [List.map_append, List.map_cons, List.sum_append, List.sum_cons, Option.map_some,
      Option.getD_some]
    omega

theorem sum_set (h : l[i]? = some a) (f : α → Nat) (b : α) :
    ((l.set i b).map f).sum + f a = (l.map f).sum + f b :=
  sum_replaceAt h f (some b)

theorem sum_eraseIdx_le (l : List α) (i : Nat) (f : α → Nat) :
    ((l.eraseIdx i).map f).sum ≤ (l.map f).sum := by
  cases h : l[i]? with
  | none =>
    rw [List.eraseIdx_of_length_le (List.getElem?_eq_none_iff.1 h)]
  | some a =>
    have hsum : ((l.eraseIdx i).map f).sum + f a = (l.map f).sum := sum_replaceAt h f none
    exact Nat.le.intro hsum

theorem sum_map_le {f g : α → Nat} (h : ∀ a ∈ l, f a ≤ g a) : (l.map f).sum ≤ (l.map g).sum := by
  induction l with
  | nil => exact Nat.le_refl 0
  | cons a rest ih =>
    have hhead := h a List.mem_cons_self
    have hrest := ih fun b hb => h b (List.mem_cons_of_mem a hb)
    simp only [List.map_cons, List.sum_cons]
    omega

end Sums

/-! ## Add requests -/

namespace Adding

variable {c c' : Coordinator} {limits : RequestLimits} {now : Instant} (runner : RunnerId)

/-- What the request has minted and is still to queue. -/
def creations (a : Adding) (runner : RunnerId) : Nat :=
  match a.point with
  | .weighing .. | .waiting _ => 0
  | _ => [a.runner].count runner

theorem creations_begin? {online : List Agent} {id : RunnerId} {request : Wire.AddRequest}
    {requestId : String} :
    ((begin? c now online id request requestId).toList.map (·.creations runner)).sum = 0 := by
  unfold begin?
  split <;> rfl

/-- A step adds what it mints. -/
theorem creations_step {a : Adding} {next : Option Adding}
    (h : a.step c limits now = (c', next)) :
    c'.outbox.creations runner + (next.map (·.creations runner)).getD 0 =
      c.outbox.creations runner + a.creations runner + a.mints?.toList.count runner := by
  unfold step at h
  unfold mints?
  split at h
  · next hpoint =>
    cases h
    simp only [creations, hpoint, Option.map_some, Option.getD_some]
    rfl
  · next best hpoint =>
    cases h
    simp only [creations, hpoint, Option.map_some, Option.getD_some]
    rfl
  · next hpoint =>
    cases h
    simp only [creations, hpoint]
    rfl
  · next agent hpoint =>
    cases h
    simp only [creations, hpoint, Option.map_some, Option.getD_some]
    rfl
  · next agent hpoint =>
    cases h
    simp only [creations, hpoint, Outbox.creations_enqueue, Option.map_some, Option.getD_some,
      Command.creates, List.count_singleton, Nat.add_zero]
    cases a.runner == runner <;> rfl
  · next watch hpoint =>
    have hout := AddCall.outbox_resume c limits now ⟨a.runner, a.began, watch⟩
    split at h
    · next hresume =>
      cases h
      rw [hresume] at hout
      change c'.outbox = c.outbox at hout
      simp only [creations, hpoint, hout, Option.map_none, Option.getD_none]
      rfl
    · next hresume =>
      cases h
      rw [hresume] at hout
      change c'.outbox = c.outbox at hout
      simp only [creations, hpoint, hout, Option.map_some, Option.getD_some]
      rfl

end Adding

/-! ## Delete requests and sweeps -/

namespace DeleteCall

variable {c c' : Coordinator} {limits : RequestLimits} {now : Instant} {call : DeleteCall}
  {next : Progress DeleteCall (Except DeleteError Unit)}

/-- What a step of a delete request does to the queues: it queues a deletion or takes a creation
back, if anything. -/
theorem outbox_step (h : call.step c limits now = (c', next)) :
    (c'.outbox = c.outbox ∧ call.withdraws? c = none) ∨
      (∃ runner agent, call.withdraws? c = none ∧
        c'.outbox = c.outbox.enqueue agent (.deleteRunner runner call.requestId)) ∨
      ∃ runner agent, call.withdraws? c = some runner ∧
        c.outbox.withdrawCreate runner = (c'.outbox, some agent) := by
  unfold step at h
  unfold withdraws?
  cases hpoint : call.point with
  | resolving =>
    left
    simp only [hpoint] at h
    split at h
    · cases h
      exact ⟨rfl, rfl⟩
    · cases h
      exact ⟨rfl, rfl⟩
    · split at h
      · cases h
        exact ⟨rfl, rfl⟩
      · cases h
        exact ⟨rfl, rfl⟩
  | withdrawing runner =>
    simp only [hpoint] at h
    rcases hwithdraw : c.outbox.withdrawCreate runner with ⟨outbox, taken⟩
    rw [hwithdraw] at h
    simp only [hwithdraw]
    cases taken with
    | none =>
      cases h
      exact .inl ⟨rfl, rfl⟩
    | some agent =>
      cases h
      exact .inr (.inr ⟨runner, agent, rfl, hwithdraw⟩)
  | forgetting label =>
    simp only [hpoint] at h
    cases h
    exact .inl ⟨rfl, rfl⟩
  | awaitingReport runner watch =>
    left
    simp only [hpoint] at h
    split at h
    · cases h
      exact ⟨rfl, rfl⟩
    · cases h
      exact ⟨rfl, rfl⟩
    · cases h
      exact ⟨rfl, rfl⟩
  | routing runner =>
    left
    simp only [hpoint] at h
    split at h
    · cases h
      exact ⟨rfl, rfl⟩
    · cases h
      exact ⟨rfl, rfl⟩
  | ordering runner agent =>
    simp only [hpoint] at h
    cases h
    exact .inr (.inl ⟨runner, agent, rfl, rfl⟩)
  | awaitingRemoval runner watch =>
    left
    simp only [hpoint] at h
    split at h
    · cases h
      exact ⟨rfl, rfl⟩
    · cases h
      exact ⟨rfl, rfl⟩
    · cases h
      exact ⟨rfl, rfl⟩

/-- A creation that is taken back leaves the queues. -/
theorem creations_step (runner : RunnerId) (h : call.step c limits now = (c', next)) :
    c'.outbox.creations runner + (call.withdraws? c).toList.count runner ≤
      c.outbox.creations runner := by
  rcases outbox_step h with ⟨hout, hnone⟩ | ⟨other, agent, hnone, hout⟩ |
    ⟨other, agent, hsome, hwithdraw⟩
  · rw [hout, hnone]
    exact Nat.le_refl _
  · rw [hout, hnone, Outbox.creations_enqueue]
    exact Nat.le_refl _
  · rw [hsome, Option.toList_some, List.count_singleton]
    by_cases hr : other = runner
    · subst hr
      rw [beq_self_eq_true]
      exact Nat.le_of_eq (Outbox.creations_withdrawCreate hwithdraw)
    · rw [beq_false_of_ne hr]
      exact Outbox.creations_withdrawCreate_le hwithdraw

end DeleteCall

theorem Sweeping.creations_step (c : Coordinator) (w : Sweeping) (runner : RunnerId) :
    (w.step c).1.outbox.creations runner ≤ c.outbox.creations runner := by
  unfold step
  split
  · exact Nat.le_refl _
  · split
    · exact Nat.le_refl _
    · exact Nat.le_refl _
  · exact Outbox.creations_enqueueUnique_le rfl
  · exact Nat.le_refl _

/-! ## Streams -/

/-- The creations of the runner in what a stream sends. -/
def StreamItem.creations (runner : RunnerId) : StreamItem → Nat
  | .reply r => r.command.toList.countP (·.creates runner)
  | _ => 0

/-- The creations of the runner that a stream has taken from a queue and is still to send. -/
def StreamPoint.creations (runner : RunnerId) : StreamPoint → Nat
  | .taken command => (command.creates runner).toNat
  | _ => 0

namespace SyncStream

variable {c : Coordinator} {s : SyncStream} {runner : RunnerId}

theorem creations_heard {items : List StreamItem}
    (h : (items.map (·.creations runner)).sum = 0) :
    ((s.heard items).map (·.creations runner)).sum = 0 := by
  unfold heard
  split
  · exact h
  · rfl

theorem outbox_bind {snapshot : Wire.Snapshot} : (s.bind c snapshot).1.outbox = c.outbox := by
  unfold bind
  split <;> rfl

variable (c s runner) in
theorem finish_spec : (s.finish c).1.outbox = c.outbox ∧
    ((s.finish c).2.2.map (·.creations runner)).sum = 0 := by
  unfold finish
  cases s.binding with
  | none => exact ⟨rfl, creations_heard rfl⟩
  | some b =>
    refine ⟨?_, creations_heard rfl⟩
    simp only
    split <;> rfl

end SyncStream

namespace Link

variable (c : Coordinator) (l : Link) (runner : RunnerId)

/-- The creations of the runner that the stream is still to send or that are under way. -/
def creations : Nat :=
  l.point.creations runner + (l.underway.map (·.creations runner)).sum

theorem creations_after (x : Coordinator × SyncStream × List StreamItem) :
    (l.after x).2.creations runner =
      (l.underway.map (·.creations runner)).sum + (x.2.2.map (·.creations runner)).sum := by
  simp only [creations, after, StreamPoint.creations, List.map_append, List.sum_append,
    Nat.zero_add]

/-- A stream that ends sends no creation. -/
theorem creations_finish :
    (l.after (l.stream.finish c)).1.outbox.creations runner +
        (l.after (l.stream.finish c)).2.creations runner ≤
      c.outbox.creations runner + l.creations runner := by
  obtain ⟨hout, hitems⟩ := SyncStream.finish_spec c l.stream runner
  have hfirst : (l.after (l.stream.finish c)).1.outbox = c.outbox := hout
  rw [hfirst, creations_after, hitems]
  exact Nat.add_le_add_left (Nat.le_add_left ..) _

theorem creations_hear (snapshot : Wire.Snapshot) :
    (l.hear c snapshot).1.outbox.creations runner + (l.hear c snapshot).2.creations runner ≤
      c.outbox.creations runner + l.creations runner := by
  unfold hear
  split
  · next hpoint =>
    split
    · exact Nat.le_refl _
    · simp only [SyncStream.outbox_bind, creations, hpoint, StreamPoint.creations]
      exact Nat.le_refl _
  · exact Nat.le_refl _

theorem creations_work :
    (l.work c).1.outbox.creations runner + (l.work c).2.creations runner ≤
      c.outbox.creations runner + l.creations runner := by
  unfold work
  split
  · next b hpoint hbinding =>
    split
    · next store _ _ =>
      have hitems : ((l.stream.refuse { c with store } b).2.2.map (·.creations runner)).sum = 0 :=
        SyncStream.creations_heard rfl
      rw [creations_after, hitems]
      exact Nat.add_le_add_left (Nat.le_add_left ..) _
    · simp only [creations, hpoint, StreamPoint.creations]
      exact Nat.le_refl _
  · next b hpoint hbinding =>
    simp only [SyncStream.outbox_reconcile, creations, hpoint, StreamPoint.creations]
    exact Nat.le_refl _
  · next b hpoint hbinding =>
    have hnext : (c.outbox.next b.agentId).1.creations runner +
        ((c.outbox.next b.agentId).2.creates runner).toNat = c.outbox.creations runner :=
      Outbox.creations_next rfl
    simp only [creations, hpoint, StreamPoint.creations]
    omega
  · next command hpoint =>
    split
    · rw [creations_after]
      have hcommand : (([.reply (.ofCommand command)] : List StreamItem).map
          (·.creations runner)).sum = (command.creates runner).toNat := by
        simp only [List.map_cons, List.map_nil, StreamItem.creations, Wire.Reply.ofCommand,
          Option.toList_some, List.countP_singleton, List.sum_cons, List.sum_nil]
        cases command.creates runner <;> rfl
      simp only [hcommand, creations, hpoint, StreamPoint.creations, after]
      omega
    · exact creations_finish c l runner
  · exact Nat.le_refl _

theorem creations_hangUp :
    (l.hangUp c).1.outbox.creations runner + (l.hangUp c).2.creations runner ≤
      c.outbox.creations runner + l.creations runner := by
  unfold hangUp
  split
  · split
    · exact Nat.le_refl _
    · exact creations_finish c l runner
  · exact Nat.le_refl _

theorem creations_lose {j : Nat} {item : StreamItem} (h : l.underway[j]? = some item) :
    (l.lose j).creations runner + item.creations runner = l.creations runner := by
  have hsum : ((l.underway.eraseIdx j).map (·.creations runner)).sum + item.creations runner =
      (l.underway.map (·.creations runner)).sum := sum_replaceAt h (·.creations runner) none
  simp only [creations, lose]
  omega

theorem creations_lose_le (j : Nat) : (l.lose j).creations runner ≤ l.creations runner :=
  Nat.add_le_add_left (sum_eraseIdx_le l.underway j (·.creations runner)) _

theorem creations_cut : l.cut.creations runner ≤ l.creations runner := by
  simp only [creations, cut, StreamPoint.creations, Nat.zero_add]
  exact Nat.le_add_left ..

end Link

/-! ## The fleet -/

namespace Fleet

variable {V : VmService} {f : Fleet V} {limits : RequestLimits} {runner : RunnerId}

/-- Where the creations of the runner are that were minted: queued or yet to be, under way, asked
for or yet to be, or taken back. -/
def creations (f : Fleet V) (runner : RunnerId) : Nat :=
  f.coordinator.outbox.creations runner + (f.adds.map (·.creations runner)).sum +
    (f.links.map (·.creations runner)).sum + (f.hosts.map (·.creations runner)).sum +
      f.withdrawn.count runner

theorem outbox_collect (c : Coordinator) : (c.collect?.getD c).outbox = c.outbox := by
  unfold Coordinator.collect?
  cases Gauges.ofStore? c.store <;> rfl

/-- What the hosts' runs maintain. -/
def Sound (f : Fleet V) : Prop := ∀ h ∈ f.hosts, h.Sound

theorem sound_onHost {i : Nat} {act : HostRun V → HostRun V} (hf : f.Sound)
    (hact : ∀ h : HostRun V, h.Sound → (act h).Sound) : (f.onHost i act).Sound := by
  unfold onHost
  split
  · next h hi =>
    intro h' hmem
    rcases List.mem_or_eq_of_mem_set hmem with hmem | rfl
    · exact hf h' hmem
    · exact hact h (hf h (List.mem_of_getElem? hi))
  · exact hf

theorem Sound.onEvent (hf : f.Sound) (e : FleetEvent V) : (f.onEvent limits e).Sound := by
  cases e with
  | joins vms =>
    intro h hmem
    rcases List.mem_append.1 hmem with hmem | hmem
    · exact hf h hmem
    · rw [List.mem_singleton.1 hmem]
      exact HostRun.sound_start vms
  | deliver i j agent now =>
    simp only [Fleet.onEvent, deliver]
    split
    · split
      · next r hj =>
        exact sound_onHost hf fun h hs => hs.onEvent (.receive agent now r)
      · exact hf
    · exact hf
  | host i m => exact sound_onHost hf fun h hs => hs.onEvent (.move m)
  | addGoesOn i now =>
    simp only [Fleet.onEvent, onAdd]
    split <;> exact hf
  | deleteGoesOn i now =>
    simp only [Fleet.onEvent, onDelete]
    split <;> exact hf
  | sweepGoesOn i =>
    simp only [Fleet.onEvent, onSweep]
    split <;> exact hf
  | snapshot | streamGoesOn | hangUp | deafen | lose =>
    simp only [Fleet.onEvent, onLink]
    split <;> exact hf
  | register | add | addGivenUp | delete | deleteGivenUp | sweep | collect | connect | restart =>
    exact hf

/-- The creations that a change adds are among those that it mints. -/
def Covers (f f' : Fleet V) : Prop :=
  ∀ runner, f'.creations runner + f.minted.count runner ≤
    f.creations runner + f'.minted.count runner

theorem Covers.refl (f : Fleet V) : f.Covers f := fun _ => Nat.le_refl _

theorem covers_onAdd {now : Instant} {i : Nat} : f.Covers (f.onAdd limits now i) := by
  intro runner
  unfold onAdd
  split
  · next a hi =>
    rcases hstep : a.step f.coordinator limits now with ⟨c, next⟩
    have hpart := Adding.creations_step runner hstep
    have hsum := sum_replaceAt hi (·.creations runner) next
    simp only [creations, List.count_append]
    omega
  · exact Nat.le_refl _

theorem covers_onDelete {now : Instant} {i : Nat} : f.Covers (f.onDelete limits now i) := by
  intro runner
  unfold onDelete
  split
  · next call hi =>
    rcases hstep : call.step f.coordinator limits now with ⟨c, next⟩
    have hpart := DeleteCall.creations_step runner hstep
    simp only [creations, List.count_append]
    omega
  · exact Nat.le_refl _

theorem covers_onSweep {i : Nat} : f.Covers (f.onSweep i) := by
  intro runner
  unfold onSweep
  split
  · next w hi =>
    have hpart := w.creations_step f.coordinator runner
    simp only [creations]
    omega
  · exact Nat.le_refl _

theorem covers_onLink {i : Nat} {act : Coordinator → Link → Coordinator × Link}
    (hact : ∀ c l runner, (act c l).1.outbox.creations runner + (act c l).2.creations runner ≤
      c.outbox.creations runner + l.creations runner) : f.Covers (f.onLink i act) := by
  intro runner
  unfold onLink
  split
  · next l hi =>
    have hpart := hact f.coordinator l runner
    have hsum := sum_set hi (·.creations runner) (act f.coordinator l).2
    simp only [creations]
    omega
  · exact Nat.le_refl _

theorem creations_onHost (runner : RunnerId) (i k : Nat) {act : HostRun V → HostRun V}
    (hf : f.Sound)
    (hact : ∀ h : HostRun V, h.Sound → (act h).creations runner ≤ h.creations runner + k) :
    (f.onHost i act).creations runner ≤ f.creations runner + k := by
  unfold onHost
  split
  · next h hi =>
    have hpart := hact h (hf h (List.mem_of_getElem? hi))
    have hsum := sum_set hi (·.creations runner) (act h)
    simp only [creations]
    omega
  · exact Nat.le_add_right ..

theorem minted_onHost {i : Nat} {act : HostRun V → HostRun V} :
    (f.onHost i act).minted = f.minted := by
  unfold onHost
  split <;> rfl

/-- A reply that is delivered hands its creation over to the host. -/
theorem covers_deliver {i j : Nat} {agent : AgentId} {now : UInt64} (hf : f.Sound) :
    f.Covers (f.deliver i j agent now) := by
  intro runner
  unfold deliver
  split
  · next l hi =>
    split
    · next r hj =>
      have hlose := l.creations_lose runner hj
      have hlink := sum_set hi (·.creations runner) (l.lose j)
      have hhost := creations_onHost runner l.host _
        (f := { f with links := f.links.set i (l.lose j) }) hf
        fun h _ => HostRun.creations_received (h.receive_received agent now r)
      have hbefore : ({ f with links := f.links.set i (l.lose j) } : Fleet V).creations runner +
          r.command.toList.countP (·.creates runner) = f.creations runner := by
        simp only [StreamItem.creations] at hlose
        simp only [creations]
        omega
      rw [minted_onHost]
      exact Nat.add_le_add_right (Nat.le_trans hhost (Nat.le_of_eq hbefore)) _
    · exact Nat.le_refl _
  · exact Nat.le_refl _

/-- Nothing that happens adds creations but those that it mints. -/
theorem Sound.covers (hf : f.Sound) (limits : RequestLimits) (e : FleetEvent V) :
    f.Covers (f.onEvent limits e) := by
  cases e with
  | joins vms =>
    intro runner
    simp only [Fleet.onEvent, creations, List.map_append, List.sum_append, List.map_cons,
      List.map_nil, List.sum_cons, List.sum_nil, HostRun.creations_start]
    exact Nat.le_refl _
  | add now online id request requestId =>
    intro runner
    simp only [Fleet.onEvent, creations, List.map_append, List.sum_append,
      Adding.creations_begin?]
    exact Nat.le_refl _
  | addGoesOn i now => exact covers_onAdd
  | addGivenUp i =>
    intro runner
    have hsum := sum_eraseIdx_le f.adds i (·.creations runner)
    simp only [Fleet.onEvent, creations]
    omega
  | deleteGoesOn i now => exact covers_onDelete
  | sweepGoesOn i => exact covers_onSweep
  | connect host =>
    intro runner
    simp only [Fleet.onEvent, creations, List.map_append, List.sum_append]
    exact Nat.le_refl _
  | snapshot i s => exact covers_onLink fun c l runner => l.creations_hear c runner s
  | streamGoesOn i => exact covers_onLink fun c l runner => l.creations_work c runner
  | hangUp i => exact covers_onLink fun c l runner => l.creations_hangUp c runner
  | deafen i => exact covers_onLink fun c l runner => Nat.le_refl _
  | lose i j =>
    refine covers_onLink fun c l runner => ?_
    exact Nat.add_le_add_left (l.creations_lose_le runner j) _
  | deliver i j agent now => exact covers_deliver hf
  | host i m =>
    intro runner
    have hle := creations_onHost runner i 0 hf
      fun h hs => HostRun.creations_change hs (h.step_change m)
    simp only [Fleet.onEvent, minted_onHost]
    omega
  | restart =>
    intro runner
    have hlinks : ((f.links.map Link.cut).map (·.creations runner)).sum ≤
        (f.links.map (·.creations runner)).sum := by
      rw [List.map_map]
      exact sum_map_le fun l _ => l.creations_cut runner
    have hout : Coordinator.initial.outbox.creations runner = 0 := rfl
    simp only [Fleet.onEvent, creations, hout, List.map_nil, List.sum_nil]
    omega
  | register | delete | deleteGivenUp | sweep => exact .refl f
  | collect =>
    intro runner
    simp only [Fleet.onEvent, creations, outbox_collect]
    exact Nat.le_refl _

/-! ## Runs -/

theorem sound_after (limits : RequestLimits) (es : List (FleetEvent V)) :
    ((start : Fleet V).after limits es).Sound := by
  induction es using List.reverseRecOn with
  | nil => exact nofun
  | append_singleton es e ih =>
    rw [after_append_singleton]
    exact ih.onEvent e

theorem creations_le_minted (limits : RequestLimits) (es : List (FleetEvent V))
    (runner : RunnerId) :
    ((start : Fleet V).after limits es).creations runner ≤
      ((start : Fleet V).after limits es).minted.count runner := by
  induction es using List.reverseRecOn with
  | nil => exact Nat.le_refl 0
  | append_singleton es e ih =>
    have hcovers := (sound_after limits es).covers limits e runner
    rw [after_append_singleton]
    omega

/-- What the hosts asked for and what was taken back is part of what was minted. -/
theorem createCalls_add_withdrawn_le (f : Fleet V) (runner : RunnerId) :
    f.createCalls runner + f.withdrawn.count runner ≤ f.creations runner := by
  have hhosts : f.createCalls runner ≤ (f.hosts.map (·.creations runner)).sum :=
    sum_map_le fun h _ => h.createCalls_le runner
  unfold creations
  omega

/-- While minted ids do not repeat, a creation waits in the queue of one agent at most: whichever
queue holds it is the one that a withdrawal takes it from. -/
theorem holder_unique {es : List (FleetEvent V)} {agent : AgentId}
    (hminted : ((start : Fleet V).after limits es).minted.Nodup)
    (hagent : (((start : Fleet V).after limits es).coordinator.outbox.queueOf agent).any
      (·.creates runner) = true) :
    ((start : Fleet V).after limits es).coordinator.outbox.holderOfCreate? runner =
      some agent := by
  have hone : ((start : Fleet V).after limits es).minted.count runner ≤ 1 :=
    List.nodup_iff_count_le_one.1 hminted runner
  have hle := creations_le_minted (V := V) limits es runner
  refine Outbox.holderOfCreate?_eq ?_ hagent
  unfold creations at hle
  omega

/-- While minted ids do not repeat, the hosts together ask for the creation of a runner at most
once, and not at all if a delete request has taken its queued creation back. -/
theorem created_at_most_once (limits : RequestLimits) (es : List (FleetEvent V))
    (runner : RunnerId) (hminted : ((start : Fleet V).after limits es).minted.Nodup) :
    ((start : Fleet V).after limits es).createCalls runner ≤ 1 ∧
      (runner ∈ ((start : Fleet V).after limits es).withdrawn →
        ((start : Fleet V).after limits es).createCalls runner = 0) := by
  have hone : ((start : Fleet V).after limits es).minted.count runner ≤ 1 :=
    List.nodup_iff_count_le_one.1 hminted runner
  have hle := creations_le_minted (V := V) limits es runner
  have hparts := createCalls_add_withdrawn_le ((start : Fleet V).after limits es) runner
  refine ⟨by omega, fun hwithdrawn => ?_⟩
  have hpos := List.count_pos_iff.2 hwithdrawn
  omega

/-- Two runners are ordered from one host: the first is created there, the creation of the second is
taken back. -/
def twoOrders : List (FleetEvent lifecycle) :=
  let request : Wire.AddRequest := ⟨"", "", "", []⟩
  let online : List Agent := [⟨"a1", "host", ⟨2, 4, 8⟩, .online⟩]
  let input : Lifecycle.Input :=
    ⟨⟨⟨⟨0⟩, ⟨0⟩, ⟨0⟩, ⟨0⟩, ⟨0⟩, ⟨0⟩, ⟨0⟩⟩, 0, ⟨0, 0⟩⟩, .signalled (.replied (.ok .done))⟩
  [.joins ⟨⟨.empty, .missing⟩, []⟩, .register "a1" ⟨"host", some ⟨2, 4, 8⟩⟩,
    .add 0 online "r1" request "q1", .addGoesOn 0 0, .addGoesOn 0 0, .addGoesOn 0 0,
    .addGoesOn 0 0,
    .connect 0, .snapshot 0 ⟨"a1", 0, []⟩,
    .streamGoesOn 0, .streamGoesOn 0, .streamGoesOn 0, .streamGoesOn 0,
    .deliver 0 0 "a1" 0, .host 0 (.begin 0), .host 0 (.ask 0 input),
    .add 0 online "r2" request "q2", .addGoesOn 1 0, .addGoesOn 1 0, .addGoesOn 1 0,
    .addGoesOn 1 0,
    .delete (cloudIdOf "r2") "q3", .deleteGoesOn 0 0, .deleteGoesOn 0 0]

/-- The fleet after both orders. -/
def ordered : Fleet lifecycle := (start : Fleet lifecycle).after ⟨⟨1⟩, ⟨1⟩, ⟨1⟩⟩ twoOrders

theorem ordered_created_at_most_once :
    ordered.createCalls "r1" = 1 ∧ "r2" ∈ ordered.withdrawn ∧ ordered.createCalls "r2" = 0 := by
  have hcreated : ordered.createCalls "r1" = 1 := by decide +kernel
  have hwithdrawn : "r2" ∈ ordered.withdrawn := by decide +kernel
  have hminted : ordered.minted.Nodup := by decide +kernel
  have h := created_at_most_once (V := lifecycle) ⟨⟨1⟩, ⟨1⟩, ⟨1⟩⟩ twoOrders "r2"
  rw [← ordered] at h
  exact ⟨hcreated, hwithdrawn, (h hminted).2 hwithdrawn⟩

end Fleet

end RunnerFleet

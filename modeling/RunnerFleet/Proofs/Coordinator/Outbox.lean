import Mathlib
import RunnerFleet.Command

/-!
# The creations that wait in queues

`Outbox.creations` counts the commands that wait for any agent and create a given runner. Each
operation on the queues is read off it by one equation: queueing adds what the command creates,
taking the oldest command and taking a creation back remove it. What an operation makes of the
queue of one agent is one equation too, and it leaves the queues of all others alone.
-/

namespace RunnerFleet

namespace Table

variable {α : Type} {f : α → Nat}

/-- The sum of a measure over the values. -/
def total (f : α → Nat) (t : Table α) : Nat := (t.values.map f).sum

theorem sum_insertEntry {key : String} {v : α} {l : List (String × α)}
    (h : (l.map Prod.fst).Pairwise (· < ·)) :
    ((insertEntry key v l).map fun e => f e.2).sum + ((lookup key l).map f).getD 0 =
      (l.map fun e => f e.2).sum + f v := by
  induction l with
  | nil => simp [insertEntry, lookup]
  | cons e rest ih =>
    obtain ⟨k, w⟩ := e
    simp only [List.map_cons, List.pairwise_cons] at h
    have ih := ih h.2
    by_cases hlt : key < k
    · -- the order keeps the key out of the rest
      have hnone : lookup key rest = none := by
        refine lookup_eq_none_iff.2 fun hmem => ?_
        exact String.lt_irrefl _ (String.lt_trans hlt (h.1 key hmem))
      have hne : k ≠ key := fun heq => String.lt_irrefl _ (heq ▸ hlt)
      simp only [insertEntry, if_pos hlt, lookup, if_neg hne, hnone, List.map_cons, List.sum_cons,
        Option.map_none, Option.getD_none]
      omega
    · by_cases heq : key = k
      · subst heq
        simp only [insertEntry, String.lt_irrefl, if_true, if_false, lookup, List.map_cons,
          List.sum_cons, Option.map_some, Option.getD_some]
        omega
      · simp only [insertEntry, if_neg hlt, if_neg heq, lookup, if_neg (Ne.symm heq),
          List.map_cons, List.sum_cons]
        omega

theorem total_insert (t : Table α) (key : String) (v : α) :
    (t.insert key v).total f + ((t.get? key).map f).getD 0 = t.total f + f v := by
  simp only [total, values, List.map_map]
  exact sum_insertEntry t.ascending

end Table

namespace Outbox

variable {m m' : Outbox} {agent : AgentId} {c : Command} {runner : RunnerId}

/-- How many of the commands create the runner. -/
def creationsIn (runner : RunnerId) (commands : List Command) : Nat :=
  commands.countP (·.creates runner)

/-- How many commands that wait for some agent create the runner. -/
def creations (m : Outbox) (runner : RunnerId) : Nat := m.queues.total (creationsIn runner)

variable (m agent runner) in
theorem creations_insert (commands : List Command) :
    (⟨m.queues.insert agent commands⟩ : Outbox).creations runner +
        creationsIn runner (m.queueOf agent) =
      m.creations runner + creationsIn runner commands := by
  have h := Table.total_insert (f := creationsIn runner) m.queues agent commands
  have hqueue : ((m.queues.get? agent).map (creationsIn runner)).getD 0 =
      creationsIn runner (m.queueOf agent) := by
    unfold queueOf
    cases m.queues.get? agent <;> rfl
  rw [hqueue] at h
  exact h

theorem creations_enqueue :
    (m.enqueue agent c).creations runner = m.creations runner + (c.creates runner).toNat := by
  have h := creations_insert m agent runner (m.queueOf agent ++ [c])
  have happend : creationsIn runner (m.queueOf agent ++ [c]) =
      creationsIn runner (m.queueOf agent) + (c.creates runner).toNat := by
    simp only [creationsIn, List.countP_append, List.countP_singleton]
    cases c.creates runner <;> rfl
  rw [happend] at h
  unfold enqueue
  omega

theorem creations_enqueueUnique_le (hc : c.creates runner = false) :
    (m.enqueueUnique agent c).1.creations runner ≤ m.creations runner := by
  unfold enqueueUnique
  split
  · exact Nat.le_refl _
  · rw [creations_enqueue, hc]
    exact Nat.le_refl _

/-- The oldest command leaves its queue. -/
theorem creations_next (h : m.next agent = (m', c)) :
    m'.creations runner + (c.creates runner).toNat = m.creations runner := by
  unfold next at h
  split at h
  · next command rest hqueue =>
    cases h
    have h := creations_insert m agent runner rest
    have hcons : creationsIn runner (m.queueOf agent) =
        creationsIn runner rest + (c.creates runner).toNat := by
      rw [hqueue]
      simp only [creationsIn, List.countP_cons]
      cases c.creates runner <;> rfl
    rw [hcons] at h
    omega
  · cases h
    rfl

theorem withdrawCreate_eq {other : RunnerId} {taken : Option AgentId}
    (h : m.withdrawCreate other = (m', taken)) :
    m' = m ∨ ∃ holder, m' = ⟨m.queues.insert holder
      ((m.queueOf holder).eraseP (·.creates other))⟩ := by
  unfold withdrawCreate at h
  split at h
  · cases h
    exact .inr ⟨_, rfl⟩
  · cases h
    exact .inl rfl

/-- Taking a creation back adds none. -/
theorem creations_withdrawCreate_le {other : RunnerId} {taken : Option AgentId}
    (h : m.withdrawCreate other = (m', taken)) : m'.creations runner ≤ m.creations runner := by
  rcases withdrawCreate_eq h with rfl | ⟨holder, rfl⟩
  · exact Nat.le_refl _
  · have h := creations_insert m holder runner
      ((m.queueOf holder).eraseP (·.creates other))
    have hle : creationsIn runner ((m.queueOf holder).eraseP (·.creates other)) ≤
        creationsIn runner (m.queueOf holder) := List.eraseP_sublist.countP_le
    omega

theorem queueOf_of_holder (h : m.holderOfCreate? runner = some agent) :
    (m.queueOf agent).any (·.creates runner) = true := by
  unfold holderOfCreate? at h
  obtain ⟨⟨k, queue⟩, hfind, rfl⟩ := Option.map_eq_some_iff.1 h
  have hqueue : m.queueOf k = queue := by
    unfold queueOf
    rw [Table.mem_entries.1 (List.mem_of_find?_eq_some hfind)]
    rfl
  rw [hqueue]
  simpa using List.find?_some hfind

/-- A creation that is taken back was waiting, and waits no longer. -/
theorem creations_withdrawCreate (h : m.withdrawCreate runner = (m', some agent)) :
    m'.creations runner + 1 = m.creations runner := by
  unfold withdrawCreate at h
  split at h
  · next holder hholder =>
    obtain ⟨rfl, hagent⟩ := Prod.mk.inj h
    obtain rfl := Option.some.inj hagent
    obtain ⟨c, hmem, hc⟩ := List.any_eq_true.1 (queueOf_of_holder hholder)
    obtain ⟨d, before, after, -, hd, hqueue, herase⟩ :=
      List.exists_of_eraseP (p := (·.creates runner)) hmem hc
    have h := creations_insert m holder runner
      ((m.queueOf holder).eraseP (·.creates runner))
    have hone : creationsIn runner ((m.queueOf holder).eraseP (·.creates runner)) + 1 =
        creationsIn runner (m.queueOf holder) := by
      rw [herase, hqueue]
      simp only [creationsIn, List.countP_append, List.countP_cons, hd, if_true]
      omega
    omega
  · cases h

/-! ## The queue of one agent -/

@[simp] theorem queueOf_insert (queues : Table (List Command)) (commands : List Command)
    (a : AgentId) : queueOf ⟨queues.insert agent commands⟩ a =
      if a = agent then commands else queueOf ⟨queues⟩ a := by
  simp only [queueOf, Table.get?_insert]
  split <;> rfl

theorem queueOf_enqueue (a : AgentId) : (m.enqueue agent c).queueOf a =
    if a = agent then m.queueOf agent ++ [c] else m.queueOf a := by
  rw [enqueue, queueOf_insert]

theorem queueOf_next (a : AgentId) : (m.next agent).1.queueOf a =
    if a = agent then (m.queueOf agent).tail else m.queueOf a := by
  unfold next
  split
  · next hqueue => rw [queueOf_insert, hqueue, List.tail_cons]
  · next hqueue =>
    split
    · next ha => rw [ha, hqueue, List.tail_nil]
    · rfl

/-- The answer is the oldest command; it is `noop` in its place only when none waits. -/
theorem next_command (m : Outbox) (agent : AgentId) :
    (m.next agent).2 = (m.queueOf agent).head?.getD .noop := by
  unfold next
  cases m.queueOf agent <;> rfl

theorem creationsIn_queueOf_le (m : Outbox) (agent : AgentId) (runner : RunnerId) :
    creationsIn runner (m.queueOf agent) ≤ m.creations runner := by
  have h := creations_insert m agent runner []
  exact Nat.le_of_add_left_le (Nat.le_of_eq h)

/-- Where no more than one creation of a runner waits, the agent whose queue holds it is the one
that is found, whatever the order of the search. -/
theorem holderOfCreate?_eq (hone : m.creations runner ≤ 1)
    (hagent : (m.queueOf agent).any (·.creates runner) = true) :
    m.holderOfCreate? runner = some agent := by
  have hpos : 0 < creationsIn runner (m.queueOf agent) := by
    simpa [creationsIn, List.countP_pos_iff] using hagent
  cases hholder : m.holderOfCreate? runner with
  | none =>
    -- a queue that holds a command stands in the table
    cases hget : m.queues.get? agent with
    | none => simp [queueOf, hget] at hagent
    | some queue =>
      have hnone := List.find?_eq_none.1 (Option.map_eq_none_iff.1 hholder) _
        (Table.mem_entries.2 hget)
      rw [queueOf, hget] at hagent
      exact absurd hagent hnone
  | some other =>
    by_cases hother : other = agent
    · rw [hother]
    · -- the queues of two agents would hold one creation each
      have hsecond : 0 < creationsIn runner (m.queueOf other) := by
        simpa [creationsIn, List.countP_pos_iff] using queueOf_of_holder hholder
      have hrest := creations_insert m agent runner []
      have hle := creationsIn_queueOf_le ⟨m.queues.insert agent []⟩ other runner
      rw [queueOf_insert, if_neg hother] at hle
      change _ = m.creations runner + 0 at hrest
      change creationsIn runner (m.queueOf other) ≤ _ at hle
      omega

/-- A creation that is taken back was waiting for the agent, and its oldest occurrence goes. -/
theorem queueOf_withdrawCreate (h : (m.withdrawCreate runner).2 = some agent) :
    (m.queueOf agent).any (·.creates runner) = true ∧ ∀ a,
      (m.withdrawCreate runner).1.queueOf a =
        if a = agent then (m.queueOf agent).eraseP (·.creates runner) else m.queueOf a := by
  unfold withdrawCreate at h ⊢
  split at h
  · next holder hholder =>
    obtain rfl := Option.some.inj h
    exact ⟨queueOf_of_holder hholder, fun a => queueOf_insert _ _ a⟩
  · cases h

theorem withdrawCreate_of_none (h : (m.withdrawCreate runner).2 = none) :
    (m.withdrawCreate runner).1 = m := by
  unfold withdrawCreate at h ⊢
  split at h
  · cases h
  · rfl

end Outbox

end RunnerFleet

import Mathlib.Algebra.Order.BigOperators.Group.List
import Mathlib.Algebra.Order.Ring.Nat
import RunnerFleet.Coordinator.Basic

/-!
# Summing up slots in 32 bits

The gauges can be read off a store exactly if the slots of its online agents and the taken ones can
be summed in 32 bits, and then the sums are exact (`Gauges.slotTotals?_eq`). That they can is not
ensured: an agent may register with as many slots as 32 bits hold, so two agents are enough to
exceed them (`Coordinator.registrations_can_overflow`).
-/

namespace RunnerFleet

/-! ## Slots -/

namespace Store

variable {s : Store}

/-- All slots of the online agents. -/
def slots (s : Store) : Nat := (s.onlineAgents.map (·.capacity.maxRunners.toNat)).sum

/-- The slots that are taken at the online agents; each agent's are counted in 32 bits. -/
def takenSlots (s : Store) : Nat :=
  (s.onlineAgents.map fun a => (UInt32.ofNat (s.activeCount a.id)).toNat).sum

/-- All slots can be summed in 32 bits, and so can the taken ones. -/
def SlotsFit (s : Store) : Prop := s.slots < UInt32.size ∧ s.takenSlots < UInt32.size

instance : Decidable s.SlotsFit := inferInstanceAs (Decidable (_ ∧ _))

/-- While all runners of the online agents can be counted in 32 bits, each agent's can. -/
theorem takenSlots_eq (h : (s.onlineAgents.map fun a => s.activeCount a.id).sum < UInt32.size) :
    s.takenSlots = (s.onlineAgents.map fun a => s.activeCount a.id).sum := by
  refine congrArg List.sum (List.map_congr_left fun a ha => UInt32.toNat_ofNat_of_lt' ?_)
  have hle : s.activeCount a.id ≤ (s.onlineAgents.map fun a => s.activeCount a.id).sum :=
    List.le_sum_of_mem (List.mem_map_of_mem ha)
  exact Nat.lt_of_le_of_lt hle h

end Store

/-! ## Totals -/

namespace Gauges

theorem addWithin32?_eq (a b : UInt32) : addWithin32? a b =
    if a.toNat + b.toNat < UInt32.size then some (.ofNat (a.toNat + b.toNat)) else none := by
  rw [addWithin32?, UInt32.ofNat_add, UInt32.ofNat_toNat, UInt32.ofNat_toNat]

theorem addLoad_eq (s : Store) (t : SlotTotals) (agent : Agent) :
    let capacity := t.capacity.toNat + agent.capacity.maxRunners.toNat
    let occupied := t.occupied.toNat + (UInt32.ofNat (s.activeCount agent.id)).toNat
    addLoad t (loadOf s agent) = if capacity < UInt32.size ∧ occupied < UInt32.size then
      some ⟨t.agentsOnline + 1, .ofNat capacity, .ofNat occupied⟩ else none := by
  intro capacity occupied
  simp only [addLoad, loadOf, addWithin32?_eq]
  by_cases hcapacity : capacity < UInt32.size
  · by_cases hoccupied : occupied < UInt32.size
    · rw [if_pos hcapacity, if_pos hoccupied, if_pos ⟨hcapacity, hoccupied⟩]
      rfl
    · have hsome : ¬ (capacity < UInt32.size ∧ occupied < UInt32.size) := fun h => hoccupied h.2
      rw [if_pos hcapacity, if_neg hoccupied, if_neg hsome]
      rfl
  · have hsome : ¬ (capacity < UInt32.size ∧ occupied < UInt32.size) := fun h => hcapacity h.1
    rw [if_neg hcapacity, if_neg hsome]
    rfl

/-- Adding up the loads of some agents gives the exact sums, or nothing if one does not fit. -/
theorem foldlM_addLoad (s : Store) (agents : List Agent) (t : SlotTotals) :
    let capacity := t.capacity.toNat + (agents.map (·.capacity.maxRunners.toNat)).sum
    let occupied := t.occupied.toNat +
      (agents.map fun a => (UInt32.ofNat (s.activeCount a.id)).toNat).sum
    (agents.map (loadOf s)).foldlM addLoad t =
      if capacity < UInt32.size ∧ occupied < UInt32.size then
        some ⟨t.agentsOnline + agents.length, .ofNat capacity, .ofNat occupied⟩ else none := by
  induction agents generalizing t with
  | nil =>
    intro capacity occupied
    rw [if_pos ⟨t.capacity.toNat_lt, t.occupied.toNat_lt⟩]
    simp [capacity, occupied]
  | cons a rest ih =>
    intro capacity occupied
    have hcapacity : capacity = t.capacity.toNat + a.capacity.maxRunners.toNat +
        (rest.map (·.capacity.maxRunners.toNat)).sum := by
      simp only [capacity, List.map_cons, List.sum_cons, Nat.add_assoc]
    have hoccupied : occupied = t.occupied.toNat + (UInt32.ofNat (s.activeCount a.id)).toNat +
        (rest.map fun a => (UInt32.ofNat (s.activeCount a.id)).toNat).sum := by
      simp only [occupied, List.map_cons, List.sum_cons, Nat.add_assoc]
    rw [List.map_cons, List.foldlM_cons, addLoad_eq]
    split
    · next hfirst =>
      refine (ih _).trans ?_
      rw [UInt32.toNat_ofNat_of_lt' hfirst.1, UInt32.toNat_ofNat_of_lt' hfirst.2, ← hcapacity,
        ← hoccupied, List.length_cons, Nat.add_assoc, Nat.add_comm 1]
    · next hfirst =>
      -- the sums only grow, so what does not fit at first does not fit in the end
      rw [if_neg fun h => hfirst ⟨by omega, by omega⟩]
      rfl

/-- The exact totals of a store, if they fit. -/
def totalsOf (s : Store) : SlotTotals where
  agentsOnline := s.onlineAgents.length
  capacity := UInt32.ofNat s.slots
  occupied := UInt32.ofNat s.takenSlots

theorem capacity_totalsOf {s : Store} (h : s.SlotsFit) : (totalsOf s).capacity.toNat = s.slots :=
  UInt32.toNat_ofNat_of_lt' h.1

theorem occupied_totalsOf {s : Store} (h : s.SlotsFit) :
    (totalsOf s).occupied.toNat = s.takenSlots :=
  UInt32.toNat_ofNat_of_lt' h.2

/-- The totals of a store are exact, and there are none if a sum does not fit. -/
theorem slotTotals?_eq (s : Store) :
    slotTotals? s = if s.SlotsFit then some (totalsOf s) else none := by
  refine (foldlM_addLoad s s.onlineAgents ⟨0, 0, 0⟩).trans ?_
  have hzero : (0 : UInt32).toNat = 0 := rfl
  simp only [hzero, Nat.zero_add]
  rfl

theorem ofStore?_eq (s : Store) :
    ofStore? s = if s.SlotsFit then some (ofTotals s (totalsOf s)) else none := by
  rw [ofStore?, slotTotals?_eq]
  split <;> rfl

theorem capacityAvailable_ofTotals (s : Store) (t : SlotTotals) :
    (ofTotals s t).capacityAvailable.toNat = t.capacity.toNat - t.occupied.toNat := by
  simp only [ofTotals]
  split
  · next hle => rw [UInt32.toNat_sub_of_le _ _ hle]
  · next hlt =>
    rw [UInt32.le_iff_toNat_le] at hlt
    have hzero : (0 : UInt32).toNat = 0 := rfl
    omega

end Gauges

/-! ## Collecting -/

namespace Coordinator

theorem collect?_eq (c : Coordinator) :
    c.collect? = if c.store.SlotsFit then
      some { c with gauges := .ofTotals c.store (Gauges.totalsOf c.store) } else none := by
  rw [collect?, Gauges.ofStore?_eq]
  split <;> rfl

/-- The gauges are collected exactly if the slots of the online agents can be summed in 32 bits, and
the taken ones too. Then the sums are exact; else nothing is collected. -/
theorem collects_exact_sums (c : Coordinator) :
    (¬ c.store.SlotsFit ∧ c.collect? = none) ∨
      (c.store.SlotsFit ∧ ∃ gauges, c.collect? = some { c with gauges } ∧
        gauges.agentsOnline = c.store.onlineAgents.length ∧
        gauges.capacityTotal.toNat = c.store.slots ∧
        gauges.capacityAvailable.toNat = c.store.slots - c.store.takenSlots) := by
  by_cases hfit : c.store.SlotsFit
  · refine .inr ⟨hfit, _, (collect?_eq c).trans (if_pos hfit), rfl,
      Gauges.capacity_totalsOf hfit, ?_⟩
    rw [Gauges.capacityAvailable_ofTotals, Gauges.capacity_totalsOf hfit,
      Gauges.occupied_totalsOf hfit]
  · exact .inl ⟨hfit, (collect?_eq c).trans (if_neg hfit)⟩

/-- A coordinator at which some agents have registered. -/
def registered (rs : List (AgentId × Wire.Registration)) : Coordinator :=
  rs.foldl (fun c r => c.register r.1 r.2) initial

/-- Two agents with as many slots as a registration can offer are too many to collect gauges. -/
theorem registrations_can_overflow :
    ¬ ∀ rs : List (AgentId × Wire.Registration), ∃ c', (registered rs).collect? = some c' ∧
      c'.gauges.capacityTotal.toNat = (registered rs).store.slots := by
  intro h
  obtain ⟨c', hc', -⟩ := h
    [("a1", ⟨"mini-1", some ⟨4294967295, 8, 17179869184⟩⟩),
      ("a2", ⟨"mini-2", some ⟨4294967295, 8, 17179869184⟩⟩)]
  rw [collect?_eq, if_neg (by decide +kernel)] at hc'
  cases hc'

end Coordinator

end RunnerFleet

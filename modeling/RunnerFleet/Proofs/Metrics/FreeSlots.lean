import Mathlib
import RunnerFleet.Proofs.Metrics.SlotSums
import RunnerFleet.Proofs.Placement.Selection

/-!
# Free slots in the gauges and in placement

Placement counts the free slots of each online agent by itself, the gauges subtract the fleet's
taken slots from all its slots. An agent that holds more runners than it may has a surplus;
placement ignores it, and the gauges take it from what the others have free
(`capacityAvailable_eq`). So the gauge never reads too high, and it can read nothing where placement
still finds an agent (`surplus_hides_free_slots`).
-/

namespace RunnerFleet

namespace Store

/-- The active runners beyond the agent's limit. -/
def surplus (s : Store) (agent : Agent) : Nat :=
  s.activeCount agent.id - agent.capacity.maxRunners.toNat

end Store

/-! ## Sums -/

/-- All slots and the surplus are as many as the taken slots and the free ones. -/
theorem slots_add_surplus (s : Store) (agents : List Agent) :
    (agents.map (·.capacity.maxRunners.toNat)).sum + (agents.map s.surplus).sum =
      (agents.map fun a => s.activeCount a.id).sum + (agents.map s.freeSlots).sum := by
  rw [← List.sum_map_add, ← List.sum_map_add]
  refine congrArg List.sum (List.map_congr_left ?_)
  intro a _
  unfold Store.surplus Store.freeSlots
  omega

/-! ## Placement -/

namespace Placement

variable {s : Store} {agents : List Agent}

/-- What the candidates have free is what the online agents have free. -/
theorem sum_candidates
    (hslots : ∀ a ∈ agents.filter (·.status == .online),
      ∃ n, s.availableSlots a.id = .ok n ∧ n.toNat = s.freeSlots a) :
    ((candidatesAmong s agents).map (·.available.toNat)).sum =
      ((agents.filter (·.status == .online)).map s.freeSlots).sum := by
  unfold candidatesAmong
  generalize agents.filter (·.status == .online) = online at hslots
  induction online with
  | nil => rfl
  | cons a rest ih =>
    obtain ⟨n, hn, hfree⟩ := hslots a List.mem_cons_self
    have hrest := ih fun b hb => hslots b (List.mem_cons_of_mem a hb)
    rw [List.map_cons, List.sum_cons, List.filterMap_cons, candidate?_eq_some hn, ← hrest, ← hfree]
    by_cases hpos : 0 < n
    · simp only [if_pos hpos, List.map_cons, List.sum_cons]
    · have hzero : n.toNat = 0 := by
        rw [UInt32.lt_iff_toNat_lt] at hpos
        exact Nat.eq_zero_of_not_pos hpos
      simp only [if_neg hpos, hzero, Nat.zero_add]

/-- The same, whatever order the store's agents are tried in. -/
theorem sum_candidates_listed (hlinked : s.Linked) (hagents : agents.Perm s.listAgents)
    (hoccupied : (s.onlineAgents.map fun a => s.activeCount a.id).sum < UInt32.size) :
    ((candidatesAmong s agents).map (·.available.toNat)).sum =
      (s.onlineAgents.map s.freeSlots).sum := by
  have hperm : (agents.filter (·.status == .online)).Perm s.onlineAgents := hagents.filter _
  have hslots : ∀ a ∈ agents.filter (·.status == .online),
      ∃ n, s.availableSlots a.id = .ok n ∧ n.toNat = s.freeSlots a := by
    intro a ha
    have honline := hperm.mem_iff.1 ha
    obtain ⟨hlisted, hstatus⟩ := Store.mem_onlineAgents.1 honline
    have hle : s.activeCount a.id ≤ (s.onlineAgents.map fun a => s.activeCount a.id).sum :=
      List.le_sum_of_mem (List.mem_map_of_mem honline)
    apply Store.availableSlots_eq_freeSlots (hlinked.get?_of_listed hlisted) hstatus
    exact Nat.lt_of_le_of_lt hle hoccupied
  rw [← (hperm.map s.freeSlots).sum_eq]
  exact sum_candidates hslots

theorem select_succeeds_iff :
    (∃ a, selectAmong s agents = .ok a) ↔ candidatesAmong s agents ≠ [] := by
  rw [← best?_eq_none_iff.ne]
  unfold selectAmong
  cases best? (candidatesAmong s agents) with
  | none => exact ⟨fun ⟨a, h⟩ => (nomatch h), fun h => absurd rfl h⟩
  | some c => exact ⟨fun _ h => (nomatch h), fun _ => ⟨c.agentId, rfl⟩⟩

theorem candidates_ne_nil_iff : candidatesAmong s agents ≠ [] ↔
    0 < ((candidatesAmong s agents).map (·.available.toNat)).sum := by
  constructor
  · intro hne
    obtain ⟨c, hc⟩ := List.exists_mem_of_ne_nil _ hne
    obtain ⟨a, -, hcandidate⟩ := List.mem_filterMap.1 hc
    have hpos := candidate?_pos hcandidate
    have hle : c.available.toNat ≤ ((candidatesAmong s agents).map (·.available.toNat)).sum :=
      List.le_sum_of_mem (List.mem_map_of_mem hc)
    omega
  · intro hpos hnil
    rw [hnil] at hpos
    exact absurd hpos (Nat.lt_irrefl 0)

end Placement

/-! ## Gauges -/

namespace Gauges

theorem exists_ofStore? (s : Store)
    (hcapacity : (s.onlineAgents.map (·.capacity.maxRunners.toNat)).sum < UInt32.size)
    (hoccupied : (s.onlineAgents.map fun a => s.activeCount a.id).sum < UInt32.size) :
    ∃ g, ofStore? s = some g ∧ g.capacityAvailable.toNat =
      (s.onlineAgents.map (·.capacity.maxRunners.toNat)).sum -
        (s.onlineAgents.map fun a => s.activeCount a.id).sum := by
  have htaken := Store.takenSlots_eq hoccupied
  have hfit : s.SlotsFit := ⟨hcapacity, htaken ▸ hoccupied⟩
  refine ⟨_, (ofStore?_eq s).trans (if_pos hfit), ?_⟩
  rw [capacityAvailable_ofTotals, capacity_totalsOf hfit, occupied_totalsOf hfit, htaken]
  rfl

/-- The gauge of free slots reads the free slots of all candidates less the surplus of the online
agents that hold more than they may. It agrees with placement if there is no such agent or no free
slot, and only then; where it reads anything, placement finds an agent. -/
theorem capacityAvailable_eq (es : List Store.Edit) (agents : List Agent)
    (hagents : agents.Perm (Store.edited es).listAgents)
    (hcapacity : ((Store.edited es).onlineAgents.map (·.capacity.maxRunners.toNat)).sum <
      UInt32.size)
    (hoccupied : ((Store.edited es).onlineAgents.map fun a =>
      (Store.edited es).activeCount a.id).sum < UInt32.size) :
    let s := Store.edited es
    let free := ((Placement.candidatesAmong s agents).map (·.available.toNat)).sum
    ∃ g, ofStore? s = some g ∧
      g.capacityAvailable.toNat = free - (s.onlineAgents.map s.surplus).sum ∧
      (g.capacityAvailable.toNat = free ↔
        free = 0 ∨ ∀ a ∈ s.onlineAgents, s.activeCount a.id ≤ a.capacity.maxRunners.toNat) ∧
      ((∃ a, Placement.selectAmong s agents = .ok a) ↔ 0 < free) ∧
      (0 < g.capacityAvailable.toNat → ∃ a, Placement.selectAmong s agents = .ok a) := by
  intro s free
  have hfree : free = (s.onlineAgents.map s.freeSlots).sum :=
    Placement.sum_candidates_listed (Store.linked_edited es) hagents hoccupied
  have hselect : (∃ a, Placement.selectAmong s agents = .ok a) ↔ 0 < free :=
    Placement.select_succeeds_iff.trans Placement.candidates_ne_nil_iff
  obtain ⟨g, hg, hdifference⟩ := exists_ofStore? s hcapacity hoccupied
  have hread : g.capacityAvailable.toNat = free - (s.onlineAgents.map s.surplus).sum := by
    have hbalance := slots_add_surplus s s.onlineAgents
    rw [hdifference, hfree]
    omega
  have hsurplus : (s.onlineAgents.map s.surplus).sum = 0 ↔
      ∀ a ∈ s.onlineAgents, s.activeCount a.id ≤ a.capacity.maxRunners.toNat := by
    rw [List.sum_eq_zero_iff, List.forall_mem_map]
    exact forall₂_congr fun a _ => Nat.sub_eq_zero_iff_le
  refine ⟨g, hg, hread, ?_, hselect, ?_⟩
  · rw [← hsurplus, hread]
    omega
  · intro hpos
    rw [hselect]
    omega

/-! ## An overfull agent beside a free one -/

/-- The first agent has one slot and reports three active runners; the second has two free slots. -/
def overfull : List Store.Edit :=
  let runner (id : RunnerId) : Runner :=
    { Runner.accepted id "ci" "a1" "" 0 with state := .running }
  [.registerAgent ⟨"a1", "mini-1", ⟨1, 4, 8⟩, .online⟩,
    .registerAgent ⟨"a2", "mini-2", ⟨2, 4, 8⟩, .online⟩,
    .report "a1" [runner "r1", runner "r2", runner "r3"]]

theorem capacityAvailable_eq_overfull :
    let s := Store.edited overfull
    (∃ g, ofStore? s = some g ∧ g.capacityAvailable.toNat = 2 - 2) ∧
      ∃ a, Placement.selectAmong s s.listAgents = .ok a := by
  intro s
  have hcapacity : (s.onlineAgents.map (·.capacity.maxRunners.toNat)).sum < UInt32.size := by
    decide +kernel
  have hoccupied : (s.onlineAgents.map fun a => s.activeCount a.id).sum < UInt32.size := by
    decide +kernel
  have hfree : ((Placement.candidatesAmong s s.listAgents).map (·.available.toNat)).sum = 2 := by
    decide +kernel
  have hsurplus : (s.onlineAgents.map s.surplus).sum = 2 := by decide +kernel
  obtain ⟨g, hg, hread, -, hselect, -⟩ :=
    capacityAvailable_eq overfull s.listAgents (.refl _) hcapacity hoccupied
  refine ⟨⟨g, hg, ?_⟩, hselect.2 ?_⟩
  · rw [hread]
    exact congrArg₂ (· - ·) hfree hsurplus
  · rw [hfree]
    exact Nat.two_pos

/-- The gauge can read nothing although placement finds an agent. -/
theorem surplus_hides_free_slots :
    ¬ ∀ (es : List Store.Edit) (g : Gauges), ofStore? (Store.edited es) = some g →
      (g.capacityAvailable.toNat =
          ((Placement.candidates (Store.edited es)).map (·.available.toNat)).sum ∧
        (0 < g.capacityAvailable.toNat ↔ ∃ a, Placement.select (Store.edited es) = .ok a)) := by
  intro h
  have hread : (ofStore? (Store.edited overfull)).map (·.capacityAvailable) = some 0 := by
    decide +kernel
  obtain ⟨g, hg, hnothing⟩ := Option.map_eq_some_iff.1 hread
  have hselect : Placement.select (Store.edited overfull) = .ok "a2" := by decide +kernel
  have hpos := (h overfull g hg).2.2 ⟨"a2", hselect⟩
  rw [hnothing] at hpos
  exact absurd hpos (by decide)

end Gauges

end RunnerFleet

import RunnerFleet.Placement
import RunnerFleet.Proofs.Store.Capacity

/-!
# Placement goes by capacity

The candidates are the agents that have capacity, each once, in the order in which the agents are
tried, with the slots that their runners leave free (`Placement.candidatesAmong_eq`). Of these the
first one with the most free slots is taken (`Placement.best?_eq_some_iff`). None of it depends on
the order itself: `Placement.selects_by_capacity` is about any order of the store's agents.
-/

namespace RunnerFleet

/-! ## Free slots -/

namespace Store

variable {s : Store} {agent : Agent}

def freeSlots (s : Store) (agent : Agent) : Nat :=
  agent.capacity.maxRunners.toNat - s.activeCount agent.id

theorem mem_onlineAgents :
    agent ∈ s.onlineAgents ↔ agent ∈ s.listAgents ∧ agent.status = .online := by
  rw [onlineAgents, List.mem_filter, beq_iff_eq]

theorem Linked.get?_of_listed (h : s.Linked) (hlisted : agent ∈ s.listAgents) :
    s.agents.get? agent.id = some agent :=
  h.agents_filed.mem_values.1 hlisted

theorem availableSlots_eq_freeSlots (hagent : s.agents.get? agent.id = some agent)
    (honline : agent.status = .online) (hfits : s.activeCount agent.id < UInt32.size) :
    ∃ n, s.availableSlots agent.id = .ok n ∧ n.toNat = s.freeSlots agent := by
  have hactive : (UInt32.ofNat (s.activeCount agent.id)).toNat = s.activeCount agent.id :=
    UInt32.toNat_ofNat_of_lt' hfits
  simp only [availableSlots, hagent, honline, if_true]
  refine ⟨_, rfl, ?_⟩
  unfold freeSlots
  split
  · next hle => rw [UInt32.toNat_sub_of_le _ _ hle, hactive]
  · next hlt =>
    rw [UInt32.le_iff_toNat_le, hactive] at hlt
    have hzero : (0 : UInt32).toNat = 0 := rfl
    omega

end Store

namespace Placement

variable {s : Store} {agent : Agent} {agents : List Agent} {cs : List Candidate} {c : Candidate}

/-! ## Candidates -/

theorem candidate?_eq_some {n : UInt32} (h : s.availableSlots agent.id = .ok n) :
    candidate? s agent = if 0 < n then some ⟨agent.id, n⟩ else none := by
  rw [candidate?, h]

theorem candidate?_pos (h : candidate? s agent = some c) : 0 < c.available.toNat := by
  unfold candidate? at h
  split at h
  · split at h
    · next hpos =>
      cases h
      exact UInt32.lt_iff_toNat_lt.1 hpos
    · cases h
  · cases h

/-- An online agent with capacity, as a candidate. -/
def candidateOf (s : Store) (agent : Agent) : Candidate :=
  ⟨agent.id, UInt32.ofNat (s.freeSlots agent)⟩

theorem available_candidateOf : (candidateOf s agent).available.toNat = s.freeSlots agent :=
  UInt32.toNat_ofNat_of_lt' (Nat.lt_of_le_of_lt (Nat.sub_le _ _) agent.capacity.maxRunners.toNat_lt)

/-- An agent is a candidate exactly if it has capacity. -/
theorem candidate?_eq (hagent : s.agents.get? agent.id = some agent)
    (honline : agent.status = .online) (hcounts : s.CountsFit) :
    candidate? s agent =
      if s.hasCapacity agent.id = .ok true then some (candidateOf s agent) else none := by
  obtain ⟨n, hn, hfree⟩ :=
    Store.availableSlots_eq_freeSlots hagent honline (hcounts.activeCount_lt agent.id)
  have hcandidate : candidateOf s agent = ⟨agent.id, n⟩ := by
    rw [candidateOf, ← hfree, UInt32.ofNat_toNat]
  have hcapacity : s.hasCapacity agent.id = .ok true ↔ 0 < n := by
    rw [Store.hasCapacity_eq_true_iff, UInt32.lt_iff_toNat_lt, hfree, Store.freeSlots]
    constructor
    · rintro ⟨a, ha, -, hroom⟩
      obtain rfl := Option.some.inj (hagent.symm.trans ha)
      exact Nat.sub_pos_of_lt hroom
    · intro hpos
      exact ⟨agent, hagent, honline, Nat.lt_of_sub_pos hpos⟩
  rw [candidate?_eq_some hn, hcandidate]
  exact if_congr hcapacity.symm rfl rfl

/-- The candidates are the agents with capacity, in their order. -/
theorem candidatesAmong_eq (hagents : ∀ a ∈ agents, s.agents.get? a.id = some a)
    (hcounts : s.CountsFit) :
    candidatesAmong s agents =
      (agents.filter fun a => s.hasCapacity a.id = .ok true).map (candidateOf s) := by
  induction agents with
  | nil => rfl
  | cons a rest ih =>
    have hagent := hagents a List.mem_cons_self
    have hrest := ih fun b hb => hagents b (List.mem_cons_of_mem a hb)
    unfold candidatesAmong at hrest ⊢
    by_cases honline : a.status = .online
    · have hstatus : (a.status == .online) = true := beq_iff_eq.2 honline
      rw [List.filter_cons, if_pos hstatus, List.filterMap_cons,
        candidate?_eq hagent honline hcounts, hrest, List.filter_cons]
      by_cases hcapacity : s.hasCapacity a.id = .ok true
      · rw [if_pos hcapacity, if_pos (decide_eq_true hcapacity), List.map_cons]
      · rw [if_neg hcapacity, if_neg (by simpa using hcapacity)]
    · have hstatus : ¬ (a.status == .online) = true := beq_iff_eq.not.2 honline
      have hcapacity : ¬ s.hasCapacity a.id = .ok true := by
        rw [Store.hasCapacity_eq_true_iff]
        rintro ⟨b, hb, hb', -⟩
        obtain rfl := Option.some.inj (hagent.symm.trans hb)
        exact honline hb'
      rw [List.filter_cons, if_neg hstatus, hrest, List.filter_cons,
        if_neg (by simpa using hcapacity)]

/-! ## The best candidate -/

/-- Those tried before the candidate have fewer free slots, those tried after it have no more. -/
def Foremost (cs : List Candidate) (c : Candidate) : Prop :=
  ∃ before after, cs = before ++ c :: after ∧ (∀ d ∈ before, d.available < c.available) ∧
    ∀ d ∈ after, d.available ≤ c.available

theorem Foremost.mem (h : Foremost cs c) : c ∈ cs := by
  obtain ⟨before, after, rfl, -, -⟩ := h
  exact List.mem_append_right _ List.mem_cons_self

theorem Foremost.le (h : Foremost cs c) : ∀ d ∈ cs, d.available ≤ c.available := by
  obtain ⟨before, after, rfl, hbefore, hafter⟩ := h
  intro d hd
  rcases List.mem_append.1 hd with hd | hd
  · exact UInt32.le_of_lt (hbefore d hd)
  · rcases List.mem_cons.1 hd with rfl | hd
    · exact UInt32.le_refl _
    · exact hafter d hd

theorem best?_eq_none_iff : best? cs = none ↔ cs = [] := by
  have hstays : ∀ (rest : List Candidate) (b : Candidate), rest.foldl better (some b) ≠ none := by
    intro rest
    induction rest with
    | nil => intro b h; cases h
    | cons c rest ih =>
      intro b
      rw [List.foldl_cons, better]
      split <;> exact ih _
  cases cs with
  | nil => exact ⟨fun _ => rfl, fun _ => rfl⟩
  | cons c rest =>
    refine ⟨fun h => absurd h ?_, fun h => nomatch h⟩
    exact hstays rest c

theorem best?_append_singleton (cs : List Candidate) (c : Candidate) :
    best? (cs ++ [c]) = better (best? cs) c := by
  simp only [best?, List.foldl_append, List.foldl_cons, List.foldl_nil]

theorem foremost_of_best? (h : best? cs = some c) : Foremost cs c := by
  induction cs using List.reverseRecOn generalizing c with
  | nil => cases h
  | append_singleton cs d ih =>
    rw [best?_append_singleton] at h
    cases hbest : best? cs with
    | none =>
      obtain rfl := best?_eq_none_iff.1 hbest
      cases h
      exact ⟨[], [], rfl, List.forall_mem_nil _, List.forall_mem_nil _⟩
    | some b =>
      have hb := ih hbest
      rw [hbest, better] at h
      split at h
      · next hmore =>
        cases h
        refine ⟨cs, [], rfl, fun e he => ?_, List.forall_mem_nil _⟩
        exact UInt32.lt_of_le_of_lt (hb.le e he) hmore
      · next hmore =>
        cases h
        obtain ⟨before, after, rfl, hbefore, hafter⟩ := hb
        refine ⟨before, after ++ [d], by simp, hbefore, fun e he => ?_⟩
        rcases List.mem_append.1 he with he | he
        · exact hafter e he
        · rw [List.mem_singleton.1 he]
          exact UInt32.not_lt.1 hmore

theorem foldl_better_of_le {rest : List Candidate} (h : ∀ d ∈ rest, d.available ≤ c.available) :
    rest.foldl better (some c) = some c := by
  induction rest with
  | nil => rfl
  | cons d rest ih =>
    have hd : ¬ d.available > c.available := UInt32.not_lt.2 (h d List.mem_cons_self)
    rw [List.foldl_cons, better, if_neg hd]
    exact ih fun e he => h e (List.mem_cons_of_mem d he)

/-- The best candidate is the foremost one. -/
theorem best?_eq_some_iff : best? cs = some c ↔ Foremost cs c := by
  refine ⟨foremost_of_best?, ?_⟩
  rintro ⟨before, after, rfl, hbefore, hafter⟩
  have hreached : better (best? before) c = some c := by
    cases hbest : best? before with
    | none => rfl
    | some b => rw [better, if_pos (hbefore b (foremost_of_best? hbest).mem)]
  rw [best?, List.foldl_append, List.foldl_cons, ← best?, hreached]
  exact foldl_better_of_le hafter

theorem selectAmong_eq_ok_iff {id : AgentId} : selectAmong s agents = .ok id ↔
    ∃ c, Foremost (candidatesAmong s agents) c ∧ c.agentId = id := by
  unfold selectAmong
  cases hbest : best? (candidatesAmong s agents) with
  | none =>
    refine ⟨fun h => (nomatch h), ?_⟩
    rintro ⟨c, hc, -⟩
    rw [best?_eq_some_iff.2 hc] at hbest
    cases hbest
  | some c =>
    constructor
    · intro h
      exact ⟨c, best?_eq_some_iff.1 hbest, Except.ok.inj h⟩
    · rintro ⟨d, hd, rfl⟩
      rw [best?_eq_some_iff.2 hd] at hbest
      rw [Option.some.inj hbest]

theorem selectAmong_eq_error_iff :
    selectAmong s agents = .error .noAvailableAgent ↔ candidatesAmong s agents = [] := by
  rw [← best?_eq_none_iff]
  unfold selectAmong
  cases best? (candidatesAmong s agents) with
  | none => exact ⟨fun _ => rfl, fun _ => rfl⟩
  | some c => exact ⟨fun h => (nomatch h), fun h => (nomatch h)⟩

/-! ## Any order of the agents -/

section Listed

variable (hlinked : s.Linked) (hcounts : s.CountsFit) (hagents : agents.Perm s.listAgents)

include hlinked hcounts hagents

theorem candidatesAmong_listed : candidatesAmong s agents =
    (agents.filter fun a => s.hasCapacity a.id = .ok true).map (candidateOf s) :=
  candidatesAmong_eq (fun _ ha => hlinked.get?_of_listed (hagents.mem_iff.1 ha)) hcounts

theorem ids_candidatesAmong : (candidatesAmong s agents).map (·.agentId) =
    (agents.map (·.id)).filter fun id => s.hasCapacity id = .ok true := by
  rw [candidatesAmong_listed hlinked hcounts hagents, List.map_map, List.filter_map]
  rfl

/-- An agent that has capacity is a candidate once, any other is none. -/
theorem count_candidatesAmong (id : AgentId) :
    ((candidatesAmong s agents).map (·.agentId)).count id =
      if s.hasCapacity id = .ok true then 1 else 0 := by
  have hnodup : (agents.map (·.id)).Nodup :=
    (hagents.map _).nodup_iff.2
      (List.pairwise_map.2 (hlinked.agents_ascending.imp String.ne_of_lt))
  rw [ids_candidatesAmong hlinked hcounts hagents, (hnodup.filter _).count]
  refine if_congr ?_ rfl rfl
  rw [List.mem_filter, decide_eq_true_iff]
  refine and_iff_right_of_imp fun hcapacity => ?_
  obtain ⟨a, ha, -⟩ := Store.hasCapacity_eq_true_iff.1 hcapacity
  have hid : a.id = id := hlinked.agents_filed id a ha
  have hmem : a ∈ s.listAgents := hlinked.agents_filed.mem_values.2 (hid ▸ ha)
  exact hid ▸ List.mem_map_of_mem (hagents.mem_iff.2 hmem)

theorem available_add_occupants (hc : c ∈ candidatesAmong s agents) :
    ∃ a, s.agents.get? c.agentId = some a ∧
      c.available.toNat + (s.occupants c.agentId).length = a.capacity.maxRunners.toNat := by
  rw [candidatesAmong_listed hlinked hcounts hagents] at hc
  obtain ⟨a, ha, rfl⟩ := List.mem_map.1 hc
  obtain ⟨hmem, hcapacity⟩ := List.mem_filter.1 ha
  have hagent := hlinked.get?_of_listed (hagents.mem_iff.1 hmem)
  obtain ⟨b, hb, -, hroom⟩ := Store.hasCapacity_eq_true_iff.1 (of_decide_eq_true hcapacity)
  obtain rfl := Option.some.inj (hagent.symm.trans hb)
  refine ⟨a, hagent, ?_⟩
  rw [available_candidateOf, Store.freeSlots, candidateOf, ← hlinked.activeCount_eq]
  exact Nat.sub_add_cancel (Nat.le_of_lt hroom)

/-- There is no candidate exactly if every online agent is full. -/
theorem candidatesAmong_eq_nil_iff : candidatesAmong s agents = [] ↔
    ∀ a ∈ s.onlineAgents, a.capacity.maxRunners.toNat ≤ (s.occupants a.id).length := by
  have hempty : candidatesAmong s agents = [] ↔
      ∀ a ∈ agents, ¬ s.hasCapacity a.id = .ok true := by
    rw [candidatesAmong_listed hlinked hcounts hagents, List.map_eq_nil_iff,
      List.filter_eq_nil_iff]
    simp only [decide_eq_true_iff]
  rw [hempty]
  constructor
  · intro hnone a ha
    obtain ⟨hmem, honline⟩ := Store.mem_onlineAgents.1 ha
    have hno := hnone a (hagents.mem_iff.2 hmem)
    rw [← hlinked.activeCount_eq]
    by_contra hroom
    exact hno (Store.hasCapacity_eq_true_iff.2
      ⟨a, hlinked.get?_of_listed hmem, honline, Nat.lt_of_not_le hroom⟩)
  · intro hfull a ha hcapacity
    have hmem := hagents.mem_iff.1 ha
    obtain ⟨b, hb, honline, hroom⟩ := Store.hasCapacity_eq_true_iff.1 hcapacity
    obtain rfl := Option.some.inj ((hlinked.get?_of_listed hmem).symm.trans hb)
    have hle := hfull a (Store.mem_onlineAgents.2 ⟨hmem, honline⟩)
    rw [← hlinked.activeCount_eq] at hle
    exact absurd hroom (Nat.not_lt.2 hle)

end Listed

/-- Whatever order the store's agents are tried in, the candidates come in it; each agent that has
capacity is one of them once, with the slots that its runners leave free, and no other agent is.
The first candidate with the most free slots is chosen, and none if and only if no online agent has
a free slot. -/
theorem selects_by_capacity (es : List Store.Edit) (agents : List Agent)
    (hreports : ∀ e ∈ es, e.reported.length < UInt32.size)
    (hagents : agents.Perm (Store.edited es).listAgents) :
    let s := Store.edited es
    let cs := candidatesAmong s agents
    cs.map (·.agentId) = (agents.map (·.id)).filter (fun id => s.hasCapacity id = .ok true) ∧
      (∀ id, (cs.map (·.agentId)).count id = if s.hasCapacity id = .ok true then 1 else 0) ∧
      (∀ c ∈ cs, ∃ agent, s.agents.get? c.agentId = some agent ∧
        c.available.toNat + (s.occupants c.agentId).length = agent.capacity.maxRunners.toNat) ∧
      (∀ id, selectAmong s agents = .ok id ↔ ∃ c, Foremost cs c ∧ c.agentId = id) ∧
      (selectAmong s agents = .error .noAvailableAgent ↔
        ∀ agent ∈ s.onlineAgents,
          agent.capacity.maxRunners.toNat ≤ (s.occupants agent.id).length) := by
  intro s cs
  have hlinked : s.Linked := Store.linked_edited es
  have hcounts : s.CountsFit := Store.countsFit_edited hreports
  refine ⟨ids_candidatesAmong hlinked hcounts hagents,
    count_candidatesAmong hlinked hcounts hagents, fun c hc => ?_,
    fun id => selectAmong_eq_ok_iff, ?_⟩
  · exact available_add_occupants hlinked hcounts hagents hc
  · exact selectAmong_eq_error_iff.trans (candidatesAmong_eq_nil_iff hlinked hcounts hagents)

/-- One agent with more runners than slots, a full one, one that is offline, one without slots, and
three with room. -/
def crowd : List Store.Edit :=
  let agent (id : AgentId) (slots : UInt32) (status : AgentStatus) : Store.Edit :=
    .registerAgent ⟨id, id, ⟨slots, 4, 8⟩, status⟩
  let runner (id : RunnerId) (state : RunnerState) : Runner :=
    { Runner.accepted id "ci" "" "" 0 with state }
  [agent "a1" 1 .online, agent "a2" 1 .online, agent "a3" 4 .offline, agent "a4" 0 .online,
    agent "a5" 3 .online, agent "a6" 2 .online, agent "a7" 1 .online,
    .report "a1" [runner "r1" .running, runner "r2" .booting],
    .report "a2" [runner "r3" .unspecified],
    .report "a5" [runner "r4" .running, runner "r5" .error, runner "r6" .tearingDown]]

/-- Of two agents with as many free slots the one that is tried first is chosen. -/
theorem selects_by_capacity_tie :
    let s := Store.edited crowd
    let agents := s.listAgents.reverse
    (∀ e ∈ crowd, e.reported.length < UInt32.size) ∧ agents.Perm s.listAgents ∧
      ((candidatesAmong s agents).map (·.agentId)).count "a1" = 0 ∧
      selectAmong s agents = .ok "a6" := by
  intro s agents
  have hreports : ∀ e ∈ crowd, e.reported.length < UInt32.size := by decide
  have hagents : agents.Perm s.listAgents := List.reverse_perm _
  obtain ⟨-, hcount, -, hselect, -⟩ := selects_by_capacity crowd agents hreports hagents
  refine ⟨hreports, hagents, ?_, (hselect "a6").2 ⟨⟨"a6", 2⟩, ⟨[⟨"a7", 1⟩], [⟨"a5", 2⟩], ?_⟩, rfl⟩⟩
  · have hfull : ¬ s.hasCapacity "a1" = .ok true := by decide +kernel
    rw [hcount, if_neg hfull]
  · refine ⟨?_, ?_, ?_⟩
    · decide +kernel
    · decide
    · decide

end Placement

end RunnerFleet

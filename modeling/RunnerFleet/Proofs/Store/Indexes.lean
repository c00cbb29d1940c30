import Mathlib.Data.List.Nodup
import Mathlib.Data.List.Perm.Basic
import RunnerFleet.Proofs.Store.Reports

/-!
# The store's tables agree

`Store.Linked` says what makes the tables of a store one thing: records are filed under their own
ids, the runners and the attributions have the same keys, and an attribution names a registered
agent. Every change keeps it (`Linked.edit`), so it holds of every store that changes lead to. Then
the runners of one agent are a part of all runners (`Linked.runnersOf_eq_filter`), and the parts of
the registered agents together are all of them, each once (`indexes_agree`).
-/

namespace RunnerFleet

/-! ## Ordered lists -/

/-- A list that ascends by a key is known from its members. -/
theorem eq_of_ascending {α : Type} (key : α → String) {l m : List α}
    (hl : l.Pairwise (key · < key ·)) (hm : m.Pairwise (key · < key ·))
    (h : ∀ x, x ∈ l ↔ x ∈ m) : l = m := by
  have hnodup : ∀ {n : List α}, n.Pairwise (key · < key ·) → n.Nodup := fun hn =>
    hn.imp fun hlt => ne_of_apply_ne key (String.ne_of_lt hlt)
  refine List.Perm.eq_of_pairwise (fun x y _ _ hxy hyx => ?_) hl hm
    ((List.perm_ext_iff_of_nodup (hnodup hl) (hnodup hm)).2 h)
  exact absurd hyx (String.lt_asymm hxy)

/-- Sorting items by where they belong, to one of several places each, keeps every item. -/
theorem perm_flatMap_filter {α β : Type} [DecidableEq β] {places : List β} {items : List α}
    {place : α → Option β} (hplaces : places.Nodup)
    (h : ∀ x ∈ items, ∃ p ∈ places, place x = some p) :
    (places.flatMap fun p => items.filter fun x => place x == some p).Perm items := by
  induction items with
  | nil => simp
  | cons x rest ih =>
    obtain ⟨p, hp, hx⟩ := h x List.mem_cons_self
    have hrest := ih fun y hy => h y (List.mem_cons_of_mem x hy)
    obtain ⟨before, after, rfl⟩ := List.append_of_mem hp
    have hne : ∀ q ∈ before ++ after, (place x == some q) = false := by
      intro q hq
      have hnodup := List.nodup_middle.1 hplaces
      rw [hx, beq_eq_false_iff_ne]
      rintro heq
      obtain rfl := Option.some.inj heq
      exact (List.nodup_cons.1 hnodup).1 hq
    -- only the place of `x` gains it
    have hsame : ∀ l : List β, (∀ q ∈ l, q ∈ before ++ after) →
        (l.flatMap fun q => (x :: rest).filter fun y => place y == some q) =
          l.flatMap fun q => rest.filter fun y => place y == some q := by
      intro l hl
      refine List.flatMap_congr fun q hq => ?_
      rw [List.filter_cons, hne q (hl q hq), if_neg Bool.false_ne_true]
    have hbefore := hsame before fun q hq => List.mem_append_left after hq
    have hafter := hsame after fun q hq => List.mem_append_right before hq
    rw [List.flatMap_append, List.flatMap_cons] at hrest ⊢
    rw [hbefore, hafter, List.filter_cons, hx, beq_self_eq_true, if_pos rfl, List.cons_append]
    exact List.perm_middle.trans (hrest.cons x)

/-! ## Tables of records that know their keys -/

namespace Table

variable {α β : Type} {name : α → String} {t : Table α}

/-- Every record is stored under the name that it has itself. -/
def Filed (name : α → String) (t : Table α) : Prop := ∀ k v, t.get? k = some v → name v = k

theorem Filed.empty : (Table.empty : Table α).Filed name := nofun

theorem Filed.insert (h : t.Filed name) {k : String} {v : α} (hv : name v = k) :
    (t.insert k v).Filed name := by
  intro j w hw
  rw [get?_insert] at hw
  split at hw
  · next hj =>
    cases hw
    exact hv.trans hj.symm
  · exact h j w hw

theorem Filed.of_get? {t' : Table α} (h : t.Filed name)
    (hsub : ∀ k v, t'.get? k = some v → t.get? k = some v) : t'.Filed name :=
  fun k v hv => h k v (hsub k v hv)

theorem Filed.map_values (h : t.Filed name) : t.values.map name = t.keys := by
  rw [values, List.map_map, keys]
  exact List.map_congr_left fun e he => h e.1 e.2 (mem_entries.1 he)

theorem Filed.values_ascending (h : t.Filed name) : t.values.Pairwise (name · < name ·) := by
  have hkeys := t.keys_ascending
  rw [← h.map_values] at hkeys
  exact List.pairwise_map.1 hkeys

theorem Filed.mem_values (h : t.Filed name) {v : α} :
    v ∈ t.values ↔ t.get? (name v) = some v := by
  constructor
  · intro hv
    obtain ⟨⟨k, w⟩, he, rfl⟩ := List.mem_map.1 hv
    have hw := mem_entries.1 he
    rw [h k w hw]
    exact hw
  · intro hv
    exact List.mem_map.2 ⟨(name v, v), mem_entries.2 hv, rfl⟩

theorem keys_eq_of_contains {u : Table β} (h : ∀ k, t.contains k = u.contains k) :
    t.keys = u.keys := by
  refine eq_of_ascending id t.keys_ascending u.keys_ascending fun k => ?_
  rw [mem_keys, mem_keys, h k]

end Table

namespace Store

variable {s s' : Store}

/-! ## Changes of the store -/

/-- One change of the store. -/
inductive Edit where
  | registerAgent (agent : Agent)
  | setAgentStatus (id : AgentId) (status : AgentStatus)
  | report (agent : AgentId) (reported : List Runner)
  | registerCloudId (id : CloudId) (runner : RunnerId)
  | forgetCloudId (id : CloudId)
  | deleteRunner (id : RunnerId)
  deriving DecidableEq, Repr

/-- The store that a change leaves, whatever its answer is. -/
def edit (s : Store) : Edit → Store
  | .registerAgent agent => s.registerAgent agent
  | .setAgentStatus id status => (s.setAgentStatus id status).1
  | .report agent reported => (s.report agent reported).1
  | .registerCloudId id runner => s.registerCloudId id runner
  | .forgetCloudId id => (s.forgetCloudId id).1
  | .deleteRunner id => (s.deleteRunner id).1

/-- The store that some changes lead to. -/
def edited (es : List Edit) : Store := es.foldl edit empty

theorem edited_append_singleton (es : List Edit) (e : Edit) :
    edited (es ++ [e]) = (edited es).edit e := by
  simp only [edited, List.foldl_append, List.foldl_cons, List.foldl_nil]

theorem setAgentStatus_eq_ok_iff {id : AgentId} {status : AgentStatus} :
    s.setAgentStatus id status = (s', .ok ()) ↔ ∃ agent, s.agents.get? id = some agent ∧
      s' = { s with agents := s.agents.insert id { agent with status } } := by
  unfold setAgentStatus
  split
  · next agent h => simp [h, eq_comm]
  · next h => simp [h]

/-- A status is set, or the agent is not registered and the store stays as it is. -/
theorem setAgentStatus_cases (s : Store) (id : AgentId) (status : AgentStatus) :
    (∃ s', s.setAgentStatus id status = (s', .ok ())) ∨
      s.agents.get? id = none ∧ s.setAgentStatus id status = (s, .error (.agentNotFound id)) := by
  cases h : s.agents.get? id with
  | some agent => exact .inl ⟨_, setAgentStatus_eq_ok_iff.2 ⟨agent, h, rfl⟩⟩
  | none => exact .inr ⟨rfl, by rw [setAgentStatus, h]⟩

/-! ## What every change keeps -/

/-- The tables agree with one another. -/
structure Linked (s : Store) : Prop where
  agents_filed : s.agents.Filed Agent.id
  runners_filed : s.runners.Filed Runner.id
  same_keys : ∀ k, s.runners.contains k = s.owners.contains k
  owner_known : ∀ k agent, s.owners.get? k = some agent → s.agents.contains agent = true

namespace Linked

theorem empty : Store.empty.Linked := ⟨.empty, .empty, fun _ => rfl, nofun⟩

theorem registerAgent (h : s.Linked) (agent : Agent) : (s.registerAgent agent).Linked := by
  refine ⟨h.agents_filed.insert rfl, h.runners_filed, h.same_keys, fun k owner hk => ?_⟩
  obtain ⟨a, ha⟩ := Table.contains_iff.1 (h.owner_known k owner hk)
  rw [Table.contains_iff, Store.registerAgent, Table.get?_insert]
  split
  · exact ⟨agent, rfl⟩
  · exact ⟨a, ha⟩

theorem setAgentStatus (h : s.Linked) {id : AgentId} {status : AgentStatus}
    (hs : s.setAgentStatus id status = (s', .ok ())) : s'.Linked := by
  obtain ⟨agent, hagent, rfl⟩ := setAgentStatus_eq_ok_iff.1 hs
  refine ⟨h.agents_filed.insert (h.agents_filed id agent hagent), h.runners_filed, h.same_keys,
    fun k owner hk => ?_⟩
  obtain ⟨a, ha⟩ := Table.contains_iff.1 (h.owner_known k owner hk)
  rw [Table.contains_iff, Table.get?_insert]
  split
  · exact ⟨_, rfl⟩
  · exact ⟨a, ha⟩

theorem report (h : s.Linked) {agent : AgentId} {reported : List Runner}
    (hs : s.report agent reported = (s', .ok ())) : s'.Linked := by
  have hagents := agents_report hs
  refine ⟨?_, ?_, ?_, ?_⟩
  · rw [hagents]
    exact h.agents_filed
  · intro k runner hk
    rw [get?_runners_report hs, Option.or_eq_some_iff] at hk
    rcases hk with hreported | ⟨-, hkept⟩
    · simpa using List.find?_some hreported
    · split at hkept
      · cases hkept
      · exact h.runners_filed k runner hkept
  · intro k
    have hsame := h.same_keys k
    have hfind : (reported.reverse.find? (·.id == k)).isSome = reported.any (·.id == k) := by
      rw [Bool.eq_iff_iff, List.find?_isSome, List.any_eq_true]
      simp only [List.mem_reverse]
    simp only [Table.contains] at hsame ⊢
    rw [get?_runners_report hs, get?_owners_report hs, Option.isSome_or, hfind]
    cases reported.any (·.id == k) with
    | true => rfl
    | false =>
      rw [if_neg Bool.false_ne_true, Bool.false_or]
      split
      · rfl
      · exact hsame
  · intro k owner hk
    rw [hagents]
    rw [get?_owners_report hs] at hk
    split at hk
    · cases hk
      exact (report_eq_ok_iff.1 hs).1
    · split at hk
      · cases hk
      · exact h.owner_known k owner hk

theorem dropRunner (h : s.Linked) (id : RunnerId) : (s.dropRunner id).Linked := by
  have hsub : ∀ {α : Type} {t : Table α} {k : RunnerId} {v : α},
      (t.erase id).get? k = some v → t.get? k = some v := by
    intro α t k v hk
    rw [Table.get?_erase] at hk
    split at hk
    · cases hk
    · exact hk
  refine ⟨h.agents_filed, h.runners_filed.of_get? fun k v => hsub, fun k => ?_,
    fun k owner hk => h.owner_known k owner (hsub hk)⟩
  have hsame := h.same_keys k
  simp only [Table.contains, Store.dropRunner, Table.get?_erase] at hsame ⊢
  split
  · rfl
  · exact hsame

theorem edit (h : s.Linked) (e : Edit) : (s.edit e).Linked := by
  cases e with
  | registerAgent agent => exact h.registerAgent agent
  | setAgentStatus id status =>
    rcases s.setAgentStatus_cases id status with ⟨s', hs⟩ | ⟨-, hs⟩ <;> rw [Store.edit, hs]
    · exact h.setAgentStatus hs
    · exact h
  | report agent reported =>
    rcases s.report_cases agent reported with ⟨s', hs⟩ | ⟨-, hs⟩ <;> rw [Store.edit, hs]
    · exact h.report hs
    · exact h
  | registerCloudId id runner => exact ⟨h.1, h.2, h.3, h.4⟩
  | forgetCloudId id => exact ⟨h.1, h.2, h.3, h.4⟩
  | deleteRunner id => exact h.dropRunner id

/-! ## Listing -/

theorem keys_eq (h : s.Linked) : s.runners.keys = s.owners.keys :=
  Table.keys_eq_of_contains h.same_keys

theorem runners_ascending (h : s.Linked) : s.listRunners.Pairwise (·.id < ·.id) :=
  h.runners_filed.values_ascending

/-- The runners of an agent are those of all runners that are attributed to it. -/
theorem runnersOf_eq_filter (h : s.Linked) (agent : AgentId) :
    s.runnersOf agent =
      s.listRunners.filter fun runner => s.owners.get? runner.id == some agent := by
  have howned : (s.owners.filter fun _ a => a == agent).keys =
      s.runners.keys.filter fun k => s.owners.get? k == some agent := by
    refine eq_of_ascending id (Table.keys_ascending _)
      (s.runners.keys_ascending.sublist List.filter_sublist) fun k => ?_
    rw [Table.mem_keys, List.mem_filter, Table.mem_keys, h.same_keys k, Table.contains,
      Table.contains, Table.get?_filter]
    cases s.owners.get? k <;> simp [Option.filter]
  have hget : ∀ runner ∈ s.listRunners.filter fun r => s.owners.get? r.id == some agent,
      s.runners.get? runner.id = some runner := fun runner hr =>
    h.runners_filed.mem_values.1 (List.mem_filter.1 hr).1
  rw [runnersOf, howned, ← h.runners_filed.map_values, List.filter_map, List.filterMap_map]
  exact (List.filterMap_congr hget).trans List.filterMap_some

theorem mem_runnersOf (h : s.Linked) {agent : AgentId} {runner : Runner} :
    runner ∈ s.runnersOf agent ↔
      s.runners.get? runner.id = some runner ∧ s.owners.get? runner.id = some agent := by
  rw [h.runnersOf_eq_filter, List.mem_filter, listRunners, h.runners_filed.mem_values, beq_iff_eq]

theorem runnersOf_ascending (h : s.Linked) (agent : AgentId) :
    (s.runnersOf agent).Pairwise (·.id < ·.id) := by
  rw [h.runnersOf_eq_filter]
  exact h.runners_ascending.sublist List.filter_sublist

theorem runnersOf_disjoint (h : s.Linked) {a b : AgentId} (hab : a ≠ b) :
    (s.runnersOf a).Disjoint (s.runnersOf b) := by
  intro runner ha hb
  have howner := (h.mem_runnersOf.1 ha).2.symm.trans (h.mem_runnersOf.1 hb).2
  exact hab (Option.some.inj howner)

theorem agents_ascending (h : s.Linked) : s.listAgents.Pairwise (·.id < ·.id) :=
  h.agents_filed.values_ascending

/-- The runners of the registered agents are all runners, each once. -/
theorem perm_listRunners (h : s.Linked) :
    (s.listAgents.flatMap fun agent => s.runnersOf agent.id).Perm s.listRunners := by
  have hagents : s.listAgents.map Agent.id = s.agents.keys := h.agents_filed.map_values
  have hnodup : s.agents.keys.Nodup :=
    s.agents.keys_ascending.imp String.ne_of_lt
  have hplaced : ∀ runner ∈ s.listRunners,
      ∃ agent ∈ s.agents.keys, s.owners.get? runner.id = some agent := by
    intro runner hr
    have hrunner : s.runners.contains runner.id = true :=
      Table.contains_iff.2 ⟨runner, h.runners_filed.mem_values.1 hr⟩
    rw [h.same_keys] at hrunner
    obtain ⟨agent, hagent⟩ := Table.contains_iff.1 hrunner
    exact ⟨agent, Table.mem_keys.2 (h.owner_known _ _ hagent), hagent⟩
  have hperm := perm_flatMap_filter hnodup hplaced
  rw [← hagents, List.flatMap_map] at hperm
  simpa only [h.runnersOf_eq_filter] using hperm

end Linked

theorem linked_edited (es : List Edit) : (edited es).Linked := by
  induction es using List.reverseRecOn with
  | nil => exact .empty
  | append_singleton es e ih =>
    rw [edited_append_singleton]
    exact ih.edit e

/-- After any changes the runners and the attributions have the same keys, every runner is stored
under its own id, and every attribution names a registered agent; listing all runners is listing
those of each registered agent, which have none in common, and every list ascends by id. -/
theorem indexes_agree (es : List Edit) :
    (edited es).runners.keys = (edited es).owners.keys ∧
      (∀ id runner, (edited es).runners.get? id = some runner → runner.id = id) ∧
      (∀ id agent, (edited es).owners.get? id = some agent →
        ∃ a ∈ (edited es).listAgents, a.id = agent) ∧
      ((edited es).listAgents.flatMap fun a => (edited es).runnersOf a.id).Perm
        (edited es).listRunners ∧
      (∀ a b, a ≠ b → ((edited es).runnersOf a).Disjoint ((edited es).runnersOf b)) ∧
      (edited es).listAgents.Pairwise (·.id < ·.id) ∧
      (edited es).listRunners.Pairwise (·.id < ·.id) ∧
      ∀ a, ((edited es).runnersOf a).Pairwise (·.id < ·.id) := by
  have h := linked_edited es
  refine ⟨h.keys_eq, h.runners_filed, fun id agent hid => ?_, h.perm_listRunners,
    fun a b hab => h.runnersOf_disjoint hab, h.agents_ascending, h.runners_ascending,
    h.runnersOf_ascending⟩
  obtain ⟨a, ha⟩ := Table.contains_iff.1 (h.owner_known id agent hid)
  have hname := h.agents_filed agent a ha
  exact ⟨a, h.agents_filed.mem_values.2 (hname ▸ ha), hname⟩

end Store

end RunnerFleet

import RunnerFleet.Proofs.Metrics.SlotSums
import RunnerFleet.Proofs.Store.Indexes

/-!
# The gauges count every runner and every agent once

The load of an agent is counted among the runners that are listed for it, the states are counted
over all runners. Since each runner is listed for exactly one registered agent, the two counts fit
together: the loads make up all runners but the failed ones and those that are torn down
(`Store.Linked.sum_activeCount`), and these have entries of their own
(`Gauges.accounts_for_every_runner`).
-/

namespace RunnerFleet

/-! ## Runners -/

namespace Store

variable {s : Store}

/-- The active runners of all registered agents are the active ones of all runners. -/
theorem Linked.sum_activeCount (h : s.Linked) :
    (s.listAgents.map fun a => s.activeCount a.id).sum =
      s.listRunners.countP (·.state.occupiesSlot) := by
  rw [← h.perm_listRunners.countP_eq, List.countP_flatMap]
  rfl

theorem Linked.count_listAgents (h : s.Linked) (id : AgentId) :
    (s.listAgents.map (·.id)).count id = if s.agents.contains id then 1 else 0 := by
  have hkeys : s.listAgents.map (·.id) = s.agents.keys := h.agents_filed.map_values
  have hnodup : s.agents.keys.Nodup := s.agents.keys_ascending.imp String.ne_of_lt
  rw [hkeys, hnodup.count]
  exact if_congr Table.mem_keys rfl rfl

end Store

/-- A runner that does not occupy a slot has failed or is torn down. -/
theorem countP_states (runners : List Runner) :
    runners.countP (·.state.occupiesSlot) + runners.countP (·.state == .error) +
      runners.countP (·.state == .tearingDown) = runners.length := by
  induction runners with
  | nil => rfl
  | cons r rest ih =>
    simp only [List.countP_cons, List.length_cons, ← ih]
    cases r.state <;> simp [RunnerState.occupiesSlot] <;> omega

/-! ## Entries -/

namespace Gauges

theorem lookup_runnersByState (s : Store) (t : SlotTotals) {state : RunnerState}
    (hstate : state ≠ .unspecified) :
    (ofTotals s t).runnersByState.lookup state =
      some (s.listRunners.countP (·.state == state)) := by
  cases state with
  | unspecified => exact absurd rfl hstate
  | _ => rfl

theorem lookup_agentsByStatus (s : Store) (t : SlotTotals) {status : AgentStatus}
    (hstatus : status ≠ .unspecified) :
    (ofTotals s t).agentsByStatus.lookup status =
      some (s.listAgents.countP (·.status == status)) := by
  cases status with
  | unspecified => exact absurd rfl hstatus
  | _ => rfl

/-- The loads of the listed agents, the failed runners and those that are torn down are all runners;
each registered agent is listed once and no other; and the failed runners and the online agents
are as many as their entries say. -/
theorem accounts_for_every_runner (es : List Store.Edit) (hfit : (Store.edited es).SlotsFit) :
    let s := Store.edited es
    ∃ g errors tearingDown online, ofStore? s = some g ∧
      g.runnersByState.lookup .error = some errors ∧
      g.runnersByState.lookup .tearingDown = some tearingDown ∧
      g.agentsByStatus.lookup .online = some online ∧
      (g.agents.map (·.currentRunners)).sum + errors + tearingDown = s.listRunners.length ∧
      g.runnerErrors = errors ∧
      (∀ id, (g.agents.map (·.agentId)).count id = if s.agents.contains id then 1 else 0) ∧
      g.agentsOnline = online ∧ g.agentsOnline = s.onlineAgents.length := by
  intro s
  have hlinked : s.Linked := Store.linked_edited es
  have hloads : ((ofTotals s (totalsOf s)).agents.map (·.currentRunners)).sum =
      s.listRunners.countP (·.state.occupiesSlot) := by
    rw [← hlinked.sum_activeCount, ofTotals, List.map_map]
    rfl
  have honline : s.onlineAgents.length = s.listAgents.countP (·.status == .online) :=
    List.countP_eq_length_filter.symm
  refine ⟨ofTotals s (totalsOf s), _, _, _, (ofStore?_eq s).trans (if_pos hfit),
    lookup_runnersByState s _ (by decide), lookup_runnersByState s _ (by decide),
    lookup_agentsByStatus s _ (by decide), ?_, rfl, fun id => ?_, honline, rfl⟩
  · rw [hloads]
    exact countP_states s.listRunners
  · rw [← hlinked.count_listAgents, ofTotals, List.map_map]
    rfl

/-- An agent loses a runner to the next one and goes offline; its other runners are in the state
that has no entry, failed and torn down. -/
def mixed : List Store.Edit :=
  let runner (id : RunnerId) (state : RunnerState) : Runner :=
    { Runner.accepted id "ci" "" "" 0 with state }
  [.registerAgent ⟨"a1", "mini-1", ⟨4, 4, 8⟩, .online⟩,
    .registerAgent ⟨"a2", "mini-2", ⟨2, 4, 8⟩, .online⟩,
    .report "a1" [runner "r1" .unspecified, runner "r2" .error, runner "r3" .tearingDown,
      runner "r4" .running],
    .report "a2" [runner "r4" .error],
    .setAgentStatus "a1" .offline]

theorem accounts_for_every_runner_mixed :
    (Store.edited mixed).SlotsFit ∧ ∃ g, ofStore? (Store.edited mixed) = some g ∧
      (g.agents.map (·.currentRunners)).sum + 2 + 1 = 4 ∧ g.agentsOnline = 1 := by
  have hfit : (Store.edited mixed).SlotsFit := by decide +kernel
  obtain ⟨g, errors, tearingDown, online, hg, herrors, htearingDown, -, hsum, -, -, -, honline⟩ :=
    accounts_for_every_runner mixed hfit
  have hread : (ofStore? (Store.edited mixed)).map (fun g =>
      (g.runnersByState.lookup .error, g.runnersByState.lookup .tearingDown)) =
      some (some 2, some 1) := by
    decide +kernel
  have hrunners : (Store.edited mixed).listRunners.length = 4 := by decide +kernel
  have hagents : (Store.edited mixed).onlineAgents.length = 1 := by decide +kernel
  rw [hg, Option.map_some, herrors, htearingDown] at hread
  cases hread
  exact ⟨hfit, g, hg, hsum.trans hrunners, honline.trans hagents⟩

end Gauges

end RunnerFleet

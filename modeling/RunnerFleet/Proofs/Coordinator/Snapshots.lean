import RunnerFleet.Proofs.Coordinator.Streams
import RunnerFleet.Proofs.Hosting.Records
import RunnerFleet.Proofs.Store.Indexes

/-!
# A snapshot makes the coordinator agree with the agent

A roster lists its runners in the order of their ids (`Roster.filed_edited`), and so does the store
those of one agent. A report that ascends by id is therefore what the store lists afterwards,
whatever it held before (`Store.Linked.runnersOf_report`). On the way there a runner becomes a
record and a runner again, which loses its setup script and nothing else (`toRunner_snapshot`).
-/

namespace RunnerFleet

/-! ## Changes of a roster -/

namespace Roster

variable {r : Roster} {id : RunnerId}

/-- One change of a roster. -/
inductive Edit where
  | create (runner : Runner)
  | moveTo (id : RunnerId) (state : RunnerState)
  | setError (id : RunnerId) (message : String)
  | setAddress (id : RunnerId) (address : String)
  | setGuestState (id : RunnerId) (state : GuestState)
  | delete (id : RunnerId)
  | takeNotice
  deriving DecidableEq, Repr

/-- What a change leaves, and whether it is made. -/
def attempt (r : Roster) : Edit → Roster × Except RosterError Unit
  | .create runner => r.create runner
  | .moveTo id state => r.moveTo id state
  | .setError id message => r.setError id message
  | .setAddress id address => r.setAddress id address
  | .setGuestState id state => r.setGuestState id state
  | .delete id => ((r.delete id).1, (r.delete id).2.map fun _ => ())
  | .takeNotice => (r.takeNotice.1, .ok ())

/-- The roster that a change leaves, be it made or refused. -/
def edit (r : Roster) (e : Edit) : Roster := (r.attempt e).1

/-- The roster that some changes lead to. -/
def edited (es : List Edit) : Roster := es.foldl edit empty

theorem edited_append_singleton (es : List Edit) (e : Edit) :
    edited (es ++ [e]) = (edited es).edit e := by
  simp only [edited, List.foldl_append, List.foldl_cons, List.foldl_nil]

/-- A refused change leaves the roster as it is. -/
theorem edit_of_error {e : Edit} {error : RosterError} (h : (r.attempt e).2 = .error error) :
    r.edit e = r := by
  cases e with
  | create runner =>
    rcases r.create_cases runner with ⟨-, hcreate⟩ | ⟨-, hcreate⟩
    · rw [attempt, hcreate] at h
      cases h
    · exact congrArg Prod.fst hcreate
  | moveTo => exact moveTo_of_error h
  | setError | setAddress | setGuestState => exact update_of_error (fun _ hx => nomatch hx) h
  | delete id =>
    rcases r.delete_cases id with ⟨x, -, hdelete⟩ | ⟨-, hdelete⟩
    · rw [attempt, hdelete] at h
      cases h
    · exact congrArg Prod.fst hdelete
  | takeNotice => cases h

/-- A change that is made is noticed. -/
theorem notice_edit {e : Edit} (h : (r.attempt e).2 = .ok ()) (he : e ≠ .takeNotice) :
    (r.edit e).notice = true := by
  cases e with
  | create runner =>
    rcases r.create_cases runner with ⟨-, hcreate⟩ | ⟨-, hcreate⟩
    · exact congrArg (fun x => x.1.notice) hcreate
    · rw [attempt, hcreate] at h
      cases h
  | moveTo | setError | setAddress | setGuestState => exact notice_update h
  | delete id =>
    rcases r.delete_cases id with ⟨x, -, hdelete⟩ | ⟨-, hdelete⟩
    · exact congrArg (fun x => x.1.notice) hdelete
    · rw [attempt, hdelete] at h
      cases h
  | takeNotice => exact absurd rfl he

theorem filed_update {change : Runner → Runner × Except RosterError Unit}
    (hchange : ∀ x, (change x).1.id = x.id) (h : r.runners.Filed Runner.id) :
    (r.update id change).1.runners.Filed Runner.id := by
  intro k y hy
  rw [get?_update] at hy
  split at hy
  · next hk =>
    obtain ⟨x, hx, rfl⟩ := Option.map_eq_some_iff.1 hy
    exact (hchange x).trans ((h id x hx).trans hk.symm)
  · exact h k y hy

/-- A runner keeps its id and stays where it is stored. -/
theorem filed_edit (h : r.runners.Filed Runner.id) (e : Edit) :
    (r.edit e).runners.Filed Runner.id := by
  cases e with
  | create runner =>
    rcases r.create_cases runner with ⟨-, hcreate⟩ | ⟨-, hcreate⟩ <;> rw [edit, attempt, hcreate]
    · exact h.insert rfl
    · exact h
  | moveTo id state => exact filed_update (fun x => by split <;> rfl) h
  | setError | setAddress | setGuestState => exact filed_update (fun _ => rfl) h
  | delete id =>
    refine h.of_get? fun k v hk => ?_
    rw [edit, attempt, get?_delete] at hk
    split at hk
    · cases hk
    · exact hk
  | takeNotice => exact h

theorem filed_edited (es : List Edit) : (edited es).runners.Filed Runner.id := by
  induction es using List.reverseRecOn with
  | nil => exact .empty
  | append_singleton es e ih =>
    rw [edited_append_singleton]
    exact filed_edit ih e

end Roster

/-! ## There and back -/

namespace Wire

theorem stateOfCode_codeOfState (s : RunnerState) : stateOfCode (codeOfState s) = s := by
  cases s <;> rfl

theorem guestOfCode_codeOfGuest (g : GuestState) : guestOfCode (codeOfGuest g) = g := by
  cases g <;> rfl

/-- What the coordinator reads in a snapshot is the roster's list, under the agent's present id and
without the setup scripts. -/
theorem toRunner_snapshot (r : Roster) (agent : AgentId) :
    (r.snapshot agent).runners.map (·.toRunner) =
      r.list.map fun x => { x with agentId := agent, setupScript := "" } := by
  simp only [Roster.snapshot, List.map_map]
  refine List.map_congr_left fun x _ => ?_
  simp only [Function.comp_apply, RunnerRecord.toRunner, RunnerRecord.ofRunner,
    stateOfCode_codeOfState, guestOfCode_codeOfGuest]

end Wire

/-! ## The store after a report -/

namespace Store

variable {s s' : Store} {agent : AgentId} {reported : List Runner}

/-- Among records with different ids the one with an id is found. -/
theorem find?_id_iff (hids : (reported.map Runner.id).Nodup) {k : RunnerId} {x : Runner} :
    reported.reverse.find? (·.id == k) = some x ↔ x ∈ reported ∧ x.id = k := by
  constructor
  · intro h
    exact ⟨List.mem_reverse.1 (List.mem_of_find?_eq_some h), by simpa using List.find?_some h⟩
  · rintro ⟨hx, rfl⟩
    cases hfind : reported.reverse.find? (·.id == x.id) with
    | some y =>
      have hy : y ∈ reported := List.mem_reverse.1 (List.mem_of_find?_eq_some hfind)
      have hid : y.id = x.id := by simpa using List.find?_some hfind
      rw [List.inj_on_of_nodup_map hids hy hx hid]
    | none =>
      have hnone := List.find?_eq_none.1 hfind x (List.mem_reverse.2 hx)
      exact absurd (beq_self_eq_true _) hnone

/-- After a report that ascends by id the agent's runners are the reported ones. -/
theorem Linked.runnersOf_report (h : s.Linked) (hs : s.report agent reported = (s', .ok ()))
    (hascending : reported.Pairwise (·.id < ·.id)) : s'.runnersOf agent = reported := by
  have hlinked := h.report hs
  have hids : (reported.map Runner.id).Nodup :=
    List.pairwise_map.2 (hascending.imp String.ne_of_lt)
  refine eq_of_ascending Runner.id (hlinked.runnersOf_ascending agent) hascending fun runner => ?_
  rw [hlinked.mem_runnersOf, get?_runners_report hs, get?_owners_report hs]
  constructor
  · rintro ⟨hrunner, howner⟩
    -- a runner that is not reported does not stay the agent's
    have hany : reported.any (·.id == runner.id) = true := by
      by_contra hno
      rw [if_neg hno] at howner
      split at howner
      · cases howner
      · next hother => exact hother howner
    obtain ⟨x, hx, hid⟩ := List.any_eq_true.1 hany
    rw [(find?_id_iff hids).2 ⟨hx, eq_of_beq hid⟩, Option.some_or] at hrunner
    exact Option.some.inj hrunner ▸ hx
  · intro hmem
    have hany : reported.any (·.id == runner.id) = true :=
      List.any_eq_true.2 ⟨runner, hmem, beq_self_eq_true _⟩
    refine ⟨?_, if_pos hany⟩
    rw [(find?_id_iff hids).2 ⟨hmem, rfl⟩, Option.some_or]

end Store

/-! ## The coordinator after a snapshot -/

namespace SyncStream

variable {c : Coordinator} {s : SyncStream} {agent : AgentId}

/-- Of a registered agent whose stream has brought a snapshot of its roster, the store lists what
the roster lists, in its order and equal in every field except that the agent's id is the present
one and the setup script is empty. What the store held before makes no difference, nor who had
reported the runners. -/
theorem runnersOf_onSnapshot (es : List Store.Edit) (rs : List Roster.Edit)
    (hstore : c.store = Store.edited es) (hregistered : c.store.agents.contains agent = true)
    (hbound : ∀ b, s.binding = some b → b.agentId = agent) :
    (s.onSnapshot c ((Roster.edited rs).snapshot agent)).1.store.runnersOf agent =
      (Roster.edited rs).list.map fun x => { x with agentId := agent, setupScript := "" } := by
  obtain ⟨a, ha⟩ := Table.contains_iff.1 hregistered
  have hlinked : c.store.Linked := hstore ▸ Store.linked_edited es
  rcases hbind : s.bind c ((Roster.edited rs).snapshot agent) with ⟨c', b⟩
  have hsame : c'.store = c.store :=
    (congrArg (fun x => x.1.store) hbind).symm.trans store_bind
  have hb : b.agentId = agent :=
    (congrArg (fun x => x.2.agentId) hbind).symm.trans (agentId_bind hbound rfl)
  -- marking the agent online succeeds, and so does the report
  obtain ⟨online, honline⟩ :
      ∃ online, c.store.setAgentStatus agent .online = (online, .ok ()) :=
    ⟨_, Store.setAgentStatus_eq_ok_iff.2 ⟨a, ha, rfl⟩⟩
  have hmarked := hlinked.setAgentStatus honline
  have hknown : online.agents.contains agent = true := by
    obtain ⟨x, -, rfl⟩ := Store.setAgentStatus_eq_ok_iff.1 honline
    rw [Table.contains, Table.get?_insert, if_pos rfl]
    rfl
  obtain ⟨store, hreport⟩ : ∃ store, online.report agent
      ((Roster.edited rs).list.map fun x => { x with agentId := agent, setupScript := "" }) =
        (store, .ok ()) :=
    ⟨_, Store.report_eq_ok_iff.2 ⟨hknown, rfl⟩⟩
  have hascending : ((Roster.edited rs).list.map fun x =>
      { x with agentId := agent, setupScript := "" }).Pairwise (·.id < ·.id) :=
    List.pairwise_map.2 (Roster.filed_edited rs).values_ascending
  have hrunners := hmarked.runnersOf_report hreport hascending
  simp only [onSnapshot, hbind, hb, hsame, honline, reconcile, Wire.toRunner_snapshot, hreport]
  split
  · exact hrunners
  · rw [runnersOf_finish]
    exact hrunners

/-- A runner that another agent had reported, and one that is new to the coordinator. -/
theorem runnersOf_onSnapshot_takeover :
    let es : List Store.Edit :=
      [.registerAgent ⟨"a", "mini-1", .none, .offline⟩,
        .registerAgent ⟨"b", "mini-2", .none, .online⟩,
        .report "b" [.accepted "r1" "old" "b" "" 3, .accepted "r0" "gone" "b" "" 3]]
    let rs : List Roster.Edit :=
      [.create (.accepted "r2" "two" "b" "make" 9), .create (.accepted "r1" "one" "b" "make" 8),
        .moveTo "r1" .creating, .moveTo "r2" .running, .setGuestState "r1" .idle,
        .setError "r2" "no guest"]
    let c := { Coordinator.initial with store := Store.edited es }
    c.store.runnersOf "a" = [] ∧
      (SyncStream.opened.onSnapshot c ((Roster.edited rs).snapshot "a")).1.store.runnersOf "a" =
        [⟨"r1", "one", "a", .creating, .idle, "", 8, "", ""⟩,
          ⟨"r2", "two", "a", .error, .unspecified, "", 9, "no guest", ""⟩] := by
  intro es rs c
  have hregistered : c.store.agents.contains "a" = true := by decide +kernel
  have h : (SyncStream.opened.onSnapshot c ((Roster.edited rs).snapshot "a")).1.store.runnersOf
      "a" = _ :=
    runnersOf_onSnapshot es rs rfl hregistered nofun
  refine ⟨by decide +kernel, ?_⟩
  rw [h]
  decide +kernel

end SyncStream

end RunnerFleet

import Mathlib.Data.List.Chain
import RunnerFleet.Proofs.Coordinator.Snapshots

/-!
# The life of a runner on its host

A change of a roster is refused for one of three reasons (`Roster.Refused`); then it leaves the
roster as it is, with its notice. A change that is made concerns one runner (`Roster.get?_edit`).
From its acceptance to its deletion a runner walks along the lifecycle table, except that a failure
takes it to `error` from anywhere. `error` and `tearingDown` lead only to each other, so a runner
that has been in either has given its slot back for good (`Roster.lives_walk`).
-/

namespace RunnerFleet

/-! ## The lifecycle table -/

namespace RunnerState

variable {s t : RunnerState}

/-- The table has the move, or it is a failure. -/
def Leads (s t : RunnerState) : Prop := t = .error ∨ t ∈ s.successors

instance (s t : RunnerState) : Decidable (s.Leads t) := inferInstanceAs (Decidable (_ ∨ _))

theorem canMoveTo_iff : s.canMoveTo t = true ↔ s.Leads t := by
  simp [canMoveTo, Leads]

/-- The runner has failed or is on its way out. -/
def Freed (s : RunnerState) : Prop := s = .error ∨ s = .tearingDown

theorem Freed.leads (h : s.Freed) (hmove : s.Leads t) : t.Freed := by
  rcases hmove with rfl | hmem
  · exact .inl rfl
  · rcases h with rfl | rfl
    · exact .inr (List.mem_singleton.1 hmem)
    · cases hmem

theorem Freed.occupiesSlot (h : s.Freed) : s.occupiesSlot = false := by
  rcases h with rfl | rfl <;> rfl

theorem Freed.isReady (h : s.Freed) : s.isReady = false := by
  rcases h with rfl | rfl <;> rfl

/-- Whatever follows a freed state on a walk is freed. -/
theorem Freed.along {before after : List RunnerState}
    (hwalk : (before ++ s :: after).IsChain Leads) (h : s.Freed) : ∀ t ∈ after, t.Freed := by
  have hrest : (s :: after).IsChain Leads := (List.isChain_append.1 hwalk).2.1
  exact hrest.cons_induction Freed after (fun _ _ hmove hfreed => hfreed.leads hmove) h

end RunnerState

namespace Roster

variable {r r' : Roster} {k : RunnerId} {e : Edit} {error : RosterError}

/-! ## Refused changes -/

/-- The runner that a change is of. -/
def Edit.subject? : Edit → Option RunnerId
  | .create runner => some runner.id
  | .moveTo id _ | .setError id _ | .setAddress id _ | .setGuestState id _ | .delete id => some id
  | .takeNotice => none

/-- Why a change is refused: a new runner's id is taken, there is no such runner, or the table does
not have the move. -/
inductive Refused (r : Roster) : Edit → RosterError → Prop
  | taken (runner : Runner) (h : r.runners.contains runner.id = true) :
      Refused r (.create runner) (.alreadyExists runner.id)
  | unknown (e : Edit) (id : RunnerId) (hnew : ∀ runner, e ≠ .create runner)
      (hsubject : e.subject? = some id) (h : r.runners.contains id = false) :
      Refused r e (.notFound id)
  | illegal (id : RunnerId) (x : Runner) (state : RunnerState) (h : r.runners.get? id = some x)
      (hmove : ¬ x.state.Leads state) :
      Refused r (.moveTo id state) (.illegalMove ⟨x.state, state⟩)

/-- A change that cannot fail by itself is refused only when there is no such runner. -/
theorem update_ok_eq_error_iff {id : RunnerId} {change : Runner → Runner} :
    (r.update id fun x => (change x, .ok ())).2 = .error error ↔
      r.runners.contains id = false ∧ error = .notFound id := by
  simp [update_eq_error_iff, Table.contains_eq_false_iff]

theorem moveTo_eq_error_iff {id : RunnerId} {state : RunnerState} :
    (r.moveTo id state).2 = .error error ↔
      r.runners.contains id = false ∧ error = .notFound id ∨
        ∃ x, r.runners.get? id = some x ∧ ¬ x.state.Leads state ∧
          error = .illegalMove ⟨x.state, state⟩ := by
  rw [moveTo, update_eq_error_iff, Table.contains_eq_false_iff]
  refine or_congr_right (exists_congr fun x => and_congr_right fun _ => ?_)
  rw [← RunnerState.canMoveTo_iff]
  unfold RunnerState.moveTo
  cases x.state.canMoveTo state <;> simp [eq_comm]

theorem attempt_eq_error_iff : (r.attempt e).2 = .error error ↔ Refused r e error := by
  have hunknown : ∀ {id : RunnerId}, (∀ runner, e ≠ .create runner) → e.subject? = some id →
      (r.runners.contains id = false ∧ error = .notFound id → Refused r e error) := by
    rintro id hnew hsubject ⟨h, rfl⟩
    exact .unknown e id hnew hsubject h
  constructor
  · intro h
    cases e with
    | create runner =>
      rcases r.create_cases runner with ⟨-, hcreate⟩ | ⟨htaken, hcreate⟩ <;>
        rw [attempt, hcreate] at h <;> cases h
      exact .taken runner htaken
    | moveTo id state =>
      rcases moveTo_eq_error_iff.1 h with h | ⟨x, hx, hmove, rfl⟩
      · exact hunknown (by rintro _ ⟨⟩) rfl h
      · exact .illegal id x state hx hmove
    | setError | setAddress | setGuestState =>
      exact hunknown (by rintro _ ⟨⟩) rfl (update_ok_eq_error_iff.1 h)
    | delete id =>
      refine hunknown (by rintro _ ⟨⟩) rfl ?_
      rcases r.delete_cases id with ⟨x, -, hdelete⟩ | ⟨hnone, hdelete⟩ <;>
        rw [attempt, hdelete] at h <;> cases h
      exact ⟨Table.contains_eq_false_iff.2 hnone, rfl⟩
    | takeNotice => cases h
  · intro h
    cases h with
    | taken runner h => rw [attempt, create, if_pos h]
    | illegal id x state h hmove => exact moveTo_eq_error_iff.2 (.inr ⟨x, h, hmove, rfl⟩)
    | unknown e id hnew hsubject h =>
      cases e with
      | create runner => exact absurd rfl (hnew runner)
      | moveTo =>
        cases hsubject
        exact moveTo_eq_error_iff.2 (.inl ⟨h, rfl⟩)
      | setError | setAddress | setGuestState =>
        cases hsubject
        exact update_ok_eq_error_iff.2 ⟨h, rfl⟩
      | delete =>
        cases hsubject
        simp only [attempt, delete, Table.contains_eq_false_iff.1 h]
        rfl
      | takeNotice => cases hsubject

/-! ## The runner that a change is of -/

/-- What a change makes of the record of its runner. -/
def Edit.become : Edit → Option Runner → Option Runner
  | .create runner, x => x.or (some runner)
  | .moveTo _ state, x => x.map (moved state)
  | .setError _ message, x => x.map fun x => { x with state := .error, errorMessage := message }
  | .setAddress _ address, x => x.map fun x => { x with ipAddress := address }
  | .setGuestState _ state, x => x.map fun x => { x with guestState := state }
  | .delete _, _ => none
  | .takeNotice, x => x

theorem get?_edit (r : Roster) (e : Edit) (k : RunnerId) :
    (r.edit e).runners.get? k =
      if e.subject? = some k then e.become (r.runners.get? k) else r.runners.get? k := by
  have hsome : ∀ id : RunnerId, some id = some k ↔ k = id := by simp [eq_comm]
  cases e with
  | create runner =>
    simp only [edit, attempt, Edit.subject?, Edit.become, hsome]
    rcases r.create_cases runner with ⟨hnone, hcreate⟩ | ⟨htaken, hcreate⟩ <;> rw [hcreate]
    · rw [Table.get?_insert]
      split
      · next hk => rw [hk, hnone, Option.none_or]
      · rfl
    · split
      · next hk =>
        obtain ⟨x, hx⟩ := Table.contains_iff.1 htaken
        rw [hk, hx, Option.some_or]
      · rfl
  | moveTo id state =>
    simp only [edit, attempt, get?_moveTo, Edit.subject?, Edit.become, hsome]
    split
    · next hk => rw [hk]
    · rfl
  | setError id message =>
    simp only [edit, attempt, get?_setError, Edit.subject?, Edit.become, hsome]
    split
    · next hk => rw [hk]
    · rfl
  | setAddress id address =>
    simp only [edit, attempt, get?_setAddress, Edit.subject?, Edit.become, hsome]
    split
    · next hk => rw [hk]
    · rfl
  | setGuestState id state =>
    simp only [edit, attempt, get?_setGuestState, Edit.subject?, Edit.become, hsome]
    split
    · next hk => rw [hk]
    · rfl
  | delete id => simp only [edit, attempt, get?_delete, Edit.subject?, Edit.become, hsome]
  | takeNotice => rfl

/-- After a change a runner's state is what it was or what the walk allows next, unless the runner
is new. -/
theorem state_edit {y : Runner} (h : (r.edit e).runners.get? k = some y) :
    r.runners.get? k = none ∧ e = .create y ∨
      ∃ x, r.runners.get? k = some x ∧ (y.state = x.state ∨ x.state.Leads y.state) := by
  rw [get?_edit] at h
  split at h
  · have hkept : ∀ change : Runner → Runner,
        (∀ x, (change x).state = x.state ∨ x.state.Leads (change x).state) →
        (r.runners.get? k).map change = some y →
        ∃ x, r.runners.get? k = some x ∧ (y.state = x.state ∨ x.state.Leads y.state) := by
      intro change hchange hy
      obtain ⟨x, hx, rfl⟩ := Option.map_eq_some_iff.1 hy
      exact ⟨x, hx, hchange x⟩
    cases e with
    | create runner =>
      rcases Option.or_eq_some_iff.1 h with hx | ⟨hnone, hnew⟩
      · exact .inr ⟨y, hx, .inl rfl⟩
      · cases hnew
        exact .inl ⟨hnone, rfl⟩
    | moveTo id state =>
      refine .inr (hkept (moved state) (fun x => ?_) h)
      unfold moved
      split
      · next hmove => exact .inr (RunnerState.canMoveTo_iff.1 hmove)
      · exact .inl rfl
    | setError id message => exact .inr (hkept _ (fun _ => .inr (.inl rfl)) h)
    | setAddress id address =>
      exact .inr (hkept (fun x => { x with ipAddress := address }) (fun _ => .inl rfl) h)
    | setGuestState id state =>
      exact .inr (hkept (fun x => { x with guestState := state }) (fun _ => .inl rfl) h)
    | delete id => cases h
    | takeNotice => exact .inr ⟨y, h, .inl rfl⟩
  · exact .inr ⟨y, h, .inl rfl⟩

/-! ## Lives -/

/-- The state of a runner that the roster holds. -/
def stateOf (r : Roster) (k : RunnerId) : Option RunnerState := (r.runners.get? k).map (·.state)

/-- A life goes on with the runner's state after a change; without one it is over. -/
def prolonged (life : List RunnerState) : Option RunnerState → List RunnerState
  | some state => if life.getLast? = some state then life else life ++ [state]
  | none => []

/-- The states that a runner has gone through since it was last accepted, in order. A runner that
the roster does not hold has gone through none. -/
def lifeOf (k : RunnerId) (es : List Edit) : List RunnerState :=
  (es.foldl (fun s e => (s.1.edit e, prolonged s.2 ((s.1.edit e).stateOf k))) (empty, [])).2

theorem lifeOf_append_singleton (k : RunnerId) (es : List Edit) (e : Edit) :
    lifeOf k (es ++ [e]) = prolonged (lifeOf k es) ((edited (es ++ [e])).stateOf k) := by
  have hroster : ∀ es : List Edit, (es.foldl (fun s e => (s.1.edit e,
      prolonged s.2 ((s.1.edit e).stateOf k))) (empty, [])).1 = edited es := by
    intro es
    induction es using List.reverseRecOn with
    | nil => rfl
    | append_singleton es e ih =>
      rw [List.foldl_append, edited_append_singleton, ← ih]
      rfl
  rw [lifeOf, List.foldl_append, edited_append_singleton, ← hroster es]
  rfl

/-- A life ends in the runner's present state. -/
theorem getLast?_lifeOf (k : RunnerId) (es : List Edit) :
    (lifeOf k es).getLast? = (edited es).stateOf k := by
  induction es using List.reverseRecOn with
  | nil => rfl
  | append_singleton es e ih =>
    rw [lifeOf_append_singleton]
    cases (edited (es ++ [e])).stateOf k with
    | none => rfl
    | some state =>
      rw [prolonged]
      split
      · next hlast => exact hlast
      · exact List.getLast?_concat

/-- A life begins where runners are accepted and goes on along the table. -/
theorem isWalk_lifeOf {es : List Edit}
    (hnew : ∀ runner, .create runner ∈ es → runner.state = .unspecified) (k : RunnerId) :
    (∀ s ∈ (lifeOf k es).head?, s = .unspecified) ∧ (lifeOf k es).IsChain RunnerState.Leads := by
  induction es using List.reverseRecOn with
  | nil => exact ⟨nofun, .nil⟩
  | append_singleton es e ih =>
    obtain ⟨hhead, hwalk⟩ := ih fun runner hmem => hnew runner (List.mem_append_left [e] hmem)
    have hlast := getLast?_lifeOf k es
    rw [lifeOf_append_singleton, stateOf]
    rw [stateOf] at hlast
    cases hrecord : (edited (es ++ [e])).runners.get? k with
    | none => exact ⟨nofun, .nil⟩
    | some y =>
      rw [Option.map_some, prolonged]
      split
      · exact ⟨hhead, hwalk⟩
      · next hmoved =>
        rw [edited_append_singleton] at hrecord
        rcases state_edit hrecord with ⟨hnone, rfl⟩ | ⟨x, hx, hstate⟩
        · -- the runner has just been accepted
          rw [hnone, Option.map_none, List.getLast?_eq_none_iff] at hlast
          rw [hlast]
          refine ⟨?_, .singleton _⟩
          rintro s ⟨⟩
          exact hnew y (List.mem_append_right es List.mem_cons_self)
        · rw [hx, Option.map_some] at hlast
          rw [hlast] at hmoved
          have hleads : x.state.Leads y.state :=
            hstate.resolve_left fun hsame => hmoved (congrArg some hsame.symm)
          have hnonempty : lifeOf k es ≠ [] := by
            intro hnil
            rw [hnil] at hlast
            cases hlast
          refine ⟨?_, hwalk.append (.singleton _) ?_⟩
          · rw [List.head?_append_of_ne_nil _ hnonempty]
            exact hhead
          · rintro s hs t ⟨⟩
            rw [hlast] at hs
            cases hs
            exact hleads

/-- Where runners are accepted as `unspecified`, each goes along the lifecycle table or fails, from
its acceptance to its deletion, and once it has failed or is torn down it never takes a slot or
becomes ready again. A change is refused exactly for one of the reasons of `Refused`, and then
nothing changes and nothing is noticed; any other change is noticed. A change of one runner leaves
all others as they are. -/
theorem lives_walk (es : List Edit)
    (hnew : ∀ runner, .create runner ∈ es → runner.state = .unspecified) :
    (∀ k, (∀ s ∈ (lifeOf k es).head?, s = .unspecified) ∧
      (lifeOf k es).getLast? = (edited es).stateOf k ∧
      (lifeOf k es).IsChain (fun s t => t = .error ∨ t ∈ s.successors) ∧
      ∀ before s after, lifeOf k es = before ++ s :: after → s = .error ∨ s = .tearingDown →
        ∀ t ∈ after, t.occupiesSlot = false ∧ t.isReady = false) ∧
    ∀ e, (∀ error, ((edited es).attempt e).2 = .error error ↔ Refused (edited es) e error) ∧
      (∀ error, Refused (edited es) e error → (edited es).edit e = edited es) ∧
      (∀ r, (edited es).attempt e = (r, .ok ()) →
        (edited es).edit e = r ∧ (e = .takeNotice ∨ r.notice = true)) ∧
      ∀ k, e.subject? ≠ some k →
        ((edited es).edit e).runners.get? k = (edited es).runners.get? k := by
  refine ⟨fun k => ?_, fun e => ⟨fun _ => attempt_eq_error_iff,
    fun _ h => edit_of_error (attempt_eq_error_iff.2 h), ?_, ?_⟩⟩
  · obtain ⟨hhead, hwalk⟩ := isWalk_lifeOf hnew k
    refine ⟨hhead, getLast?_lifeOf k es, hwalk, ?_⟩
    intro before s after hsplit hfreed t ht
    rw [hsplit] at hwalk
    have hstays : t.Freed := RunnerState.Freed.along hwalk hfreed t ht
    exact ⟨hstays.occupiesSlot, hstays.isReady⟩
  · intro r hr
    have hedit : (edited es).edit e = r := congrArg Prod.fst hr
    exact ⟨hedit, or_iff_not_imp_left.2 (hedit ▸ notice_edit (congrArg Prod.snd hr))⟩
  · intro k hother
    rw [get?_edit, if_neg hother]

/-- A runner that is torn down and fails cannot go back to work, and leaves no notice when it is
asked to. -/
def failedAtTheEnd : List Edit :=
  [.create (.accepted "r1" "ci" "a1" "" 0), .create (.accepted "r2" "ci" "a1" "" 0),
    .moveTo "r1" .creating, .moveTo "r1" .booting, .setAddress "r1" "10.0.0.7",
    .moveTo "r1" .sshReady, .moveTo "r1" .tearingDown, .setError "r1" "no answer", .takeNotice]

theorem lives_walk_failedAtTheEnd :
    (∀ runner, .create runner ∈ failedAtTheEnd → runner.state = .unspecified) ∧
      (∀ t ∈ [RunnerState.error], t.occupiesSlot = false ∧ t.isReady = false) ∧
      (edited failedAtTheEnd).edit (.moveTo "r1" .running) = edited failedAtTheEnd := by
  have hnew : ∀ runner, .create runner ∈ failedAtTheEnd → runner.state = .unspecified := by
    intro runner hmem
    simp only [failedAtTheEnd, List.mem_cons, Edit.create.injEq, List.not_mem_nil, reduceCtorEq,
      or_false] at hmem
    rcases hmem with rfl | rfl <;> rfl
  obtain ⟨hlives, hchanges⟩ := lives_walk failedAtTheEnd hnew
  have hlife : lifeOf "r1" failedAtTheEnd =
      [.unspecified, .creating, .booting, .sshReady] ++ .tearingDown :: [.error] := by
    decide +kernel
  refine ⟨hnew, (hlives "r1").2.2.2 _ _ _ hlife (.inr rfl), ?_⟩
  have hrefused : ((edited failedAtTheEnd).attempt (.moveTo "r1" .running)).2.isOk = false := by
    decide +kernel
  obtain ⟨hiff, hkept, -, -⟩ := hchanges (.moveTo "r1" .running)
  cases hattempt : ((edited failedAtTheEnd).attempt (.moveTo "r1" .running)).2 with
  | error error => exact hkept error ((hiff error).1 hattempt)
  | ok =>
    rw [hattempt] at hrefused
    cases hrefused

end Roster

end RunnerFleet

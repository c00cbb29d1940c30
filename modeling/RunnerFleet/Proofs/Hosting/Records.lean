import RunnerFleet.Hosting.Provision

/-!
# What provisioning and teardown do to the records

Every roster operation concerns the record of one runner: `get?_update` says what a look-up sees
after it. The steps of a provisioning and of a teardown are read off it, one equation for each. None
of them adds a record, and a step for one runner leaves all others alone.
-/

namespace RunnerFleet

theorem Table.insert_of_get? {α : Type} {t : Table α} {k : String} {v : α} (h : t.get? k = some v) :
    t.insert k v = t := by
  ext1 key
  rw [get?_insert]
  split
  · next hkey => rw [hkey, h]
  · rfl

/-! ## Operations on the roster -/

namespace Roster

variable {r r' : Roster} {id k : RunnerId} {change : Runner → Runner × Except RosterError Unit}
  {error : RosterError}

theorem get?_update (change : Runner → Runner × Except RosterError Unit) :
    (r.update id change).1.runners.get? k =
      if k = id then (r.runners.get? id).map fun x => (change x).1 else r.runners.get? k := by
  unfold update
  cases h : r.runners.get? id with
  | none =>
    by_cases hk : k = id
    · subst hk
      simp [h]
    · simp [hk]
  | some x => rcases hchange : change x with ⟨y, _ | _⟩ <;> simp [hchange]

theorem update_eq_error_iff : (r.update id change).2 = .error error ↔
    r.runners.get? id = none ∧ error = .notFound id ∨
      ∃ x, r.runners.get? id = some x ∧ (change x).2 = .error error := by
  unfold update
  cases r.runners.get? id with
  | none => simp [eq_comm]
  | some x => rcases hchange : change x with ⟨y, _ | _⟩ <;> simp [hchange]

/-- A refused change that leaves the record as it is leaves the roster as it is. -/
theorem update_of_error (hchange : ∀ x, (change x).2 = .error error → (change x).1 = x)
    (h : (r.update id change).2 = .error error) : (r.update id change).1 = r := by
  unfold update at h ⊢
  cases hx : r.runners.get? id with
  | none => rfl
  | some x =>
    rcases hchanged : change x with ⟨y, cause | _⟩
    · simp only [hx, hchanged, Except.error.injEq] at h
      have hsame := hchange x (by rw [hchanged, h])
      rw [hchanged] at hsame
      simp only at hsame
      subst hsame
      simp only [hchanged, Table.insert_of_get? hx]
    · simp only [hx, hchanged, reduceCtorEq] at h

theorem notice_update (h : (r.update id change).2 = .ok ()) :
    (r.update id change).1.notice = true := by
  unfold update at h ⊢
  cases hx : r.runners.get? id with
  | none => simp only [hx, reduceCtorEq] at h
  | some x =>
    rcases hchanged : change x with ⟨y, cause | _⟩
    · simp only [hx, hchanged, reduceCtorEq] at h
    · simp only [hchanged]

/-- The record after a move that is made if the lifecycle table allows it. -/
def moved (state : RunnerState) (x : Runner) : Runner :=
  if x.state.canMoveTo state then { x with state } else x

@[simp] theorem moved_id (state : RunnerState) (x : Runner) : (moved state x).id = x.id := by
  unfold moved
  split <;> rfl

theorem get?_moveTo (state : RunnerState) :
    (r.moveTo id state).1.runners.get? k =
      if k = id then (r.runners.get? id).map (moved state) else r.runners.get? k := by
  rw [moveTo, get?_update]
  congr 2
  funext x
  unfold moved RunnerState.moveTo
  by_cases hm : x.state.canMoveTo state
  · simp [hm]
  · simp [hm]

/-- A refused move leaves the roster as it is. -/
theorem moveTo_of_error {state : RunnerState} (h : (r.moveTo id state).2 = .error error) :
    (r.moveTo id state).1 = r := by
  refine update_of_error (fun x hx => ?_) h
  split at hx
  · cases hx
  · rfl

theorem get?_setError (message : String) :
    (r.setError id message).1.runners.get? k =
      if k = id then
        (r.runners.get? id).map fun x => { x with state := .error, errorMessage := message }
      else r.runners.get? k := get?_update _

theorem get?_setAddress (address : String) :
    (r.setAddress id address).1.runners.get? k =
      if k = id then (r.runners.get? id).map fun x => { x with ipAddress := address }
      else r.runners.get? k := get?_update _

theorem get?_setGuestState (state : GuestState) :
    (r.setGuestState id state).1.runners.get? k =
      if k = id then (r.runners.get? id).map fun x => { x with guestState := state }
      else r.runners.get? k := get?_update _

/-- A runner is accepted under an id that is not taken, or the roster stays as it is. -/
theorem create_cases (r : Roster) (runner : Runner) :
    r.runners.get? runner.id = none ∧
        r.create runner = (⟨r.runners.insert runner.id runner, true⟩, .ok ()) ∨
      r.runners.contains runner.id = true ∧
        r.create runner = (r, .error (.alreadyExists runner.id)) := by
  unfold create Table.contains
  cases h : r.runners.get? runner.id with
  | none => simp
  | some x => simp

/-- A runner is forgotten, or there is none and the roster stays as it is. -/
theorem delete_cases (r : Roster) (id : RunnerId) :
    (∃ x, r.runners.get? id = some x ∧ r.delete id = (⟨r.runners.erase id, true⟩, .ok x)) ∨
      r.runners.get? id = none ∧ r.delete id = (r, .error (.notFound id)) := by
  unfold delete
  cases r.runners.get? id with
  | some x => exact .inl ⟨x, rfl, rfl⟩
  | none => exact .inr ⟨rfl, rfl⟩

theorem get?_delete : (r.delete id).1.runners.get? k =
    if k = id then none else r.runners.get? k := by
  rcases r.delete_cases id with ⟨x, -, hdelete⟩ | ⟨hnone, hdelete⟩ <;> rw [hdelete]
  · exact Table.get?_erase ..
  · split
    · next hk => rw [hk, hnone]
    · rfl

end Roster

/-! ## Provisioning -/

namespace Provision

variable {r r' : Roster} {id k : RunnerId} {p q : Point} {next : Option Point}

/-- A provisioning goes on only when the move of its record is made. -/
theorem enter_some {state : RunnerState} (h : enter r id state p = (r', some q)) :
    q = p ∧ ∃ x, r.runners.get? id = some x ∧ x.state.canMoveTo state := by
  unfold enter Roster.moveTo Roster.update RunnerState.moveTo at h
  cases hx : r.runners.get? id with
  | none => simp [hx] at h
  | some x =>
    by_cases hm : x.state.canMoveTo state
    · simp only [hx, hm, if_true, Prod.mk.injEq, Option.some.injEq] at h
      exact ⟨h.2.symm, x, rfl, hm⟩
    · simp [hx, hm] at h

/-- A provisioning whose move is refused ends and changes nothing. -/
theorem enter_none {state : RunnerState} (h : enter r id state p = (r', none)) : r' = r := by
  unfold enter at h
  split at h
  · cases h
  · next hmove =>
    have hsame := Roster.moveTo_of_error (congrArg Prod.snd hmove)
    rw [hmove] at hsame
    exact (Prod.mk.inj h).1.symm.trans hsame

theorem get?_enter (state : RunnerState) :
    (enter r id state p).1.runners.get? k =
      if k = id then (r.runners.get? id).map (Roster.moved state) else r.runners.get? k := by
  rw [← Roster.get?_moveTo]
  unfold enter
  split
  · next h => rw [h]
  · next h => rw [h]

theorem get?_of_begin (h : begin r id = (r', next)) :
    r'.runners.get? k =
      if k = id then (r.runners.get? id).map (Roster.moved .creating) else r.runners.get? k := by
  rw [← get?_enter (p := .creating), ← begin, h]

theorem get?_fail (message : String) :
    (fail r id message).runners.get? k =
      if k = id then
        (r.runners.get? id).map fun x => { x with state := .error, errorMessage := message }
      else r.runners.get? k :=
  Roster.get?_setError message

theorem get?_noteAddress (ip : String) :
    (noteAddress r id (.address ip)).runners.get? k =
      if k = id then (r.runners.get? id).map fun x => { x with ipAddress := ip }
      else r.runners.get? k :=
  Roster.get?_setAddress ip

/-- What one step of a provisioning makes of the record of its runner. -/
def edit : Point → Except VmError VmValue → Runner → Runner
  | p, .error e, x => { x with state := .error, errorMessage := p.failure ++ e.message }
  | .creating, .ok _, x => Roster.moved .booting x
  | .starting, .ok (.address ip), x => { x with ipAddress := ip }
  | .starting, .ok _, x => x
  | .reaching, .ok _, x => Roster.moved .sshReady x
  | .settingUp, .ok _, x => Roster.moved .running x

theorem get?_resume (result : Except VmError VmValue) :
    (resume r id p result).1.runners.get? k =
      if k = id then (r.runners.get? id).map (edit p result) else r.runners.get? k := by
  cases result with
  | error e => cases p <;> exact get?_fail _
  | ok v =>
    cases p with
    | creating => exact get?_enter _
    | starting =>
      cases v with
      | address ip => exact get?_noteAddress ip
      | _ =>
        simp only [resume, noteAddress]
        split
        · next h => rw [h]; exact (Option.map_id' ..).symm
        · rfl
    | reaching => exact get?_enter _
    | settingUp => exact Roster.get?_moveTo _

theorem get?_of_resume {result : Except VmError VmValue}
    (h : resume r id p result = (r', next)) :
    r'.runners.get? k =
      if k = id then (r.runners.get? id).map (edit p result) else r.runners.get? k := by
  rw [← get?_resume, h]

/-- A step of a provisioning keeps the id of its record. -/
theorem edit_id (result : Except VmError VmValue) (x : Runner) : (edit p result x).id = x.id := by
  cases result with
  | error e => cases p <;> rfl
  | ok v =>
    cases p with
    | starting => cases v <;> rfl
    | _ => exact Roster.moved_id _ x

end Provision

/-! ## Teardown -/

namespace Teardown

variable {r : Roster} {id k : RunnerId}

theorem get?_begin :
    (begin r id).runners.get? k =
      if k = id then (r.runners.get? id).map (Roster.moved .tearingDown) else r.runners.get? k :=
  Roster.get?_moveTo _

/-- A deletion failed unless the VM is gone, be it by another hand. -/
def Failed : Except VmError VmValue → Prop
  | .ok _ => False
  | .error e => e.isNotFound = false

instance : DecidablePred Failed
  | .ok _ => .isFalse fun h => h
  | .error e => inferInstanceAs (Decidable (e.isNotFound = false))

theorem get?_conclude_ok (r : Roster) (id k : RunnerId) (v : VmValue) :
    (conclude r id (.ok v)).runners.get? k = if k = id then none else r.runners.get? k :=
  Roster.get?_delete

theorem get?_conclude_of_not_failed {result : Except VmError VmValue} (h : ¬ Failed result) :
    (conclude r id result).runners.get? k = if k = id then none else r.runners.get? k := by
  cases result with
  | ok v => exact get?_conclude_ok r id k v
  | error e =>
    have hgone : e.isNotFound = true := by simpa [Failed] using h
    have hsame : conclude r id (.error e) = conclude r id (.ok .done) := by
      simp only [conclude, hgone, if_true]
    rw [hsame]
    exact get?_conclude_ok r id k .done

theorem get?_conclude_of_failed (r : Roster) (id k : RunnerId) {result : Except VmError VmValue}
    (h : Failed result) : ∃ message, (conclude r id result).runners.get? k =
      if k = id then
        (r.runners.get? id).map fun x => { x with state := .error, errorMessage := message }
      else r.runners.get? k := by
  cases result with
  | ok v => exact h.elim
  | error e =>
    have hthere : e.isNotFound = false := h
    refine ⟨"VM deletion failed: " ++ e.message, ?_⟩
    simp only [conclude, hthere]
    exact Provision.get?_fail _

end Teardown

end RunnerFleet

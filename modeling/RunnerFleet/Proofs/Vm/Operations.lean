import RunnerFleet.Vm.Operation

/-!
# What VM operations leave alone

A step of an operation on one runner's VM concerns that runner's bundle and that runner's waits, and
nothing else. A deletion that succeeds leaves nothing under the name of the bundle, and one that
fails never says that the bundle was gone.
-/

namespace RunnerFleet

/-! ## Bundles -/

namespace BundleRoot

variable {b b' b'' : BundleRoot} {name k : String} {runner : RunnerId}

/-- What stands under a name in the root. -/
def entryAt : BundleRoot → String → Option BundleEntry
  | directory entries, name => entries.get? name
  | _, _ => none

/-- The two roots hold the same, except perhaps under one name. -/
def AgreeOff (name : String) (b b' : BundleRoot) : Prop :=
  ∀ k, k ≠ name → b'.entryAt k = b.entryAt k

theorem AgreeOff.refl (b : BundleRoot) : AgreeOff name b b := fun _ _ => rfl

theorem AgreeOff.trans (h : AgreeOff name b b') (h' : AgreeOff name b' b'') : AgreeOff name b b'' :=
  fun k hk => (h' k hk).trans (h k hk)

theorem entryAt_of_hasBundle (h : b.hasBundle runner) : b.entryAt (bundleName runner) ≠ none := by
  unfold hasBundle hasDirectory filesOf at h
  cases b with
  | missing | plainFile | unreachable => cases h
  | directory entries =>
    intro hnone
    have hget : entries.get? (bundleName runner) = none := hnone
    simp [hget] at h

theorem bundleName_injective {r r' : RunnerId} (h : bundleName r = bundleName r') : r = r' := by
  have hl := congrArg String.toList h
  simp only [bundleName, String.toList_append] at hl
  exact String.toList_inj.1 (List.append_cancel_right hl)

theorem makeRoot_agree (h : b.makeRoot = .ok b') : AgreeOff name b b' := by
  cases b with
  | missing => cases h; exact fun _ _ => rfl
  | plainFile | unreachable => cases h
  | directory entries => cases h; exact .refl _

theorem makeBundle_agree (h : b.makeBundle name = .ok b') : AgreeOff name b b' := by
  cases b with
  | missing =>
    cases h
    intro k hk
    simp [entryAt, hk]
  | plainFile | unreachable => cases h
  | directory entries =>
    simp only [makeBundle] at h
    split at h
    · cases h
      intro k hk
      simp [entryAt, hk]
    · cases h
    · cases h
      exact .refl _

theorem saveMetadata_agree {m : Metadata} (h : b.saveMetadata runner m = .ok b') :
    AgreeOff (bundleName runner) b b' := by
  unfold saveMetadata at h
  split at h
  · next hput =>
    cases h
    unfold putFiles at hput
    split at hput
    · cases hput
      intro k hk
      simp [entryAt, hk]
    · cases hput
    · cases hput
  · cases h

theorem updateMetadata_agree {now : Timestamp} {change : Metadata → Metadata} {m : Metadata}
    (h : b.updateMetadata runner now change = .ok (b', m)) :
    AgreeOff (bundleName runner) b b' := by
  simp only [updateMetadata, bind, Except.bind] at h
  split at h
  · cases h
  · split at h
    · cases h
    · next hsave =>
      cases h
      exact saveMetadata_agree hsave

theorem removeBundle_agree (h : b.removeBundle name = .ok b') : AgreeOff name b b' := by
  cases b with
  | missing => cases h; exact .refl _
  | plainFile | unreachable => cases h
  | directory entries =>
    simp only [removeBundle] at h
    split at h
    · cases h
    · cases h
      intro k hk
      simp [entryAt, hk]

/-- After a removal nothing stands under the name. -/
theorem entryAt_removeBundle (h : b.removeBundle name = .ok b') : b'.entryAt name = none := by
  cases b with
  | missing => cases h; rfl
  | plainFile | unreachable => cases h
  | directory entries =>
    simp only [removeBundle] at h
    split at h
    · cases h
    · cases h
      simp [entryAt]

/-- A removal never fails because there is nothing to remove. -/
theorem removeBundle_error {e : IoError} (h : b.removeBundle name = .error e) :
    e.isNotFound = false := by
  cases b with
  | missing => cases h
  | plainFile | unreachable => cases h; rfl
  | directory entries =>
    simp only [removeBundle] at h
    split at h
    · cases h; rfl
    · cases h

/-- Puts something else, or nothing, under a name; without a root there is nothing to put it in. -/
def touch (b : BundleRoot) (name : String) (entry : Option BundleEntry) : BundleRoot :=
  match b, entry with
  | directory entries, some e => directory (entries.insert name e)
  | directory entries, none => directory (entries.erase name)
  | b, _ => b

theorem touch_agree (b : BundleRoot) (name : String) (entry : Option BundleEntry) :
    AgreeOff name b (b.touch name entry) := by
  cases b with
  | missing | plainFile | unreachable => exact .refl _
  | directory entries =>
    cases entry with
    | some e => intro k hk; simp [touch, entryAt, hk]
    | none => intro k hk; simp [touch, entryAt, hk]

end BundleRoot

open BundleRoot (AgreeOff bundleName)

/-! ## Steps -/

section Steps

variable {c : VmContext} {h : VmHost} {runner : RunnerId} {calendar : Timestamp}
  {state : BundleState} {signal : Signal}

theorem VmHost.mark_agree : AgreeOff (bundleName runner) h.bundles
    (h.mark runner calendar state).bundles := by
  unfold mark
  split
  · next hupdate => exact BundleRoot.updateMetadata_agree hupdate
  · exact .refl _

@[simp] theorem VmHost.mark_arbiter : (h.mark runner calendar state).arbiter = h.arbiter := by
  unfold mark
  split <;> rfl

theorem VmHost.initialise_agree : AgreeOff (bundleName runner) h.bundles
    (h.initialise runner calendar).1.bundles := by
  unfold initialise
  split
  · exact .refl _
  · next hmake =>
    split
    · exact BundleRoot.makeBundle_agree hmake
    · next hsave =>
      exact (BundleRoot.makeBundle_agree hmake).trans (BundleRoot.saveMetadata_agree hsave)

@[simp] theorem VmHost.initialise_arbiter :
    (h.initialise runner calendar).1.arbiter = h.arbiter := by
  unfold initialise
  split
  · rfl
  · split <;> rfl

theorem Start.onState_agree {deadline : Instant} (power : PowerState) :
    AgreeOff (bundleName runner) h.bundles
      (Start.onState c runner h deadline power).1.bundles := by
  unfold Start.onState
  split
  · exact .refl _
  · exact VmHost.mark_agree
  · exact VmHost.mark_agree
  all_goals
    split
    · exact VmHost.mark_agree
    · exact .refl _

theorem Start.resume_agree (p : Start.Point) : AgreeOff (bundleName runner) h.bundles
    (Start.resume c runner h p signal).1.bundles := by
  unfold Start.resume
  split
  case h_4 => exact Start.onState_agree _
  case h_8 =>
    unfold Start.onAddress
    split
    · next hupdate => exact BundleRoot.updateMetadata_agree hupdate
    · exact .refl _
  all_goals first | exact .refl _ | exact VmHost.mark_agree

theorem Start.begin_agree : AgreeOff (bundleName runner) h.bundles
    (Start.begin c runner h).1.bundles := by
  unfold Start.begin
  split
  · exact VmHost.mark_agree
  · exact .refl _

variable (runner h) in
theorem Stop.begin_host : (Stop.begin runner h).1 = h := by
  unfold Stop.begin
  split <;> rfl

variable (c h runner signal) in
/-- A step of a stop changes at most the state that the bundle's metadata note. -/
theorem Stop.resume_host (p : Stop.Point) : (Stop.resume c runner h p signal).1 = h ∨
    (Stop.resume c runner h p signal).1 = h.mark runner c.calendar .stopped := by
  unfold Stop.resume
  split
  case h_1 | h_6 =>
    split
    · exact .inr rfl
    · exact .inl rfl
  case h_3 | h_8 =>
    unfold Stop.poll
    split
    · exact .inl rfl
    · exact .inl rfl
  case h_9 => exact .inr rfl
  all_goals exact .inl rfl

theorem Stop.resume_agree (p : Stop.Point) : AgreeOff (bundleName runner) h.bundles
    (Stop.resume c runner h p signal).1.bundles := by
  rcases Stop.resume_host c h runner signal p with hsame | hmark
  · rw [hsame]
    exact .refl _
  · rw [hmark]
    exact VmHost.mark_agree

theorem Stop.resume_arbiter (p : Stop.Point) :
    (Stop.resume c runner h p signal).1.arbiter = h.arbiter := by
  rcases Stop.resume_host c h runner signal p with hsame | hmark
  · rw [hsame]
  · rw [hmark, VmHost.mark_arbiter]

section OnStop

variable {x : VmHost × Turn Stop.Point Unit}

theorem Delete.onStop_agree : AgreeOff (bundleName runner) x.1.bundles
    (Delete.onStop runner x).1.bundles := by
  unfold Delete.onStop
  split
  · exact .refl _
  · split
    · next hremove => exact BundleRoot.removeBundle_agree hremove
    · exact .refl _

theorem Delete.onStop_arbiter : (Delete.onStop runner x).1.arbiter = x.1.arbiter := by
  unfold Delete.onStop
  split
  · rfl
  · split <;> rfl

/-- A deletion that succeeds leaves nothing under the name of the bundle. -/
theorem Delete.onStop_ok {v : Unit} (hok : (Delete.onStop runner x).2 = .finished (.ok v)) :
    (Delete.onStop runner x).1.bundles.entryAt (bundleName runner) = none := by
  unfold Delete.onStop at hok ⊢
  split at hok
  · cases hok
  · split at hok
    · next hremove =>
      exact BundleRoot.entryAt_removeBundle hremove
    · cases hok

/-- A deletion never fails because there is nothing to delete. -/
theorem Delete.onStop_error {e : VmError}
    (herror : (Delete.onStop runner x).2 = .finished (.error e)) : e.isNotFound = false := by
  unfold Delete.onStop at herror
  split at herror
  · cases herror
  · split at herror
    · cases herror
    · next hremove =>
      cases herror
      exact BundleRoot.removeBundle_error hremove

end OnStop

/-! ## Operations -/

namespace VmOperation

/-- A step of an operation leaves the bundles of all other runners as they are. -/
theorem begin_agree (op : VmOperation) : AgreeOff (bundleName runner) h.bundles
    (op.begin c runner h).1.bundles := by
  cases op with
  | create =>
    simp only [VmOperation.begin]
    split
    · next hmake => exact BundleRoot.makeRoot_agree hmake
    · exact .refl _
  | start => exact Start.begin_agree
  | stop =>
    simp only [VmOperation.begin, Prod.map, id, Stop.begin_host]
    exact .refl _
  | delete =>
    have hremove : AgreeOff (bundleName runner)
        (Stop.begin runner { h with arbiter := (h.arbiter.cancel runner).1 }).1.bundles
        (Delete.begin runner h).1.bundles := Delete.onStop_agree
    rw [Stop.begin_host] at hremove
    exact hremove
  | awaitSsh => exact .refl _
  | setUp script =>
    simp only [VmOperation.begin]
    split
    · exact .refl _
    · split <;> exact .refl _
  | guest call =>
    simp only [VmOperation.begin]
    split <;> exact .refl _

theorem resume_agree (p : VmPoint) : AgreeOff (bundleName runner) h.bundles
    (VmOperation.resume c runner h p signal).1.bundles := by
  unfold VmOperation.resume
  split
  case h_1 => exact VmHost.initialise_agree
  case h_3 => exact Start.resume_agree _
  case h_4 => exact Stop.resume_agree _
  case h_5 => exact (Stop.resume_agree _).trans Delete.onStop_agree
  all_goals exact .refl _

theorem abandon_bundles (p : VmPoint) : (VmOperation.abandon h p).bundles = h.bundles := by
  unfold VmOperation.abandon Start.abandon
  split
  · split <;> rfl
  · rfl

/-! ### The ends of a deletion -/

theorem finished_ok_of_map {P Q α β : Type} {point : P → Q} {result : α → β} {turn : Turn P α}
    {v : β} (hok : turn.map point result = .finished (.ok v)) :
    ∃ u, turn = .finished (.ok u) ∧ v = result u := by
  rcases turn with (e | u) | p
  · cases hok
  · cases hok
    exact ⟨u, rfl, rfl⟩
  · cases hok

theorem finished_error_of_map {P Q α β : Type} {point : P → Q} {result : α → β} {turn : Turn P α}
    {e : VmError} (herror : turn.map point result = .finished (.error e)) :
    turn = .finished (.error e) := by
  rcases turn with (e | u) | p
  · cases herror
    rfl
  · cases herror
  · cases herror

theorem begin_delete_ok {v : VmValue} (hok : (delete.begin c runner h).2 = .finished (.ok v)) :
    (delete.begin c runner h).1.bundles.entryAt (bundleName runner) = none := by
  obtain ⟨u, hu, -⟩ := finished_ok_of_map hok
  exact Delete.onStop_ok hu

theorem begin_delete_error {e : VmError}
    (herror : (delete.begin c runner h).2 = .finished (.error e)) : e.isNotFound = false :=
  Delete.onStop_error (finished_error_of_map herror)

theorem resume_deleting_ok {p : Stop.Point} {v : VmValue}
    (hok : (VmOperation.resume c runner h (.deleting p) signal).2 = .finished (.ok v)) :
    (VmOperation.resume c runner h (.deleting p) signal).1.bundles.entryAt (bundleName runner) =
      none := by
  obtain ⟨u, hu, -⟩ := finished_ok_of_map hok
  exact Delete.onStop_ok hu

theorem resume_deleting_error {p : Stop.Point} {e : VmError}
    (herror : (VmOperation.resume c runner h (.deleting p) signal).2 = .finished (.error e)) :
    e.isNotFound = false :=
  Delete.onStop_error (finished_error_of_map herror)

/-! ### The ends of a start -/

/-- No operation gives an address at once. -/
theorem begin_address (op : VmOperation) (address : String) :
    (op.begin c runner h).2 ≠ .finished (.ok (.address address)) := by
  intro hok
  cases op with
  | create =>
    simp only [VmOperation.begin] at hok
    split at hok <;> cases hok
  | start =>
    have hok : (Start.begin c runner h).2.map VmPoint.starting VmValue.address =
        .finished (.ok (.address address)) := hok
    obtain ⟨u, hu, -⟩ := finished_ok_of_map hok
    unfold Start.begin at hu
    split at hu <;> cases hu
  | stop | delete | awaitSsh =>
    obtain ⟨u, -, hv⟩ := finished_ok_of_map hok
    cases hv
  | setUp script =>
    simp only [VmOperation.begin] at hok
    split at hok
    · cases hok
    · split at hok <;> cases hok
  | guest call =>
    simp only [VmOperation.begin] at hok
    split at hok <;> cases hok

theorem onState_address {deadline : Instant} (power : PowerState) (address : String) :
    (Start.onState c runner h deadline power).2 ≠ .finished (.ok address) := by
  intro hok
  unfold Start.onState Start.timedOut at hok
  split at hok
  · cases hok
  · cases hok
  · cases hok
  all_goals split at hok <;> cases hok

/-- An address that an operation gives was announced to it. -/
theorem resume_address {p : VmPoint} {address : String}
    (hok : (VmOperation.resume c runner h p signal).2 = .finished (.ok (.address address))) :
    signal = .announced address := by
  unfold VmOperation.resume at hok
  split at hok
  case h_1 =>
    simp only [VmHost.initialise] at hok
    split at hok
    · cases hok
    · split at hok <;> cases hok
  case h_3 p =>
    have hok : (Start.resume c runner h p signal).2.map VmPoint.starting VmValue.address =
        .finished (.ok (.address address)) := hok
    obtain ⟨u, hu, hv⟩ := finished_ok_of_map hok
    obtain rfl : address = u := by simpa using hv
    unfold Start.resume Start.timedOut at hu
    split at hu
    case h_4 => exact absurd hu (onState_address _ address)
    case h_8 =>
      unfold Start.onAddress at hu
      split at hu
      · cases hu
        rfl
      · cases hu
    all_goals cases hu
  case h_4 | h_5 | h_6 =>
    obtain ⟨u, -, hv⟩ := finished_ok_of_map hok
    cases hv
  all_goals cases hok

/-! ### Waits for addresses -/

theorem mem_endWait {a : Arbiter} {token : Nat} {w : AddressWait} :
    w ∈ (a.endWait token).waits ↔ w ∈ a.waits ∧ w.token ≠ token := by
  simp [Arbiter.endWait]

/-- No operation waits for an address from its first step on. -/
theorem begin_waits (op : VmOperation) {w : AddressWait}
    (hw : w ∈ (op.begin c runner h).1.arbiter.waits) : w ∈ h.arbiter.waits := by
  cases op with
  | create =>
    simp only [VmOperation.begin] at hw
    split at hw <;> exact hw
  | start =>
    simp only [VmOperation.begin, Prod.map, id, Start.begin] at hw
    split at hw
    · rwa [VmHost.mark_arbiter] at hw
    · exact hw
  | stop =>
    simp only [VmOperation.begin, Prod.map, id, Stop.begin_host] at hw
    exact hw
  | delete =>
    simp only [VmOperation.begin, Prod.map, id, Delete.begin, Delete.onStop_arbiter,
      Stop.begin_host] at hw
    exact (List.mem_filter.1 hw).1
  | awaitSsh => exact hw
  | setUp script =>
    simp only [VmOperation.begin] at hw
    split at hw
    · exact hw
    · split at hw <;> exact hw
  | guest call =>
    simp only [VmOperation.begin] at hw
    split at hw <;> exact hw

/-- A start that goes on from a power state begins a wait at most, and then waits for it. -/
theorem onState_waits {deadline : Instant} (power : PowerState) {w : AddressWait}
    (hw : w ∈ (Start.onState c runner h deadline power).1.arbiter.waits) :
    w ∈ h.arbiter.waits ∨ w.runner = runner ∧
      ∃ until_, (Start.onState c runner h deadline power).2 =
        .waits (.awaiting w.token until_) := by
  unfold Start.onState at hw ⊢
  split at hw
  · simp only [Arbiter.await, List.mem_append, List.mem_singleton] at hw
    rcases hw with hw | rfl
    · exact .inl hw
    · exact .inr ⟨rfl, _, rfl⟩
  · rw [VmHost.mark_arbiter] at hw
    exact .inl hw
  · rw [VmHost.mark_arbiter] at hw
    exact .inl hw
  all_goals
    split at hw
    · rw [Start.timedOut, VmHost.mark_arbiter] at hw
      exact .inl hw
    · exact .inl hw

/-- A wait that is there after a step was there before, and is still waited for if it was, or the
step has begun it. -/
theorem resume_waits (p : VmPoint) {w : AddressWait}
    (hw : w ∈ (VmOperation.resume c runner h p signal).1.arbiter.waits) :
    (w ∈ h.arbiter.waits ∧ (p.token? = some w.token → ∃ q,
      (VmOperation.resume c runner h p signal).2 = .waits q ∧ q.token? = some w.token)) ∨
    (w.runner = runner ∧ ∃ q,
      (VmOperation.resume c runner h p signal).2 = .waits q ∧ q.token? = some w.token) := by
  unfold VmOperation.resume at hw ⊢
  split at hw
  case h_1 =>
    rw [VmHost.initialise_arbiter] at hw
    exact .inl ⟨hw, fun h => by cases h⟩
  case h_3 =>
    simp only [Prod.map, id] at hw ⊢
    unfold Start.resume at hw ⊢
    split at hw
    case h_3 | h_6 =>
      rw [Start.timedOut, VmHost.mark_arbiter] at hw
      exact .inl ⟨hw, fun h => by cases h⟩
    case h_4 =>
      rcases onState_waits _ hw with hw | ⟨hr, until_, hturn⟩
      · exact .inl ⟨hw, fun h => by cases h⟩
      · exact .inr ⟨hr, .starting (.awaiting w.token until_), by rw [hturn]; rfl, rfl⟩
    case h_8 token _ _ =>
      have hw : w ∈ (h.arbiter.endWait token).waits := by
        unfold Start.onAddress at hw
        split at hw <;> exact hw
      obtain ⟨hw, hne⟩ := mem_endWait.1 hw
      exact .inl ⟨hw, fun htoken => absurd (Option.some.inj htoken).symm hne⟩
    case h_9 | h_10 =>
      obtain ⟨hw, hne⟩ := mem_endWait.1 hw
      exact .inl ⟨hw, fun htoken => absurd (Option.some.inj htoken).symm hne⟩
    case h_11 => exact .inl ⟨hw, fun htoken => ⟨_, rfl, htoken⟩⟩
    all_goals exact .inl ⟨hw, fun h => by cases h⟩
  case h_4 =>
    simp only [Prod.map, id, Stop.resume_arbiter] at hw
    exact .inl ⟨hw, fun h => by cases h⟩
  case h_5 =>
    simp only [Prod.map, id, Delete.resume, Delete.onStop_arbiter, Stop.resume_arbiter] at hw
    exact .inl ⟨hw, fun h => by cases h⟩
  case h_12 => exact .inl ⟨hw, fun htoken => ⟨_, rfl, htoken⟩⟩
  all_goals exact .inl ⟨hw, fun h => by cases h⟩

/-- An operation that is given up leaves no wait. -/
theorem abandon_waits (p : VmPoint) {w : AddressWait}
    (hw : w ∈ (VmOperation.abandon h p).arbiter.waits) :
    w ∈ h.arbiter.waits ∧ p.token? ≠ some w.token := by
  cases p with
  | starting p =>
    cases p with
    | awaiting token until_ =>
      obtain ⟨hw, hne⟩ := mem_endWait.1 hw
      exact ⟨hw, fun htoken => hne (Option.some.inj htoken).symm⟩
    | booting | asking | pausing => exact ⟨hw, fun htoken => by cases htoken⟩
  | cloning | stopping | deleting | reaching | settingUp | calling =>
    exact ⟨hw, fun htoken => by cases htoken⟩

end VmOperation

end Steps

end RunnerFleet

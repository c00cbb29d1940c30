import RunnerFleet.Proofs.Coordinator.Snapshots
import RunnerFleet.Proofs.Text.Utf8
import RunnerFleet.Proofs.Wire.Fields

/-!
# Messages are read as they were written

The bytes of a message are those of a list of fields, in which defaults are left out. Merging these
fields into a blank message gives the message again, since a blank one holds the defaults already.
Nested messages are chunks, so a command with nothing to say is told apart from no command.
-/

namespace RunnerFleet.Wire

/-! ## Enumerations -/

/-- The number that an enumeration travels as. -/
def enumerationNumber (n : Int32) : Nat := (n.toInt % UInt64.size).toNat

theorem enumerationNumber_eq (n : Int32) :
    (enumerationNumber n : Int) = n.toInt % 18446744073709551616 :=
  Int.toNat_of_nonneg (Int.emod_nonneg _ (by decide))

theorem enumerationNumber_lt (n : Int32) : enumerationNumber n < 2 ^ 64 := by
  have hnumber := enumerationNumber_eq n
  omega

theorem toInt_toInt32 (a : UInt32) : a.toInt32.toInt = (a.toNat : Int).bmod (2 ^ 32) :=
  BitVec.toInt_eq_toNat_bmod a.toBitVec

/-- The low 32 bits of the number are those of the enumeration. -/
theorem toInt32_enumerationNumber (n : Int32) :
    (UInt32.ofNat (enumerationNumber n)).toInt32 = n := by
  have hlow := n.le_toInt
  have hhigh := n.toInt_lt
  rw [← Int32.toInt_inj, toInt_toInt32, UInt32.toNat_ofNat', Int.bmod_def]
  push_cast
  rw [enumerationNumber_eq]
  split <;> omega

/-! ## Fields that may be left out -/

section Optional

variable {α : Type} (step : α → Field → Option α) (tag : Nat)

def textField (s : String) : List Field :=
  if s = "" then [] else [⟨tag, .chunk (Utf8.encode s)⟩]

def numberField (n : Nat) : List Field :=
  if n = 0 then [] else [⟨tag, .number n⟩]

theorem flatMap_textField (s : String) :
    (textField tag s).flatMap Field.write = putTextField tag s := by
  unfold textField putTextField
  split
  · rfl
  · exact List.flatMap_singleton _ _

theorem flatMap_numberField (n : Nat) :
    (numberField tag n).flatMap Field.write = putNumberField tag n := by
  unfold numberField putNumberField
  split
  · rfl
  · exact List.flatMap_singleton _ _

theorem putEnumeration_eq (n : Int32) :
    putEnumeration tag n = putNumberField tag (enumerationNumber n) := rfl

/-- A text that is left out is what the message holds before. -/
theorem foldlM_textField (s : String) (set : String → α)
    (hset : ∀ bytes, step (set "") ⟨tag, .chunk bytes⟩ = (Utf8.decode? bytes).map set) :
    (textField tag s).foldlM step (set "") = some (set s) := by
  unfold textField
  split
  · next hempty =>
    rw [hempty]
    rfl
  · rw [List.foldlM_cons, hset, Utf8.decode?_encode]
    rfl

theorem foldlM_numberField (n : Nat) (set : Nat → α)
    (hset : step (set 0) ⟨tag, .number n⟩ = some (set n)) :
    (numberField tag n).foldlM step (set 0) = some (set n) := by
  unfold numberField
  split
  · next hzero =>
    rw [hzero]
    rfl
  · rw [List.foldlM_cons, hset]
    rfl

theorem foldlM_word32 (v : UInt32) (set : UInt32 → α)
    (hset : ∀ n, step (set 0) ⟨tag, .number n⟩ = some (set (.ofNat n))) :
    (numberField tag v.toNat).foldlM step (set 0) = some (set v) := by
  have hnumber := foldlM_numberField step tag v.toNat (fun n => set (.ofNat n)) (hset _)
  rwa [UInt32.ofNat_toNat] at hnumber

theorem foldlM_word64 (v : UInt64) (set : UInt64 → α)
    (hset : ∀ n, step (set 0) ⟨tag, .number n⟩ = some (set (.ofNat n))) :
    (numberField tag v.toNat).foldlM step (set 0) = some (set v) := by
  have hnumber := foldlM_numberField step tag v.toNat (fun n => set (.ofNat n)) (hset _)
  rwa [UInt64.ofNat_toNat] at hnumber

theorem foldlM_enumeration (v : Int32) (set : Int32 → α)
    (hset : ∀ n, step (set 0) ⟨tag, .number n⟩ = some (set (UInt32.ofNat n).toInt32)) :
    (numberField tag (enumerationNumber v)).foldlM step (set 0) = some (set v) := by
  have hnumber := foldlM_numberField step tag (enumerationNumber v)
    (fun n => set (UInt32.ofNat n).toInt32) (hset _)
  rwa [toInt32_enumerationNumber] at hnumber

end Optional

section Writable

variable {tag : Nat} (h : 1 ≤ tag) (h' : tag < 2 ^ 29)

include h h'

theorem writable_chunk (bytes : List UInt8) : Field.Writable ⟨tag, .chunk bytes⟩ :=
  ⟨h, h', trivial⟩

theorem writable_textField (s : String) : ∀ f ∈ textField tag s, f.Writable := by
  unfold textField
  split
  · exact List.forall_mem_nil _
  · intro f hf
    rw [List.mem_singleton.1 hf]
    exact writable_chunk h h' _

theorem writable_numberField {n : Nat} (hn : n < 2 ^ 64) :
    ∀ f ∈ numberField tag n, f.Writable := by
  unfold numberField
  split
  · exact List.forall_mem_nil _
  · intro f hf
    rw [List.mem_singleton.1 hf]
    exact ⟨h, h', hn⟩

end Writable

/-- A message is the one that its fields make of a blank one. -/
theorem merge?_write {α : Type} {step : Nat → α → Field → Option α} {depth : Nat} {blank : α}
    {fs : List Field} (h : ∀ f ∈ fs, f.Writable)
    (hlength : (fs.flatMap Field.write).length < 2 ^ 64) :
    merge? step depth blank (fs.flatMap Field.write) = fs.foldlM (step depth) blank := by
  rw [merge?, fields?_write depth h hlength]
  rfl

/-! ## Runners -/

namespace RunnerRecord

/-- The fields that a record is written as. -/
def fields (r : RunnerRecord) : List Field :=
  textField 1 r.runnerId ++ textField 2 r.runnerName ++ textField 3 r.agentId ++
    numberField 4 (enumerationNumber r.state) ++ textField 5 r.ipAddress ++
    numberField 6 r.createdAt.toNat ++ textField 7 r.errorMessage ++
    numberField 8 (enumerationNumber r.guestState)

theorem flatMap_fields (r : RunnerRecord) : r.fields.flatMap Field.write = r.encode := by
  simp only [encode, fields, List.flatMap_append, flatMap_textField, flatMap_numberField,
    putEnumeration_eq]

theorem writable_fields (r : RunnerRecord) : ∀ f ∈ r.fields, f.Writable := by
  simp only [fields, List.forall_mem_append]
  refine ⟨⟨⟨⟨⟨⟨⟨?_, ?_⟩, ?_⟩, ?_⟩, ?_⟩, ?_⟩, ?_⟩, ?_⟩
  · exact writable_textField (by omega) (by omega) _
  · exact writable_textField (by omega) (by omega) _
  · exact writable_textField (by omega) (by omega) _
  · exact writable_numberField (by omega) (by omega) (enumerationNumber_lt _)
  · exact writable_textField (by omega) (by omega) _
  · exact writable_numberField (by omega) (by omega) r.createdAt.toNat_lt
  · exact writable_textField (by omega) (by omega) _
  · exact writable_numberField (by omega) (by omega) (enumerationNumber_lt _)

theorem foldlM_fields (depth : Nat) (r : RunnerRecord) :
    r.fields.foldlM (step? depth) blank = some r := by
  obtain ⟨id, name, agent, state, address, created, message, guest⟩ := r
  have hid := foldlM_textField (step? depth) 1 id
    (fun v => ⟨v, "", "", 0, "", 0, "", 0⟩) fun _ => rfl
  have hname := foldlM_textField (step? depth) 2 name
    (fun v => ⟨id, v, "", 0, "", 0, "", 0⟩) fun _ => rfl
  have hagent := foldlM_textField (step? depth) 3 agent
    (fun v => ⟨id, name, v, 0, "", 0, "", 0⟩) fun _ => rfl
  have hstate := foldlM_enumeration (step? depth) 4 state
    (fun v => ⟨id, name, agent, v, "", 0, "", 0⟩) fun _ => rfl
  have haddress := foldlM_textField (step? depth) 5 address
    (fun v => ⟨id, name, agent, state, v, 0, "", 0⟩) fun _ => rfl
  have hcreated := foldlM_word64 (step? depth) 6 created
    (fun v => ⟨id, name, agent, state, address, v, "", 0⟩) fun _ => rfl
  have hmessage := foldlM_textField (step? depth) 7 message
    (fun v => ⟨id, name, agent, state, address, created, v, 0⟩) fun _ => rfl
  have hguest := foldlM_enumeration (step? depth) 8 guest
    (fun v => ⟨id, name, agent, state, address, created, message, v⟩) fun _ => rfl
  simp only [fields, blank, List.foldlM_append, Option.bind_eq_bind, hid, hname, hagent, hstate,
    haddress, hcreated, hmessage, hguest, Option.bind_some]

/-- A record is read back from its bytes, however deep it is nested. -/
theorem merge?_encode (depth : Nat) {r : RunnerRecord} (h : r.encode.length < 2 ^ 64) :
    merge? step? depth blank r.encode = some r := by
  rw [← flatMap_fields] at h ⊢
  rw [merge?_write r.writable_fields h, foldlM_fields]

end RunnerRecord

/-! ## Snapshots -/

namespace Snapshot

/-- The fields that a snapshot is written as. -/
def fields (s : Snapshot) : List Field :=
  textField 1 s.agentId ++ numberField 2 s.activeRunners.toNat ++
    s.runners.map fun r => ⟨3, .chunk r.encode⟩

theorem flatMap_fields (s : Snapshot) : s.fields.flatMap Field.write = s.encode := by
  simp only [encode, fields, List.flatMap_append, flatMap_textField, flatMap_numberField,
    List.flatMap_map]
  rfl

theorem writable_fields (s : Snapshot) : ∀ f ∈ s.fields, f.Writable := by
  have hactive := s.activeRunners.toNat_lt
  simp only [fields, List.forall_mem_append]
  refine ⟨⟨?_, ?_⟩, ?_⟩
  · exact writable_textField (by omega) (by omega) _
  · exact writable_numberField (by omega) (by omega) (by omega)
  · intro f hf
    obtain ⟨r, -, rfl⟩ := List.mem_map.1 hf
    exact writable_chunk (by omega) (by omega) _

/-- A nested record is appended to those read before. -/
theorem step?_record {depth : Nat} {s : Snapshot} {r : RunnerRecord}
    (h : r.encode.length < 2 ^ 64) :
    step? (depth + 1) s ⟨3, .chunk r.encode⟩ = some { s with runners := s.runners ++ [r] } := by
  have hread := RunnerRecord.merge?_encode depth h
  simp only [step?, Payload.nested?, Nat.succ_ne_zero, if_false, Nat.add_sub_cancel, hread,
    Option.bind_eq_bind, Option.bind_some, Option.pure_def]

theorem foldlM_records {depth : Nat} {s : Snapshot} {rs : List RunnerRecord}
    (h : ∀ r ∈ rs, r.encode.length < 2 ^ 64) :
    (rs.map fun r => (⟨3, .chunk r.encode⟩ : Field)).foldlM (step? (depth + 1)) s =
      some { s with runners := s.runners ++ rs } := by
  induction rs generalizing s with
  | nil => simp
  | cons r rs ih =>
    have hfirst := h r List.mem_cons_self
    have hrest := ih (s := { s with runners := s.runners ++ [r] })
      fun x hx => h x (List.mem_cons_of_mem r hx)
    rw [List.map_cons, List.foldlM_cons, step?_record hfirst, Option.bind_eq_bind,
      Option.bind_some, hrest, List.append_assoc, List.singleton_append]

theorem decode?_encode {s : Snapshot} (h : s.encode.length < 2 ^ 64) :
    decode? s.encode = some s := by
  have hlength : ∀ r ∈ s.runners, r.encode.length < 2 ^ 64 := by
    intro r hr
    have hmem : (⟨3, .chunk r.encode⟩ : Field) ∈ s.fields :=
      List.mem_append_right _ (List.mem_map.2 ⟨r, hr, rfl⟩)
    have hle := length_chunk_le hmem
    rw [flatMap_fields] at hle
    omega
  obtain ⟨agent, active, runners⟩ := s
  have hagent := foldlM_textField (step? maxDepth) 1 agent (fun v => ⟨v, 0, []⟩) fun _ => rfl
  have hactive := foldlM_word32 (step? maxDepth) 2 active (fun v => ⟨agent, v, []⟩) fun _ => rfl
  have hrunners : (runners.map fun r => (⟨3, .chunk r.encode⟩ : Field)).foldlM (step? maxDepth)
      ⟨agent, active, []⟩ = some ⟨agent, active, runners⟩ := foldlM_records hlength
  rw [← flatMap_fields] at h ⊢
  rw [decode?, merge?_write (writable_fields _) h]
  simp only [fields, blank, List.foldlM_append, Option.bind_eq_bind, hagent, hactive,
    Option.bind_some]
  exact hrunners

end Snapshot

/-! ## Replies -/

/-- The tag of a command, and the fields that it is written as. -/
def Command.fields : Command → Nat × List Field
  | .createRunner id name script request =>
    (1, textField 1 id ++ textField 2 name ++ textField 3 script ++ textField 4 request)
  | .deleteRunner id request => (2, textField 1 id ++ textField 2 request)
  | .noop => (3, [])

theorem Command.encode_eq (c : Command) :
    Command.encode c = ((Command.fields c).1, (Command.fields c).2.flatMap Field.write) := by
  cases c with
  | createRunner | deleteRunner =>
    simp only [encode, fields, List.flatMap_append, flatMap_textField]
  | noop => rfl

theorem Command.writable_fields (c : Command) : ∀ f ∈ (Command.fields c).2, f.Writable := by
  cases c with
  | createRunner id name script request =>
    simp only [fields, List.forall_mem_append]
    refine ⟨⟨⟨?_, ?_⟩, ?_⟩, ?_⟩
    · exact writable_textField (by omega) (by omega) _
    · exact writable_textField (by omega) (by omega) _
    · exact writable_textField (by omega) (by omega) _
    · exact writable_textField (by omega) (by omega) _
  | deleteRunner id request =>
    simp only [fields, List.forall_mem_append]
    refine ⟨?_, ?_⟩
    · exact writable_textField (by omega) (by omega) _
    · exact writable_textField (by omega) (by omega) _
  | noop => exact List.forall_mem_nil _

/-- A reply without a command yet takes up a command of any tag, and its fields make it the
command that was written. -/
theorem Command.foldlM_fields (depth : Nat) (c : Command) : ∃ blank,
    Reply.target? ⟨none⟩ (Command.fields c).1 = some blank ∧
      (Command.fields c).2.foldlM (Command.step? depth) blank = some c := by
  cases c with
  | createRunner id name script request =>
    have hid := foldlM_textField (Command.step? depth) 1 id
      (fun v => .createRunner v "" "" "") fun _ => rfl
    have hname := foldlM_textField (Command.step? depth) 2 name
      (fun v => .createRunner id v "" "") fun _ => rfl
    have hscript := foldlM_textField (Command.step? depth) 3 script
      (fun v => .createRunner id name v "") fun _ => rfl
    have hrequest := foldlM_textField (Command.step? depth) 4 request
      (fun v => .createRunner id name script v) fun _ => rfl
    refine ⟨_, rfl, ?_⟩
    simp only [fields, List.foldlM_append, Option.bind_eq_bind, hid, hname, hscript, hrequest,
      Option.bind_some]
  | deleteRunner id request =>
    have hid := foldlM_textField (Command.step? depth) 1 id
      (fun v => .deleteRunner v "") fun _ => rfl
    have hrequest := foldlM_textField (Command.step? depth) 2 request
      (fun v => .deleteRunner id v) fun _ => rfl
    refine ⟨_, rfl, ?_⟩
    simp only [fields, List.foldlM_append, Option.bind_eq_bind, hid, hrequest, Option.bind_some]
  | noop => exact ⟨_, rfl, rfl⟩

theorem Command.tag_bounds (c : Command) :
    1 ≤ (Command.fields c).1 ∧ (Command.fields c).1 < 2 ^ 29 := by
  cases c with
  | createRunner | deleteRunner | noop =>
    simp only [fields]
    omega

namespace Reply

variable {r r' : Reply} {depth : Nat} {f : Field} {fs : List Field}

/-- A chunk that holds a command's fields sets the command. -/
theorem step?_command {tag : Nat} {target c : Command} {bytes : List UInt8}
    (htarget : r.target? tag = some target)
    (hread : merge? Command.step? depth target bytes = some c) :
    r.step? (depth + 1) ⟨tag, .chunk bytes⟩ = some ⟨some c⟩ := by
  simp only [step?, htarget, Payload.nested?, Nat.succ_ne_zero, if_false, Nat.add_sub_cancel,
    hread, Option.bind_eq_bind, Option.bind_some, Option.pure_def]

theorem decode?_ofCommand {c : Command} (h : (ofCommand c).encode.length < 2 ^ 64) :
    decode? (ofCommand c).encode = some (ofCommand c) := by
  obtain ⟨htag, htag'⟩ := Command.tag_bounds c
  obtain ⟨blank, htarget, hfields⟩ := Command.foldlM_fields 99 c
  have hbytes : (ofCommand c).encode =
      [(⟨(Command.fields c).1, .chunk (Command.encode c).2⟩ : Field)].flatMap Field.write := by
    rw [List.flatMap_singleton, Command.encode_eq]
    simp only [encode, ofCommand, Command.encode_eq, Field.write]
  have hwritable : ∀ f ∈ [(⟨(Command.fields c).1, .chunk (Command.encode c).2⟩ : Field)],
      f.Writable := by
    intro f hf
    rw [List.mem_singleton.1 hf]
    exact writable_chunk htag htag' _
  rw [hbytes] at h ⊢
  have hlength : (Command.encode c).2.length < 2 ^ 64 :=
    Nat.lt_of_le_of_lt (length_chunk_le List.mem_cons_self) h
  have hcommand : merge? Command.step? 99 blank (Command.encode c).2 = some c := by
    rw [Command.encode_eq] at hlength ⊢
    rw [merge?_write (Command.writable_fields c) hlength, hfields]
  have hstep : step? maxDepth ⟨none⟩ ⟨(Command.fields c).1, .chunk (Command.encode c).2⟩ =
      some (ofCommand c) := step?_command htarget hcommand
  rw [decode?, merge?_write hwritable h, List.foldlM_cons, hstep]
  rfl

/-! ## Replies without a command -/

theorem target?_eq_none_iff {tag : Nat} : r.target? tag = none ↔ tag ∉ [1, 2, 3] := by
  constructor
  · intro h hmem
    simp only [List.mem_cons, List.not_mem_nil, or_false] at hmem
    rcases hmem with rfl | rfl | rfl
    · rcases hcommand : r.command with _ | ⟨_ | _ | _⟩ <;> simp [target?, hcommand] at h
    · rcases hcommand : r.command with _ | ⟨_ | _ | _⟩ <;> simp [target?, hcommand] at h
    · cases h
  · intro h
    simp only [List.mem_cons, List.not_mem_nil, or_false, not_or] at h
    unfold target?
    split
    · exact absurd rfl h.1
    · exact absurd rfl h.1
    · exact absurd rfl h.2.1
    · exact absurd rfl h.2.1
    · exact absurd rfl h.2.2
    · rfl

/-- A field of one of the commands' tags sets a command, and no other field does. -/
theorem command_step? (h : r.step? depth f = some r') :
    r'.command = none ↔ r.command = none ∧ f.tag ∉ [1, 2, 3] := by
  rw [← target?_eq_none_iff (r := r)]
  unfold step? at h
  split at h
  · next target htarget =>
    obtain ⟨bytes, -, hmerge⟩ := Option.bind_eq_some_iff.1 h
    obtain ⟨command, -, hcommand⟩ := Option.bind_eq_some_iff.1 hmerge
    cases hcommand
    simp [htarget]
  · next hnone =>
    cases h
    simp [hnone]

theorem foldlM_of_foreign (h : ∀ f ∈ fs, f.tag ∉ [1, 2, 3]) :
    fs.foldlM (step? depth) r = some r := by
  induction fs with
  | nil => rfl
  | cons f fs ih =>
    have htarget : r.target? f.tag = none := target?_eq_none_iff.2 (h f List.mem_cons_self)
    have hstep : r.step? depth f = some r := by rw [step?, htarget]
    rw [List.foldlM_cons, hstep]
    exact ih fun g hg => h g (List.mem_cons_of_mem f hg)

theorem command_foldlM (h : fs.foldlM (step? depth) r = some r') :
    r'.command = none ↔ r.command = none ∧ ∀ f ∈ fs, f.tag ∉ [1, 2, 3] := by
  induction fs generalizing r with
  | nil =>
    cases h
    simp
  | cons f fs ih =>
    rw [List.foldlM_cons] at h
    obtain ⟨next, hstep, hrest⟩ := Option.bind_eq_some_iff.1 h
    rw [ih hrest, command_step? hstep, List.forall_mem_cons, and_assoc]

theorem toCommand_eq_error_iff {e : ReplyError} :
    r.toCommand = .error e ↔ r.command = none := by
  unfold toCommand
  cases r.command with
  | none => cases e; simp
  | some c => simp

/-- A reply is rejected if and only if it has no field of a command's tag. -/
theorem missingCommand_iff (bytes : List UInt8) :
    (decode? bytes).map toCommand = some (.error .missingCommand) ↔
      ∃ fields, fields? maxDepth bytes = some fields ∧ ∀ f ∈ fields, f.tag ∉ [1, 2, 3] := by
  unfold decode? merge?
  constructor
  · intro h
    obtain ⟨r, hread, hmissing⟩ := Option.map_eq_some_iff.1 h
    obtain ⟨fields, hfields, hfold⟩ := Option.bind_eq_some_iff.1 hread
    refine ⟨fields, hfields, ?_⟩
    exact ((command_foldlM hfold).1 (toCommand_eq_error_iff.1 hmissing)).2
  · rintro ⟨fields, hfields, hforeign⟩
    rw [hfields, Option.bind_eq_bind, Option.bind_some, foldlM_of_foreign hforeign]
    rfl

end Reply

/-! ## Round trips -/

theorem stateOfCode_of_foreign {n : Int32} (h : ∀ state, codeOfState state ≠ n) :
    stateOfCode n = .unspecified := by
  have hnone : RunnerState.all.find? (codeOfState · == n) = none :=
    List.find?_eq_none.2 fun state _ heq => h state (beq_iff_eq.1 heq)
  rw [stateOfCode, hnone, Option.getD_none]

theorem guestOfCode_of_foreign {n : Int32} (h : ∀ state, codeOfGuest state ≠ n) :
    guestOfCode n = .unspecified := by
  have hnone : GuestState.all.find? (codeOfGuest · == n) = none :=
    List.find?_eq_none.2 fun state _ heq => h state (beq_iff_eq.1 heq)
  rw [guestOfCode, hnone, Option.getD_none]

theorem toRunner_ofRunner (r : Runner) :
    (RunnerRecord.ofRunner r).toRunner = { r with setupScript := "" } := by
  simp only [RunnerRecord.toRunner, RunnerRecord.ofRunner, stateOfCode_codeOfState,
    guestOfCode_codeOfGuest]

/-- Commands come back as they were sent, and runners do so except for their setup scripts. A number
that names no state is read as `unspecified`, and a reply that sets no command is rejected. The
bounds are those of a length, which is written as a number of 64 bits. -/
theorem round_trips :
    (∀ c : Command, (Reply.ofCommand c).encode.length < 2 ^ 64 →
      (Reply.decode? (Reply.ofCommand c).encode).map Reply.toCommand = some (.ok c)) ∧
    (∀ (agent : AgentId) (active : UInt32) (runners : List Runner),
      let sent : Snapshot := ⟨agent, active, runners.map .ofRunner⟩
      sent.encode.length < 2 ^ 64 → ∃ s, Snapshot.decode? sent.encode = some s ∧
        s.agentId = agent ∧ s.activeRunners = active ∧
        s.runners.map (·.toRunner) = runners.map ({ · with setupScript := "" })) ∧
    (∀ sent : Snapshot, sent.encode.length < 2 ^ 64 →
      Snapshot.decode? sent.encode = some sent ∧ ∀ r ∈ sent.runners,
        ((∀ state, codeOfState state ≠ r.state) → r.toRunner.state = .unspecified) ∧
        ((∀ state, codeOfGuest state ≠ r.guestState) → r.toRunner.guestState = .unspecified)) ∧
    ∀ bytes : List UInt8,
      (Reply.decode? bytes).map Reply.toCommand = some (.error .missingCommand) ↔
        ∃ fields, fields? maxDepth bytes = some fields ∧ ∀ f ∈ fields, f.tag ∉ [1, 2, 3] := by
  refine ⟨?_, ?_, ?_, Reply.missingCommand_iff⟩
  · intro c hlength
    rw [Reply.decode?_ofCommand hlength]
    rfl
  · intro agent active runners sent hlength
    refine ⟨sent, Snapshot.decode?_encode hlength, rfl, rfl, ?_⟩
    simp only [sent, List.map_map]
    exact List.map_congr_left fun r _ => toRunner_ofRunner r
  · intro sent hlength
    refine ⟨Snapshot.decode?_encode hlength, ?_⟩
    intro r _
    exact ⟨stateOfCode_of_foreign, guestOfCode_of_foreign⟩

/-- An empty creation and the command to do nothing are told apart from no command, and a record
with a state of a later schema is read. -/
theorem round_trips_sparse :
    (Reply.decode? [10, 0]).map Reply.toCommand = some (.ok (.createRunner "" "" "" "")) ∧
    (Reply.decode? [26, 0]).map Reply.toCommand = some (.ok .noop) ∧
    (Reply.decode? []).map Reply.toCommand = some (.error .missingCommand) ∧
    let r : RunnerRecord := { RunnerRecord.blank with state := 99 }
    Snapshot.decode? [26, 2, 32, 99] = some ⟨"", 0, [r]⟩ ∧ r.toRunner.state = .unspecified := by
  obtain ⟨hcommand, -, hforeign, hmissing⟩ := round_trips
  have hcreate : (Reply.ofCommand (.createRunner "" "" "" "")).encode = [10, 0] := by
    simp [Reply.encode, Reply.ofCommand, Command.encode, putTextField, putChunk, putKey,
      putNumber_of_lt]
  have hnoop : (Reply.ofCommand .noop).encode = [26, 0] := by
    simp [Reply.encode, Reply.ofCommand, Command.encode, putChunk, putKey, putNumber_of_lt]
  have hnumbers : enumerationNumber 99 = 99 ∧ enumerationNumber 0 = 0 := by decide
  have hrecord : RunnerRecord.encode { RunnerRecord.blank with state := 99 } = [32, 99] := by
    simp [RunnerRecord.encode, RunnerRecord.blank, putTextField, putEnumeration_eq, hnumbers,
      putNumberField, putKey, putNumber_of_lt]
  have hsnapshot : Snapshot.encode ⟨"", 0, [{ RunnerRecord.blank with state := 99 }]⟩ =
      [26, 2, 32, 99] := by
    simp [Snapshot.encode, hrecord, putTextField, putNumberField, putChunk, putKey,
      putNumber_of_lt]
  have hread := hcommand (.createRunner "" "" "" "")
  have hread' := hcommand .noop
  have hread'' := hforeign ⟨"", 0, [{ RunnerRecord.blank with state := 99 }]⟩
  rw [hcreate] at hread
  rw [hnoop] at hread'
  rw [hsnapshot] at hread''
  obtain ⟨hdecoded, hrecords⟩ := hread'' (by decide)
  refine ⟨hread (by decide), hread' (by decide), ?_, hdecoded, ?_⟩
  · exact (hmissing []).2 ⟨[], rfl, List.forall_mem_nil _⟩
  · refine (hrecords _ List.mem_cons_self).1 ?_
    intro state
    cases state <;> decide

end RunnerFleet.Wire

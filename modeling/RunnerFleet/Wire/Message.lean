import RunnerFleet.Agent
import RunnerFleet.Command
import RunnerFleet.Text.Utf8
import RunnerFleet.Wire.Field

/-!
# Messages between agents, coordinator and callers

Each message is read by folding its fields into a default value: a later field replaces an earlier
one, a list grows, a nested message is merged into what was there, and a field with an unknown tag
is passed over. Writing goes by ascending tag and leaves defaults out.
-/

namespace RunnerFleet.Wire

/-- A runner as snapshots carry it. Enumerations travel as signed 32-bit numbers. -/
structure RunnerRecord where
  runnerId : String
  runnerName : String
  agentId : String
  state : Int32
  ipAddress : String
  createdAt : UInt64
  errorMessage : String
  guestState : Int32
  deriving DecidableEq, Repr

/-- What an agent reports of itself. -/
structure Snapshot where
  agentId : String
  activeRunners : UInt32
  runners : List RunnerRecord
  deriving DecidableEq, Repr

/-- The coordinator's answer to a snapshot; a well-formed one carries a command. -/
structure Reply where
  command : Option Command
  deriving DecidableEq, Repr

/-- What an agent registers with. -/
structure Registration where
  hostname : String
  capacity : Option Capacity
  deriving DecidableEq, Repr

/-- A caller's request for a new runner. -/
structure AddRequest where
  runnerName : String
  setupScript : String
  resourceType : String
  labels : List String
  deriving DecidableEq, Repr

def RunnerRecord.blank : RunnerRecord := ⟨"", "", "", 0, "", 0, "", 0⟩
def Snapshot.blank : Snapshot := ⟨"", 0, []⟩
def Registration.blank : Registration := ⟨"", none⟩
def AddRequest.blank : AddRequest := ⟨"", "", "", []⟩

/-! ## Payloads as values -/

namespace Payload

def text? : Payload → Option String
  | chunk bytes => Utf8.decode? bytes
  | _ => none

/-- The low 32 bits of a number. -/
def word32? : Payload → Option UInt32
  | number n => some (UInt32.ofNat n)
  | _ => none

def word64? : Payload → Option UInt64
  | number n => some (UInt64.ofNat n)
  | _ => none

/-- The low 32 bits of a number, as a signed one. -/
def enumeration? (p : Payload) : Option Int32 := p.word32?.map UInt32.toInt32

/-- The bytes of a nested message, if it may be nested this deep. -/
def nested? (depth : Nat) : Payload → Option (List UInt8)
  | chunk bytes => if depth = 0 then none else some bytes
  | _ => none

end Payload

/-- Reads a message: splits it into fields and merges each into `start`. -/
def merge? {α : Type} (step : Nat → α → Field → Option α) (depth : Nat) (start : α)
    (bytes : List UInt8) : Option α := do
  let fields ← fields? depth bytes
  fields.foldlM (step depth) start

/-! ## Reading -/

def Capacity.step? (_ : Nat) (c : Capacity) (f : Field) : Option Capacity :=
  match f.tag with
  | 1 => f.payload.word32?.map fun v => { c with maxRunners := v }
  | 2 => f.payload.word32?.map fun v => { c with cpuCores := v }
  | 3 => f.payload.word64?.map fun v => { c with memoryBytes := v }
  | _ => some c

def RunnerRecord.step? (_ : Nat) (r : RunnerRecord) (f : Field) : Option RunnerRecord :=
  match f.tag with
  | 1 => f.payload.text?.map fun v => { r with runnerId := v }
  | 2 => f.payload.text?.map fun v => { r with runnerName := v }
  | 3 => f.payload.text?.map fun v => { r with agentId := v }
  | 4 => f.payload.enumeration?.map fun v => { r with state := v }
  | 5 => f.payload.text?.map fun v => { r with ipAddress := v }
  | 6 => f.payload.word64?.map fun v => { r with createdAt := v }
  | 7 => f.payload.text?.map fun v => { r with errorMessage := v }
  | 8 => f.payload.enumeration?.map fun v => { r with guestState := v }
  | _ => some r

def Snapshot.step? (depth : Nat) (s : Snapshot) (f : Field) : Option Snapshot :=
  match f.tag with
  | 1 => f.payload.text?.map fun v => { s with agentId := v }
  | 2 => f.payload.word32?.map fun v => { s with activeRunners := v }
  | 3 => do
    let bytes ← f.payload.nested? depth
    let runner ← merge? RunnerRecord.step? (depth - 1) RunnerRecord.blank bytes
    return { s with runners := s.runners ++ [runner] }
  | _ => some s

def Registration.step? (depth : Nat) (r : Registration) (f : Field) : Option Registration :=
  match f.tag with
  | 1 => f.payload.text?.map fun v => { r with hostname := v }
  | 2 => do
    let bytes ← f.payload.nested? depth
    let capacity ← merge? Capacity.step? (depth - 1) (r.capacity.getD .none) bytes
    return { r with capacity := some capacity }
  | _ => some r

def AddRequest.step? (_ : Nat) (r : AddRequest) (f : Field) : Option AddRequest :=
  match f.tag with
  | 1 => f.payload.text?.map fun v => { r with runnerName := v }
  | 2 => f.payload.text?.map fun v => { r with setupScript := v }
  | 3 => f.payload.text?.map fun v => { r with resourceType := v }
  | 4 => f.payload.text?.map fun v => { r with labels := r.labels ++ [v] }
  | _ => some r

/-- A field of a command, of the kind that the command already has. -/
def Command.step? (_ : Nat) (c : Command) (f : Field) : Option Command :=
  match c, f.tag with
  | .createRunner _ name script request, 1 =>
    f.payload.text?.map fun v => .createRunner v name script request
  | .createRunner id _ script request, 2 =>
    f.payload.text?.map fun v => .createRunner id v script request
  | .createRunner id name _ request, 3 =>
    f.payload.text?.map fun v => .createRunner id name v request
  | .createRunner id name script _, 4 =>
    f.payload.text?.map fun v => .createRunner id name script v
  | .deleteRunner _ request, 1 => f.payload.text?.map fun v => .deleteRunner v request
  | .deleteRunner id _, 2 => f.payload.text?.map fun v => .deleteRunner id v
  | c, _ => some c

/-- The command that a field of this tag is merged into: the one at hand if it is of that kind. -/
def Reply.target? (r : Reply) (tag : Nat) : Option Command :=
  match tag, r.command with
  | 1, some (.createRunner id name script request) => some (.createRunner id name script request)
  | 1, _ => some (.createRunner "" "" "" "")
  | 2, some (.deleteRunner id request) => some (.deleteRunner id request)
  | 2, _ => some (.deleteRunner "" "")
  | 3, _ => some .noop
  | _, _ => none

def Reply.step? (depth : Nat) (r : Reply) (f : Field) : Option Reply :=
  match r.target? f.tag with
  | some target => do
    let bytes ← f.payload.nested? depth
    let command ← merge? Command.step? (depth - 1) target bytes
    return ⟨some command⟩
  | none => some r

def Capacity.decode? (bytes : List UInt8) : Option Capacity :=
  merge? Capacity.step? maxDepth .none bytes

def RunnerRecord.decode? (bytes : List UInt8) : Option RunnerRecord :=
  merge? RunnerRecord.step? maxDepth .blank bytes

def Snapshot.decode? (bytes : List UInt8) : Option Snapshot :=
  merge? Snapshot.step? maxDepth .blank bytes

def Reply.decode? (bytes : List UInt8) : Option Reply := merge? Reply.step? maxDepth ⟨none⟩ bytes

def Registration.decode? (bytes : List UInt8) : Option Registration :=
  merge? Registration.step? maxDepth .blank bytes

def AddRequest.decode? (bytes : List UInt8) : Option AddRequest :=
  merge? AddRequest.step? maxDepth .blank bytes

/-! ## Writing -/

/-- A text field; the empty text is left out. -/
def putTextField (tag : Nat) (s : String) : List UInt8 :=
  if s = "" then [] else putChunk tag (Utf8.encode s)

/-- An enumeration field: negative numbers take all 64 bits, zero is left out. -/
def putEnumeration (tag : Nat) (n : Int32) : List UInt8 :=
  putNumberField tag (n.toInt % UInt64.size).toNat

def Capacity.encode (c : Capacity) : List UInt8 :=
  putNumberField 1 c.maxRunners.toNat ++ putNumberField 2 c.cpuCores.toNat ++
    putNumberField 3 c.memoryBytes.toNat

def RunnerRecord.encode (r : RunnerRecord) : List UInt8 :=
  putTextField 1 r.runnerId ++ putTextField 2 r.runnerName ++ putTextField 3 r.agentId ++
    putEnumeration 4 r.state ++ putTextField 5 r.ipAddress ++
    putNumberField 6 r.createdAt.toNat ++ putTextField 7 r.errorMessage ++
    putEnumeration 8 r.guestState

def Snapshot.encode (s : Snapshot) : List UInt8 :=
  putTextField 1 s.agentId ++ putNumberField 2 s.activeRunners.toNat ++
    s.runners.flatMap fun r => putChunk 3 r.encode

def Registration.encode (r : Registration) : List UInt8 :=
  putTextField 1 r.hostname ++
    match r.capacity with
    | some c => putChunk 2 (Capacity.encode c)
    | none => []

def AddRequest.encode (r : AddRequest) : List UInt8 :=
  putTextField 1 r.runnerName ++ putTextField 2 r.setupScript ++ putTextField 3 r.resourceType ++
    r.labels.flatMap fun l => putChunk 4 (Utf8.encode l)

/-- The tag of a command and the bytes of its fields. -/
def Command.encode : Command → Nat × List UInt8
  | .createRunner id name script request =>
    (1, putTextField 1 id ++ putTextField 2 name ++ putTextField 3 script ++ putTextField 4 request)
  | .deleteRunner id request => (2, putTextField 1 id ++ putTextField 2 request)
  | .noop => (3, [])

def Reply.encode (r : Reply) : List UInt8 :=
  match r.command with
  | some c => putChunk (Command.encode c).1 (Command.encode c).2
  | none => []

end RunnerFleet.Wire

/-!
# Fields on the wire

A message is a sequence of fields, each a number and a payload. Numbers travel in base 128, low
digits first, with the high bit set on all bytes but the last. `fields?` splits bytes into fields;
groups, which no message here uses, are passed over whole.
-/

namespace RunnerFleet.Wire

/-- What a field carries. -/
inductive Payload where
  | number (n : Nat)
  | eightBytes (bytes : List UInt8)
  | chunk (bytes : List UInt8)
  | group
  | fourBytes (bytes : List UInt8)
  deriving DecidableEq, Repr

/-- One field of a message. -/
structure Field where
  tag : Nat
  payload : Payload
  deriving DecidableEq, Repr

/-! ## Numbers -/

/-- Writes a number in base 128. -/
def putNumber (n : Nat) : List UInt8 :=
  if n < 128 then [UInt8.ofNat n] else UInt8.ofNat (n % 128 + 128) :: putNumber (n / 128)

/-- Reads a number of at most `places` digits; the last place holds one bit. -/
def getDigits? : Nat → List UInt8 → Option (Nat × List UInt8)
  | 0, _ => none
  | _, [] => none
  | places + 1, b :: rest =>
    if b.toNat < 128 then
      if places = 0 ∧ b.toNat > 1 then none else some (b.toNat, rest)
    else
      (getDigits? places rest).map fun (high, rest) => (b.toNat - 128 + 128 * high, rest)

/-- Reads a number below `2 ^ 64`, in at most ten bytes. -/
def getNumber? (bytes : List UInt8) : Option (Nat × List UInt8) := getDigits? 10 bytes

/-! ## Splitting a message -/

/-- The first `n` bytes and the rest, if there are that many. -/
def splitBytes? (n : Nat) (bytes : List UInt8) : Option (List UInt8 × List UInt8) :=
  if n ≤ bytes.length then some (bytes.splitAt n) else none

/-- Reads a field's tag and the kind of its payload. -/
def getKey? (bytes : List UInt8) : Option (Nat × Nat × List UInt8) := do
  let (key, rest) ← getNumber? bytes
  if key < UInt32.size ∧ key / 8 ≥ 1 ∧ key % 8 ≤ 5 then some (key / 8, key % 8, rest) else none

/-- Passes over fields until the group `tag` ends; `depth` bounds how groups may be nested. -/
def skipGroup? : Nat → Nat → Nat → List UInt8 → Option (List UInt8)
  | 0, _, _, _ => none
  | fuel + 1, depth, tag, bytes => do
    let (inner, kind, rest) ← getKey? bytes
    match kind with
    | 4 => if inner = tag then some rest else none
    | 3 =>
      if depth = 0 then none
      else
        let rest ← skipGroup? fuel (depth - 1) inner rest
        skipGroup? fuel depth tag rest
    | _ =>
      if depth = 0 then none
      else
        let rest ← match kind with
          | 0 => (getNumber? rest).map Prod.snd
          | 1 => (splitBytes? 8 rest).map Prod.snd
          | 5 => (splitBytes? 4 rest).map Prod.snd
          | _ => do
            let (n, rest) ← getNumber? rest
            (splitBytes? n rest).map Prod.snd
        skipGroup? fuel depth tag rest

/-- Reads one field; `depth` bounds how groups may be nested. -/
def getField? (depth : Nat) (bytes : List UInt8) : Option (Field × List UInt8) := do
  let (tag, kind, rest) ← getKey? bytes
  match kind with
  | 0 =>
    let (n, rest) ← getNumber? rest
    some (⟨tag, .number n⟩, rest)
  | 1 =>
    let (chunk, rest) ← splitBytes? 8 rest
    some (⟨tag, .eightBytes chunk⟩, rest)
  | 2 =>
    let (n, rest) ← getNumber? rest
    let (chunk, rest) ← splitBytes? n rest
    some (⟨tag, .chunk chunk⟩, rest)
  | 3 =>
    let rest ← skipGroup? (rest.length + 1) (depth - 1) tag rest
    some (⟨tag, .group⟩, rest)
  | 5 =>
    let (chunk, rest) ← splitBytes? 4 rest
    some (⟨tag, .fourBytes chunk⟩, rest)
  | _ => none

/-- Reads fields to the end of the bytes; each takes at least one byte of the fuel. -/
def fieldsWithin? : Nat → Nat → List UInt8 → Option (List Field)
  | _, _, [] => some []
  | 0, _, _ => none
  | fuel + 1, depth, bytes => do
    let (field, rest) ← getField? depth bytes
    let others ← fieldsWithin? fuel depth rest
    some (field :: others)

/-- How deep messages and groups may be nested. -/
def maxDepth : Nat := 100

/-- The fields of a message that is nested in `100 - depth` others. -/
def fields? (depth : Nat) (bytes : List UInt8) : Option (List Field) :=
  fieldsWithin? bytes.length depth bytes

/-! ## Writing fields -/

/-- A field's tag and the kind of its payload. -/
def putKey (tag kind : Nat) : List UInt8 := putNumber (tag * 8 + kind)

/-- A field of bytes with their length in front. -/
def putChunk (tag : Nat) (bytes : List UInt8) : List UInt8 :=
  putKey tag 2 ++ putNumber bytes.length ++ bytes

/-- A number field; zero is left out. -/
def putNumberField (tag n : Nat) : List UInt8 :=
  if n = 0 then [] else putKey tag 0 ++ putNumber n

end RunnerFleet.Wire

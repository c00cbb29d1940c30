import RunnerFleet.Decimal.Reading
import RunnerFleet.Json.Parser
import RunnerFleet.Table

/-!
# Reading leniently

Scripts and plans are documents in which everything may be left out: a field that is missing or
`null` has its type's blank value, and so has a value of the wrong kind. Bytes are given as a text,
or in hexadecimal under the key with `_hex` behind it.
-/

namespace RunnerFleet.Json

/-- Types with a reading that never fails, and the value of what is missing. -/
class Lenient (α : Type) where
  ofJson : Json → α
  blank : α

/-- Reads a value. -/
def read {α : Type} [Lenient α] (j : Json) : α := Lenient.ofJson j

/-- The value of a key; `null` counts as missing. -/
def field? (j : Json) (key : String) : Option Json :=
  match j with
  | record fields =>
    match fields.find? (·.1 == some key) with
    | none => none
    | some (_, null) => none
    | some (_, v) => some v
  | _ => none

/-- The field of a record, or another value when it is missing. -/
def getD {α : Type} [Lenient α] (j : Json) (key : String) (fallback : α) : α :=
  ((j.field? key).map read).getD fallback

/-- The field of a record. -/
def get {α : Type} [Lenient α] (j : Json) (key : String) : α := j.getD key Lenient.blank

/-- The fields of a record with readable keys. -/
def fields : Json → List (String × Json)
  | record fields => fields.filterMap fun f => f.1.map (·, f.2)
  | _ => []

/-! ## Values -/

def toText : Json → String
  | text s => s
  | _ => ""

def toWhole : Json → Int
  | whole n => n
  | _ => 0

def toFlag : Json → Bool
  | bool b => b
  | _ => false

def toItems : Json → List Json
  | list items => items
  | _ => []

/-- A number, or a text that denotes one. -/
def toDouble : Json → Float
  | whole n => Decimal.toDouble (n < 0) n.natAbs 0
  | decimal negative digits exponent => Decimal.toDouble negative digits exponent
  | text s => (Decimal.read? s).getD 0.0
  | _ => 0.0

instance : Lenient Json := ⟨id, record []⟩
instance : Lenient String := ⟨toText, ""⟩
instance : Lenient Int := ⟨toWhole, 0⟩
instance : Lenient Nat := ⟨fun j => j.toWhole.toNat, 0⟩
instance : Lenient Bool := ⟨toFlag, false⟩
instance : Lenient UInt32 := ⟨fun j => .ofNat j.toWhole.toNat, 0⟩
instance : Lenient UInt64 := ⟨fun j => .ofNat j.toWhole.toNat, 0⟩
instance : Lenient Int32 := ⟨fun j => .ofInt j.toWhole, 0⟩
instance : Lenient Float := ⟨toDouble, 0.0⟩
instance {α : Type} [Lenient α] : Lenient (Option α) := ⟨fun j => some j.read, none⟩
instance {α : Type} [Lenient α] : Lenient (List α) := ⟨fun j => j.toItems.map read, []⟩

instance {α : Type} [Lenient α] : Lenient (Table α) where
  ofJson j := j.fields.foldl (fun t f => t.insert f.1 f.2.read) .empty
  blank := .empty

/-! ## Bytes -/

/-- The value of a hexadecimal digit. -/
def nibble (c : Char) : Nat := (hexValue? (UInt8.ofNat c.toNat)).getD 0

/-- The bytes of a text of hexadecimal digits; a last single digit says nothing. -/
def bytesOfHex : List Char → List UInt8
  | a :: b :: rest => UInt8.ofNat (nibble a * 16 + nibble b) :: bytesOfHex rest
  | _ => []

/-- The bytes of a field, if there are any. -/
def bytes? (j : Json) (key : String) : Option (List UInt8) :=
  match j.field? (key ++ "_hex") with
  | some hex => some (bytesOfHex hex.toText.toList)
  | none => (j.field? key).map fun v => Utf8.encode v.toText

def bytes (j : Json) (key : String) : List UInt8 := (j.bytes? key).getD []

end RunnerFleet.Json

import RunnerFleet.Toml.Basic

/-!
# Tables with known fields

A table of known fields is read from a TOML table, in which unknown keys are passed over, or from an
array that gives the fields in their order, in which further items are passed over. A moment counts
as a table of unknown keys. Every field has a fallback.
-/

namespace RunnerFleet.Toml

/-- The values of the known fields, `none` where a field is missing. -/
def pick? (keys : List String) : Toml → Option (List (Option Toml))
  | table _ entries => some (keys.map (find? entries))
  | list items => some ((List.range keys.length).map (items[·]?))
  | tables items => some ((List.range keys.length).map fun i => (items[i]?).map (table .header))
  | moment => some (keys.map fun _ => none)
  | _ => none

/-- Reads a present value with `read`, and `fallback` when the field is missing. -/
def defaulted? {α : Type} (read : Toml → Option α) (fallback : α) : Option Toml → Option α
  | some v => read v
  | none => some fallback

def asText? : Toml → Option String
  | text s => some s
  | _ => none

/-- A whole number up to `high`. -/
def asNat? (high : Nat) : Toml → Option Nat
  | integer n => if 0 ≤ n ∧ n ≤ high then some n.toNat else none
  | _ => none

def asWord64? (v : Toml) : Option UInt64 := (v.asNat? (UInt64.size - 1)).map UInt64.ofNat

def asWord32? (v : Toml) : Option UInt32 := (v.asNat? (UInt32.size - 1)).map UInt32.ofNat

def asWord16? (v : Toml) : Option UInt16 := (v.asNat? (UInt16.size - 1)).map UInt16.ofNat

end RunnerFleet.Toml

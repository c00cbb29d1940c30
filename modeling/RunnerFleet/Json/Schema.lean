import RunnerFleet.Clock.Timestamp
import RunnerFleet.Json.Basic

/-!
# Records with known fields

A record of known fields is read from a JSON record, in which unknown keys are passed over and a
known key may stand once, or from a JSON list that gives the fields in their order. A field that is
missing is left to its reader.
-/

namespace RunnerFleet.Json

/-- The values of the known fields, `none` where a field is missing. -/
def pick? (keys : List String) : Json → Option (List (Option Json))
  | record fields =>
    if fields.all (·.1.isSome) then
      keys.mapM fun key =>
        match fields.filter (·.1 == some key) with
        | [] => some none
        | [field] => some (some field.2)
        | _ => none
    else none
  | list items =>
    if items.length ≤ keys.length then
      some (items.map some ++ List.replicate (keys.length - items.length) none)
    else none
  | _ => none

/-- Reads a present value with `read`, and `none` when the field is missing. -/
def required? {α : Type} (read : Json → Option α) (v : Option Json) : Option α := v.bind read

/-- Reads a present value with `read`, and `fallback` when the field is missing. -/
def defaulted? {α : Type} (read : Json → Option α) (fallback : α) : Option Json → Option α
  | some v => read v
  | none => some fallback

def asText? : Json → Option String
  | text s => some s
  | _ => none

/-- A whole number from `low` to `high`. -/
def asWhole? (low high : Int) : Json → Option Int
  | whole n => if low ≤ n ∧ n ≤ high then some n else none
  | _ => none

def asInt32? : Json → Option Int := asWhole? (-2147483648) 2147483647

def asInt64? : Json → Option Int := asWhole? (-9223372036854775808) 9223372036854775807

/-- `null` for nothing, anything else for a value. -/
def asOption? {α : Type} (read : Json → Option α) : Json → Option (Option α)
  | null => some none
  | v => (read v).map some

def asList? {α : Type} (read : Json → Option α) : Json → Option (List α)
  | list items => items.mapM read
  | _ => none

def asTimestamp? (v : Json) : Option Timestamp := v.asText?.bind Timestamp.parse?

/-- One of a set of words, as a text or as the key of a record that holds `null` alone. -/
def asWord? : Json → Option String
  | text s => some s
  | record [(some key, null)] => some key
  | _ => none

end RunnerFleet.Json

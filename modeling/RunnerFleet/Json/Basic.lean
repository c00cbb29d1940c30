/-!
# JSON values

A document is a value. Whole numbers that fit 64 bits are kept apart from all others, which are
exact decimals (`decimal`). A string literal that denotes no text (`badText`) may be passed over by
a reader but cannot be used.
-/

namespace RunnerFleet

/-- A JSON value. A key is `none` when its literal denotes no text. -/
inductive Json where
  | null
  | bool (b : Bool)
  /-- A whole number between `-2 ^ 63` and `2 ^ 64 - 1`. -/
  | whole (n : Int)
  /-- Any other number: `digits · 10 ^ exponent` with a sign. Minus zero is one of them. -/
  | decimal (negative : Bool) (digits : Nat) (exponent : Int)
  | text (s : String)
  | badText
  | list (items : List Json)
  | record (fields : List (Option String × Json))
  deriving Repr, Inhabited

namespace Json

/-- A record with readable keys. -/
def ofFields (fields : List (String × Json)) : Json := record (fields.map fun f => (some f.1, f.2))

def ofNat (n : Nat) : Json := whole n

/-- A value, or `null` for none. -/
def ofOption {α : Type} (f : α → Json) : Option α → Json
  | some a => f a
  | none => null

end Json

end RunnerFleet

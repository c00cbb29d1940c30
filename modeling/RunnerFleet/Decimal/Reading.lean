/-!
# Reading doubles

The double nearest to a decimal, and the forms in which a text may give one: digits with a point and
an exponent, or a word for what has no digits.
-/

namespace RunnerFleet.Decimal

/-- The double nearest to `digits · 10 ^ exponent`, with a sign. -/
def toDouble (negative : Bool) (digits : Nat) (exponent : Int) : Float :=
  let x := Float.ofScientific digits (exponent < 0) exponent.natAbs
  if negative then -x else x

/-- The value of some digits, behind those of `n`. -/
def valueOf (n : Nat) (digits : List Char) : Nat :=
  digits.foldl (fun n c => n * 10 + (c.toNat - '0'.toNat)) n

/-- An exponent with its mark, or nothing. -/
def exponentOf? : List Char → Option Int
  | [] => some 0
  | mark :: rest =>
    let (negative, digits) := match rest with
      | '-' :: digits => (true, digits)
      | '+' :: digits => (false, digits)
      | digits => (false, digits)
    if (mark = 'e' ∨ mark = 'E') ∧ digits ≠ [] ∧ digits.all Char.isDigit then
      some (if negative then -(valueOf 0 digits : Int) else valueOf 0 digits)
    else none

/-- Digits with or without a point, and an exponent; a digit on one side of the point is enough. -/
def digitsOf? (s : List Char) : Option (Nat × Int) := do
  let whole := s.takeWhile Char.isDigit
  let (fraction, rest) := match s.drop whole.length with
    | '.' :: rest => (rest.takeWhile Char.isDigit, rest.dropWhile Char.isDigit)
    | rest => ([], rest)
  let exponent ← exponentOf? rest
  if whole.isEmpty && fraction.isEmpty then none
  else some (valueOf (valueOf 0 whole) fraction, exponent - fraction.length)

/-- The double that a text denotes; words are read in letters of either case. -/
def read? (s : String) : Option Float :=
  let (negative, rest) := match s.toList with
    | '-' :: rest => (true, rest)
    | '+' :: rest => (false, rest)
    | rest => (false, rest)
  let word := String.ofList (rest.map Char.toLower)
  let signed (x : Float) : Float := if negative then -x else x
  if word = "nan" then some (signed (0.0 / 0.0))
  else if word = "inf" ∨ word = "infinity" then some (signed (1.0 / 0.0))
  else (digitsOf? rest).map fun (digits, exponent) => toDouble negative digits exponent

end RunnerFleet.Decimal

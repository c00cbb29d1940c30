/-!
# Double-precision numbers as exact values

A double is a sign and either not a number, infinite, or `m · 2 ^ q` exactly. The exponent of a
finite value is the one its format gives it, so the distance to the next larger double is `2 ^ q`.
-/

namespace RunnerFleet.Decimal

/-- A double without its sign. -/
inductive Magnitude where
  | nan
  | infinite
  /-- The value `m · 2 ^ q`. -/
  | finite (m : Nat) (q : Int)
  deriving DecidableEq, Repr

/-- A double as a sign and a magnitude. -/
structure Binary64 where
  negative : Bool
  magnitude : Magnitude
  deriving DecidableEq, Repr

/-- Reads the sign, the exponent and the fraction off the 64 bits. -/
def Binary64.ofBits (bits : Nat) : Binary64 :=
  let exponent : Nat := (bits >>> 52) % (1 <<< 11)
  let fraction := bits % (1 <<< 52)
  let magnitude :=
    if exponent = 2047 then (if fraction = 0 then .infinite else .nan)
    else if exponent = 0 then .finite fraction (-1074)
    else .finite (1 <<< 52 + fraction) ((exponent : Int) - 1075)
  ⟨(bits >>> 63) % 2 = 1, magnitude⟩

def Binary64.ofFloat (x : Float) : Binary64 := .ofBits x.toBits.toNat

/-- The numerator of `m · 2 ^ q` over `denominator q`. -/
def numerator (m : Nat) (q : Int) : Nat := m <<< q.toNat

/-- A power of two that makes `m · 2 ^ q` a fraction of naturals. -/
def denominator (q : Int) : Nat := 1 <<< (-q).toNat

/-- The decimal digits of `n` to exactly `places` places after the point. -/
def positional (n places : Nat) : String :=
  let digits := Nat.toDigits 10 n
  let padded := List.replicate (places + 1 - digits.length) '0' ++ digits
  let whole := padded.take (padded.length - places)
  let rest := padded.drop (padded.length - places)
  String.ofList (if rest.isEmpty then whole else whole ++ '.' :: rest)

/-- A sign, and a word in place of digits where there are none. -/
def Binary64.write (x : Binary64) (digits : Nat → Int → String) : String :=
  match x.magnitude with
  | .nan => "NaN"
  | .infinite => (if x.negative then "-" else "") ++ "inf"
  | .finite m q => (if x.negative then "-" else "") ++ digits m q

end RunnerFleet.Decimal

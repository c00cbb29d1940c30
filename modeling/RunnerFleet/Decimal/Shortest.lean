import RunnerFleet.Decimal.Binary64

/-!
# The shortest text that reads back

Of all decimals that round to a given double, the ones with the fewest digits are looked at, and of
those the nearest is taken; an exact tie goes up. The text is positional, never with an exponent,
and has no point when the value is whole.
-/

namespace RunnerFleet.Decimal

/-- The largest `k` with `10 ^ k ≤ num / den`, counted down from `fuel` above the lowest. -/
def magnitude10 (num den : Nat) : Nat → Int → Int
  | 0, k => k
  | fuel + 1, k =>
    if den * Nat.pow 10 k.toNat ≤ num * Nat.pow 10 (-k).toNat then k
    else magnitude10 num den fuel (k - 1)

/-- The decimals that round to `m · 2 ^ q`, in quarters of `2 ^ q`: from `low` to `high`, the ends
included when `m` is even. The gap below a power of two is half as wide. -/
structure RoundingInterval where
  low : Nat
  high : Nat
  closed : Bool

def RoundingInterval.of (m : Nat) (q : Int) : RoundingInterval where
  low := if m = 1 <<< 52 ∧ q > -1074 then 4 * m - 1 else 4 * m - 2
  high := 4 * m + 2
  closed := m % 2 = 0

/-- Whether `c · 10 ^ t` lies in the interval, for quarters of `2 ^ q`. -/
def RoundingInterval.contains (i : RoundingInterval) (q t : Int) (c : Nat) : Bool :=
  let value := 4 * c * Nat.pow 10 t.toNat * denominator q
  let unit := 1 <<< q.toNat * Nat.pow 10 (-t).toNat
  if i.closed then i.low * unit ≤ value && value ≤ i.high * unit
  else i.low * unit < value && value < i.high * unit

/-- The nearest grid point `c · 10 ^ t` that rounds to `m · 2 ^ q`, if the grid has one. -/
def onGrid? (m : Nat) (q t : Int) : Option Nat :=
  let i := RoundingInterval.of m q
  let num := numerator m q * Nat.pow 10 (-t).toNat
  let den := denominator q * Nat.pow 10 t.toNat
  let below := num / den
  match i.contains q t below, i.contains q t (below + 1) with
  | true, true => some (if 2 * (num % den) ≥ den then below + 1 else below)
  | true, false => some below
  | false, true => some (below + 1)
  | false, false => none

/-- Tries ever finer grids; the first hit has the fewest digits. -/
def shortestFrom (m : Nat) (q : Int) : Nat → Int → Nat × Int
  | 0, t => (numerator m q * Nat.pow 10 (-t).toNat / (denominator q * Nat.pow 10 t.toNat), t)
  | fuel + 1, t =>
    match onGrid? m q t with
    | some c => (c, t)
    | none => shortestFrom m q fuel (t - 1)

/-- The digits and the power of ten of the shortest decimal of `m · 2 ^ q`; seventeen digits always
suffice. -/
def shortestDigits (m : Nat) (q : Int) : Nat × Int :=
  let top := magnitude10 (numerator m q) (denominator q) 640 309
  shortestFrom m q 18 (top + 1)

/-- The positional text of `c · 10 ^ t`. -/
def scaled (c : Nat) (t : Int) : String :=
  if t ≥ 0 then positional (c * Nat.pow 10 t.toNat) 0 else positional c (-t).toNat

/-- The shortest positional text that reads back as `x`. -/
def shortest (x : Float) : String :=
  (Binary64.ofFloat x).write fun m q =>
    if m = 0 then "0" else let (c, t) := shortestDigits m q; scaled c t

end RunnerFleet.Decimal

/-!
# Lengths of time

A `Span` counts nanoseconds. Its text has the largest unit that leaves a non-zero whole part and as
few digits after the point as the value needs.
-/

namespace RunnerFleet

/-- A length of time in nanoseconds. -/
structure Span where
  nanos : Nat
  deriving DecidableEq, Repr, Inhabited

namespace Span

def ofMillis (ms : Nat) : Span := ⟨ms * 1000000⟩

def ofSecs (s : Nat) : Span := ⟨s * 1000000000⟩

/-- The span in whole milliseconds, rounded down. -/
def millis (d : Span) : Nat := d.nanos / 1000000

/-- The span in timer ticks of one millisecond, rounded up. -/
def ticks (d : Span) : Nat := (d.nanos + 999999) / 1000000

theorem ticks_pos {d : Span} (h : 0 < d.nanos) : 0 < d.ticks :=
  Nat.div_pos (by omega) (by decide)

/-- `digits` with zeros in front, to `width` places. -/
def zeroPadded (width : Nat) (digits : List Char) : List Char :=
  List.replicate (width - digits.length) '0' ++ digits

/-- The digits after the point of `frac / 10 ^ places`, without zeros at the end. -/
def fraction (places frac : Nat) : List Char :=
  ((zeroPadded places (Nat.toDigits 10 frac)).reverse.dropWhile (· == '0')).reverse

/-- A whole part, a fraction of `10 ^ places` and a unit. -/
def inUnit (whole frac places : Nat) (unit : String) : String :=
  let digits := fraction places frac
  let point := if digits.isEmpty then "" else "." ++ String.ofList digits
  toString whole ++ point ++ unit

/-- The span as text, such as `250ms` or `1.5s`. -/
def text (d : Span) : String :=
  if d.nanos ≥ 1000000000 then inUnit (d.nanos / 1000000000) (d.nanos % 1000000000) 9 "s"
  else if d.nanos ≥ 1000000 then inUnit (d.nanos / 1000000) (d.nanos % 1000000) 6 "ms"
  else if d.nanos ≥ 1000 then inUnit (d.nanos / 1000) (d.nanos % 1000) 3 "µs"
  else inUnit d.nanos 0 0 "ns"

end Span

end RunnerFleet

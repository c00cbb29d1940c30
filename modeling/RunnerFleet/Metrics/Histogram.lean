import RunnerFleet.Clock.Span

/-!
# Histograms

A histogram has fixed bounds; each bucket counts every observation not above its bound, so the
counts are cumulative.
-/

namespace RunnerFleet

/-- One bucket: its upper bound and the observations not above it. -/
structure Bucket where
  bound : Float
  count : Nat

/-- Cumulative buckets with the sum and the number of all observations. -/
structure Histogram where
  buckets : List Bucket
  sum : Float
  count : Nat

/-- The span in seconds, as the nearest double to its whole seconds plus its nanoseconds. -/
def Span.toSeconds (d : Span) : Float :=
  Float.ofNat (d.nanos / 1000000000) + Float.ofNat (d.nanos % 1000000000) / 1e9

namespace Histogram

/-- A histogram that has observed nothing. -/
def ofBounds (bounds : List Float) : Histogram := ⟨bounds.map (⟨·, 0⟩), 0.0, 0⟩

/-- The bounds, in seconds, of the histograms of request durations. -/
def durationBounds : List Float := [10.0, 30.0, 60.0, 120.0, 300.0, 600.0]

/-- A duration histogram that has observed nothing. -/
def durations : Histogram := ofBounds durationBounds

/-- Counts one value in a bucket unless it is above the bound. -/
def Bucket.observe (value : Float) (b : Bucket) : Bucket :=
  if value ≤ b.bound then { b with count := b.count + 1 } else b

/-- Counts one value. -/
def observe (h : Histogram) (value : Float) : Histogram where
  buckets := h.buckets.map (Bucket.observe value)
  sum := h.sum + value
  count := h.count + 1

end Histogram

end RunnerFleet

import RunnerFleet.Coordinator.Basic
import RunnerFleet.Vm.Host

/-!
# Waiting for the store to converge

A request looks at the store, pauses, and looks again until it sees what it waits for or its
deadline has come. When a look and the deadline are due at the same moment, the look comes first.
-/

namespace RunnerFleet

/-- The bounds on the waiting of requests. -/
structure RequestLimits where
  add : Span
  delete : Span
  poll : Span
  deriving DecidableEq, Repr

/-- The next look at the store and the end of the waiting. -/
structure Watch where
  nextLook : Instant
  deadline : Instant
  deriving DecidableEq, Repr

namespace Watch

/-- When the waiting goes on: at the next look or at the deadline, whichever comes first. -/
def due (w : Watch) : Instant := min w.nextLook w.deadline

/-- What a waiting comes to at a moment. -/
inductive Sight (α : Type) where
  | seen (a : α)
  | expired
  | waits (w : Watch)

/-- Goes on at `now`; `look` is what the store shows. -/
def resume {α : Type} (w : Watch) (now : Instant) (poll : Span) (look : Option α) : Sight α :=
  let looks := w.nextLook ≤ now
  match decide looks, look with
  | true, some a => .seen a
  | looks, _ =>
    if w.deadline ≤ now then .expired
    else .waits (if looks then { w with nextLook := now + poll.ticks } else w)

end Watch

end RunnerFleet

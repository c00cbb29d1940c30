import RunnerFleet.Clock.Span
import RunnerFleet.Runner
import RunnerFleet.Table

/-!
# The arbiter of guest addresses

A booting guest announces its address under its own hardware id, which is not a runner id. The
arbiter pairs announcements with the runners that wait for one: a guest it has seen before goes to
the oldest wait of the runner it was matched to, any other to the oldest wait overall. A wait
carries a token of its own, since several waits may be for one runner.
-/

namespace RunnerFleet

/-- The hardware id under which a guest announces itself. -/
abbrev GuestId := String

/-- How a wait or an announcement fails. -/
inductive ArbiterError where
  | timeout (runner : RunnerId) (after : Span)
  | noPendingRequests
  | deliveryFailed (runner : RunnerId)
  deriving DecidableEq, Repr

/-- The wording of a failure. -/
def ArbiterError.message : ArbiterError → String
  | timeout runner after =>
    "timeout waiting for IP notification for runner " ++ runner ++ " after " ++ after.text
  | noPendingRequests => "no pending requests"
  | deliveryFailed runner => "could not deliver IP to runner " ++ runner

/-- One wait for an address. -/
structure AddressWait where
  token : Nat
  runner : RunnerId
  deriving DecidableEq, Repr

/-- The waits in the order they began, and the runner each known guest was last matched to. -/
structure Arbiter where
  waits : List AddressWait
  matched : Table RunnerId
  nextToken : Nat
  deriving DecidableEq, Repr, Inhabited

namespace Arbiter

/-- No one waits and no guest is known. -/
def empty : Arbiter := ⟨[], .empty, 0⟩

/-- Begins a wait; the answer is its token. -/
def await (a : Arbiter) (runner : RunnerId) : Arbiter × Nat :=
  ({ a with waits := a.waits ++ [⟨a.nextToken, runner⟩], nextToken := a.nextToken + 1 },
    a.nextToken)

/-- Ends a wait, however it ended. -/
def endWait (a : Arbiter) (token : Nat) : Arbiter :=
  { a with waits := a.waits.filter (·.token != token) }

/-- The wait that an announcement of `guest` goes to. -/
def recipient? (a : Arbiter) (guest : GuestId) : Option AddressWait :=
  let known := (a.matched.get? guest).bind fun runner => a.waits.find? (·.runner == runner)
  known <|> a.waits.head?

/-- Routes an announcement: the answer is the wait it is delivered to. The guest is matched to that
wait's runner from then on. -/
def announce (a : Arbiter) (guest : GuestId) : Arbiter × Except ArbiterError AddressWait :=
  match a.recipient? guest with
  | some w =>
    ({ a with waits := a.waits.erase w, matched := a.matched.insert guest w.runner }, .ok w)
  | none => (a, .error .noPendingRequests)

/-- Ends every wait of a runner and forgets the guests matched to it; the answer lists the waits
that ended. -/
def cancel (a : Arbiter) (runner : RunnerId) : Arbiter × List AddressWait :=
  ({ a with
      waits := a.waits.filter (·.runner != runner)
      matched := a.matched.filter fun _ r => r != runner },
    a.waits.filter (·.runner == runner))

/-- The number of waits. -/
def pending (a : Arbiter) : Nat := a.waits.length

/-- The runner a guest was last matched to. -/
def runnerOfGuest? (a : Arbiter) (guest : GuestId) : Option RunnerId := a.matched.get? guest

end Arbiter

end RunnerFleet

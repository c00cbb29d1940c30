import RunnerFleet.Runner
import RunnerFleet.Table

/-!
# An agent's own runner records

The roster is what an agent knows about the runners it hosts; the coordinator sees snapshots of it.
Moves go through the lifecycle table, except that a failure may be recorded in any state. Each
change leaves a notice; notices do not add up, so many changes leave one.
-/

namespace RunnerFleet

/-- Why an operation on the roster is refused. -/
inductive RosterError where
  | alreadyExists (id : RunnerId)
  | notFound (id : RunnerId)
  | illegalMove (move : IllegalMove)
  deriving DecidableEq, Repr

/-- The wording of a refusal. -/
def RosterError.message : RosterError → String
  | .alreadyExists id => "runner " ++ id ++ " already exists"
  | .notFound id => "runner not found: " ++ id
  | .illegalMove move => move.message

/-- The runners of one agent, and whether a change waits to be noticed. -/
structure Roster where
  runners : Table Runner
  notice : Bool
  deriving DecidableEq, Repr, Inhabited

namespace Roster

/-- No runner, and nothing to notice. -/
def empty : Roster := ⟨.empty, false⟩

/-- Applies a change to the record of one runner. The record stays as the change leaves it, also
when the change is refused; only a change that is made leaves a notice. -/
def update (r : Roster) (id : RunnerId) (change : Runner → Runner × Except RosterError Unit) :
    Roster × Except RosterError Unit :=
  match r.runners.get? id with
  | none => (r, .error (.notFound id))
  | some runner =>
    let (runner, answer) := change runner
    let r := { r with runners := r.runners.insert id runner }
    match answer with
    | .ok () => ({ r with notice := true }, .ok ())
    | .error e => (r, .error e)

/-- Accepts a new runner. -/
def create (r : Roster) (runner : Runner) : Roster × Except RosterError Unit :=
  if r.runners.contains runner.id then (r, .error (.alreadyExists runner.id))
  else (⟨r.runners.insert runner.id runner, true⟩, .ok ())

def get (r : Roster) (id : RunnerId) : Except RosterError Runner :=
  match r.runners.get? id with
  | some runner => .ok runner
  | none => .error (.notFound id)

/-- All runners, in the order of their ids. -/
def list (r : Roster) : List Runner := r.runners.values

def count (r : Roster) : Nat := r.runners.size

/-- Moves a runner along the lifecycle table. -/
def moveTo (r : Roster) (id : RunnerId) (state : RunnerState) : Roster × Except RosterError Unit :=
  r.update id fun runner =>
    match runner.state.moveTo state with
    | .ok state => ({ runner with state }, .ok ())
    | .error move => (runner, .error (.illegalMove move))

/-- Records a failure, whatever the runner's state. -/
def setError (r : Roster) (id : RunnerId) (message : String) : Roster × Except RosterError Unit :=
  r.update id fun runner => ({ runner with state := .error, errorMessage := message }, .ok ())

def setAddress (r : Roster) (id : RunnerId) (address : String) : Roster × Except RosterError Unit :=
  r.update id fun runner => ({ runner with ipAddress := address }, .ok ())

def setGuestState (r : Roster) (id : RunnerId) (state : GuestState) :
    Roster × Except RosterError Unit :=
  r.update id fun runner => ({ runner with guestState := state }, .ok ())

/-- Forgets a runner; the answer is its last record. -/
def delete (r : Roster) (id : RunnerId) : Roster × Except RosterError Runner :=
  match r.runners.get? id with
  | some runner => (⟨r.runners.erase id, true⟩, .ok runner)
  | none => (r, .error (.notFound id))

/-- Takes the waiting notice, if there is one. -/
def takeNotice (r : Roster) : Roster × Bool := ({ r with notice := false }, r.notice)

end Roster

end RunnerFleet

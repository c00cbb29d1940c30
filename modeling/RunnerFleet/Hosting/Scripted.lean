import RunnerFleet.Hosting.Timeline

/-!
# A VM manager that follows a script

Every operation is planned: how long it takes, whether it returns, whether the runner's record is
lost meanwhile, and how it ends. The manager keeps the list of what it was asked and of the state
that the runner's record was in.
-/

namespace RunnerFleet.Hosting

/-- How one operation goes. -/
structure Plan where
  delay : Nat
  hangs : Bool
  /-- The runner's record is deleted while the operation runs. -/
  forgets : Bool
  error : Option VmError
  /-- The address that a start gives. -/
  address : String
  /-- The state that a guest reports. -/
  guest : Int
  deriving Repr

/-- At once, and well. -/
def Plan.smooth : Plan := ⟨0, false, false, none, "192.168.64.20", 0⟩

/-- The plans of operations by their verbs, for all runners and for some. -/
structure Script where
  general : Table Plan
  own : Table (Table Plan)

/-- Every operation succeeds. -/
def Script.smooth : Script := ⟨.empty, .empty⟩

/-- The word for an operation. -/
def verbOf : VmOperation → String
  | .create => "create"
  | .start => "start"
  | .stop => "stop"
  | .delete => "delete"
  | .awaitSsh => "ssh"
  | .setUp _ => "setup"
  | .guest .status => "status"
  | .guest (.exec _ _) => "exec"

/-- The plan of an operation on a runner. -/
def Script.planOf (s : Script) (runner : RunnerId) (op : VmOperation) : Plan :=
  let own := (s.own.get? runner).bind (·.get? (verbOf op))
  (own <|> s.general.get? (verbOf op)).getD .smooth

/-- An operation as it was asked for, and the state of the runner's record then. -/
structure Call where
  at_ : Instant
  runner : RunnerId
  operation : VmOperation
  state : Option RunnerState

/-- The manager: its script, and what it was asked. -/
structure Scripted where
  script : Script
  calls : List Call

namespace Scripted

/-- What an operation returns when it succeeds. -/
def valueOf (plan : Plan) (runner : RunnerId) : VmOperation → VmValue
  | .create => .created runner
  | .start => .address plan.address
  | .guest .status => .status ⟨plan.guest, "", "", [], none, none⟩
  | .guest (.exec _ _) => .exec ⟨"", 0, none⟩
  | _ => .done

def begin (now : Instant) (runner : RunnerId) (op : VmOperation) (m : Scripted) (h : Hosting) :
    Begun Scripted :=
  let plan := m.script.planOf runner op
  let call : Call := ⟨now, runner, op, (h.roster.runners.get? runner).map (·.state)⟩
  { manager := { m with calls := m.calls ++ [call] }
    result :=
      if plan.hangs then none
      else some (plan.delay, fun m h =>
        let roster := if plan.forgets then (h.roster.delete runner).1 else h.roster
        (m, { h with roster }, match plan.error with
          | some e => .error e
          | none => .ok (valueOf plan runner op))) }

/-- The manager as a parameter of a host's timeline. -/
def manager : VmManager Scripted := ⟨begin⟩

end Scripted

end RunnerFleet.Hosting

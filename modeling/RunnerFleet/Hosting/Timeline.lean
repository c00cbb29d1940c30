import RunnerFleet.Clock.Agenda
import RunnerFleet.Hosting.Basic

/-!
# A host's tasks under one clock

Runs the tasks of one host side by side. What the VM operations do is a parameter (`VmManager`): it
says for each operation how long it takes and what it returns.
-/

namespace RunnerFleet.Hosting

/-- What becomes of an operation: the manager as it is at once and, unless the operation never
returns, its duration and its result. -/
structure Begun (σ : Type) where
  manager : σ
  result : Option (Nat × (σ → Hosting → σ × Hosting × Except VmError VmValue))

/-- Carries out VM operations. -/
structure VmManager (σ : Type) where
  begin : Instant → RunnerId → VmOperation → σ → Hosting → Begun σ

/-- A task that is waiting, by its token. -/
inductive Job (σ : Type) where
  | opening (token : Nat)
  | returning (token : Nat) (result : σ → Hosting → σ × Hosting × Except VmError VmValue)

/-- The token of the task that waits. -/
def Job.token {σ : Type} : Job σ → Nat
  | opening token => token
  | returning token _ => token

/-- One host under its clock. -/
structure Timeline (σ : Type) where
  agenda : Agenda (Job σ)
  hosting : Hosting
  manager : σ
  /-- The tasks that have ended, with the moment. -/
  ended : List (Instant × Nat)

namespace Timeline

variable {σ : Type}

def start (manager : σ) : Timeline σ := ⟨.empty, .empty, manager, []⟩

def now (t : Timeline σ) : Instant := t.agenda.now

/-- Forgets the waiting of tasks that were cancelled. -/
def dropCancelled (t : Timeline σ) : Timeline σ :=
  { t with agenda := (t.agenda.drop fun job => (t.hosting.task? job.token).isNone).1 }

/-- Lets a task go on from a new stage until it has to wait. The fuel bounds how many operations may
return without time passing. -/
def pursue (m : VmManager σ) (token : Nat) : Nat → Timeline σ → Timeline σ
  | 0, t => t
  | fuel + 1, t =>
    match t.hosting.task? token with
    | none => { t with ended := t.ended ++ [(t.now, token)] }
    | some task =>
      match task.errand.operation? with
      | none => t
      | some op =>
        let begun := m.begin t.now task.runner op t.manager t.hosting
        let t := { t with manager := begun.manager }
        match begun.result with
        | none => t
        | some (0, f) =>
          let (manager, hosting, r) := f t.manager t.hosting
          pursue m token fuel { t with manager, hosting := hosting.resume task r }
        | some (delay, f) =>
          { t with agenda := t.agenda.add (some (t.now + delay)) (.returning token f) }

/-- Bounds the steps that a task may take without time passing; a task has at most five. -/
def pursueFuel : Nat := 10

/-- Lets a task that is due go on. -/
def run (m : VmManager σ) (t : Timeline σ) (job : Job σ) : Timeline σ :=
  match t.hosting.task? job.token with
  | none => t
  | some task =>
    match job with
    | .opening token =>
      pursue m token pursueFuel ({ t with hosting := t.hosting.begin task }.dropCancelled)
    | .returning token f =>
      let (manager, hosting, r) := f t.manager t.hosting
      pursue m token pursueFuel { t with manager, hosting := hosting.resume task r }

/-- Runs what is due by the horizon, one task after the other. -/
def runDue (m : VmManager σ) (horizon : Instant) : Nat → Timeline σ → Timeline σ
  | 0, t => t
  | fuel + 1, t =>
    match t.agenda.next? (some horizon) with
    | none => t
    | some (job, agenda) => runDue m horizon fuel (run m { t with agenda } job)

/-- Runs what is due now. -/
def settle (m : VmManager σ) (fuel : Nat) (t : Timeline σ) : Timeline σ := runDue m t.now fuel t

/-- Lets the clock run for a while. -/
def advance (m : VmManager σ) (fuel : Nat) (t : Timeline σ) (ms : Nat) : Timeline σ :=
  let target := t.now + ms
  let t := runDue m target fuel t
  { t with agenda := { t.agenda with now := max t.agenda.now target } }

/-- Begins a task at once. -/
def spawn (t : Timeline σ) (runner : RunnerId) (errand : Errand) : Timeline σ × Nat :=
  let (hosting, token) := t.hosting.spawn runner errand
  ({ t with hosting, agenda := t.agenda.add (some t.now) (.opening token) }, token)

/-- Carries out a reply at once. -/
def dispatch (t : Timeline σ) (agent : AgentId) (calendar : UInt64) (reply : Wire.Reply) :
    Timeline σ :=
  match t.hosting.dispatchReply agent calendar reply with
  | (hosting, some token) =>
    { t with hosting, agenda := t.agenda.add (some t.now) (.opening token) }
  | (hosting, none) => { t with hosting }

end Timeline

end RunnerFleet.Hosting

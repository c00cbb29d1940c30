/-!
# What is to happen next

An agenda holds the tasks that are between two steps, each with the moment at which it goes on, if a
moment is set. The clock moves only when the next task is taken. Tasks that are due at the same
moment go on in the order in which they were put off.
-/

namespace RunnerFleet

/-- A task between two steps. -/
structure Entry (τ : Type) where
  order : Nat
  due : Option Nat
  task : τ

/-- The clock and the tasks that wait. -/
structure Agenda (τ : Type) where
  now : Nat
  nextOrder : Nat
  entries : List (Entry τ)

namespace Agenda

variable {τ : Type}

/-- The clock at zero, and nothing to do. -/
def empty : Agenda τ := ⟨0, 0, []⟩

/-- Puts a task off. -/
def add (a : Agenda τ) (due : Option Nat) (task : τ) : Agenda τ :=
  { a with entries := a.entries ++ [⟨a.nextOrder, due, task⟩], nextOrder := a.nextOrder + 1 }

/-- The earlier of two entries: by moment, then by order. -/
def earlier (best : Option (Nat × Entry τ)) (e : Entry τ) : Option (Nat × Entry τ) :=
  match best, e.due with
  | best, none => best
  | none, some due => some (due, e)
  | some (d, b), some due =>
    if due < d ∨ (due = d ∧ e.order < b.order) then some (due, e) else some (d, b)

/-- The entry that is due first. -/
def first? (a : Agenda τ) : Option (Nat × Entry τ) := a.entries.foldl earlier none

/-- Takes the task that is due first, if it is due by the horizon, and moves the clock there. -/
def next? (a : Agenda τ) (horizon : Option Nat) : Option (τ × Agenda τ) :=
  match a.first? with
  | none => none
  | some (due, e) =>
    if horizon.all (due ≤ ·) then
      some (e.task, { a with
        now := max a.now due
        entries := a.entries.filter (·.order != e.order) })
    else none

/-- Rewrites the waiting tasks: `f` gives a task's new form if it is to go on at once. -/
def rouse (a : Agenda τ) (f : τ → Option τ) : Agenda τ :=
  a.entries.foldl
    (fun a' e =>
      match f e.task with
      | some task => a'.add (some a.now) task
      | none => { a' with entries := a'.entries ++ [e] })
    { a with entries := [] }

/-- Drops the waiting tasks that `p` picks; the answer lists them. -/
def drop (a : Agenda τ) (p : τ → Bool) : Agenda τ × List τ :=
  ({ a with entries := a.entries.filter fun e => !p e.task },
    (a.entries.filter fun e => p e.task).map (·.task))

end Agenda

end RunnerFleet

import RunnerFleet.Runner
import RunnerFleet.Table

/-!
# Commands and their queues

The coordinator never pushes to an agent. A command waits in the agent's queue until a snapshot of
that agent arrives, and each snapshot takes exactly one. Nothing in a queue expires.
-/

namespace RunnerFleet

/-- An instruction for one agent. -/
inductive Command where
  | createRunner (runner : RunnerId) (name setupScript requestId : String)
  | deleteRunner (runner : RunnerId) (requestId : String)
  | noop
  deriving DecidableEq, Repr, Inhabited

/-- Whether the command creates this runner. -/
def Command.creates (c : Command) (runner : RunnerId) : Bool :=
  match c with
  | .createRunner id _ _ _ => id == runner
  | _ => false

/-- The commands waiting for each agent, oldest first. -/
structure Outbox where
  queues : Table (List Command)
  deriving DecidableEq, Repr, Inhabited

namespace Outbox

/-- No command waits for anyone. -/
def empty : Outbox := ⟨.empty⟩

/-- The commands waiting for `agent`, oldest first. -/
def queueOf (m : Outbox) (agent : AgentId) : List Command := (m.queues.get? agent).getD []

def enqueue (m : Outbox) (agent : AgentId) (command : Command) : Outbox :=
  ⟨m.queues.insert agent (m.queueOf agent ++ [command])⟩

/-- Queues a command unless the very same command already waits for the agent; the answer says
whether it was queued. -/
def enqueueUnique (m : Outbox) (agent : AgentId) (command : Command) : Outbox × Bool :=
  if (m.queueOf agent).contains command then (m, false) else (m.enqueue agent command, true)

/-- The agent whose queue holds a command creating `runner`. The queues may be searched in any
order: a creation is queued once, by the request that minted the id of its runner, so there is one
such agent at most. -/
def holderOfCreate? (m : Outbox) (runner : RunnerId) : Option AgentId :=
  (m.queues.entries.find? fun e => e.2.any (·.creates runner)).map Prod.fst

/-- Takes back a creation of `runner` that no agent has received; the answer is the agent it was
queued for. -/
def withdrawCreate (m : Outbox) (runner : RunnerId) : Outbox × Option AgentId :=
  match m.holderOfCreate? runner with
  | some agent =>
    (⟨m.queues.insert agent ((m.queueOf agent).eraseP (·.creates runner))⟩, some agent)
  | none => (m, none)

/-- Takes the oldest command of `agent`, or `noop` when none waits. -/
def next (m : Outbox) (agent : AgentId) : Outbox × Command :=
  match m.queueOf agent with
  | command :: rest => (⟨m.queues.insert agent rest⟩, command)
  | [] => (m, .noop)

/-- The number of commands waiting for `agent`. -/
def pending (m : Outbox) (agent : AgentId) : Nat := (m.queueOf agent).length

end Outbox

end RunnerFleet

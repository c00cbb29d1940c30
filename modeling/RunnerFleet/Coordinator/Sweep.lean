import RunnerFleet.Coordinator.Basic

/-!
# Sweeping runners stuck in error

A runner in error that is older than the grace period is deleted through its agent, by a command
without a request id, unless that very command already waits there. A runner that no agent owns is
dropped from the store.
-/

namespace RunnerFleet

/-- What one sweep did. -/
structure SweepReport where
  queued : Nat
  removed : Nat
  deriving DecidableEq, Repr

namespace Sweep

/-- A grace period in whole milliseconds, in 64 bits. -/
def graceMillis (grace : Span) : UInt64 := UInt64.ofNat grace.millis

/-- Whether a sweep at `now` takes the runner: it is in error and older than the grace period. -/
def takes (now : UInt64) (grace : UInt64) (runner : Runner) : Bool :=
  runner.state == .error && (if now < runner.createdAt then 0 else now - runner.createdAt) > grace

/-- The command that deletes a swept runner. -/
def deletion (runner : RunnerId) : Command := .deleteRunner runner ""

/-- Sweeps one runner. -/
def sweepOne (s : Coordinator × SweepReport) (runner : Runner) : Coordinator × SweepReport :=
  let (c, report) := s
  match c.store.agentOfRunner runner.id with
  | .ok agent =>
    match c.outbox.enqueueUnique agent (deletion runner.id) with
    | (outbox, true) => ({ c with outbox }, { report with queued := report.queued + 1 })
    | (_, false) => (c, report)
  | .error _ =>
    match c.store.deleteRunner runner.id with
    | (store, .ok _) => ({ c with store }, { report with removed := report.removed + 1 })
    | (store, .error _) => ({ c with store }, report)

end Sweep

/-- One sweep at the wall-clock moment `now`. -/
def Coordinator.sweep (c : Coordinator) (now : UInt64) (grace : Span) : Coordinator × SweepReport :=
  (c.store.listRunners.filter (Sweep.takes now (Sweep.graceMillis grace))).foldl Sweep.sweepOne
    (c, ⟨0, 0⟩)

end RunnerFleet

import RunnerFleet.Vm.Host

/-!
# Reaching a guest over its shell

Waiting until the guest lets a shell in: a pause, then a check, again and again until the deadline.
A check is cut off at the deadline, a pause is not.
-/

namespace RunnerFleet.Reach

/-- Where the wait is between two of its steps; `attempts` counts the checks begun. -/
inductive Point where
  | pausing (address : String) (deadline : Instant) (attempts : Nat) (until_ : Instant)
  | checking (address : String) (deadline : Instant) (attempts : Nat)
  deriving DecidableEq, Repr

def Point.waiting : Point → Waiting
  | pausing _ _ _ until_ => .pause until_
  | checking address deadline _ => .replyBy (.checkReachable address) deadline

/-- Pauses before the next check. -/
def pause (c : VmContext) (address : String) (deadline : Instant) (attempts : Nat) :
    Turn Point Unit :=
  .waits (.pausing address deadline attempts (c.now + c.limits.sshPoll.ticks))

/-- The first step. -/
def begin (c : VmContext) (runner : RunnerId) (h : VmHost) : Turn Point Unit :=
  match h.addressOf runner with
  | .ok address => pause c address (c.now + c.limits.ssh.ticks) 0
  | .error e => .finished (.error e)

/-- After a check that did not succeed. -/
def onFailure (c : VmContext) (address : String) (deadline : Instant) (attempts : Nat) :
    Turn Point Unit :=
  if c.now ≥ deadline then .finished (.error (.sshTimeout attempts))
  else pause c address deadline attempts

/-- The step that a signal leads to; one that is not waited for changes nothing. -/
def resume (c : VmContext) : Point → Signal → Turn Point Unit
  | .pausing address deadline attempts _, .resumed =>
    .waits (.checking address deadline (attempts + 1))
  | .checking _ _ _, .replied (.ok .done) => .finished (.ok ())
  | .checking address deadline attempts, .replied (.error _) =>
    onFailure c address deadline attempts
  | .checking address deadline attempts, .expired => onFailure c address deadline attempts
  | p, _ => .waits p

end RunnerFleet.Reach

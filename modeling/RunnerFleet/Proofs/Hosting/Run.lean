import RunnerFleet.Hosting.Session
import RunnerFleet.Proofs.Hosting.Tasks

/-!
# Runs of a host

A host beside whatever carries out its VM operations (`VmService`). The steps are finer than those
of a host under its clock: asking for an operation, its steps, its return and what the task makes of
the return are apart, and so are the cancelling of a provisioning and the first step of the teardown
that waits for it. Between any two steps of one task any steps of others may come, and the outside
is free in what it answers. `Change` and `Received` say once what a step can do.

The record of a run keeps the commands that came, the operations that tasks asked for, and what
these returned.
-/

namespace RunnerFleet

/-- The turn is one that the operation can take: it goes on with the same operation, and a start
that succeeds gives an address. -/
def Turn.Fits {Point : Type} (operationOf : Point → VmOperation) (op : VmOperation) :
    Turn Point VmValue → Prop
  | .finished (.ok v) => op = .start → ∃ ip, v = .address ip
  | .finished (.error _) => True
  | .waits p => operationOf p = op

/-- What carries out VM operations. An operation is a sequence of steps, and `Input` is what the
outside contributes to one of them. An `Event` happens to the VMs outside of any operation. -/
structure VmService where
  State : Type
  Point : Type
  Input : Type
  Event : Type
  begin : State → RunnerId → VmOperation → Input → State × Turn Point VmValue
  resume : State → RunnerId → Point → Input → State × Turn Point VmValue
  /-- Gives up an operation between two of its steps; it has no effect from then on. -/
  abandon : State → Point → State
  happen : State → Event → State
  operationOf : Point → VmOperation
  begin_fits : ∀ s runner op i, (begin s runner op i).2.Fits operationOf op
  resume_fits : ∀ s runner p i, (resume s runner p i).2.Fits operationOf (operationOf p)

/-- How far an operation is that a task has asked for. -/
inductive Stage (V : VmService) where
  | running (p : V.Point)
  /-- It has returned, and its task has not gone on yet. -/
  | returned (result : Except VmError VmValue)

/-- The stage after a turn. -/
def Stage.ofTurn {V : VmService} : Turn V.Point VmValue → Stage V
  | .waits p => .running p
  | .finished r => .returned r

/-- An operation that a task asked for. -/
structure VmCall where
  runner : RunnerId
  operation : VmOperation
  deriving DecidableEq, Repr

/-- What an operation returned to its task. -/
structure VmReturn where
  runner : RunnerId
  operation : VmOperation
  result : Except VmError VmValue
  deriving DecidableEq, Repr

/-- A host in the course of a run. -/
structure HostRun (V : VmService) where
  hosting : Hosting
  vms : V.State
  stages : Nat → Option (Stage V)
  commands : List Command
  calls : List VmCall
  returns : List VmReturn

/-- A step of a host by itself. -/
inductive Move (V : VmService) where
  /-- The first step of a task. A teardown waits for the task that it has cancelled. -/
  | begin (token : Nat)
  /-- A task asks for the operation that it is to wait for. -/
  | ask (token : Nat) (i : V.Input)
  /-- A step of an operation that was asked for. -/
  | work (token : Nat) (i : V.Input)
  /-- A task goes on from what its operation returned. -/
  | goOn (token : Nat)
  /-- A cancelled task ends where it is. -/
  | drop (token : Nat)
  | vm (e : V.Event)
  /-- A guest has answered that was asked for the state of its job. -/
  | noteGuest (asked : Runner) (result : Except VmError GuestStatus)
  | takeNotice

/-- What may happen to a host: a reply of the coordinator comes, or the host makes a step. -/
inductive HostEvent (V : VmService) where
  | receive (agent : AgentId) (now : UInt64) (reply : Wire.Reply)
  | move (m : Move V)

namespace HostRun

open Hosting (task?_token remove_of_gone)

variable {V : VmService}

/-- A host that has just started, over VMs in whatever state. -/
def start (vms : V.State) : HostRun V := ⟨.empty, vms, fun _ => none, [], [], []⟩

def setStage (s : HostRun V) (token : Nat) (stage : Option (Stage V)) : HostRun V :=
  { s with stages := fun k => if k = token then stage else s.stages k }

/-- Whether the task that a teardown has cancelled is gone. -/
def clear (s : HostRun V) : Errand → Bool
  | .teardown (some token) => (s.hosting.task? token).isNone
  | _ => true

/-- Whether a teardown that has not begun is to cancel the task first. -/
def isHeld (s : HostRun V) (token : Nat) : Bool :=
  s.hosting.tasks.any (·.errand == .teardown (some token))

/-- The VMs once the operation of a task is given up. -/
def vmsWithout (s : HostRun V) (token : Nat) : V.State :=
  match s.stages token with
  | some (.running p) => V.abandon s.vms p
  | _ => s.vms

/-- Carries out a reply; one without a command is ignored. -/
def receive (s : HostRun V) (agent : AgentId) (now : UInt64) (reply : Wire.Reply) : HostRun V :=
  { s with
    hosting := (s.hosting.dispatchReply agent now reply).1
    commands := s.commands ++ reply.command.toList }

/-- One step; a step that is not to be made yet, or not any more, changes nothing. -/
def step (s : HostRun V) : Move V → HostRun V
  | .begin token =>
    match s.hosting.task? token with
    | some t =>
      if t.errand.operation? = none ∧ s.clear t.errand then { s with hosting := s.hosting.begin t }
      else s
    | none => s
  | .ask token i =>
    match s.hosting.task? token, s.stages token with
    | some t, none =>
      match t.errand.operation? with
      | some op =>
        let (vms, turn) := V.begin s.vms t.runner op i
        ({ s with vms, calls := s.calls ++ [⟨t.runner, op⟩] } : HostRun V).setStage token
          (some (.ofTurn turn))
      | none => s
    | _, _ => s
  | .work token i =>
    match s.hosting.task? token, s.stages token with
    | some t, some (.running p) =>
      let (vms, turn) := V.resume s.vms t.runner p i
      ({ s with vms } : HostRun V).setStage token (some (.ofTurn turn))
    | _, _ => s
  | .goOn token =>
    match s.hosting.task? token, s.stages token with
    | some t, some (.returned result) =>
      match t.errand.operation? with
      | some op =>
        ({ s with
          hosting := s.hosting.resume t result
          returns := s.returns ++ [⟨t.runner, op, result⟩] } : HostRun V).setStage token none
      | none => s
    | _, _ => s
  | .drop token =>
    match s.hosting.task? token with
    | some _ =>
      if s.isHeld token then
        ({ s with
          hosting := s.hosting.cancel token
          vms := s.vmsWithout token } : HostRun V).setStage token none
      else s
    | none => s
  | .vm e => { s with vms := V.happen s.vms e }
  | .noteGuest asked result => { s with hosting := Session.noteGuest s.hosting asked result }
  | .takeNotice =>
    { s with hosting := { s.hosting with roster := s.hosting.roster.takeNotice.1 } }

def onEvent (s : HostRun V) : HostEvent V → HostRun V
  | .receive agent now reply => s.receive agent now reply
  | .move m => s.step m

/-- The host after some events. -/
def after (s : HostRun V) (es : List (HostEvent V)) : HostRun V := es.foldl onEvent s

theorem after_append_singleton (s : HostRun V) (es : List (HostEvent V)) (e : HostEvent V) :
    s.after (es ++ [e]) = (s.after es).onEvent e := by
  simp only [after, List.foldl_append, List.foldl_cons, List.foldl_nil]

/-! ## What a step can do -/

/-- What a step of a host can change. -/
inductive Change (s : HostRun V) : HostRun V → Prop where
  | stays : Change s s
  /-- A provisioning begins, or goes on after an operation. -/
  | entered (t : HostTask) (script : String) (reg : Bool) (p : Provision.Point) (roster : Roster)
      (ht : s.hosting.task? t.token = some t) (he : t.errand = .provision script reg none)
      (hroster : Provision.begin s.hosting.roster t.runner = (roster, some p)) :
      Change s { s with
        hosting := { s.hosting with roster }.setErrand t.token (.provision script reg (some p)) }
  /-- A provisioning ends before its first operation. -/
  | refused (t : HostTask) (script : String) (reg : Bool)
      (ht : s.hosting.task? t.token = some t) (he : t.errand = .provision script reg none) :
      Change s { s with hosting := s.hosting.finish t }
  /-- A teardown begins, after the task that it has cancelled is gone. -/
  | undertaken (t : HostTask) (inFlight : Option Nat)
      (ht : s.hosting.task? t.token = some t) (he : t.errand = .teardown inFlight)
      (hclear : ∀ k, inFlight = some k → s.hosting.task? k = none) :
      Change s { s with
        hosting := { s.hosting with
          roster := Teardown.begin s.hosting.roster t.runner }.setErrand t.token .deletion }
  | asked (t : HostTask) (op : VmOperation) (i : V.Input)
      (ht : s.hosting.task? t.token = some t) (hop : t.errand.operation? = some op)
      (hstage : s.stages t.token = none) :
      Change s (({ s with
        vms := (V.begin s.vms t.runner op i).1
        calls := s.calls ++ [⟨t.runner, op⟩] } : HostRun V).setStage t.token
          (some (.ofTurn (V.begin s.vms t.runner op i).2)))
  | worked (t : HostTask) (p : V.Point) (i : V.Input)
      (ht : s.hosting.task? t.token = some t) (hstage : s.stages t.token = some (.running p)) :
      Change s (({ s with vms := (V.resume s.vms t.runner p i).1 } : HostRun V).setStage t.token
        (some (.ofTurn (V.resume s.vms t.runner p i).2)))
  /-- A provisioning goes on from what an operation returned. -/
  | advanced (t : HostTask) (script : String) (reg : Bool) (p q : Provision.Point)
      (result : Except VmError VmValue) (roster : Roster)
      (ht : s.hosting.task? t.token = some t) (he : t.errand = .provision script reg (some p))
      (hstage : s.stages t.token = some (.returned result))
      (hroster : Provision.resume s.hosting.roster t.runner p result = (roster, some q)) :
      Change s (({ s with
        hosting := { s.hosting with roster }.setErrand t.token (.provision script reg (some q))
        returns := s.returns ++ [⟨t.runner, p.operation script, result⟩] } : HostRun V).setStage
          t.token none)
  /-- A provisioning ends after an operation. -/
  | ended (t : HostTask) (script : String) (reg : Bool) (p : Provision.Point)
      (result : Except VmError VmValue) (roster : Roster)
      (ht : s.hosting.task? t.token = some t) (he : t.errand = .provision script reg (some p))
      (hstage : s.stages t.token = some (.returned result))
      (hroster : Provision.resume s.hosting.roster t.runner p result = (roster, none)) :
      Change s (({ s with
        hosting := { s.hosting with roster }.finish t
        returns := s.returns ++ [⟨t.runner, p.operation script, result⟩] } : HostRun V).setStage
          t.token none)
  /-- A teardown ends after the deletion of its VM. -/
  | concluded (t : HostTask) (result : Except VmError VmValue)
      (ht : s.hosting.task? t.token = some t) (he : t.errand = .deletion)
      (hstage : s.stages t.token = some (.returned result)) :
      Change s (({ s with
        hosting := { s.hosting with
          roster := Teardown.conclude s.hosting.roster t.runner result }.finish t
        returns := s.returns ++ [⟨t.runner, .delete, result⟩] } : HostRun V).setStage
          t.token none)
  | dropped (t holder : HostTask)
      (ht : s.hosting.task? t.token = some t) (hmem : holder ∈ s.hosting.tasks)
      (hholder : holder.errand = .teardown (some t.token)) :
      Change s (({ s with
        hosting := s.hosting.remove t.token
        vms := s.vmsWithout t.token } : HostRun V).setStage t.token none)
  | happened (e : V.Event) : Change s { s with vms := V.happen s.vms e }
  /-- What is known of a guest's job, or the waiting notice, is another. -/
  | noted (roster : Roster) (id : RunnerId) (state : GuestState)
      (hroster : ∀ k, roster.runners.get? k = if k = id then
        (s.hosting.roster.runners.get? id).map fun x => { x with guestState := state }
        else s.hosting.roster.runners.get? k) :
      Change s { s with hosting := { s.hosting with roster } }
  | noticed :
      Change s { s with hosting := { s.hosting with roster := s.hosting.roster.takeNotice.1 } }

theorem begin_change (s : HostRun V) {t : HostTask} (ht : s.hosting.task? t.token = some t)
    (hop : t.errand.operation? = none) (hclear : s.clear t.errand = true) :
    Change s { s with hosting := s.hosting.begin t } := by
  rcases he : t.errand with ⟨script, reg, point⟩ | inFlight | _
  · cases point with
    | some p =>
      rw [he] at hop
      cases hop
    | none =>
      rcases hroster : Provision.begin s.hosting.roster t.runner with ⟨roster, next⟩
      cases next with
      | some p =>
        have h := Change.entered t script reg p roster ht he hroster
        simpa only [Hosting.begin, he, Hosting.onProvision, hroster] using h
      | none =>
        have hsame : roster = s.hosting.roster := Provision.enter_none hroster
        subst hsame
        have h := Change.refused (s := s) t script reg ht he
        simpa only [Hosting.begin, he, Hosting.onProvision, hroster] using h
  · have hgone : ∀ k, inFlight = some k → s.hosting.task? k = none := by
      rintro k rfl
      simpa only [clear, he, Option.isNone_iff_eq_none] using hclear
    have h := Change.undertaken t inFlight ht he hgone
    cases inFlight with
    | none => simpa only [Hosting.begin, he] using h
    | some k =>
      have hcancel : s.hosting.cancel k = s.hosting := remove_of_gone (hgone k rfl)
      simpa only [Hosting.begin, he, hcancel] using h
  · rw [he] at hop
    cases hop

theorem goOn_change (s : HostRun V) {t : HostTask} {op : VmOperation}
    {result : Except VmError VmValue} (ht : s.hosting.task? t.token = some t)
    (hstage : s.stages t.token = some (.returned result)) (hop : t.errand.operation? = some op) :
    Change s (({ s with
      hosting := s.hosting.resume t result
      returns := s.returns ++ [⟨t.runner, op, result⟩] } : HostRun V).setStage t.token none) := by
  rcases he : t.errand with ⟨script, reg, point⟩ | inFlight | _
  · cases point with
    | none =>
      rw [he] at hop
      cases hop
    | some p =>
      rw [he] at hop
      cases hop
      rcases hroster : Provision.resume s.hosting.roster t.runner p result with ⟨roster, next⟩
      cases next with
      | some q =>
        have h := Change.advanced t script reg p q result roster ht he hstage hroster
        simpa only [Hosting.resume, he, Hosting.onProvision, hroster] using h
      | none =>
        have h := Change.ended t script reg p result roster ht he hstage hroster
        simpa only [Hosting.resume, he, Hosting.onProvision, hroster] using h
  · rw [he] at hop
    cases hop
  · rw [he] at hop
    cases hop
    have h := Change.concluded t result ht he hstage
    simpa only [Hosting.resume, he] using h

theorem step_change (s : HostRun V) (m : Move V) : Change s (s.step m) := by
  cases m with
  | begin token =>
    simp only [step]
    split
    · next t ht =>
      obtain rfl := task?_token ht
      split
      · next hbegin => exact begin_change s ht hbegin.1 hbegin.2
      · exact .stays
    · exact .stays
  | ask token i =>
    simp only [step]
    split
    · next t ht hstage =>
      obtain rfl := task?_token ht
      split
      · next op hop => exact .asked t op i ht hop hstage
      · exact .stays
    · exact .stays
  | work token i =>
    simp only [step]
    split
    · next t p ht hstage =>
      obtain rfl := task?_token ht
      exact .worked t p i ht hstage
    · exact .stays
  | goOn token =>
    simp only [step]
    split
    · next t result ht hstage =>
      obtain rfl := task?_token ht
      split
      · next op hop => exact goOn_change s ht hstage hop
      · exact .stays
    · exact .stays
  | drop token =>
    simp only [step]
    split
    · next t ht =>
      split
      · next hheld =>
        obtain rfl := task?_token ht
        obtain ⟨holder, hmem, hholder⟩ := List.any_eq_true.1 hheld
        exact .dropped t holder ht hmem (eq_of_beq hholder)
      · exact .stays
    · exact .stays
  | vm e => exact .happened e
  | noteGuest asked result =>
    simp only [step, Session.noteGuest]
    cases result with
    | error e => exact .stays
    | ok status =>
      simp only
      split
      · exact .stays
      · exact .noted _ asked.id status.guestState fun k => Roster.get?_setGuestState _
  | takeNotice => exact .noticed

/-- What a reply of the coordinator can change. -/
inductive Received (s : HostRun V) : Option Command → HostRun V → Prop where
  /-- Nothing is to be done. -/
  | idle (c : Option Command) (hc : c = none ∨ c = some .noop) :
      Received s c { s with commands := s.commands ++ c.toList }
  /-- The runner that is to be created is known already. -/
  | known (runner : RunnerId) (name script requestId : String) (x : Runner)
      (hx : s.hosting.roster.runners.get? runner = some x) :
      Received s (some (.createRunner runner name script requestId))
        { s with commands := s.commands ++ [.createRunner runner name script requestId] }
  | created (runner : RunnerId) (name script requestId : String) (x : Runner)
      (hnew : s.hosting.roster.runners.get? runner = none)
      (hid : x.id = runner) (hstate : x.state = .unspecified) :
      Received s (some (.createRunner runner name script requestId))
        { s with
          hosting := { (({ s.hosting with
              roster := ⟨s.hosting.roster.runners.insert runner x, true⟩ } : Hosting).spawn runner
                (.provision script true none)).1 with
            provisions := s.hosting.provisions.insert runner s.hosting.nextToken }
          commands := s.commands ++ [.createRunner runner name script requestId] }
  | deleting (runner : RunnerId) (requestId : String) :
      Received s (some (.deleteRunner runner requestId))
        { s with
          hosting := (({ s.hosting with
              provisions := s.hosting.provisions.erase runner } : Hosting).spawn runner
                (.teardown (s.hosting.provisions.get? runner))).1
          commands := s.commands ++ [.deleteRunner runner requestId] }

theorem receive_received (s : HostRun V) (agent : AgentId) (now : UInt64) (reply : Wire.Reply) :
    Received s reply.command (s.receive agent now reply) := by
  unfold receive Hosting.dispatchReply Wire.Reply.toCommand
  cases hc : reply.command with
  | none => exact .idle none (.inl rfl)
  | some c =>
    cases c with
    | noop => exact .idle (some .noop) (.inr rfl)
    | deleteRunner runner requestId => exact .deleting runner requestId
    | createRunner runner name script requestId =>
      simp only [Hosting.dispatch]
      rcases s.hosting.roster.create_cases (.accepted runner name agent script now) with
        ⟨hnew, hcreate⟩ | ⟨hknown, hcreate⟩
      · simp only [hcreate]
        exact .created runner name script requestId _ hnew rfl rfl
      · simp only [hcreate]
        obtain ⟨x, hx⟩ := Option.isSome_iff_exists.1 hknown
        exact .known runner name script requestId x hx

end HostRun

end RunnerFleet

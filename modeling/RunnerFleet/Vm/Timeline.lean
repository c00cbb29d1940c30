import RunnerFleet.Clock.Agenda
import RunnerFleet.Vm.Operation

/-!
# Operations side by side under one clock

Runs any number of VM operations, waits for addresses and announcements on one host. The outside
world is a parameter (`Outside`): it says for each request how long the answer takes and what it is.
A step runs to its next wait without interruption; a request that takes no time and a pause that is
over at once are no waits.
-/

namespace RunnerFleet.Vm

/-- What becomes of a request: the outside and the host as they are at once, the announcements that
guests begin to make, and, unless the request is never answered, its delay and its answer then. -/
structure Asked (σ : Type) where
  outside : σ
  host : VmHost
  announcers : List (GuestId × String)
  answer : Option (Nat × (σ → VmHost → σ × VmHost × Except VmError Reply))

/-- The hypervisor, the shell channel and the guests' servers. -/
structure Outside (σ : Type) where
  ask : Instant → Request → σ → VmHost → Asked σ

/-- How a task goes on when it is due. -/
inductive Wake (σ : Type) where
  | signal (s : Signal)
  | answer (f : σ → VmHost → σ × VmHost × Except VmError Reply)

/-- A task that is waiting. -/
inductive Job (σ : Type) where
  /-- An operation that has not begun. -/
  | opening (key : String) (runner : RunnerId) (op : VmOperation)
  | operation (key : String) (runner : RunnerId) (point : VmPoint) (wake : Wake σ)
  /-- A bare wait for an address. -/
  | addressWait (key : String) (runner : RunnerId) (timeout : Span) (token : Nat) (signal : Signal)
  /-- One announcement, to be made when due. -/
  | announcement (key : String) (guest : GuestId) (address : String)
  /-- A guest that announces itself until someone waits, so many times at most. -/
  | announcer (guest : GuestId) (address : String) (tries : Nat)

/-- How a task ended. -/
inductive Outcome where
  | operation (result : Except VmError VmValue)
  | addressWait (result : Except ArbiterError String)
  | announcement (result : Except ArbiterError RunnerId)

/-- A task's end, with its moment and its key. -/
structure Ended where
  at_ : Instant
  key : String
  outcome : Outcome

/-- One host under its clock. -/
structure Timeline (σ : Type) where
  agenda : Agenda (Job σ)
  host : VmHost
  limits : VmLimits
  /-- The calendar when the clock was at zero. -/
  epoch : Timestamp
  outside : σ
  ended : List Ended

/-- The pause between two tries of a guest to announce itself. -/
def announcerPause : Nat := 100

namespace Timeline

variable {σ : Type}

def start (limits : VmLimits) (epoch : Timestamp) (host : VmHost) (outside : σ) : Timeline σ :=
  ⟨.empty, host, limits, epoch, outside, []⟩

def now (t : Timeline σ) : Instant := t.agenda.now

/-- The calendar moment of the clock. -/
def calendar (t : Timeline σ) : Timestamp :=
  let ms := t.epoch.nanos / 1000000 + t.now
  ⟨t.epoch.seconds + (ms / 1000 : Nat), ms % 1000 * 1000000 + t.epoch.nanos % 1000000⟩

def context (t : Timeline σ) : VmContext := ⟨t.limits, t.now, t.calendar⟩

def park (t : Timeline σ) (due : Option Instant) (job : Job σ) : Timeline σ :=
  { t with agenda := t.agenda.add due job }

def finish (t : Timeline σ) (key : String) (outcome : Outcome) : Timeline σ :=
  { t with ended := t.ended ++ [⟨t.now, key, outcome⟩] }

/-- Lets an operation go on until it has to wait. The fuel bounds how many steps it may take without
time passing. -/
def pursue (o : Outside σ) (key : String) (runner : RunnerId) :
    Nat → Timeline σ → VmHost × Turn VmPoint VmValue → Timeline σ
  | _, t, (host, .finished r) => { t with host }.finish key (.operation r)
  | 0, t, (host, .waits p) =>
    { t with host }.park (some t.now) (.operation key runner p (.signal .resumed))
  | fuel + 1, t, (host, .waits p) =>
    let t := { t with host }
    let signal (t : Timeline σ) (s : Signal) : Timeline σ :=
      pursue o key runner fuel t (VmOperation.resume t.context runner t.host p s)
    let request (q : Request) (deadline : Option Instant) : Timeline σ :=
      let asked := o.ask t.now q t.outside t.host
      let t := { t with outside := asked.outside, host := asked.host }
      let t := asked.announcers.foldl
        (fun t a => t.park (some t.now) (.announcer a.1 a.2 600)) t
      let limit := deadline.map (max t.now)
      match asked.answer with
      | some (0, f) =>
        let (outside, host, r) := f t.outside t.host
        signal { t with outside, host } (.replied r)
      | some (delay, f) =>
        if limit.all (t.now + delay ≤ ·) then
          t.park (some (t.now + delay)) (.operation key runner p (.answer f))
        else if limit.any (· ≤ t.now) then signal t .expired
        else t.park limit (.operation key runner p (.signal .expired))
      | none =>
        if limit.any (· ≤ t.now) then signal t .expired
        else t.park limit (.operation key runner p (.signal .expired))
    match p.waiting runner with
    | .pause until_ =>
      if until_ ≤ t.now then signal t .resumed
      else t.park (some until_) (.operation key runner p (.signal .resumed))
    | .address _ deadline =>
      if deadline ≤ t.now then signal t .expired
      else t.park (some deadline) (.operation key runner p (.signal .expired))
    | .reply q => request q none
    | .replyBy q deadline => request q (some deadline)

/-- How many steps an operation may take without time passing. -/
def pursueFuel : Nat := 100000

/-- Hands an announcement to the wait it was routed to. -/
def deliver (t : Timeline σ) (w : AddressWait) (address : String) : Timeline σ :=
  { t with agenda := t.agenda.rouse fun
    | .operation key runner p (.signal _) =>
      if p.token? = some w.token then
        some (.operation key runner p (.signal (.announced address)))
      else none
    | .addressWait key runner timeout token _ =>
      if token = w.token then some (.addressWait key runner timeout token (.announced address))
      else none
    | _ => none }

/-- Wakes the tasks whose wait for an address is gone without an address. -/
def noticeWithdrawn (t : Timeline σ) : Timeline σ :=
  let gone (token : Nat) : Bool := !t.host.arbiter.waits.any (·.token == token)
  { t with agenda := t.agenda.rouse fun
    | .operation key runner p (.signal .expired) =>
      match p.token? with
      | some token =>
        if gone token then some (.operation key runner p (.signal .withdrawn)) else none
      | none => none
    | .addressWait key runner timeout token .expired =>
      if gone token then some (.addressWait key runner timeout token .withdrawn) else none
    | _ => none }

/-- Routes an announcement and hands it over. -/
def announce (t : Timeline σ) (guest : GuestId) (address : String) :
    Timeline σ × Except ArbiterError RunnerId :=
  let (arbiter, routed) := t.host.arbiter.announce guest
  let t := { t with host := { t.host with arbiter } }
  match routed with
  | .ok w => (t.deliver w address, .ok w.runner)
  | .error e => (t, .error e)

/-- Begins a bare wait for an address. -/
def beginWait (t : Timeline σ) (key : String) (runner : RunnerId) (timeout : Span) : Timeline σ :=
  let (arbiter, token) := t.host.arbiter.await runner
  { t with host := { t.host with arbiter } }.park (some (t.now + timeout.ticks))
    (.addressWait key runner timeout token .expired)

/-- The end of a bare wait. -/
def waitResult (runner : RunnerId) (timeout : Span) : Signal → Except ArbiterError String
  | .announced address => .ok address
  | .withdrawn => .error (.deliveryFailed runner)
  | _ => .error (.timeout runner timeout)

/-- Lets a task that is due go on. -/
def run (o : Outside σ) (t : Timeline σ) : Job σ → Timeline σ
  | .opening key runner op =>
    pursue o key runner pursueFuel t (VmOperation.begin t.context runner t.host op)
  | .operation key runner p (.signal s) =>
    pursue o key runner pursueFuel t (VmOperation.resume t.context runner t.host p s)
  | .operation key runner p (.answer f) =>
    let (outside, host, r) := f t.outside t.host
    let t := { t with outside, host }
    pursue o key runner pursueFuel t (VmOperation.resume t.context runner t.host p (.replied r))
  | .addressWait key runner timeout token signal =>
    { t with host := { t.host with arbiter := t.host.arbiter.endWait token } }.finish key
      (.addressWait (waitResult runner timeout signal))
  | .announcement key guest address =>
    let (t, r) := t.announce guest address
    t.finish key (.announcement r)
  | .announcer guest address tries =>
    let (t, r) := t.announce guest address
    match r, tries with
    | .error .noPendingRequests, tries + 1 =>
      if tries = 0 then t
      else t.park (some (t.now + announcerPause)) (.announcer guest address tries)
    | _, _ => t

/-- Runs what is due by the horizon, one task after the other. -/
def runDue (o : Outside σ) (horizon : Option Instant) : Nat → Timeline σ → Timeline σ
  | 0, t => t
  | fuel + 1, t =>
    match t.agenda.next? horizon with
    | none => t
    | some (job, agenda) =>
      runDue o horizon fuel (noticeWithdrawn (run o { t with agenda } job))

/-- Runs what is due now. -/
def settle (o : Outside σ) (fuel : Nat) (t : Timeline σ) : Timeline σ :=
  runDue o (some t.now) fuel (noticeWithdrawn t)

/-- Lets the clock run for a while. -/
def advance (o : Outside σ) (fuel : Nat) (t : Timeline σ) (ms : Nat) : Timeline σ :=
  let target := t.now + ms
  let t := runDue o (some target) fuel (noticeWithdrawn t)
  { t with agenda := { t.agenda with now := max t.agenda.now target } }

/-- The outcome of the task of this key, if it has ended. -/
def outcomeOf? (t : Timeline σ) (key : String) : Option Outcome :=
  (t.ended.find? (·.key == key)).map (·.outcome)

/-- Runs until the task of this key has ended or nothing is left to do. -/
def runUntilEnded (o : Outside σ) (key : String) : Nat → Timeline σ → Timeline σ
  | 0, t => t
  | fuel + 1, t =>
    if (t.outcomeOf? key).isSome then t
    else
      match t.agenda.next? none with
      | none => t
      | some (job, agenda) =>
        runUntilEnded o key fuel (noticeWithdrawn (run o { t with agenda } job))

/-- The key of a task that someone may give up. -/
def keyOf? : Job σ → Option String
  | .opening key _ _ => some key
  | .operation key _ _ _ => some key
  | .addressWait key _ _ _ _ => some key
  | .announcement key _ _ => some key
  | .announcer _ _ _ => none

/-- Gives up the task of this key; the answer says whether it was waiting. -/
def giveUp (t : Timeline σ) (key : String) : Timeline σ × Bool :=
  let (agenda, dropped) := t.agenda.drop fun job => keyOf? job == some key
  let t := { t with agenda }
  let abandon (t : Timeline σ) : Job σ → Timeline σ
    | .operation _ _ p _ => { t with host := VmOperation.abandon t.host p }
    | .addressWait _ _ _ token _ =>
      { t with host := { t.host with arbiter := t.host.arbiter.endWait token } }
    | _ => t
  (dropped.foldl abandon t, !dropped.isEmpty)

/-- Withdraws every wait of a runner; the answer is their number. -/
def cancel (t : Timeline σ) (runner : RunnerId) : Timeline σ × Nat :=
  let (arbiter, ended) := t.host.arbiter.cancel runner
  ({ t with host := { t.host with arbiter } }, ended.length)

end Timeline

end RunnerFleet.Vm

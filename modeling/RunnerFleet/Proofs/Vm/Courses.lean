import Mathlib.Logic.Relation
import RunnerFleet.Proofs.Vm.Operations
import RunnerFleet.Vm.Timeline

/-!
# The course of an operation

An operation on a runner's VM takes a step, waits, and goes on with what ends the wait. All that is
outside of it is free (`VmCourse`): a request is answered after any delay, or never; a wait for an
address is given one, or withdrawn, at any moment before its deadline; and others may change the
host while the operation waits. A course is deterministic: `VmCourse.next` is its next state, if it
has one, and it ends in one state at most (`VmCourse.Ends.unique`). It cuts waits off at the same
moments as the clock of a host does (`Vm.Timeline.pursue_request`).
-/

namespace RunnerFleet

/-! ## Metadata that can be written -/

namespace BundleRoot

variable {b b' : BundleRoot} {runner : RunnerId} {m : Metadata}

theorem metadataOf_saveMetadata (h : b.saveMetadata runner m = .ok b') :
    b'.metadataOf runner = .ok m := by
  unfold saveMetadata at h
  split at h
  · next hput =>
    cases h
    unfold putFiles at hput
    split at hput
    · cases hput
      simp [metadataOf, metadataAt, filesOf, metadataIn]
    · cases hput
    · cases hput
  · cases h

theorem hasBundle_of_metadataOf (h : b.metadataOf runner = .ok m) : b.hasBundle runner := by
  unfold metadataOf metadataAt at h
  unfold hasBundle hasDirectory
  cases hfiles : b.filesOf (bundleName runner) with
  | ok files => rfl
  | error e => simp [hfiles] at h

theorem exists_saveMetadata (h : b.hasBundle runner) (m : Metadata) :
    ∃ b', b.saveMetadata runner m = .ok b' := by
  unfold hasBundle hasDirectory at h
  cases hfiles : b.filesOf (bundleName runner) with
  | error e => simp [hfiles] at h
  | ok files =>
    cases b with
    | missing | plainFile | unreachable => cases hfiles
    | directory entries =>
      simp only [saveMetadata, putFiles, hfiles]
      exact ⟨_, rfl⟩

/-- Metadata that can be read can be changed. -/
theorem exists_updateMetadata (h : b.metadataOf runner = .ok m) (now : Timestamp)
    (change : Metadata → Metadata) :
    ∃ b', b.updateMetadata runner now change = .ok (b', { change m with updatedAt := now }) ∧
      b'.metadataOf runner = .ok { change m with updatedAt := now } := by
  obtain ⟨b', hsave⟩ := exists_saveMetadata (hasBundle_of_metadataOf h)
    { change m with updatedAt := now }
  refine ⟨b', ?_, metadataOf_saveMetadata hsave⟩
  simp only [updateMetadata, h, bind, Except.bind, hsave]
  rfl

end BundleRoot

namespace VmHost

variable {h : VmHost} {runner : RunnerId} {calendar : Timestamp} {state : BundleState}

/-- The runner's metadata can be read, which is all that it takes to change them. -/
def Writable (h : VmHost) (runner : RunnerId) : Prop := ∃ m, h.bundles.metadataOf runner = .ok m

/-- The runner's metadata note this state. -/
def Notes (h : VmHost) (runner : RunnerId) (state : BundleState) : Prop :=
  ∃ m, h.bundles.metadataOf runner = .ok m ∧ m.state = state

theorem Notes.writable (hn : h.Notes runner state) : h.Writable runner := by
  obtain ⟨m, hm, -⟩ := hn
  exact ⟨m, hm⟩

variable (calendar state) in
theorem notes_mark (hw : h.Writable runner) :
    (h.mark runner calendar state).Notes runner state := by
  obtain ⟨m, hm⟩ := hw
  obtain ⟨b, hupdate, hread⟩ := BundleRoot.exists_updateMetadata hm calendar fun m =>
    { m with state }
  refine ⟨{ m with state, updatedAt := calendar }, ?_, rfl⟩
  simp only [mark, hupdate]
  exact hread

end VmHost

/-! ## Courses -/

/-- What a request can be answered with when it succeeds. -/
inductive Request.Takes : Request → Reply → Prop where
  | clone (runner : RunnerId) : Takes (.clone runner) .done
  | boot (runner : RunnerId) : Takes (.boot runner) .done
  | powerState (runner : RunnerId) (state : PowerState) : Takes (.powerState runner) (.power state)
  | requestStop (runner : RunnerId) (yes : Bool) : Takes (.requestStop runner) (.accepted yes)
  | forceStop (runner : RunnerId) : Takes (.forceStop runner) .done
  | checkReachable (address : String) : Takes (.checkReachable address) .done
  | runScript (address script text : String) : Takes (.runScript address script) (.output text)
  | status (address : String) (call : GuestCall) (status : GuestStatus) :
      Takes (.guest address call) (.status status)
  | exec (address : String) (call : GuestCall) (outcome : ExecOutput) :
      Takes (.guest address call) (.exec outcome)

/-- An operation's surroundings. Moments are counted in milliseconds, waits by those that have ended
before. -/
structure VmCourse where
  runner : RunnerId
  limits : VmLimits
  began : Nat
  calendar : Nat → Timestamp
  /-- How long the answer takes that the `n`-th wait is for, and what it is, if it ever comes. -/
  answer : Nat → Request → Option (Nat × Except VmError Reply)
  answer_fits : ∀ n q delay reply, answer n q = some (delay, .ok reply) → q.Takes reply
  /-- After how long the `n`-th wait is given an address, or loses its place. -/
  given : Nat → Option (Nat × Option String)
  /-- What others do to the host during the `n`-th wait. -/
  meanwhile : Nat → VmHost → VmHost

/-- The request that is to be answered. -/
def Waiting.request? : Waiting → Option Request
  | reply q => some q
  | replyBy q _ => some q
  | pause _ => none
  | address _ _ => none

/-- The moment at which a wait that began at `since` is given up. -/
def Waiting.limit? (since : Nat) : Waiting → Option Nat
  | reply _ => none
  | replyBy _ deadline => some (max since deadline)
  | pause _ => none
  | address _ deadline => some (max since deadline)

/-- Cuts a wait off at its limit. What comes at the limit is in time. -/
def Waiting.cutOff {α : Type} (since : Nat) (late : α) (event : Option (Nat × α)) (w : Waiting) :
    Option (Nat × α) :=
  match event with
  | some (ended, a) =>
    if (w.limit? since).all (ended ≤ ·) then some (ended, a) else (w.limit? since).map (·, late)
  | none => (w.limit? since).map (·, late)

section CutOff

variable {α : Type} {w : Waiting} {since limit ended : Nat} (late a : α)

theorem Waiting.cutOff_of_le (h : w.limit? since = some limit) (hle : ended ≤ limit) :
    w.cutOff since late (some (ended, a)) = some (ended, a) := by
  simp [cutOff, h, hle]

theorem Waiting.cutOff_of_not_le (h : w.limit? since = some limit) (hlate : ¬ ended ≤ limit) :
    w.cutOff since late (some (ended, a)) = some (limit, late) := by
  simp [cutOff, h, hlate]

theorem Waiting.exists_cutOff (event : Option (Nat × α)) (h : w.limit? since = some limit) :
    ∃ ended a, w.cutOff since late event = some (ended, a) ∧ ended ≤ limit ∧
      (ended = limit ∧ a = late ∨ event = some (ended, a)) := by
  cases event with
  | none => exact ⟨limit, late, by rw [cutOff, h]; rfl, Nat.le_refl _, .inl ⟨rfl, rfl⟩⟩
  | some e =>
    obtain ⟨ended, a⟩ := e
    by_cases hle : ended ≤ limit
    · exact ⟨ended, a, cutOff_of_le late a h hle, hle, .inr rfl⟩
    · exact ⟨limit, late, cutOff_of_not_le late a h hle, Nat.le_refl _, .inl ⟨rfl, rfl⟩⟩

end CutOff

/-- A request that was made, and its answer with the moment at which it came. -/
structure Call where
  begun : Nat
  request : Request
  answer : Option (Nat × Except VmError Reply)

/-- The call was answered so. -/
def Call.Says (c : Call) (r : Except VmError Reply) : Prop := ∃ ended, c.answer = some (ended, r)

theorem Call.Says.unique {c : Call} {r r' : Except VmError Reply} (h : c.Says r) (h' : c.Says r') :
    r = r' := by
  obtain ⟨ended, h⟩ := h
  obtain ⟨ended', h'⟩ := h'
  cases h.symm.trans h'
  rfl

/-- A wait that has ended. -/
structure Episode where
  since : Nat
  waiting : Waiting
  ended : Nat
  signal : Signal

namespace Episode

def state? (e : Episode) : Option PowerState :=
  match e.signal with
  | .replied (.ok (.power state)) => some state
  | _ => none

def error? (e : Episode) : Option VmError :=
  match e.signal with
  | .replied (.error error) => some error
  | _ => none

def address? (e : Episode) : Option String :=
  match e.signal with
  | .announced address => some address
  | _ => none

/-- The call that was waited for; one that ran into its deadline has no answer. -/
def call? (e : Episode) : Option Call :=
  e.waiting.request?.map fun q => ⟨e.since, q,
    match e.signal with
    | .replied r => some (e.ended, r)
    | _ => none⟩

end Episode

namespace VmCourse

/-- Where an operation stands after a step, and the waits that it has behind it. -/
structure State where
  now : Nat
  host : VmHost
  turn : Turn VmPoint VmValue
  past : List Episode

/-- The power states that it was answered, in their order. -/
def State.states (x : State) : List PowerState := x.past.filterMap Episode.state?

/-- The errors that its calls were answered with, in their order. -/
def State.errors (x : State) : List VmError := x.past.filterMap Episode.error?

/-- The addresses that its waits were given. -/
def State.addresses (x : State) : List String := x.past.filterMap Episode.address?

/-- The calls that it no longer waits for, in their order. -/
def State.returned (x : State) : List Call := x.past.filterMap Episode.call?

variable (v : VmCourse)

/-- All calls made so far, in their order. -/
def calls (x : State) : List Call :=
  match x.turn with
  | .finished _ => x.returned
  | .waits p =>
    x.returned ++ ((p.waiting v.runner).request?.map (Call.mk x.now · none)).toList

def context (now : Nat) : VmContext := ⟨v.limits, now, v.calendar now⟩

/-- What the `n`-th wait is for, which began at `since`: the moment and the signal. -/
def event (n since : Nat) : Waiting → Option (Nat × Signal)
  | .reply q | .replyBy q _ => (v.answer n q).map fun (delay, r) => (since + delay, .replied r)
  | .pause until_ => some (max since until_, .resumed)
  | .address _ _ => (v.given n).map fun (delay, address?) =>
    (since + delay, address?.elim .withdrawn .announced)

/-- When the `n`-th wait ends that began at `since`, and how. -/
def ending (n since : Nat) (w : Waiting) : Option (Nat × Signal) :=
  w.cutOff since .expired (v.event n since w)

/-- The state after the first step of an operation. -/
def start (op : VmOperation) (h : VmHost) : State :=
  let (host, turn) := op.begin (v.context v.began) v.runner h
  ⟨v.began, host, turn, []⟩

/-- The state after the next step, unless the operation is over or waits for ever. -/
def next (x : State) : Option State :=
  match x.turn with
  | .finished _ => none
  | .waits p =>
    (v.ending x.past.length x.now (p.waiting v.runner)).map fun (ended, signal) =>
      let (host, turn) := VmOperation.resume (v.context ended) v.runner
        (v.meanwhile x.past.length x.host) p signal
      ⟨ended, host, turn, x.past ++ [⟨x.now, p.waiting v.runner, ended, signal⟩]⟩

/-- The course comes from the one state to the other. -/
def Leads : State → State → Prop := Relation.ReflTransGen fun x y => v.next x = some y

/-- The course stays in this state in the end. -/
def Ends (x e : State) : Prop := v.Leads x e ∧ v.next e = none

/-- No one but the operation makes the runner's metadata unreadable. -/
def Spares : Prop := ∀ n h, h.Writable v.runner → (v.meanwhile n h).Writable v.runner

/-- The state after this many steps, or the last one if the course is shorter. -/
def after : Nat → State → State
  | 0, x => x
  | k + 1, x => (v.next x).elim x (after k)

variable {v} {x y e : State} {n : Nat} {since : Nat}

theorem Ends.unique {e' : State} (h : v.Ends x e) (h' : v.Ends x e') : e = e' := by
  obtain ⟨hleads, hlast⟩ := h
  obtain ⟨hleads', hlast'⟩ := h'
  induction hleads using Relation.ReflTransGen.head_induction_on with
  | refl =>
    rcases Relation.ReflTransGen.cases_head hleads' with heq | ⟨y, hy, -⟩
    · exact heq
    · cases hlast.symm.trans hy
  | head hnext _ ih =>
    rcases Relation.ReflTransGen.cases_head hleads' with rfl | ⟨y, hy, hrest⟩
    · cases hlast'.symm.trans hnext
    · cases hnext.symm.trans hy
      exact ih hrest

/-- A course that comes nearer to a goal with each step until it is there comes there. -/
theorem exists_goal {P G : State → Prop} (left : State → Nat)
    (hstep : ∀ x, P x → G x ∨ ∃ y, v.next x = some y ∧ P y ∧ left y < left x) (hx : P x) :
    ∃ y, v.Leads x y ∧ P y ∧ G y := by
  induction hleft : left x using Nat.strongRecOn generalizing x with
  | ind _ ih =>
    rcases hstep x hx with hgoal | ⟨y, hnext, hy, hlt⟩
    · exact ⟨x, .refl, hx, hgoal⟩
    · obtain ⟨z, hleads, hz⟩ := ih _ (hleft ▸ hlt) hy rfl
      exact ⟨z, .head hnext hleads, hz⟩

section Append

variable {now : Nat} {host : VmHost} {turn : Turn VmPoint VmValue} {e : Episode}

@[simp] theorem states_append :
    State.states ⟨now, host, turn, x.past ++ [e]⟩ = x.states ++ e.state?.toList := by
  simp only [State.states, List.filterMap_append, List.filterMap_cons, List.filterMap_nil]
  cases e.state? <;> rfl

@[simp] theorem errors_append :
    State.errors ⟨now, host, turn, x.past ++ [e]⟩ = x.errors ++ e.error?.toList := by
  simp only [State.errors, List.filterMap_append, List.filterMap_cons, List.filterMap_nil]
  cases e.error? <;> rfl

@[simp] theorem addresses_append :
    State.addresses ⟨now, host, turn, x.past ++ [e]⟩ = x.addresses ++ e.address?.toList := by
  simp only [State.addresses, List.filterMap_append, List.filterMap_cons, List.filterMap_nil]
  cases e.address? <;> rfl

end Append

/-- The step that follows a wait. -/
theorem next_of_waits {p : VmPoint} {ended : Nat} {signal : Signal}
    (hturn : x.turn = .waits p)
    (hending : v.ending x.past.length x.now (p.waiting v.runner) = some (ended, signal)) :
    let step := VmOperation.resume (v.context ended) v.runner (v.meanwhile x.past.length x.host) p
      signal
    v.next x =
      some ⟨ended, step.1, step.2, x.past ++ [⟨x.now, p.waiting v.runner, ended, signal⟩]⟩ := by
  simp only [next, hturn, hending]
  rfl

theorem exists_of_next {p : VmPoint} (hturn : x.turn = .waits p) (hnext : v.next x = some y) :
    ∃ ended signal, v.ending x.past.length x.now (p.waiting v.runner) = some (ended, signal) ∧
      y.now = ended ∧ y.past = x.past ++ [⟨x.now, p.waiting v.runner, ended, signal⟩] ∧
      let step := VmOperation.resume (v.context ended) v.runner (v.meanwhile x.past.length x.host) p
        signal
      y.host = step.1 ∧ y.turn = step.2 := by
  simp only [next, hturn] at hnext
  obtain ⟨⟨ended, signal⟩, hending, rfl⟩ := Option.map_eq_some_iff.1 hnext
  exact ⟨ended, signal, hending, rfl, rfl, rfl, rfl⟩

theorem returned_of_past {e : Episode} (h : y.past = x.past ++ [e]) :
    y.returned = x.returned ++ e.call?.toList := by
  rw [State.returned, h, List.filterMap_append, List.filterMap_cons, List.filterMap_nil]
  cases e.call? <;> rfl

/-! ### How waits end -/

/-- An answer fits its request. -/
theorem of_event {w : Waiting} {q : Request} {ended : Nat} {signal : Signal}
    (hw : w.request? = some q) (h : v.event n since w = some (ended, signal)) :
    since ≤ ended ∧ ∃ r, signal = .replied r ∧ ∀ reply, r = .ok reply → q.Takes reply := by
  have hmap : (v.answer n q).map (fun (delay, r) => (since + delay, Signal.replied r)) =
      some (ended, signal) := by
    cases w with
    | reply | replyBy =>
      cases hw
      exact h
    | pause | address => cases hw
  obtain ⟨⟨delay, r⟩, hanswer, heq⟩ := Option.map_eq_some_iff.1 hmap
  cases heq
  refine ⟨Nat.le_add_right _ _, r, rfl, ?_⟩
  rintro reply rfl
  exact v.answer_fits _ _ _ _ hanswer

theorem ending_reply {q : Request} {ended : Nat} {signal : Signal}
    (h : v.ending n since (.reply q) = some (ended, signal)) :
    since ≤ ended ∧ ∃ r, signal = .replied r ∧ ∀ reply, r = .ok reply → q.Takes reply := by
  cases hevent : v.event n since (.reply q) with
  | none => simp [ending, Waiting.cutOff, Waiting.limit?, hevent] at h
  | some e =>
    have he : e = (ended, signal) := by
      simpa only [ending, Waiting.cutOff, Waiting.limit?, hevent, Option.map_none,
        Option.all_none, if_true, Option.some.injEq] using h
    subst he
    exact of_event rfl hevent

variable (v n since) in
/-- A wait for an answer with a deadline ends with the answer, or at the deadline. -/
theorem exists_ending_replyBy (q : Request) (deadline : Nat) :
    ∃ ended signal, v.ending n since (.replyBy q deadline) = some (ended, signal) ∧
      since ≤ ended ∧ ended ≤ max since deadline ∧
      (signal = .expired ∧ deadline ≤ ended ∨
        ∃ r, signal = .replied r ∧ ∀ reply, r = .ok reply → q.Takes reply) := by
  obtain ⟨ended, signal, hending, hle, ⟨rfl, rfl⟩ | hevent⟩ := Waiting.exists_cutOff Signal.expired
    (v.event n since (.replyBy q deadline)) (w := .replyBy q deadline) rfl
  · exact ⟨_, _, hending, Nat.le_max_left _ _, hle, .inl ⟨rfl, Nat.le_max_right _ _⟩⟩
  · obtain ⟨hsince, hreply⟩ := of_event rfl hevent
    exact ⟨ended, signal, hending, hsince, hle, .inr hreply⟩

theorem ending_pause {until_ : Nat} (h : since ≤ until_) :
    v.ending n since (.pause until_) = some (until_, .resumed) := by
  simp [ending, event, Waiting.cutOff, Waiting.limit?, Nat.max_eq_right h]

variable (v n since) in
/-- A wait for an address ends with one, or without. -/
theorem exists_ending_address (token deadline : Nat) :
    ∃ ended signal, v.ending n since (.address token deadline) = some (ended, signal) ∧
      (signal = .expired ∨ signal = .withdrawn ∨ ∃ address, signal = .announced address) := by
  obtain ⟨ended, signal, hending, -, ⟨-, hsignal⟩ | hevent⟩ := Waiting.exists_cutOff Signal.expired
    (v.event n since (.address token deadline)) (w := .address token deadline) rfl
  · exact ⟨ended, signal, hending, .inl hsignal⟩
  · obtain ⟨⟨delay, address?⟩, -, heq⟩ := Option.map_eq_some_iff.1 hevent
    cases heq
    refine ⟨_, _, hending, .inr ?_⟩
    cases address? with
    | none => exact .inl rfl
    | some address => exact .inr ⟨address, rfl⟩

end VmCourse

/-! ## The clock of a host -/

namespace Vm.Timeline

section Requests

variable {σ : Type} (o : Outside σ) (key : String) (runner : RunnerId) (t : Timeline σ)
  (p : VmPoint) (q : Request)

/-- The timeline right after a request was made. -/
def asked : Timeline σ :=
  let asked := o.ask t.now q t.outside t.host
  asked.announcers.foldl (fun t a => t.park (some t.now) (.announcer a.1 a.2 600))
    { t with outside := asked.outside, host := asked.host }

/-- Goes on with what ends a wait, at once if it is over and otherwise when it will be. -/
def goOn (fuel : Nat) : Option (Nat × Wake σ) → Timeline σ
  | none => t.park none (.operation key runner p (.signal .expired))
  | some (ended, wake) =>
    if t.now < ended then t.park (some ended) (.operation key runner p wake)
    else
      match wake with
      | .signal s => pursue o key runner fuel t (VmOperation.resume t.context runner t.host p s)
      | .answer f =>
        let (outside, host, r) := f t.outside t.host
        let t := { t with outside, host }
        pursue o key runner fuel t (VmOperation.resume t.context runner t.host p (.replied r))

theorem now_asked : (asked o t q).now = t.now := by
  have hnow : ∀ (announcers : List (GuestId × String)) (t' : Timeline σ), (announcers.foldl
      (fun t a => t.park (some t.now) (.announcer a.1 a.2 600)) t').now = t'.now := by
    intro announcers
    induction announcers with
    | nil => exact fun _ => rfl
    | cons a announcers ih => exact fun t' => ih _
  exact hnow _ _

variable {p q}

variable {o key runner t} in
theorem goOn_expired {ended fuel : Nat} :
    goOn o key runner t p fuel (some (ended, .signal .expired)) =
      if ended ≤ t.now then
        pursue o key runner fuel t (VmOperation.resume t.context runner t.host p .expired)
      else t.park (some ended) (.operation key runner p (.signal .expired)) := by
  by_cases h : t.now < ended
  · rw [if_neg (Nat.not_le.2 h)]
    exact if_pos h
  · rw [if_pos (Nat.le_of_not_lt h)]
    exact if_neg h

/-- A host's clock cuts the wait for an answer off as a course does. -/
theorem pursue_request (hq : (p.waiting runner).request? = some q) (fuel : Nat) :
    pursue o key runner (fuel + 1) t (t.host, .waits p) =
      goOn o key runner (asked o t q) p fuel
        ((p.waiting runner).cutOff t.now (.signal .expired)
          ((o.ask t.now q t.outside t.host).answer.map fun (delay, f) =>
            (t.now + delay, .answer f))) := by
  suffices h : pursue o key runner (fuel + 1) t (t.host, .waits p) =
      goOn o key runner (asked o t q) p fuel
        ((p.waiting runner).cutOff (asked o t q).now (.signal .expired)
          ((o.ask t.now q t.outside t.host).answer.map fun (delay, f) =>
            ((asked o t q).now + delay, .answer f))) by
    rw [h, now_asked]
  obtain ⟨agenda, host, limits, epoch, outside, ended⟩ := t
  have hlater : ∀ now delay : Nat, now < now + (delay + 1) := by omega
  rw [pursue]
  cases hw : p.waiting runner with
  | pause | address =>
    rw [hw] at hq
    cases hq
  | reply q' =>
    obtain rfl : q' = q := by simpa [hw, Waiting.request?] using hq
    cases hanswer : (o.ask (now ⟨agenda, host, limits, epoch, outside, ended⟩) q' outside
        host).answer with
    | none =>
      simp only [hanswer, Waiting.cutOff, Waiting.limit?]
      rfl
    | some a =>
      obtain ⟨_ | delay, f⟩ := a
      · simp only [hanswer, Waiting.cutOff, Waiting.limit?, Option.map_some, Option.all_none,
          if_true]
        exact (if_neg (Nat.lt_irrefl _)).symm
      · simp only [hanswer, Waiting.cutOff, Waiting.limit?, Option.map_none, Option.map_some,
          Option.all_none, if_true]
        exact (if_pos (hlater _ delay)).symm
  | replyBy q' deadline =>
    obtain rfl : q' = q := by simpa [hw, Waiting.request?] using hq
    cases hanswer : (o.ask (now ⟨agenda, host, limits, epoch, outside, ended⟩) q' outside
        host).answer with
    | none =>
      simp only [hanswer, Waiting.cutOff, Waiting.limit?, Option.map_none, Option.map_some,
        Option.any_some, decide_eq_true_eq, goOn_expired]
      rfl
    | some a =>
      obtain ⟨_ | delay, f⟩ := a
      · simp only [hanswer, Option.map_some]
        rw [Waiting.cutOff_of_le _ _ rfl (Nat.le_max_left _ _)]
        exact (if_neg (Nat.lt_irrefl _)).symm
      · simp only [hanswer, Option.map_some, Option.all_some, Option.any_some, decide_eq_true_eq]
        let made := asked o ⟨agenda, host, limits, epoch, outside, ended⟩ q'
        by_cases hle : made.now + (delay + 1) ≤ max made.now deadline
        · rw [Waiting.cutOff_of_le _ _ rfl hle]
          exact (if_pos hle).trans (if_pos (hlater _ delay)).symm
        · rw [Waiting.cutOff_of_not_le _ _ rfl hle, goOn_expired]
          exact if_neg hle

end Requests

end Vm.Timeline

end RunnerFleet

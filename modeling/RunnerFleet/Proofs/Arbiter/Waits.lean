import Mathlib.Data.List.Nodup
import RunnerFleet.Proofs.Arbiter.Matching

/-!
# The calls that wait for an address

Each wait in the queue stands for a call, and a call and its wait may part: a call that has ended
listens no more, and an address sent to it is lost. `WaitingRoom` keeps the calls beside the
arbiter. A call ends in one of five ways: it is given an address, its time is up, it is dropped, its
runner is cancelled, or its wait is gone. Whatever happens, the queue holds the waits of the calls
that have not ended, in the order in which they began (`Sound`). So an announcement always finds its
call listening, and it fails only when no call is left to take it (`calls_served`).
-/

namespace RunnerFleet

theorem Arbiter.runnerOfGuest?_cancel (a : Arbiter) (runner : RunnerId) (guest : GuestId) :
    (a.cancel runner).1.runnerOfGuest? guest =
      if a.runnerOfGuest? guest = some runner then none else a.runnerOfGuest? guest := by
  have hfilter : (a.cancel runner).1.runnerOfGuest? guest =
      (a.runnerOfGuest? guest).filter (· != runner) := Table.get?_filter _ _ _
  rw [hfilter]
  cases a.runnerOfGuest? guest with
  | none => rfl
  | some known => by_cases hknown : known = runner <;> simp [hknown]

/-- How a call ended. -/
inductive CallEnd where
  | returned (result : Except ArbiterError String)
  | dropped
  deriving DecidableEq

/-- A call that waits for an address, or has done so. -/
structure WaitCall where
  token : Nat
  runner : RunnerId
  limit : Span
  ended : Option CallEnd
  deriving DecidableEq

namespace WaitCall

def isLive (c : WaitCall) : Bool := c.ended.isNone

/-- The call's wait in the queue. -/
def entry (c : WaitCall) : AddressWait := ⟨c.token, c.runner⟩

def endAs (c : WaitCall) (how : CallEnd) : WaitCall := { c with ended := some how }

end WaitCall

/-- An arbiter with the calls that wait on it. -/
structure WaitingRoom where
  arbiter : Arbiter
  /-- All calls that ever began, the oldest first. -/
  calls : List WaitCall
  /-- What was sent to which call, the oldest first. -/
  sent : List (Nat × String)
  deriving DecidableEq

namespace WaitingRoom

/-- No one has called yet. -/
def start : WaitingRoom := ⟨.empty, [], []⟩

/-- Ends the live calls that `p` picks. -/
def endCalls (p : WaitCall → Bool) (how : WaitCall → CallEnd) (calls : List WaitCall) :
    List WaitCall :=
  calls.map fun c => if c.isLive && p c then c.endAs (how c) else c

/-- Whether the call still listens. -/
def listens (room : WaitingRoom) (token : Nat) : Bool :=
  room.calls.any fun c => c.isLive && c.token == token

def wait (room : WaitingRoom) (runner : RunnerId) (limit : Span) : WaitingRoom :=
  let (arbiter, token) := room.arbiter.await runner
  { room with arbiter, calls := room.calls ++ [⟨token, runner, limit, none⟩] }

/-- A call ends by itself, and its wait goes with it. Of a call that has ended only the wait
goes. -/
def leave (room : WaitingRoom) (token : Nat) (how : WaitCall → CallEnd) : WaitingRoom :=
  { room with
    arbiter := room.arbiter.endWait token
    calls := endCalls (·.token == token) how room.calls }

/-- Routes an announcement and sends the address to the call whose wait it is; the answer is the
call's runner. -/
def announce (room : WaitingRoom) (guest : GuestId) (address : String) :
    WaitingRoom × Except ArbiterError RunnerId :=
  match room.arbiter.announce guest with
  | (arbiter, .error e) => ({ room with arbiter }, .error e)
  | (arbiter, .ok w) =>
    if room.listens w.token then
      (⟨arbiter, endCalls (·.token == w.token) (fun _ => .returned (.ok address)) room.calls,
        room.sent ++ [(w.token, address)]⟩, .ok w.runner)
    else ({ room with arbiter }, .error (.deliveryFailed w.runner))

/-- Ends the waits of a runner; the calls that lose their wait fail. The answer counts them. -/
def cancel (room : WaitingRoom) (runner : RunnerId) : WaitingRoom × Nat :=
  let (arbiter, removed) := room.arbiter.cancel runner
  ({ room with
      arbiter
      calls := endCalls (fun c => removed.any (·.token == c.token))
        (fun c => .returned (.error (.deliveryFailed c.runner))) room.calls },
    removed.length)

inductive Event where
  | wait (runner : RunnerId) (limit : Span)
  | announce (guest : GuestId) (address : String)
  | cancel (runner : RunnerId)
  | timeUp (token : Nat)
  | drop (token : Nat)
  deriving DecidableEq

def onEvent (room : WaitingRoom) : Event → WaitingRoom
  | .wait runner limit => room.wait runner limit
  | .announce guest address => (room.announce guest address).1
  | .cancel runner => (room.cancel runner).1
  | .timeUp token => room.leave token fun c => .returned (.error (.timeout c.runner c.limit))
  | .drop token => room.leave token fun _ => .dropped

def run (es : List Event) : WaitingRoom := es.foldl onEvent start

theorem run_append_singleton (es : List Event) (e : Event) :
    run (es ++ [e]) = (run es).onEvent e := by
  simp only [run, List.foldl_append, List.foldl_cons, List.foldl_nil]

/-! ## Ending calls -/

section EndCalls

variable {p q : WaitCall → Bool} {how : WaitCall → CallEnd} {calls : List WaitCall}

theorem endAs_not_live (c : WaitCall) (how : CallEnd) : (c.endAs how).isLive = false := rfl

/-- Token and runner of a call stay as they are. -/
theorem map_endCalls {α : Type} (f : WaitCall → α) (hf : ∀ c how, f (c.endAs how) = f c) :
    (endCalls p how calls).map f = calls.map f := by
  unfold endCalls
  rw [List.map_map]
  apply List.map_congr_left
  intro c _
  simp only [Function.comp_apply]
  split
  · exact hf c (how c)
  · rfl

theorem live_endCalls :
    (endCalls p how calls).filter (·.isLive) =
      (calls.filter (·.isLive)).filter fun c => !p c := by
  unfold endCalls
  induction calls with
  | nil => rfl
  | cons c rest ih =>
    rw [List.map_cons, List.filter_cons, ih, List.filter_cons]
    cases hlive : c.isLive with
    | false => simp only [hlive, Bool.false_and, if_false, Bool.false_eq_true]
    | true =>
      cases hp : p c with
      | false => simp [hlive, hp]
      | true => simp [hp, endAs_not_live]

theorem endCalls_congr (h : ∀ c ∈ calls, c.isLive = true → p c = q c) :
    endCalls p how calls = endCalls q how calls := by
  apply List.map_congr_left
  intro c hc
  cases hlive : c.isLive with
  | false => rfl
  | true => rw [h c hc hlive]

theorem mem_endCalls {d : WaitCall} (h : d ∈ endCalls p how calls) :
    d ∈ calls ∨ ∃ c ∈ calls, c.isLive = true ∧ p c = true ∧ d = c.endAs (how c) := by
  obtain ⟨c, hc, hd⟩ := List.mem_map.1 h
  split at hd
  · next hends =>
    obtain ⟨hlive, hp⟩ := Bool.and_eq_true_iff.1 hends
    exact .inr ⟨c, hc, hlive, hp, hd.symm⟩
  · exact .inl (hd ▸ hc)

theorem mem_endCalls_of_live {c : WaitCall} (hc : c ∈ calls) (hlive : c.isLive = true)
    (hp : p c = true) : c.endAs (how c) ∈ endCalls p how calls := by
  refine List.mem_map.2 ⟨c, hc, ?_⟩
  rw [hlive, hp, Bool.and_self, if_pos rfl]

/-- A call that has ended stays as it is. -/
theorem mem_endCalls_of_ended {c : WaitCall} (hc : c ∈ calls) (hended : c.isLive = false) :
    c ∈ endCalls p how calls := by
  refine List.mem_map.2 ⟨c, hc, ?_⟩
  rw [hended, Bool.false_and, if_neg Bool.false_ne_true]

end EndCalls

/-! ## The queue follows the calls -/

structure Sound (room : WaitingRoom) : Prop where
  queue : room.arbiter.waits = (room.calls.filter (·.isLive)).map (·.entry)
  ordered : room.calls.Pairwise (·.token < ·.token)
  fresh : ∀ c ∈ room.calls, c.token < room.arbiter.nextToken
  sent_once : (room.sent.map Prod.fst).Nodup
  served : ∀ token address, (token, address) ∈ room.sent ↔
    ∃ c ∈ room.calls, c.token = token ∧ c.ended = some (.returned (.ok address))

namespace Sound

variable {room : WaitingRoom} {runner : RunnerId} {guest : GuestId} {address : String}
  {w : AddressWait} {p : WaitCall → Bool}

theorem start : Sound .start where
  queue := rfl
  ordered := .nil
  fresh := List.forall_mem_nil _
  sent_once := .nil
  served token address := by simp [WaitingRoom.start]

theorem mem_queue (h : room.Sound) :
    w ∈ room.arbiter.waits ↔ ∃ c ∈ room.calls, c.isLive = true ∧ c.entry = w := by
  rw [h.queue, List.mem_map]
  simp only [List.mem_filter, and_assoc]

theorem queue_ordered (h : room.Sound) : room.arbiter.waits.Pairwise (·.token < ·.token) := by
  rw [h.queue, List.pairwise_map]
  exact h.ordered.sublist List.filter_sublist

theorem call_unique (h : room.Sound) {c d : WaitCall} (hc : c ∈ room.calls) (hd : d ∈ room.calls)
    (htoken : c.token = d.token) : c = d := by
  have hnodup : (room.calls.map (·.token)).Nodup :=
    List.pairwise_map.2 (h.ordered.imp Nat.ne_of_lt)
  exact List.inj_on_of_nodup_map hnodup hc hd htoken

theorem waits_eq_nil_iff (h : room.Sound) :
    room.arbiter.waits = [] ↔ ∀ c ∈ room.calls, c.isLive = false := by
  rw [h.queue, List.map_eq_nil_iff, List.filter_eq_nil_iff]
  simp only [Bool.not_eq_true]

/-- Taking a wait out of the queue takes out what has its token. -/
theorem erase_eq_filter (h : room.Sound) (hw : w ∈ room.arbiter.waits) :
    room.arbiter.waits.erase w = room.arbiter.waits.filter (·.token != w.token) := by
  have hordered := h.queue_ordered
  have hnodup : room.arbiter.waits.Nodup := by
    refine hordered.imp ?_
    rintro a b hlt rfl
    exact Nat.lt_irrefl _ hlt
  have hinj : (room.arbiter.waits.map (·.token)).Nodup :=
    List.pairwise_map.2 (hordered.imp Nat.ne_of_lt)
  rw [hnodup.erase_eq_filter]
  apply List.filter_congr
  intro v hv
  rw [Bool.eq_iff_iff, bne_iff_ne, bne_iff_ne]
  constructor
  · intro hne htoken
    exact hne (List.inj_on_of_nodup_map hinj hv hw htoken)
  · rintro hne rfl
    exact hne rfl

/-- Ending calls keeps the room sound, once their waits are taken out of the queue and what they are
given is noted. -/
theorem endCalls (h : room.Sound) {how : WaitCall → CallEnd} {arbiter : Arbiter}
    {sent : List (Nat × String)} (hnext : arbiter.nextToken = room.arbiter.nextToken)
    (hqueue : arbiter.waits =
      ((room.calls.filter (·.isLive)).filter fun c => !p c).map (·.entry))
    (honce : (sent.map Prod.fst).Nodup)
    (hsent : ∀ token address, (token, address) ∈ sent ↔ (token, address) ∈ room.sent ∨
      ∃ c ∈ room.calls, c.isLive = true ∧ p c = true ∧ c.token = token ∧
        how c = .returned (.ok address)) :
    Sound ⟨arbiter, WaitingRoom.endCalls p how room.calls, sent⟩ := by
  constructor
  case queue => rw [hqueue, live_endCalls]
  case ordered =>
    have hordered := List.pairwise_map.2 h.ordered
    have htokens : (WaitingRoom.endCalls p how room.calls).map (·.token) =
        room.calls.map (·.token) := map_endCalls _ fun _ _ => rfl
    rw [← htokens] at hordered
    exact List.pairwise_map.1 hordered
  case fresh =>
    intro d hd
    rw [hnext]
    rcases mem_endCalls hd with hd | ⟨c, hc, -, -, rfl⟩
    · exact h.fresh d hd
    · exact h.fresh c hc
  case sent_once => exact honce
  case served =>
    intro token address
    rw [hsent token address, h.served token address]
    constructor
    · rintro (⟨c, hc, htoken, hended⟩ | ⟨c, hc, hlive, hp, htoken, hhow⟩)
      · refine ⟨c, mem_endCalls_of_ended hc ?_, htoken, hended⟩
        rw [WaitCall.isLive, hended, Option.isNone_some]
      · refine ⟨c.endAs (how c), mem_endCalls_of_live hc hlive hp, htoken, ?_⟩
        exact congrArg some hhow
    · rintro ⟨d, hd, htoken, hended⟩
      rcases mem_endCalls hd with hd | ⟨c, hc, hlive, hp, rfl⟩
      · exact .inl ⟨d, hd, htoken, hended⟩
      · exact .inr ⟨c, hc, hlive, hp, htoken, Option.some.inj hended⟩

/-- Calls that end without an address are sent nothing. -/
theorem endUnserved (h : room.Sound) {how : WaitCall → CallEnd} {arbiter : Arbiter}
    (hnext : arbiter.nextToken = room.arbiter.nextToken)
    (hqueue : arbiter.waits =
      ((room.calls.filter (·.isLive)).filter fun c => !p c).map (·.entry))
    (hhow : ∀ c address, how c ≠ .returned (.ok address)) :
    Sound { room with arbiter, calls := WaitingRoom.endCalls p how room.calls } := by
  refine h.endCalls hnext hqueue h.sent_once ?_
  intro token address
  constructor
  · exact .inl
  · rintro (hsent | ⟨c, -, -, -, -, hserved⟩)
    · exact hsent
    · exact absurd hserved (hhow c address)

theorem wait (h : room.Sound) (runner : RunnerId) (limit : Span) :
    (room.wait runner limit).Sound := by
  simp only [WaitingRoom.wait, Arbiter.await]
  constructor
  case queue =>
    simp only [List.filter_append, List.map_append, ← h.queue]
    rfl
  case ordered =>
    rw [List.pairwise_append]
    refine ⟨h.ordered, List.pairwise_singleton _ _, ?_⟩
    intro c hc d hd
    rw [List.mem_singleton.1 hd]
    exact h.fresh c hc
  case fresh =>
    intro c hc
    rcases List.mem_append.1 hc with hc | hc
    · exact Nat.lt_succ_of_lt (h.fresh c hc)
    · rw [List.mem_singleton.1 hc]
      exact Nat.lt_succ_self _
  case sent_once => exact h.sent_once
  case served =>
    intro token address
    rw [h.served token address]
    constructor
    · rintro ⟨c, hc, hends⟩
      exact ⟨c, List.mem_append_left _ hc, hends⟩
    · rintro ⟨c, hc, htoken, hended⟩
      rcases List.mem_append.1 hc with hc | hc
      · exact ⟨c, hc, htoken, hended⟩
      · rw [List.mem_singleton.1 hc] at hended
        cases hended

theorem leave (h : room.Sound) (token : Nat) {how : WaitCall → CallEnd}
    (hunserved : ∀ c address, how c ≠ .returned (.ok address)) : (room.leave token how).Sound := by
  refine h.endUnserved rfl ?_ hunserved
  simp only [Arbiter.endWait, h.queue, List.filter_map]
  rfl

theorem waits_cancel (h : room.Sound) (runner : RunnerId) :
    (room.arbiter.cancel runner).1.waits =
      ((room.calls.filter (·.isLive)).filter fun c => !(c.runner == runner)).map (·.entry) := by
  simp only [Arbiter.cancel, h.queue, List.filter_map]
  rfl

/-- The calls that lose their wait are the live ones of the runner. -/
theorem calls_cancel (h : room.Sound) (runner : RunnerId) :
    (room.cancel runner).1.calls = WaitingRoom.endCalls (·.runner == runner)
      (fun c => .returned (.error (.deliveryFailed c.runner))) room.calls := by
  apply endCalls_congr
  intro c hc hlive
  rw [Bool.eq_iff_iff, List.any_eq_true, beq_iff_eq]
  simp only [List.mem_filter, beq_iff_eq]
  constructor
  · rintro ⟨w, ⟨hw, hrunner⟩, htoken⟩
    obtain ⟨d, hd, -, rfl⟩ := h.mem_queue.1 hw
    rw [h.call_unique hc hd htoken.symm]
    exact hrunner
  · intro hrunner
    exact ⟨c.entry, ⟨h.mem_queue.2 ⟨c, hc, hlive, rfl⟩, hrunner⟩, rfl⟩

theorem cancel (h : room.Sound) (runner : RunnerId) : (room.cancel runner).1.Sound := by
  have hroom : (room.cancel runner).1 =
      { room with
        arbiter := (room.arbiter.cancel runner).1
        calls := WaitingRoom.endCalls (·.runner == runner)
          (fun c => .returned (.error (.deliveryFailed c.runner))) room.calls } := by
    rw [← h.calls_cancel]
    rfl
  rw [hroom]
  refine h.endUnserved rfl (h.waits_cancel runner) ?_
  intro c address heq
  cases heq

/-! ## Announcements -/

/-- The call whose wait is in the queue listens. -/
theorem listens (h : room.Sound) (hw : w ∈ room.arbiter.waits) :
    room.listens w.token = true := by
  obtain ⟨c, hc, hlive, rfl⟩ := h.mem_queue.1 hw
  refine List.any_eq_true.2 ⟨c, hc, ?_⟩
  rw [hlive, Bool.true_and]
  exact beq_self_eq_true c.token

theorem announce_of_recipient (h : room.Sound) (hw : room.arbiter.recipient? guest = some w) :
    room.announce guest address =
      (⟨(room.arbiter.announce guest).1, WaitingRoom.endCalls (·.token == w.token)
        (fun _ => .returned (.ok address)) room.calls, room.sent ++ [(w.token, address)]⟩,
        .ok w.runner) := by
  have hok := (Arbiter.announce_of_recipient hw).1
  have hlistens := h.listens (Arbiter.recipient?_mem hw)
  unfold WaitingRoom.announce
  rcases hrouted : room.arbiter.announce guest with ⟨arbiter, result⟩
  rw [hrouted] at hok
  simp only at hok
  simp only [hok, hlistens, if_true]

theorem announce_of_no_recipient (hnone : room.arbiter.recipient? guest = none) :
    room.announce guest address = (room, .error .noPendingRequests) := by
  unfold WaitingRoom.announce
  rw [Arbiter.announce_of_no_recipient hnone]

theorem recipient_of_ok (h : room.Sound) {runner : RunnerId}
    (hok : (room.announce guest address).2 = .ok runner) :
    ∃ w, room.arbiter.recipient? guest = some w ∧ w.runner = runner := by
  cases hrecipient : room.arbiter.recipient? guest with
  | none =>
    rw [announce_of_no_recipient hrecipient] at hok
    cases hok
  | some w =>
    rw [h.announce_of_recipient hrecipient] at hok
    exact ⟨w, rfl, Except.ok.inj hok⟩

theorem recipient_of_error (h : room.Sound) {e : ArbiterError}
    (herror : (room.announce guest address).2 = .error e) :
    room.arbiter.recipient? guest = none := by
  cases hrecipient : room.arbiter.recipient? guest with
  | none => rfl
  | some w =>
    rw [h.announce_of_recipient hrecipient] at herror
    cases herror

theorem waits_announce (h : room.Sound) (hw : room.arbiter.recipient? guest = some w) :
    (room.arbiter.announce guest).1.waits =
      ((room.calls.filter (·.isLive)).filter fun c => !(c.token == w.token)).map (·.entry) := by
  have hwaits : (room.arbiter.announce guest).1.waits = room.arbiter.waits.erase w := by
    unfold Arbiter.announce
    rw [hw]
  rw [hwaits, h.erase_eq_filter (Arbiter.recipient?_mem hw), h.queue, List.filter_map]
  rfl

/-- What was sent went to calls that have ended. -/
theorem unsent (h : room.Sound) (hw : w ∈ room.arbiter.waits) :
    w.token ∉ room.sent.map Prod.fst := by
  intro hsent
  obtain ⟨⟨token, address⟩, hmem, htoken⟩ := List.mem_map.1 hsent
  obtain ⟨c, hc, hctoken, hended⟩ := (h.served token address).1 hmem
  obtain ⟨d, hd, hlive, rfl⟩ := h.mem_queue.1 hw
  have hsame : c = d := h.call_unique hc hd (hctoken.trans htoken)
  rw [← hsame, WaitCall.isLive, hended] at hlive
  cases hlive

theorem announce (h : room.Sound) (guest : GuestId) (address : String) :
    (room.announce guest address).1.Sound := by
  cases hw : room.arbiter.recipient? guest with
  | none =>
    rw [announce_of_no_recipient hw]
    exact h
  | some w =>
    have hmem := Arbiter.recipient?_mem hw
    have hnext : (room.arbiter.announce guest).1.nextToken = room.arbiter.nextToken := by
      unfold Arbiter.announce
      rw [hw]
    rw [h.announce_of_recipient hw]
    refine h.endCalls hnext (h.waits_announce hw) ?_ ?_
    · rw [List.map_append, List.map_singleton]
      refine h.sent_once.append (List.nodup_singleton _) ?_
      rw [List.disjoint_singleton]
      exact h.unsent hmem
    · intro token given
      rw [List.mem_append, List.mem_singleton, Prod.mk.injEq]
      refine or_congr_right ?_
      constructor
      · rintro ⟨rfl, rfl⟩
        obtain ⟨c, hc, hlive, rfl⟩ := h.mem_queue.1 hmem
        exact ⟨c, hc, hlive, beq_self_eq_true c.token, rfl, rfl⟩
      · rintro ⟨c, -, -, htoken, rfl, hgiven⟩
        cases hgiven
        exact ⟨eq_of_beq htoken, rfl⟩

theorem onEvent (h : room.Sound) (e : Event) : (room.onEvent e).Sound := by
  cases e with
  | wait runner limit => exact h.wait runner limit
  | announce guest address => exact h.announce guest address
  | cancel runner => exact h.cancel runner
  | timeUp token => exact h.leave token fun c address heq => by cases heq
  | drop token => exact h.leave token fun c address heq => by cases heq

end Sound

theorem sound_run (es : List Event) : (run es).Sound := by
  induction es using List.reverseRecOn with
  | nil => exact .start
  | append_singleton es e ih =>
    rw [run_append_singleton]
    exact ih.onEvent e

/-! ## Whom an announcement serves -/

/-- Whether the call waits for the runner. -/
def WaitsFor (room : WaitingRoom) (runner : RunnerId) (c : WaitCall) : Prop :=
  c ∈ room.calls ∧ c.isLive = true ∧ c.runner = runner

/-- An announcement of `guest` ends the call `c` with the address: the oldest call that waits for
the guest's runner or, if there is none, the oldest of all. Nothing else is changed but that the
guest is matched to the call's runner. -/
structure Serves (room room' : WaitingRoom) (guest : GuestId) (address : String) (c : WaitCall) :
    Prop where
  mem : c ∈ room.calls
  live : c.isLive = true
  known : ∀ runner, room.arbiter.runnerOfGuest? guest = some runner →
    (∃ d, room.WaitsFor runner d) →
      c.runner = runner ∧ ∀ d, room.WaitsFor runner d → c.token ≤ d.token
  oldest : (∀ runner, room.arbiter.runnerOfGuest? guest = some runner →
    ∀ d, ¬ room.WaitsFor runner d) → ∀ d ∈ room.calls, d.isLive = true → c.token ≤ d.token
  calls : room'.calls =
    room.calls.map fun d => if d = c then c.endAs (.returned (.ok address)) else d
  queue : room'.arbiter.waits = room.arbiter.waits.filter (·.token != c.token)
  matched : ∀ g, room'.arbiter.runnerOfGuest? g =
    if g = guest then some c.runner else room.arbiter.runnerOfGuest? g
  sent : room'.sent = room.sent ++ [(c.token, address)]

/-- A call for an address enters as one more live call, the last in the queue; nothing else is
changed. -/
structure Enters (room room' : WaitingRoom) (runner : RunnerId) (limit : Span) (c : WaitCall) :
    Prop where
  runner : c.runner = runner
  limit : c.limit = limit
  live : c.isLive = true
  last : ∀ d ∈ room.calls, d.token < c.token
  calls : room'.calls = room.calls ++ [c]
  queue : room'.arbiter.waits = room.arbiter.waits ++ [c.entry]
  matched : ∀ g, room'.arbiter.runnerOfGuest? g = room.arbiter.runnerOfGuest? g
  sent : room'.sent = room.sent

/-- The call of the token, if it is live, ends as `how` says, and its wait goes with it; every other
call, wait and match stays. -/
structure Leaves (room room' : WaitingRoom) (token : Nat) (how : WaitCall → CallEnd) : Prop where
  calls : room'.calls = room.calls.map fun d =>
    if d.isLive = true ∧ d.token = token then d.endAs (how d) else d
  queue : room'.arbiter.waits = room.arbiter.waits.filter (·.token != token)
  none_waits : ∀ c ∈ room'.calls, c.token = token → c.isLive = false
  matched : ∀ g, room'.arbiter.runnerOfGuest? g = room.arbiter.runnerOfGuest? g
  sent : room'.sent = room.sent

/-- A cancellation of `runner` ends the calls that wait for it and forgets the guests matched to it;
every other call, wait and match stays. -/
structure Cancels (room room' : WaitingRoom) (runner : RunnerId) : Prop where
  calls : room'.calls = room.calls.map fun d =>
    if d.isLive = true ∧ d.runner = runner then
      d.endAs (.returned (.error (.deliveryFailed runner)))
    else d
  queue : room'.arbiter.waits = room.arbiter.waits.filter (·.runner != runner)
  none_waits : ∀ c, ¬ room'.WaitsFor runner c
  none_matched : ∀ g, room'.arbiter.runnerOfGuest? g ≠ some runner
  matched : ∀ g, room'.arbiter.runnerOfGuest? g =
    if room.arbiter.runnerOfGuest? g = some runner then none else room.arbiter.runnerOfGuest? g
  sent : room'.sent = room.sent

namespace Sound

variable {room : WaitingRoom} {runner : RunnerId} {guest : GuestId} {address : String}
  {w : AddressWait}

theorem oldest_of_find? (h : room.Sound)
    (hfind : room.arbiter.waits.find? (·.runner == runner) = some w) :
    ∀ v ∈ room.arbiter.waits, v.runner = runner → w.token ≤ v.token := by
  obtain ⟨-, before, after, hsplit, hbefore⟩ := List.find?_eq_some_iff_append.1 hfind
  have hordered := h.queue_ordered
  rw [hsplit, List.pairwise_append, List.pairwise_cons] at hordered
  intro v hv hrunner
  rw [hsplit] at hv
  rcases List.mem_append.1 hv with hv | hv
  · have hother := hbefore v hv
    simp only [hrunner, beq_self_eq_true, Bool.not_true, Bool.false_eq_true] at hother
  · rcases List.mem_cons.1 hv with rfl | hv
    · exact Nat.le_refl _
    · exact Nat.le_of_lt (hordered.2.1.1 v hv)

theorem oldest_of_head? (h : room.Sound) (hhead : room.arbiter.waits.head? = some w) :
    ∀ v ∈ room.arbiter.waits, w.token ≤ v.token := by
  obtain ⟨rest, hsplit⟩ := List.head?_eq_some_iff.1 hhead
  have hordered := h.queue_ordered
  rw [hsplit, List.pairwise_cons] at hordered
  intro v hv
  rw [hsplit] at hv
  rcases List.mem_cons.1 hv with rfl | hv
  · exact Nat.le_refl _
  · exact Nat.le_of_lt (hordered.1 v hv)

theorem serves (h : room.Sound) {c : WaitCall} (hc : c ∈ room.calls) (hlive : c.isLive = true)
    (hrecipient : room.arbiter.recipient? guest = some c.entry) :
    room.Serves (room.announce guest address).1 guest address c := by
  have hqueued : ∀ {runner d}, room.WaitsFor runner d → d.entry ∈ room.arbiter.waits :=
    fun {_ d} hd => h.mem_queue.2 ⟨d, hd.1, hd.2.1, rfl⟩
  have hmatched := (Arbiter.announce_of_recipient hrecipient).2
  rw [h.announce_of_recipient hrecipient]
  constructor
  case mem => exact hc
  case live => exact hlive
  case known =>
    rintro runner hknown ⟨d, hd⟩
    cases hfind : room.arbiter.waits.find? (·.runner == runner) with
    | none =>
      have hnone := List.find?_eq_none.1 hfind d.entry (hqueued hd)
      exact absurd (beq_iff_eq.2 hd.2.2) hnone
    | some w =>
      obtain rfl : w = c.entry :=
        Option.some.inj ((Arbiter.recipient?_of_waiting hknown hfind).symm.trans hrecipient)
      have hrunner : c.entry.runner = runner := by simpa using List.find?_some hfind
      refine ⟨hrunner, ?_⟩
      intro d hd
      exact h.oldest_of_find? hfind d.entry (hqueued hd) hd.2.2
  case oldest =>
    intro hidle d hd hdlive
    have hhead : room.arbiter.recipient? guest = room.arbiter.waits.head? := by
      cases hknown : room.arbiter.matched.get? guest with
      | none => simp [Arbiter.recipient?, hknown]
      | some runner =>
        refine Arbiter.recipient?_of_idle hknown ?_
        intro v hv hrunner
        obtain ⟨e, he, helive, rfl⟩ := h.mem_queue.1 hv
        exact hidle runner hknown e ⟨he, helive, hrunner⟩
    exact h.oldest_of_head? (hhead ▸ hrecipient) d.entry (h.mem_queue.2 ⟨d, hd, hdlive, rfl⟩)
  case calls =>
    apply List.map_congr_left
    intro d hd
    by_cases heq : d = c
    · subst heq
      simp [hlive, WaitCall.entry]
    · have hother : d.token ≠ c.token := fun htoken => heq (h.call_unique hd hc htoken)
      simp [heq, hother, WaitCall.entry]
  case queue =>
    rw [h.waits_announce hrecipient, h.queue, List.filter_map]
    rfl
  case matched =>
    intro g
    simp only [Arbiter.runnerOfGuest?, hmatched, Table.get?_insert]
    rfl
  case sent => rfl

theorem enters (h : room.Sound) (runner : RunnerId) (limit : Span) :
    ∃ c, room.Enters (room.wait runner limit) runner limit c :=
  ⟨⟨room.arbiter.nextToken, runner, limit, none⟩, rfl, rfl, rfl, h.fresh, rfl, rfl, fun _ => rfl,
    rfl⟩

theorem leaves (h : room.Sound) (token : Nat) {how : WaitCall → CallEnd}
    (hunserved : ∀ c address, how c ≠ .returned (.ok address)) :
    room.Leaves (room.leave token how) token how := by
  have hcalls : (room.leave token how).calls = room.calls.map fun d =>
      if d.isLive = true ∧ d.token = token then d.endAs (how d) else d := by
    apply List.map_congr_left
    intro d _
    simp only [Bool.and_eq_true_iff, beq_iff_eq]
  refine ⟨hcalls, rfl, fun c hc htoken => ?_, fun _ => rfl, rfl⟩
  -- a live call would have its wait in the queue
  by_contra hlive
  have hwaits := (h.leave token hunserved).mem_queue.2
    ⟨c, hc, Bool.not_eq_false _ ▸ hlive, rfl⟩
  have hother := (List.mem_filter.1 hwaits).2
  exact bne_iff_ne.1 hother htoken

theorem cancels (h : room.Sound) (runner : RunnerId) :
    room.Cancels (room.cancel runner).1 runner := by
  have hmatched : ∀ g, (room.cancel runner).1.arbiter.runnerOfGuest? g =
      if room.arbiter.runnerOfGuest? g = some runner then none
      else room.arbiter.runnerOfGuest? g := room.arbiter.runnerOfGuest?_cancel runner
  constructor
  case calls =>
    rw [h.calls_cancel]
    apply List.map_congr_left
    intro d _
    by_cases hd : d.isLive = true ∧ d.runner = runner
    · simp only [hd.1, hd.2, beq_self_eq_true, Bool.and_self, and_self, if_true]
    · simp only [if_neg hd, Bool.and_eq_true_iff, beq_iff_eq]
  case queue => rfl
  case none_waits =>
    rintro c ⟨hc, hlive, hrunner⟩
    have hwaits := (h.cancel runner).mem_queue.2 ⟨c, hc, hlive, rfl⟩
    have hother := (List.mem_filter.1 hwaits).2
    exact absurd hrunner (bne_iff_ne.1 hother)
  case none_matched =>
    intro g hg
    rw [hmatched g] at hg
    split at hg
    · cases hg
    · next hother => exact hother hg
  case matched => exact hmatched
  case sent => rfl

end Sound

/-- Whatever has happened, the queue holds the waits of the calls that have not ended, in the order
in which they began, and no call is sent more than one address. A call enters last, and ends with
its wait when its time is up or it is dropped. An announcement fails exactly if no call is left,
always for that reason, and then changes nothing; else it serves one call. -/
theorem calls_served (es : List Event) :
    let room := run es
    room.arbiter.waits = (room.calls.filter (·.isLive)).map (·.entry) ∧
      room.calls.Pairwise (·.token < ·.token) ∧
      (room.sent.map Prod.fst).Nodup ∧
      (∀ token address, (token, address) ∈ room.sent ↔
        ∃ c ∈ room.calls, c.token = token ∧ c.ended = some (.returned (.ok address))) ∧
      (∀ guest address runner, (room.announce guest address).2 = .ok runner →
        ∃ c, c.runner = runner ∧ room.Serves (room.announce guest address).1 guest address c) ∧
      (∀ guest address, (∃ e, (room.announce guest address).2 = .error e) ↔
        ∀ c ∈ room.calls, c.isLive = false) ∧
      (∀ guest address e, (room.announce guest address).2 = .error e →
        e = .noPendingRequests ∧ (room.announce guest address).1 = room) ∧
      (∀ runner limit,
        ∃ c, room.Enters (room.onEvent (.wait runner limit)) runner limit c) ∧
      (∀ token, room.Leaves (room.onEvent (.timeUp token)) token
        fun c => .returned (.error (.timeout c.runner c.limit))) ∧
      (∀ token, room.Leaves (room.onEvent (.drop token)) token fun _ => .dropped) ∧
      ∀ runner, room.Cancels (room.cancel runner).1 runner := by
  intro room
  have h : room.Sound := sound_run es
  refine ⟨h.queue, h.ordered, h.sent_once, h.served, ?_, ?_, ?_, h.enters,
    fun token => h.leaves token fun c address heq => ?_,
    fun token => h.leaves token fun c address heq => ?_, h.cancels⟩
  · intro guest address runner hok
    obtain ⟨w, hw, rfl⟩ := h.recipient_of_ok hok
    obtain ⟨c, hc, hlive, rfl⟩ := h.mem_queue.1 (Arbiter.recipient?_mem hw)
    exact ⟨c, rfl, h.serves hc hlive hw⟩
  · intro guest address
    have hnone : room.arbiter.recipient? guest = none ↔ ∀ c ∈ room.calls, c.isLive = false :=
      Arbiter.recipient?_eq_none_iff.trans h.waits_eq_nil_iff
    rw [← hnone]
    constructor
    · rintro ⟨e, he⟩
      exact h.recipient_of_error he
    · intro hnone
      exact ⟨_, congrArg Prod.snd (Sound.announce_of_no_recipient hnone)⟩
  · intro guest address e he
    have hnone : room.announce guest address = (room, .error .noPendingRequests) :=
      Sound.announce_of_no_recipient (h.recipient_of_error he)
    rw [hnone] at he ⊢
    exact ⟨(Except.error.inj he).symm, rfl⟩
  · cases heq
  · cases heq

end WaitingRoom

end RunnerFleet

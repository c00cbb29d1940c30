import RunnerFleet.Proofs.Sync.Run

/-!
# No command is lost, doubled or put out of order

The ledger of an agent is a function of the history: every command that was accepted for the agent,
in the order of acceptance, with what has become of it. A taken command is the oldest that waits,
and a creation that is taken back is the oldest waiting one of its runner. `Accounted` says that
the ledger tells the truth: its waiting commands are the agent's queue, and its sent ones are those
that streams have taken. Since sent commands come before waiting ones, taken and queued commands
together are the accepted ones without those that were withdrawn (`Accounted.not_withdrawn`).
-/

namespace RunnerFleet

/-! ## Ledgers -/

/-- What has become of an accepted command. -/
inductive Fate where
  | waiting | sent | withdrawn
  deriving DecidableEq, Repr

/-- An accepted command. -/
structure LedgerEntry where
  command : Command
  fate : Fate
  deriving DecidableEq, Repr

namespace Ledger

variable {l : List LedgerEntry} {p : Command → Bool} {fate : Fate}

/-- The oldest waiting command that `p` accepts meets its fate. -/
def settle (p : Command → Bool) (fate : Fate) : List LedgerEntry → List LedgerEntry
  | [] => []
  | e :: rest =>
    if e.fate = .waiting ∧ p e.command = true then ⟨e.command, fate⟩ :: rest
    else e :: settle p fate rest

/-- The commands with a fate, in the order of acceptance. -/
def commandsOf (fate : Fate) (l : List LedgerEntry) : List Command :=
  (l.filter fun e => e.fate = fate).map (·.command)

/-- What was sent was accepted before what waits. -/
def InOrder (l : List LedgerEntry) : Prop :=
  l.Pairwise fun e f => f.fate = .sent → e.fate ≠ .waiting

theorem commandsOf_cons (e : LedgerEntry) (l : List LedgerEntry) :
    commandsOf fate (e :: l) =
      if e.fate = fate then e.command :: commandsOf fate l else commandsOf fate l := by
  unfold commandsOf
  rw [List.filter_cons]
  by_cases he : e.fate = fate <;> simp [he]

theorem commandsOf_append_waiting (l : List LedgerEntry) (c : Command) :
    commandsOf fate (l ++ [⟨c, .waiting⟩]) =
      commandsOf fate l ++ if fate = .waiting then [c] else [] := by
  unfold commandsOf
  cases fate <;> simp

theorem map_command_settle : (settle p fate l).map (·.command) = l.map (·.command) := by
  induction l with
  | nil => rfl
  | cons e rest ih =>
    rw [settle]
    split
    · rfl
    · rw [List.map_cons, List.map_cons, ih]

/-- What waits, after one command does so no longer. -/
theorem waiting_settle (hfate : fate ≠ .waiting) :
    commandsOf .waiting (settle p fate l) = (commandsOf .waiting l).eraseP p := by
  induction l with
  | nil => rfl
  | cons e rest ih =>
    rw [settle, commandsOf_cons]
    by_cases he : e.fate = .waiting
    · by_cases hp : p e.command = true
      · rw [if_pos ⟨he, hp⟩, commandsOf_cons, if_neg hfate, if_pos he, List.eraseP_cons_of_pos hp]
      · rw [if_neg fun h => hp h.2, commandsOf_cons, if_pos he, if_pos he,
          List.eraseP_cons_of_neg hp, ih]
    · rw [if_neg fun h => he h.1, commandsOf_cons, if_neg he, if_neg he, ih]

/-- A fate is met by no command but the settled one. -/
theorem commandsOf_settle_of_ne {other : Fate} (hother : other ≠ fate)
    (hwaiting : other ≠ .waiting) : commandsOf other (settle p fate l) = commandsOf other l := by
  induction l with
  | nil => rfl
  | cons e rest ih =>
    rw [settle]
    split
    · next h =>
      rw [commandsOf_cons, commandsOf_cons, if_neg (Ne.symm hother),
        if_neg fun he => hwaiting (he.symm.trans h.1)]
    · rw [commandsOf_cons, commandsOf_cons, ih]

theorem count_settle (q : Command → Bool) (hfate : fate ≠ .waiting) :
    (commandsOf fate (settle p fate l)).countP q =
      (commandsOf fate l).countP q + ((commandsOf .waiting l).find? p).toList.countP q := by
  induction l with
  | nil => rfl
  | cons e rest ih =>
    rw [settle]
    by_cases he : e.fate = .waiting
    · have hne : e.fate ≠ fate := fun h => hfate (h.symm.trans he)
      by_cases hp : p e.command = true
      · rw [if_pos ⟨he, hp⟩, commandsOf_cons, commandsOf_cons, commandsOf_cons, if_pos rfl,
          if_neg hne, if_pos he, List.find?_cons_of_pos hp, List.countP_cons]
        simp [List.countP_cons]
      · rw [if_neg fun h => hp h.2, commandsOf_cons, commandsOf_cons, commandsOf_cons, if_neg hne,
          if_neg hne, if_pos he, List.find?_cons_of_neg hp, ih]
    · rw [if_neg fun h => he h.1, commandsOf_cons, commandsOf_cons, commandsOf_cons, if_neg he]
      by_cases hf : e.fate = fate
      · rw [if_pos hf, if_pos hf, List.countP_cons, List.countP_cons, ih]
        omega
      · rw [if_neg hf, if_neg hf, ih]

theorem fate_settle {e : LedgerEntry} (he : e ∈ settle p fate l) :
    e ∈ l ∨ e.fate = fate := by
  induction l with
  | nil => cases he
  | cons x rest ih =>
    rw [settle] at he
    split at he
    · rcases List.mem_cons.1 he with rfl | he
      · exact .inr rfl
      · exact .inl (List.mem_cons_of_mem x he)
    · rcases List.mem_cons.1 he with rfl | he
      · exact .inl List.mem_cons_self
      · exact (ih he).imp_left (List.mem_cons_of_mem x)

namespace InOrder

theorem append_waiting (h : InOrder l) (c : Command) : InOrder (l ++ [⟨c, .waiting⟩]) := by
  refine List.pairwise_append.2 ⟨h, List.pairwise_singleton _ _, fun e _ f hf hsent => ?_⟩
  rw [List.mem_singleton.1 hf] at hsent
  cases hsent

/-- The order stays if what is sent is the oldest that waits. -/
theorem settle (h : InOrder l) (hfate : fate = .sent → ∀ c, p c = true) (hne : fate ≠ .waiting) :
    InOrder (settle p fate l) := by
  induction l with
  | nil => exact .nil
  | cons e rest ih =>
    obtain ⟨hhead, hrest⟩ := List.pairwise_cons.1 h
    rw [Ledger.settle]
    split
    · exact List.pairwise_cons.2 ⟨fun f _ _ => hne, hrest⟩
    · next hnot =>
      refine List.pairwise_cons.2 ⟨fun f hf hsent hwaiting => ?_, ih hrest⟩
      rcases fate_settle hf with hold | hnew
      · exact hhead f hold hsent hwaiting
      · exact hnot ⟨hwaiting, hfate (hnew.symm.trans hsent) _⟩

/-- After a command that waits none was sent. -/
theorem sent_eq_nil {e : LedgerEntry} (h : InOrder (e :: l)) (he : e.fate = .waiting) :
    commandsOf .sent l = [] := by
  unfold commandsOf
  rw [List.map_eq_nil_iff, List.filter_eq_nil_iff]
  intro f hf
  simpa using fun hsent => (List.pairwise_cons.1 h).1 f hf hsent he

/-- The oldest waiting command is sent after all that were sent before. -/
theorem sent_settle (h : InOrder l) : commandsOf .sent (Ledger.settle (fun _ => true) .sent l) =
    commandsOf .sent l ++ (commandsOf .waiting l).head?.toList := by
  induction l with
  | nil => rfl
  | cons e rest ih =>
    have ih := ih (List.pairwise_cons.1 h).2
    rw [Ledger.settle]
    by_cases he : e.fate = .waiting
    · simp [he, commandsOf_cons, h.sent_eq_nil he]
    · rw [if_neg fun h => he h.1, commandsOf_cons, ih, commandsOf_cons, commandsOf_cons,
        if_neg he]
      split <;> rfl

/-- What is not withdrawn was sent or waits, and in this order. -/
theorem not_withdrawn (h : InOrder l) :
    (l.filter fun e => e.fate ≠ .withdrawn).map (·.command) =
      commandsOf .sent l ++ commandsOf .waiting l := by
  induction l with
  | nil => rfl
  | cons e rest ih =>
    have ih := ih (List.pairwise_cons.1 h).2
    rw [commandsOf_cons, commandsOf_cons, List.filter_cons]
    cases he : e.fate with
    | withdrawn => simpa [he] using ih
    | sent => simpa [he] using ih
    | waiting =>
      rw [h.sent_eq_nil he, List.nil_append] at ih
      simpa [he, h.sent_eq_nil he] using ih

end InOrder

end Ledger

/-! ## The ledger of a history -/

namespace SyncDeed

/-- The agent whose queue the deed changes. -/
def queue? : SyncDeed → Option AgentId
  | accepted a _ | withdrew a _ | popped _ a _ => some a
  | _ => none

/-- The command that the deed accepts for the agent. -/
def accepted? (agent : AgentId) : SyncDeed → Option Command
  | accepted a c => if a = agent then some c else none
  | _ => none

/-- The command that the deed takes from the agent's queue. -/
def popped? (agent : AgentId) : SyncDeed → Option Command
  | popped _ a oldest => if a = agent then oldest else none
  | _ => none

end SyncDeed

/-- The ledger of the agent after one more deed. -/
def ledgerAfter (agent : AgentId) (l : List LedgerEntry) : SyncDeed → List LedgerEntry
  | .accepted a c => if a = agent then l ++ [⟨c, .waiting⟩] else l
  | .popped _ a _ => if a = agent then Ledger.settle (fun _ => true) .sent l else l
  | .withdrew a runner => if a = agent then Ledger.settle (·.creates runner) .withdrawn l else l
  | _ => l

/-- The commands that some deeds accepted for the agent, with their fates. -/
def ledger (agent : AgentId) (ds : List SyncDeed) : List LedgerEntry :=
  ds.foldl (ledgerAfter agent) []

open Ledger

theorem ledger_append_singleton (agent : AgentId) (ds : List SyncDeed) (d : SyncDeed) :
    ledger agent (ds ++ [d]) = ledgerAfter agent (ledger agent ds) d := by
  simp only [ledger, List.foldl_append, List.foldl_cons, List.foldl_nil]

/-- The agent's ledger tells the truth about its queue and about what was taken from it. -/
structure Accounted (agent : AgentId) (ds : List SyncDeed) (queue : List Command) : Prop where
  accepted : (ledger agent ds).map (·.command) = ds.filterMap (·.accepted? agent)
  sent : commandsOf .sent (ledger agent ds) = ds.filterMap (·.popped? agent)
  waiting : commandsOf .waiting (ledger agent ds) = queue
  withdrawn : ∀ runner, (commandsOf .withdrawn (ledger agent ds)).countP (·.creates runner) =
    ds.count (.withdrew agent runner)
  inOrder : InOrder (ledger agent ds)

namespace Accounted

variable {agent : AgentId} {ds es : List SyncDeed} {queue : List Command}

theorem nil : Accounted agent [] [] := ⟨rfl, rfl, rfl, fun _ => rfl, .nil⟩

/-- What was taken from the queue and what waits in it are together the accepted commands that were
not withdrawn. -/
theorem not_withdrawn (h : Accounted agent ds queue) :
    ds.filterMap (·.popped? agent) ++ queue =
      ((ledger agent ds).filter fun e => e.fate ≠ .withdrawn).map (·.command) := by
  rw [h.inOrder.not_withdrawn, h.sent, h.waiting]

/-- Deeds that do not concern the agent's queue. -/
theorem others (h : Accounted agent ds queue) (hes : ∀ d ∈ es, d.queue? ≠ some agent) :
    Accounted agent (ds ++ es) queue := by
  induction es using List.reverseRecOn with
  | nil =>
    rw [List.append_nil]
    exact h
  | append_singleton es d ih =>
    have hd : d.queue? ≠ some agent := hes d (List.mem_append_right es List.mem_cons_self)
    have ih := ih fun x hx => hes x (List.mem_append_left _ hx)
    have hsame : ledger agent (ds ++ (es ++ [d])) = ledger agent (ds ++ es) := by
      rw [← List.append_assoc, ledger_append_singleton]
      cases d <;> simp_all [ledgerAfter, SyncDeed.queue?]
    have haccepted : d.accepted? agent = none := by
      cases d <;> simp_all [SyncDeed.accepted?, SyncDeed.queue?]
    have hpopped : d.popped? agent = none := by
      cases d <;> simp_all [SyncDeed.popped?, SyncDeed.queue?]
    have hwithdrew : ∀ runner, d ≠ .withdrew agent runner := by
      rintro runner rfl
      exact hd rfl
    refine ⟨?_, ?_, ?_, fun runner => ?_, ?_⟩ <;> rw [hsame]
    · rw [ih.accepted]
      simp [haccepted]
    · rw [ih.sent]
      simp [hpopped]
    · exact ih.waiting
    · rw [ih.withdrawn]
      simp [hwithdrew runner, List.count_append]
    · exact ih.inOrder

theorem accept (h : Accounted agent ds queue) (c : Command) :
    Accounted agent (ds ++ [.accepted agent c]) (queue ++ [c]) := by
  have hledger : ledger agent (ds ++ [.accepted agent c]) = ledger agent ds ++ [⟨c, .waiting⟩] := by
    rw [ledger_append_singleton, ledgerAfter, if_pos rfl]
  refine ⟨?_, ?_, ?_, fun runner => ?_, ?_⟩ <;> rw [hledger]
  · simp [h.accepted, SyncDeed.accepted?]
  · simp [commandsOf_append_waiting, h.sent, SyncDeed.popped?]
  · simp [commandsOf_append_waiting, h.waiting]
  · simp [commandsOf_append_waiting, h.withdrawn, List.count_append]
  · exact h.inOrder.append_waiting c

theorem pop (h : Accounted agent ds queue) (i : Nat) :
    Accounted agent (ds ++ [.popped i agent queue.head?]) queue.tail := by
  have hledger : ledger agent (ds ++ [.popped i agent queue.head?]) =
      settle (fun _ => true) .sent (ledger agent ds) := by
    rw [ledger_append_singleton, ledgerAfter, if_pos rfl]
  refine ⟨?_, ?_, ?_, fun runner => ?_, ?_⟩ <;> rw [hledger]
  · simp [map_command_settle, h.accepted, SyncDeed.accepted?]
  · rw [h.inOrder.sent_settle, h.sent, h.waiting, List.filterMap_append]
    cases queue <;> simp [SyncDeed.popped?]
  · rw [waiting_settle (by decide), h.waiting]
    cases queue <;> simp
  · rw [commandsOf_settle_of_ne (by decide) (by decide), h.withdrawn]
    simp [List.count_append]
  · exact h.inOrder.settle (fun _ _ => rfl) (by decide)

/-- A creation can be taken back only while it waits. -/
theorem withdraw (h : Accounted agent ds queue) {runner : RunnerId}
    (hqueue : queue.any (·.creates runner) = true) :
    Accounted agent (ds ++ [.withdrew agent runner]) (queue.eraseP (·.creates runner)) := by
  have hledger : ledger agent (ds ++ [.withdrew agent runner]) =
      settle (·.creates runner) .withdrawn (ledger agent ds) := by
    rw [ledger_append_singleton, ledgerAfter, if_pos rfl]
  refine ⟨?_, ?_, ?_, fun other => ?_, ?_⟩ <;> rw [hledger]
  · simp [map_command_settle, h.accepted, SyncDeed.accepted?]
  · rw [commandsOf_settle_of_ne (by decide) (by decide), h.sent]
    simp [SyncDeed.popped?]
  · rw [waiting_settle (by decide), h.waiting]
  · obtain ⟨c, hc⟩ : ∃ c, queue.find? (·.creates runner) = some c := by
      rw [← Option.isSome_iff_exists, List.find?_isSome]
      simpa using hqueue
    have hcreates : c.creates runner = true := by simpa using List.find?_some hc
    have hother : c.creates other = (runner == other) := by
      cases c with
      | createRunner id name script request =>
        obtain rfl : id = runner := by simpa [Command.creates] using hcreates
        rfl
      | deleteRunner id request => cases hcreates
      | noop => cases hcreates
    rw [count_settle _ (by decide), h.withdrawn, h.waiting, hc, List.count_append]
    by_cases heq : runner = other
    · subst heq
      simp [hother]
    · simp [hother, heq]
  · exact h.inOrder.settle (fun hfate => nomatch hfate) (by decide)

end Accounted

/-! ## Runs -/

namespace SyncRun

variable {r : SyncRun}

/-- Every ledger is true of the agent's queue. -/
def Balanced (r : SyncRun) : Prop :=
  ∀ agent, Accounted agent r.deeds (r.coordinator.outbox.queueOf agent)

namespace Balanced

/-- A step of a stream takes the oldest command of its agent or leaves all queues alone. -/
theorem change (h : r.Balanced) {i : Nat} {l l' : Link} {c' : Coordinator} {ds : List SyncDeed}
    (hchange : l.Change i r.coordinator c' l' ds) (links : List Link) :
    Balanced ⟨c', links, r.deeds ++ ds⟩ := by
  intro agent
  have hstill : c'.outbox = r.coordinator.outbox → (∀ d ∈ ds, d.queue? ≠ some agent) →
      Accounted agent (r.deeds ++ ds) (c'.outbox.queueOf agent) := by
    intro houtbox hds
    rw [houtbox]
    exact (h agent).others hds
  cases hchange with
  | popped b hpoint hbinding =>
    simp only [Outbox.queueOf_next]
    by_cases ha : agent = b.agentId
    · subst ha
      rw [if_pos rfl]
      exact (h b.agentId).pop i
    · rw [if_neg ha]
      exact (h agent).others (by simp [SyncDeed.queue?, Ne.symm ha])
  | reported s b => exact hstill SyncStream.outbox_reconcile (by simp)
  | missed command => exact hstill SyncStream.outbox_finish (by simp [SyncDeed.queue?])
  | ended => exact hstill SyncStream.outbox_finish (by simp [SyncDeed.queue?])
  | none => exact hstill rfl (by simp)
  | deafened => exact hstill rfl (by simp)
  | named s => exact hstill rfl (by simp [SyncDeed.queue?])
  | heard s b => exact hstill rfl (by simp [SyncDeed.queue?])
  | marked s b agent => exact hstill rfl (by simp [SyncDeed.queue?])
  | refused s b => exact hstill rfl (by simp [SyncDeed.queue?])
  | replied command => exact hstill rfl (by simp [SyncDeed.queue?])

theorem step {r' : SyncRun} (h : r.Balanced) (hstep : r.Stepped r') : r'.Balanced := by
  cases hstep with
  | still => exact h
  | registered minted registration =>
    exact fun agent => (h agent).others (by simp [SyncDeed.queue?])
  | accepted agent command =>
    intro a
    simp only [Outbox.queueOf_enqueue]
    by_cases ha : a = agent
    · subst ha
      rw [if_pos rfl]
      exact (h a).accept command
    · rw [if_neg ha]
      exact (h a).others (by simp [SyncDeed.queue?, Ne.symm ha])
  | withdrew runner agent htaken =>
    intro a
    obtain ⟨hany, hqueue⟩ := Outbox.queueOf_withdrawCreate htaken
    rw [hqueue]
    by_cases ha : a = agent
    · subst ha
      rw [if_pos rfl]
      exact (h a).withdraw hany
    · rw [if_neg ha]
      exact (h a).others (by simp [SyncDeed.queue?, Ne.symm ha])
  | connected host => exact h
  | stream i l l' c' ds hl hchange => exact h.change hchange _

end Balanced

theorem balanced_run (es : List SyncEvent) : (run es).Balanced :=
  run_induction (fun _ => .nil) (fun _ _ h hstep => h.step hstep) es

end SyncRun

end RunnerFleet

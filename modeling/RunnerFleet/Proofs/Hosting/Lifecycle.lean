import RunnerFleet.Http.Announcements
import RunnerFleet.Proofs.Hosting.Removal
import RunnerFleet.Proofs.Vm.Operations

/-!
# A host over real VMs

The service that carries out a host's operations on its VMs (`lifecycle`). Guests announce their
addresses over the endpoint at any time, the outside answers requests with whatever it likes, and
while an operation is under way the hypervisor may do anything to the bundle of its runner.
-/

namespace RunnerFleet

/-- The operation that a point belongs to. -/
def VmPoint.operation : VmPoint → VmOperation
  | cloning => .create
  | starting _ => .start
  | stopping _ => .stop
  | deleting _ => .delete
  | reaching _ => .awaitSsh
  | settingUp _ script => .setUp script
  | calling _ call => .guest call

/-! ## Operations keep to their kind -/

namespace VmOperation

theorem fits_map {P : Type} {point : P → VmPoint} {result : Unit → VmValue} {turn : Turn P Unit}
    {op : VmOperation} (hpoint : ∀ p, (point p).operation = op) (hop : op ≠ .start) :
    (turn.map point result).Fits VmPoint.operation op := by
  rcases turn with (e | u) | p
  · trivial
  · exact fun h => absurd h hop
  · exact hpoint p

theorem fits_start (turn : Turn Start.Point String) :
    (turn.map VmPoint.starting VmValue.address).Fits VmPoint.operation .start := by
  rcases turn with (e | address) | p
  · trivial
  · exact fun _ => ⟨address, rfl⟩
  · rfl

variable (c : VmContext) (runner : RunnerId) (h : VmHost)

theorem begin_fits (op : VmOperation) :
    (op.begin c runner h).2.Fits VmPoint.operation op := by
  cases op with
  | create =>
    simp only [VmOperation.begin]
    split
    · rfl
    · trivial
  | start => exact fits_start _
  | stop => exact fits_map (fun _ => rfl) (by simp)
  | delete => exact fits_map (fun _ => rfl) (by simp)
  | awaitSsh => exact fits_map (fun _ => rfl) (by simp)
  | setUp script =>
    simp only [VmOperation.begin]
    split
    · exact fun h => by cases h
    · split
      · rfl
      · trivial
  | guest call =>
    simp only [VmOperation.begin]
    split
    · rfl
    · trivial

theorem resume_fits (p : VmPoint) (signal : Signal) :
    (VmOperation.resume c runner h p signal).2.Fits VmPoint.operation p.operation := by
  unfold VmOperation.resume
  split
  case h_1 =>
    simp only [VmHost.initialise]
    split
    · trivial
    · split
      · trivial
      · exact fun h => by cases h
  case h_3 => exact fits_start _
  case h_4 => exact fits_map (fun _ => rfl) (by simp [VmPoint.operation])
  case h_5 => exact fits_map (fun _ => rfl) (by simp [VmPoint.operation])
  case h_6 => exact fits_map (fun _ => rfl) (by simp [VmPoint.operation])
  case h_12 => rfl
  all_goals first | trivial | exact fun h => by cases h

end VmOperation

namespace Lifecycle

/-- The VMs of a host, and the addresses that were handed to waits, with the tokens of these. -/
structure State where
  host : VmHost
  delivered : List (Nat × String)

/-- What the outside contributes to a step of an operation. -/
inductive Stimulus where
  /-- The hypervisor has changed the runner's bundle. -/
  | touched (entry : Option BundleEntry)
  /-- What the operation waits for has come. -/
  | signalled (signal : Signal)

/-- A stimulus, and what the step knows of time. -/
structure Input where
  context : VmContext
  stimulus : Stimulus

/-- A request to the endpoint for announcements. -/
structure Post where
  method : String
  target : String
  body : List UInt8

/-- An address reaches only the operation whose wait it was handed to. -/
def admits (s : State) (p : VmPoint) : Signal → Bool
  | .announced address => p.token?.any fun token => s.delivered.contains (token, address)
  | _ => true

def begin (s : State) (runner : RunnerId) (op : VmOperation) (i : Input) :
    State × Turn VmPoint VmValue :=
  let next := op.begin i.context runner s.host
  ({ s with host := next.1 }, next.2)

def resume (s : State) (runner : RunnerId) (p : VmPoint) (i : Input) :
    State × Turn VmPoint VmValue :=
  match i.stimulus with
  | .touched entry =>
    let bundles := s.host.bundles.touch (BundleRoot.bundleName runner) entry
    ({ s with host := { s.host with bundles } }, .waits p)
  | .signalled signal =>
    if admits s p signal then
      let next := VmOperation.resume i.context runner s.host p signal
      ({ s with host := next.1 }, next.2)
    else (s, .waits p)

def abandon (s : State) (p : VmPoint) : State := { s with host := VmOperation.abandon s.host p }

/-- Serves a request to the endpoint. -/
def happen (s : State) (e : Post) : State :=
  let (arbiter, delivery, _) := Http.serveAnnouncement s.host.arbiter e.method e.target e.body
  ⟨{ s.host with arbiter }, s.delivered ++ delivery.toList.map fun d => (d.1.token, d.2)⟩

theorem begin_fits (s : State) (runner : RunnerId) (op : VmOperation) (i : Input) :
    (begin s runner op i).2.Fits VmPoint.operation op :=
  VmOperation.begin_fits ..

theorem resume_fits (s : State) (runner : RunnerId) (p : VmPoint) (i : Input) :
    (resume s runner p i).2.Fits VmPoint.operation p.operation := by
  unfold resume
  split
  · rfl
  · split
    · exact VmOperation.resume_fits ..
    · rfl

/-! ## Bundles -/

open BundleRoot (AgreeOff bundleName)

/-- What a step of an operation may do to the bundles: it leaves all but its runner's alone, and a
deletion leaves nothing behind unless it fails for a reason. -/
structure Keeps (s : State) (runner : RunnerId) (op : VmOperation)
    (x : State × Turn VmPoint VmValue) : Prop where
  agree : AgreeOff (bundleName runner) s.host.bundles x.1.host.bundles
  ok : op = .delete → ∀ v, x.2 = .finished (.ok v) →
    x.1.host.bundles.entryAt (bundleName runner) = none
  error : op = .delete → ∀ e, x.2 = .finished (.error e) → e.isNotFound = false

theorem begin_keeps (s : State) (runner : RunnerId) (op : VmOperation) (i : Input) :
    Keeps s runner op (begin s runner op i) := by
  refine ⟨VmOperation.begin_agree op, ?_, ?_⟩
  · rintro rfl v hv
    exact VmOperation.begin_delete_ok (c := i.context) hv
  · rintro rfl e he
    exact VmOperation.begin_delete_error (c := i.context) he

theorem resume_keeps (s : State) (runner : RunnerId) (p : VmPoint) (i : Input) :
    Keeps s runner p.operation (resume s runner p i) := by
  unfold resume
  split
  · next entry =>
    refine ⟨BundleRoot.touch_agree _ _ _, ?_, ?_⟩
    · intro _ v hv
      cases hv
    · intro _ e he
      cases he
  · next signal =>
    split
    · refine ⟨VmOperation.resume_agree p, ?_, ?_⟩
      · intro hop v hv
        cases p with
        | deleting p => exact VmOperation.resume_deleting_ok (c := i.context) hv
        | cloning | starting | stopping | reaching | settingUp | calling => cases hop
      · intro hop e he
        cases p with
        | deleting p => exact VmOperation.resume_deleting_error (c := i.context) he
        | cloning | starting | stopping | reaching | settingUp | calling => cases hop
    · refine ⟨.refl _, ?_, ?_⟩
      · intro _ v hv
        cases hv
      · intro _ e he
        cases he

theorem abandon_bundles (s : State) (p : VmPoint) :
    (abandon s p).host.bundles = s.host.bundles :=
  VmOperation.abandon_bundles p

/-! ## Waits for addresses -/

theorem resume_waits (s : State) (runner : RunnerId) (p : VmPoint) (i : Input) {w : AddressWait}
    (hw : w ∈ (resume s runner p i).1.host.arbiter.waits) :
    (w ∈ s.host.arbiter.waits ∧ (p.token? = some w.token → ∃ q,
      (resume s runner p i).2 = .waits q ∧ q.token? = some w.token)) ∨
    (w.runner = runner ∧ ∃ q,
      (resume s runner p i).2 = .waits q ∧ q.token? = some w.token) := by
  unfold resume at hw ⊢
  split at hw
  · exact .inl ⟨hw, fun htoken => ⟨p, rfl, htoken⟩⟩
  · split at hw
    · next hadmits =>
      simp only [hadmits, if_true]
      exact VmOperation.resume_waits p hw
    · next hadmits =>
      simp only [hadmits]
      exact .inl ⟨hw, fun htoken => ⟨p, rfl, htoken⟩⟩

theorem announce_waits {a : Arbiter} {guest : GuestId} {w : AddressWait}
    (hw : w ∈ (a.announce guest).1.waits) : w ∈ a.waits := by
  unfold Arbiter.announce at hw
  split at hw
  · exact List.mem_of_mem_erase hw
  · exact hw

theorem happen_waits (s : State) (e : Post) {w : AddressWait}
    (hw : w ∈ (happen s e).host.arbiter.waits) : w ∈ s.host.arbiter.waits := by
  simp only [happen, Http.serveAnnouncement] at hw
  split at hw
  · exact hw
  · split at hw
    · exact hw
    · split at hw
      · exact hw
      · exact announce_waits hw

/-! ## Addresses -/

/-- The endpoint hands no empty address to a wait. -/
theorem happen_delivered {s : State} (e : Post) (hs : ∀ d ∈ s.delivered, d.2 ≠ "") :
    ∀ d ∈ (happen s e).delivered, d.2 ≠ "" := by
  have hdelivery : ∀ d ∈ (Http.serveAnnouncement s.host.arbiter e.method e.target e.body).2.1,
      d.2 ≠ "" := by
    unfold Http.serveAnnouncement
    split
    · exact nofun
    · split
      · exact nofun
      · split
        · exact nofun
        · next announcement hread =>
          rintro d hd
          obtain ⟨w, -, rfl⟩ := Option.map_eq_some_iff.1 hd
          unfold Http.readAnnouncement at hread
          split at hread
          · cases hread
          · split at hread
            · cases hread
            · next hnonempty =>
              cases hread
              exact fun h => hnonempty (.inr h)
  intro d hd
  rcases List.mem_append.1 hd with hd | hd
  · exact hs d hd
  · obtain ⟨x, hx, rfl⟩ := List.mem_map.1 hd
    exact hdelivery x (Option.mem_toList.1 hx)

/-- An address that an operation gives was handed to its wait. -/
theorem resume_address {s : State} {runner : RunnerId} {p : VmPoint} {i : Input} {address : String}
    (hok : (resume s runner p i).2 = .finished (.ok (.address address))) :
    ∃ token, (token, address) ∈ s.delivered := by
  unfold resume at hok
  split at hok
  · cases hok
  · split at hok
    · next hadmits =>
      rw [VmOperation.resume_address hok] at hadmits
      obtain ⟨h, hany⟩ := (Option.any_eq_true_iff_get _ _).1 hadmits
      exact ⟨p.token?.get h, List.contains_iff_mem.1 hany⟩
    · cases hok

end Lifecycle

/-- The operations on a host's VMs. -/
abbrev lifecycle : VmService where
  State := Lifecycle.State
  Point := VmPoint
  Input := Lifecycle.Input
  Event := Lifecycle.Post
  begin := Lifecycle.begin
  resume := Lifecycle.resume
  abandon := Lifecycle.abandon
  happen := Lifecycle.happen
  operationOf := VmPoint.operation
  begin_fits := Lifecycle.begin_fits
  resume_fits := Lifecycle.resume_fits

/-- A host over real VMs that has just started: no one waits, and any bundles may be there. -/
def HostRun.begun (bundles : BundleRoot) : HostRun lifecycle := .start ⟨⟨.empty, bundles⟩, []⟩

end RunnerFleet

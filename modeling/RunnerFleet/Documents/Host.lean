import RunnerFleet.Documents.Fleet
import RunnerFleet.Roster
import RunnerFleet.Vm.Timeline

/-!
# What happens on a host as JSON documents

Failures of VM operations, of waits for addresses and of changes to the roster, and what operations
give. The detail of a failed exchange with a guest is shown only where this library words it; that
of an unreadable document is never shown.
-/

namespace RunnerFleet

/-- The name of a failure's cause. -/
def VmError.cause : VmError → String
  | hypervisor _ => "Hypervisor"
  | bootFailed _ => "BootFailed"
  | bootTimeout _ => "BootTimeout"
  | address _ => "IpTimeout"
  | sshTimeout _ => "SshTimeout"
  | setupScript _ => "SetupScript"
  | exec _ => "Exec"
  | notFound _ => "NotFound"
  | noAddress _ => "NoIpAddress"
  | badMetadata => "Metadata"
  | io _ => "Io"

/-- Whether the wording of a failure is this library's own. -/
def VmError.isWorded : VmError → Bool
  | badMetadata => false
  | exec detail =>
    detail.startsWith "HTTP request failed" || (detail.splitOn " timed out after ").length > 1
  | _ => true

def VmError.toJson (e : VmError) : Json :=
  .ofFields ([("error", .text e.cause), ("not_found", .bool e.isNotFound)] ++
    if e.isWorded then [("message", .text e.message)] else [])

/-- The name of a failure's cause. -/
def ArbiterError.cause : ArbiterError → String
  | timeout _ _ => "Timeout"
  | noPendingRequests => "NoPendingRequests"
  | deliveryFailed _ => "DeliveryFailed"

def ArbiterError.toJson (e : ArbiterError) : Json := .failure e.cause e.message

/-- The name of a refusal's cause. -/
def RosterError.cause : RosterError → String
  | alreadyExists _ => "AlreadyExists"
  | notFound _ => "NotFound"
  | illegalMove _ => "InvalidTransition"

def RosterError.toJson (e : RosterError) : Json := .failure e.cause e.message

/-- One line per runner of a roster: what changes while it lives. -/
def Roster.rows (r : Roster) : Json :=
  .list (r.list.map fun x =>
    .list [.text x.id, .text x.state.name, .text x.guestState.name, .text x.ipAddress,
      .text x.errorMessage])

/-- The document of a result. -/
def Json.ofResult {ε α : Type} (failure : ε → Json) (value : α → Json) : Except ε α → Json
  | .ok a => value a
  | .error e => failure e

/-- What a request to the outside was answered with. -/
def Reply.toJson : Reply → Json
  | .done => .text "ok"
  | .accepted yes => .bool yes
  | .power state => .text state.name
  | .output text => .text text
  | .status s => s.toJson
  | .exec e => e.toJson

/-- What an operation gave, with the path of a runner's bundle; a new VM has no address yet. -/
def VmValue.toJson (bundlePath : RunnerId → String) : VmValue → Json
  | done => .text "ok"
  | created runner =>
    .ofFields
      [("runner_id", .text runner), ("bundle", .text (bundlePath runner)), ("ip", .text "")]
  | address ip => .text ip
  | status s => .ofFields [("status", s.toJson), ("guest_state", .text s.guestState.name)]
  | exec e => e.toJson

/-- How a task of a host ended. -/
def Vm.Outcome.toJson (bundlePath : RunnerId → String) : Vm.Outcome → Json
  | operation r => .ofResult VmError.toJson (VmValue.toJson bundlePath) r
  | addressWait r => .ofResult ArbiterError.toJson .text r
  | announcement r => .ofResult ArbiterError.toJson .text r

end RunnerFleet

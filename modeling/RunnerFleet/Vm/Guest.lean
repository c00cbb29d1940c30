import RunnerFleet.Json.Parser
import RunnerFleet.Json.Printer
import RunnerFleet.Json.Schema
import RunnerFleet.Runner
import RunnerFleet.Text.Blank
import RunnerFleet.Vm.Error

/-!
# Talking to a guest

A small server inside each guest reports the state of its job and runs commands. A request becomes
one HTTP exchange (`GuestCall.request`), and what comes back becomes a value or a failure
(`GuestCall.conclude`).
-/

namespace RunnerFleet

/-- The job that a guest is running. -/
structure JobInfo where
  jobId : Int
  runId : Int
  runNumber : Int
  workflowName : String
  jobName : String
  startedAt : Option Timestamp
  deriving DecidableEq, Repr

/-- What a guest says of itself; `state` is a number that the guest's monitor chose. -/
structure GuestStatus where
  state : Int
  runnerName : String
  repository : String
  labels : List String
  job : Option JobInfo
  errorMessage : Option String
  deriving DecidableEq, Repr

/-- The outcome of a command in a guest. A non-empty `error` means that it could not be run. -/
structure ExecOutput where
  output : String
  exitCode : Int
  error : Option String
  deriving DecidableEq, Repr

/-- The guest state that a status stands for. -/
def GuestStatus.guestState (s : GuestStatus) : GuestState :=
  if s.state = 1 then .offline
  else if s.state = 2 then .idle
  else if s.state = 3 then .running
  else .unspecified

/-! ## Documents -/

def JobInfo.ofJson? (v : Json) : Option JobInfo := do
  match ← v.pick?
    ["job_id", "run_id", "run_number", "workflow_name", "job_name", "started_at"] with
  | [jobId, runId, runNumber, workflowName, jobName, startedAt] =>
    return {
      jobId := ← Json.required? Json.asInt64? jobId
      runId := ← Json.required? Json.asInt64? runId
      runNumber := ← Json.defaulted? Json.asInt64? 0 runNumber
      workflowName := ← Json.defaulted? Json.asText? "" workflowName
      jobName := ← Json.defaulted? Json.asText? "" jobName
      startedAt := ← Json.defaulted? (Json.asOption? Json.asTimestamp?) none startedAt }
  | _ => none

def GuestStatus.ofJson? (v : Json) : Option GuestStatus := do
  match ← v.pick? ["state", "runner_name", "repository", "labels", "job", "error_message"] with
  | [state, runnerName, repository, labels, job, errorMessage] =>
    return {
      state := ← Json.defaulted? Json.asInt32? 0 state
      runnerName := ← Json.defaulted? Json.asText? "" runnerName
      repository := ← Json.defaulted? Json.asText? "" repository
      labels := ← Json.defaulted? (Json.asList? Json.asText?) [] labels
      job := ← Json.defaulted? (Json.asOption? JobInfo.ofJson?) none job
      errorMessage := ← Json.defaulted? (Json.asOption? Json.asText?) none errorMessage }
  | _ => none

def ExecOutput.ofJson? (v : Json) : Option ExecOutput := do
  match ← v.pick? ["output", "exit_code", "error"] with
  | [output, exitCode, error] =>
    return {
      output := ← Json.defaulted? Json.asText? "" output
      exitCode := ← Json.defaulted? Json.asInt32? 0 exitCode
      error := ← Json.defaulted? (Json.asOption? Json.asText?) none error }
  | _ => none

def JobInfo.toJson (j : JobInfo) : Json :=
  .ofFields
    [("job_id", .whole j.jobId), ("run_id", .whole j.runId), ("run_number", .whole j.runNumber),
      ("workflow_name", .text j.workflowName), ("job_name", .text j.jobName),
      ("started_at", .ofOption (fun t => .text t.text) j.startedAt)]

/-- A status as a document; a job and an error message that are absent are left out. -/
def GuestStatus.toJson (s : GuestStatus) : Json :=
  .ofFields
    ([("state", .whole s.state), ("runner_name", .text s.runnerName),
        ("repository", .text s.repository), ("labels", .list (s.labels.map .text))] ++
      (s.job.toList.map fun j => ("job", j.toJson)) ++
      s.errorMessage.toList.map fun e => ("error_message", .text e))

/-- An outcome as a document; an error that is absent is left out. -/
def ExecOutput.toJson (e : ExecOutput) : Json :=
  .ofFields
    ([("output", .text e.output), ("exit_code", .whole e.exitCode)] ++
      e.error.toList.map fun m => ("error", .text m))

/-! ## Exchanges -/

/-- A request to the guest's server. -/
inductive GuestCall where
  | status
  | exec (command : String) (args : List String)
  deriving DecidableEq, Repr

/-- An HTTP request as it is sent. -/
structure HttpRequest where
  method : String
  path : String
  /-- Names in lower case, with their values. -/
  headers : List (String × String)
  body : String
  deriving DecidableEq, Repr

/-- How an exchange with a guest can end. -/
inductive Exchange where
  /-- No connection, or it broke; the detail is the network's. -/
  | broken (detail : String)
  | answered (status : Nat) (body : List UInt8)
  | silent
  deriving DecidableEq, Repr

namespace GuestCall

def method : GuestCall → String
  | status => "GET"
  | exec _ _ => "POST"

def path : GuestCall → String
  | status => "/status"
  | exec _ _ => "/exec"

/-- The body that is sent; nothing for a status. -/
def body : GuestCall → String
  | status => ""
  | exec command args =>
    Json.render (.ofFields [("command", .text command), ("args", .list (args.map .text))])

/-- The address of the guest's server. -/
def authority (ip : String) (port : Nat) : String := ip ++ ":" ++ toString port

def uri (c : GuestCall) (ip : String) (port : Nat) : String :=
  "http://" ++ authority ip port ++ c.path

/-- The request as it is sent to a guest. -/
def request (c : GuestCall) (ip : String) (port : Nat) : HttpRequest where
  method := c.method
  path := c.path
  headers :=
    [("host", authority ip port), ("user-agent", "hangar-agent/0.1")] ++
      match c with
      | status => []
      | exec _ _ =>
        [("content-type", "application/json"), ("content-length", toString c.body.utf8ByteSize)]
  body := c.body

/-- The bytes of a successful answer, or why there are none. -/
def conclude (c : GuestCall) (ip : String) (port : Nat) (timeout : Span) :
    Exchange → Except VmError (List UInt8)
  | .broken detail => .error (.exec detail)
  | .silent =>
    .error (.exec (c.method ++ " " ++ c.uri ip port ++ " timed out after " ++ timeout.text))
  | .answered code body =>
    if 200 ≤ code ∧ code < 300 then .ok body
    else
      .error (.exec ("HTTP request failed with status " ++ toString code ++ ": " ++
        Text.trim (Utf8.decodeLossy body)))

/-- Reads the bytes of an answer. -/
def readAnswer {α : Type} (ofJson? : Json → Option α) (bytes : List UInt8) : Except VmError α :=
  match (Json.parse? bytes).bind ofJson? with
  | some a => .ok a
  | none => .error .badMetadata

end GuestCall

end RunnerFleet

import RunnerFleet.Json.Lenient
import RunnerFleet.Metrics.Counters
import RunnerFleet.Metrics.Gauges
import RunnerFleet.Settings
import RunnerFleet.Vm.Error
import RunnerFleet.Wire.Report

/-!
# Reading documents of the fleet

The documents of agents, runners, commands, failures and metrics as they are written by hand. An
agent is online, and a runner is as new as the clock, unless the document says otherwise.
-/

namespace RunnerFleet

open Json (Lenient)

instance : Lenient RunnerState where
  ofJson j := (RunnerState.all.find? (·.name == j.toText)).getD .unspecified
  blank := .unspecified

instance : Lenient GuestState where
  ofJson j := (GuestState.all.find? (·.name == j.toText)).getD .unspecified
  blank := .unspecified

instance : Lenient AgentStatus where
  ofJson j := (AgentStatus.all.find? (·.name == j.toText)).getD .unspecified
  blank := .unspecified

instance : Lenient Capacity where
  ofJson j := ⟨j.get "max_runners", j.get "cpu_cores", j.get "memory_bytes"⟩
  blank := .none

instance : Lenient Agent where
  ofJson j := ⟨j.get "id", j.get "hostname", j.read, j.getD "status" .online⟩
  blank := ⟨"", "", .none, .online⟩

/-- A runner whose age is given, or its moment of creation, or neither. -/
def Runner.ofJson (agent : AgentId) (now : UInt64) (j : Json) : Runner where
  id := j.get "id"
  name := j.get "name"
  agentId := j.getD "agent_id" agent
  state := j.get "state"
  guestState := j.get "guest_state"
  ipAddress := j.get "ip_address"
  createdAt :=
    match (j.get "age_ms" : Option Nat) with
    | some age => .ofNat (now.toNat - age)
    | none => j.getD "created_at" now
  errorMessage := j.get "error_message"
  setupScript := j.get "setup_script"

instance : Lenient Wire.RunnerRecord where
  ofJson j :=
    { runnerId := j.get "runner_id"
      runnerName := j.get "runner_name"
      agentId := j.get "agent_id"
      state := j.get "state"
      ipAddress := j.get "ip_address"
      createdAt := j.get "created_at_unix_ms"
      errorMessage := j.get "error_message"
      guestState := j.get "guest_runner_state" }
  blank := .blank

instance : Lenient Wire.Snapshot where
  ofJson j := ⟨j.get "agent_id", j.get "active_runners", j.get "runners"⟩
  blank := .blank

/-- A registration without a capacity is one in which it is missing. -/
instance : Lenient Wire.Registration where
  ofJson j := ⟨j.get "hostname", j.get "capacity"⟩
  blank := .blank

instance : Lenient Wire.AddRequest where
  ofJson j :=
    ⟨j.get "runner_name", j.get "setup_script", j.get "resource_type", j.get "labels"⟩
  blank := .blank

instance : Lenient Command where
  ofJson j :=
    match (j.get "kind" : String) with
    | "create_runner" =>
      .createRunner (j.get "runner_id") (j.get "runner_name") (j.get "setup_script")
        (j.get "request_id")
    | "delete_runner" => .deleteRunner (j.get "runner_id") (j.get "request_id")
    | _ => .noop
  blank := .noop

/-- A failure by the name of its cause; a cause of another name is the hypervisor's. -/
instance : Lenient VmError where
  ofJson j :=
    let message : String := j.get "message"
    let span := Span.ofMillis (j.get "ms")
    match (j.get "kind" : String) with
    | "BootFailed" => .bootFailed message
    | "BootTimeout" => .bootTimeout span
    | "IpTimeout" => .address (.timeout message span)
    | "IpNoPending" => .address .noPendingRequests
    | "IpDelivery" => .address (.deliveryFailed message)
    | "SshTimeout" => .sshTimeout (j.get "n")
    | "SetupScript" => .setupScript message
    | "Exec" => .exec message
    | "NotFound" => .notFound message
    | "NoIpAddress" => .noAddress message
    | "Io" => .io ⟨message, false⟩
    | "IoNotFound" => .io ⟨message, true⟩
    | _ => .hypervisor message
  blank := .hypervisor ""

/-! ## Settings -/

mutual

/-- A document as the value of a settings' table; what is `null` is left out. -/
def Toml.ofJson : Json → Toml
  | .text s => .text s
  | .whole n => .integer n
  | .bool b => .boolean b
  | .decimal _ _ _ => .decimal
  | .list items => .list (Toml.ofItems items)
  | .record fields => .table .header (Toml.ofFields fields)
  | .null => .decimal
  | .badText => .decimal

def Toml.ofItems : List Json → List Toml
  | [] => []
  | item :: rest => Toml.ofJson item :: Toml.ofItems rest

def Toml.ofFields : List (Option String × Json) → List (String × Toml)
  | [] => []
  | (some _, .null) :: rest => Toml.ofFields rest
  | (some key, value) :: rest => (key, Toml.ofJson value) :: Toml.ofFields rest
  | (none, _) :: rest => Toml.ofFields rest

end

instance : Lenient CoordinatorSettings where
  ofJson j := (CoordinatorSettings.ofToml? (Toml.ofJson j)).getD .initial
  blank := .initial

instance : Lenient AgentSettings where
  ofJson j := (AgentSettings.ofToml? (Toml.ofJson j)).getD .initial
  blank := .initial

/-! ## Metrics -/

/-- A histogram as its bounds and what it is to observe. -/
instance : Lenient Histogram where
  ofJson j :=
    let start := ((j.get "bounds" : Option (List Float)).map Histogram.ofBounds).getD .durations
    (j.get "observe" : List Float).foldl (·.observe ·) start
  blank := .durations

instance : Lenient Counters where
  ofJson j :=
    ⟨j.get "add_instance", j.get "delete_instance", j.get "runner_failures",
      j.get "add_instance_duration", j.get "runner_startup_duration"⟩
  blank := .zero

instance : Lenient AgentLoad where
  ofJson j :=
    ⟨j.get "agent_id", j.get "hostname", j.get "max_runners", j.get "current_runners"⟩
  blank := ⟨"", "", 0, 0⟩

/-- The pairs of a name and a count in a list. -/
def Json.counts {α : Type} [Lenient α] (j : Json) : List (α × Nat) :=
  j.toItems.filterMap fun
    | .list [name, n] => some (name.read, n.read)
    | _ => none

instance : Lenient Gauges where
  ofJson j :=
    { runnersByState := (j.get "runners_by_state" : Json).counts
      runnersIdle := j.get "runners_idle"
      runnersBusy := j.get "runners_busy"
      runnerErrors := j.get "runner_errors"
      agentsByStatus := (j.get "agents_by_status" : Json).counts
      agentsOnline := j.get "agents_online"
      agents := j.get "agents"
      capacityTotal := j.get "capacity_total"
      capacityAvailable := j.get "capacity_available"
      utilization := j.get "utilization" }
  blank := .initial

end RunnerFleet

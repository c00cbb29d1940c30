import RunnerFleet.Clock.Span
import RunnerFleet.Toml.Document
import RunnerFleet.Toml.Schema
import RunnerFleet.Vm.Host

/-!
# Settings

Settings come from a TOML document with one table per mode. Every field has a default, so an empty
document is complete.
-/

namespace RunnerFleet

/-- What a coordinator runs with. -/
structure CoordinatorSettings where
  grpcAddress : String
  httpAddress : String
  /-- The interval of snapshots that agents are told at registration. -/
  syncSeconds : UInt64
  addTimeoutSeconds : UInt64
  deleteTimeoutSeconds : UInt64
  /-- How often a waiting request looks at the store. -/
  pollMillis : UInt64
  sweepSeconds : UInt64
  /-- How long a runner may stay in error before it is swept. -/
  graceSeconds : UInt64
  metricsSeconds : UInt64
  deriving DecidableEq, Repr

/-- What an agent runs with. -/
structure AgentSettings where
  serverAddress : String
  /-- The system's own name when none is set. -/
  hostname : Option String
  maxRunners : UInt32
  templatePath : String
  runnersPath : String
  sshKeyPath : Option String
  sshUser : String
  notifyAddress : String
  hypervisorCommand : String
  bootSeconds : UInt64
  addressWaitSeconds : UInt64
  sshSeconds : UInt64
  sshPollSeconds : UInt64
  gracefulStopSeconds : UInt64
  /-- The port of the server inside each guest. -/
  guestPort : UInt16
  deriving DecidableEq, Repr

/-- The settings of both modes. -/
structure Settings where
  coordinator : CoordinatorSettings
  agent : AgentSettings
  deriving DecidableEq, Repr

/-! ## Defaults -/

/-- The most runners that an agent may advertise. -/
def maxRunnersLimit : UInt32 := 2

def CoordinatorSettings.initial : CoordinatorSettings where
  grpcAddress := "0.0.0.0:50051"
  httpAddress := "0.0.0.0:9090"
  syncSeconds := 5
  addTimeoutSeconds := 300
  deleteTimeoutSeconds := 120
  pollMillis := 500
  sweepSeconds := 60
  graceSeconds := 300
  metricsSeconds := 15

def AgentSettings.initial : AgentSettings where
  serverAddress := "127.0.0.1:50051"
  hostname := none
  maxRunners := maxRunnersLimit
  templatePath := "/opt/hangar/templates/default"
  runnersPath := "/opt/hangar/runners"
  sshKeyPath := none
  sshUser := "runner"
  notifyAddress := "0.0.0.0:8081"
  hypervisorCommand := "hangar-vmctl"
  bootSeconds := 60
  addressWaitSeconds := 120
  sshSeconds := 300
  sshPollSeconds := 2
  gracefulStopSeconds := 30
  guestPort := 8080

def Settings.initial : Settings := ⟨.initial, .initial⟩

/-! ## Reading -/

open Toml in
/-- Reads the coordinator's table. -/
def CoordinatorSettings.ofToml? (v : Toml) : Option CoordinatorSettings := do
  let d := CoordinatorSettings.initial
  match ← v.pick? ["grpc_addr", "http_addr", "sync_interval_secs", "add_instance_timeout_secs",
    "delete_instance_timeout_secs", "state_poll_interval_ms", "sweep_interval_secs",
    "error_grace_period_secs", "metrics_interval_secs"] with
  | [grpc, http, sync, add, delete, poll, sweep, grace, metrics] =>
    return {
      grpcAddress := ← defaulted? asText? d.grpcAddress grpc
      httpAddress := ← defaulted? asText? d.httpAddress http
      syncSeconds := ← defaulted? asWord64? d.syncSeconds sync
      addTimeoutSeconds := ← defaulted? asWord64? d.addTimeoutSeconds add
      deleteTimeoutSeconds := ← defaulted? asWord64? d.deleteTimeoutSeconds delete
      pollMillis := ← defaulted? asWord64? d.pollMillis poll
      sweepSeconds := ← defaulted? asWord64? d.sweepSeconds sweep
      graceSeconds := ← defaulted? asWord64? d.graceSeconds grace
      metricsSeconds := ← defaulted? asWord64? d.metricsSeconds metrics }
  | _ => none

open Toml in
/-- Reads the agent's table. -/
def AgentSettings.ofToml? (v : Toml) : Option AgentSettings := do
  let d := AgentSettings.initial
  match ← v.pick? ["server_addr", "hostname", "max_runners", "template_path", "runners_path",
    "ssh_key_path", "ssh_user", "ip_notify_addr", "hypervisor_command", "boot_timeout_secs",
    "ip_wait_timeout_secs", "ssh_timeout_secs", "ssh_poll_interval_secs",
    "graceful_stop_timeout_secs", "guest_shim_port"] with
  | [server, hostname, maxRunners, template, runners, key, user, notify, hypervisor, boot,
      addressWait, ssh, sshPoll, gracefulStop, port] =>
    return {
      serverAddress := ← defaulted? asText? d.serverAddress server
      hostname := ← defaulted? (fun v => v.asText?.map some) d.hostname hostname
      maxRunners := ← defaulted? asWord32? d.maxRunners maxRunners
      templatePath := ← defaulted? asText? d.templatePath template
      runnersPath := ← defaulted? asText? d.runnersPath runners
      sshKeyPath := ← defaulted? (fun v => v.asText?.map some) d.sshKeyPath key
      sshUser := ← defaulted? asText? d.sshUser user
      notifyAddress := ← defaulted? asText? d.notifyAddress notify
      hypervisorCommand := ← defaulted? asText? d.hypervisorCommand hypervisor
      bootSeconds := ← defaulted? asWord64? d.bootSeconds boot
      addressWaitSeconds := ← defaulted? asWord64? d.addressWaitSeconds addressWait
      sshSeconds := ← defaulted? asWord64? d.sshSeconds ssh
      sshPollSeconds := ← defaulted? asWord64? d.sshPollSeconds sshPoll
      gracefulStopSeconds := ← defaulted? asWord64? d.gracefulStopSeconds gracefulStop
      guestPort := ← defaulted? asWord16? d.guestPort port }
  | _ => none

open Toml in
/-- Reads the whole document's value. -/
def Settings.ofToml? (v : Toml) : Option Settings := do
  match ← v.pick? ["coordinator", "agent"] with
  | [coordinator, agent] =>
    return {
      coordinator := ← defaulted? CoordinatorSettings.ofToml? .initial coordinator
      agent := ← defaulted? AgentSettings.ofToml? .initial agent }
  | _ => none

/-- Why a file holds no settings. -/
inductive SettingsError where
  /-- The file cannot be read as text. -/
  | unreadable (cause : IoError)
  /-- The text is no TOML document, or a value has the wrong type. -/
  | malformed
  deriving DecidableEq, Repr

/-- The settings in a document. -/
def Settings.parse (document : String) : Except SettingsError Settings :=
  match (Toml.parse? document).bind Settings.ofToml? with
  | some settings => .ok settings
  | none => .error .malformed

/-- The settings in a file of these bytes. -/
def Settings.ofBytes (bytes : List UInt8) : Except SettingsError Settings :=
  match Utf8.decode? bytes with
  | some document => Settings.parse document
  | none => .error (.unreadable (.other "stream did not contain valid UTF-8"))

/-! ## Spans -/

/-- So many seconds. -/
def secondsOf (n : UInt64) : Span := .ofSecs n.toNat

namespace CoordinatorSettings

variable (s : CoordinatorSettings)

def syncInterval : Span := secondsOf s.syncSeconds

/-- The interval in whole seconds as agents are told it, in 32 bits. -/
def advertisedSyncSeconds : UInt32 := s.syncSeconds.toUInt32

def addTimeout : Span := secondsOf s.addTimeoutSeconds

def deleteTimeout : Span := secondsOf s.deleteTimeoutSeconds

def pollInterval : Span := .ofMillis s.pollMillis.toNat

def sweepInterval : Span := secondsOf s.sweepSeconds

def gracePeriod : Span := secondsOf s.graceSeconds

/-- At least a second. -/
def metricsInterval : Span := .ofSecs (max 1 s.metricsSeconds.toNat)

end CoordinatorSettings

/-- The bounds on VM operations. The pauses between questions after a VM's power state are fixed. -/
def AgentSettings.limits (s : AgentSettings) : VmLimits where
  boot := secondsOf s.bootSeconds
  bootPoll := .ofSecs 1
  addressWait := secondsOf s.addressWaitSeconds
  ssh := secondsOf s.sshSeconds
  sshPoll := secondsOf s.sshPollSeconds
  gracefulStop := secondsOf s.gracefulStopSeconds
  stopPoll := .ofSecs 1

/-- The pause of an agent before it connects again. -/
def reconnectDelay : Span := .ofSecs 5

/-! ## What an agent can run with -/

/-- Why an agent cannot run with its settings. -/
inductive AgentSettingsError where
  | noRunners
  | tooManyRunners (wanted : UInt32)
  | noServer
  deriving DecidableEq, Repr

/-- The wording of the refusal. -/
def AgentSettingsError.message : AgentSettingsError → String
  | noRunners => "max_runners must be at least 1"
  | tooManyRunners wanted =>
    "max_runners must be " ++ toString maxRunnersLimit ++ " or less (got " ++ toString wanted ++ ")"
  | noServer => "server_addr must not be empty"

/-- Refuses settings that an agent cannot run with; the first reason found is given. -/
def AgentSettings.validate (s : AgentSettings) : Except AgentSettingsError Unit :=
  if s.maxRunners = 0 then .error .noRunners
  else if s.maxRunners > maxRunnersLimit then .error (.tooManyRunners s.maxRunners)
  else if s.serverAddress = "" then .error .noServer
  else .ok ()

end RunnerFleet

import RunnerFleet.Json.Basic
import RunnerFleet.Settings

/-!
# Settings as JSON documents

The settings under the keys of their TOML tables, and the spans that follow from them as texts.
-/

namespace RunnerFleet

/-- A number of 64 bits. -/
def Json.ofWord (n : UInt64) : Json := .ofNat n.toNat

def CoordinatorSettings.toJson (s : CoordinatorSettings) : Json :=
  .ofFields
    [("grpc_addr", .text s.grpcAddress), ("http_addr", .text s.httpAddress),
      ("sync_interval_secs", .ofWord s.syncSeconds),
      ("add_instance_timeout_secs", .ofWord s.addTimeoutSeconds),
      ("delete_instance_timeout_secs", .ofWord s.deleteTimeoutSeconds),
      ("state_poll_interval_ms", .ofWord s.pollMillis),
      ("sweep_interval_secs", .ofWord s.sweepSeconds),
      ("error_grace_period_secs", .ofWord s.graceSeconds),
      ("metrics_interval_secs", .ofWord s.metricsSeconds)]

def AgentSettings.toJson (s : AgentSettings) : Json :=
  .ofFields
    [("server_addr", .text s.serverAddress), ("hostname", .ofOption .text s.hostname),
      ("max_runners", .ofNat s.maxRunners.toNat), ("template_path", .text s.templatePath),
      ("runners_path", .text s.runnersPath), ("ssh_key_path", .ofOption .text s.sshKeyPath),
      ("ssh_user", .text s.sshUser), ("ip_notify_addr", .text s.notifyAddress),
      ("hypervisor_command", .text s.hypervisorCommand),
      ("boot_timeout_secs", .ofWord s.bootSeconds),
      ("ip_wait_timeout_secs", .ofWord s.addressWaitSeconds),
      ("ssh_timeout_secs", .ofWord s.sshSeconds),
      ("ssh_poll_interval_secs", .ofWord s.sshPollSeconds),
      ("graceful_stop_timeout_secs", .ofWord s.gracefulStopSeconds),
      ("guest_shim_port", .ofNat s.guestPort.toNat)]

/-- Every span that the settings give. -/
def Settings.spans (s : Settings) : Json :=
  let c := s.coordinator
  let l := s.agent.limits
  .ofFields
    ([("sync", c.syncInterval), ("sweep", c.sweepInterval), ("grace", c.gracePeriod),
      ("metrics", c.metricsInterval), ("add", c.addTimeout), ("delete", c.deleteTimeout),
      ("poll", c.pollInterval), ("boot", l.boot), ("boot_poll", l.bootPoll),
      ("ip_wait", l.addressWait), ("ssh", l.ssh), ("ssh_poll", l.sshPoll),
      ("graceful_stop", l.gracefulStop), ("stop_poll", l.stopPoll),
      ("reconnect", reconnectDelay)].map fun e => (e.1, .text e.2.text))

/-- What an agent tells the coordinator of itself; `system` stands for a name that is not set. -/
def AgentSettings.client (s : AgentSettings) (system : String) : Json :=
  .ofFields
    [("server_addr", .text s.serverAddress), ("max_runners", .ofNat s.maxRunners.toNat),
      ("hostname", .text (s.hostname.getD system))]

end RunnerFleet

import RunnerFleet.Decimal.Fixed
import RunnerFleet.Decimal.Shortest
import RunnerFleet.Metrics.Counters
import RunnerFleet.Metrics.Gauges

/-!
# Text exposition of metrics

A scraper reads metrics as families: a help line, a type line and one line per sample. The document
is built as data first (`Family`) and written afterwards (`Family.render`); label values are escaped
when they are written, so no label can end a line or a value.
-/

namespace RunnerFleet

/-- One line of measurement. -/
structure Sample where
  name : String
  labels : List (String × String)
  value : String
  deriving DecidableEq, Repr

/-- The kind that a family declares. -/
inductive FamilyKind where
  | gauge | counter | histogram
  deriving DecidableEq, Repr

/-- The kind's word on the type line. -/
def FamilyKind.name : FamilyKind → String
  | gauge => "gauge"
  | counter => "counter"
  | histogram => "histogram"

/-- One metric with its samples. -/
structure Family where
  name : String
  help : String
  kind : FamilyKind
  samples : List Sample
  deriving DecidableEq, Repr

/-! ## Writing -/

/-- A text with every occurrence of a character in another form. -/
def replaceChar (c : Char) (form : String) (s : String) : String :=
  String.ofList (s.toList.flatMap fun d => if d = c then form.toList else [d])

/-- A label value with backslash, quote and line feed escaped. The backslash goes first, since the
forms of the other two bring one. -/
def escapeLabel (s : String) : String :=
  replaceChar '\n' "\\n" (replaceChar '"' "\\\"" (replaceChar '\\' "\\\\" s))

/-- One label as written between the braces. -/
def writeLabel (l : String × String) : String := l.1 ++ "=\"" ++ escapeLabel l.2 ++ "\""

/-- The line of a sample. -/
def Sample.line (s : Sample) : String :=
  let labels :=
    if s.labels.isEmpty then ""
    else "\x7b" ++ String.intercalate "," (s.labels.map writeLabel) ++ "\x7d"
  s.name ++ labels ++ " " ++ s.value

/-- The lines of a family: its declaration, then its samples. -/
def Family.lines (f : Family) : List String :=
  ("# HELP " ++ f.name ++ " " ++ f.help) :: ("# TYPE " ++ f.name ++ " " ++ f.kind.name) ::
    f.samples.map Sample.line

/-- A document of families; every line ends in a line feed. -/
def renderFamilies (families : List Family) : String :=
  String.join ((families.flatMap Family.lines).map (· ++ "\n"))

/-! ## The families of this program -/

namespace Exposition

/-- A gauge with a single sample and no label. -/
def plainGauge (name help value : String) : Family :=
  ⟨name, help, .gauge, [⟨name, [], value⟩]⟩

/-- A gauge with one sample per agent. -/
def agentGauge (name help : String) (agents : List AgentLoad) (value : AgentLoad → String) :
    Family :=
  ⟨name, help, .gauge, agents.map fun a =>
    ⟨name, [("agent_id", a.agentId), ("hostname", a.hostname)], value a⟩⟩

/-- A counter with one sample per label value. -/
def counter (name help label : String) (values : Table Nat) : Family :=
  ⟨name, help, .counter, values.entries.map fun e => ⟨name, [(label, e.1)], toString e.2⟩⟩

/-- A histogram: cumulative buckets, the unbounded one, the sum and the count. -/
def histogram (name help : String) (h : Histogram) : Family :=
  let bucket (bound : String) (count : Nat) : Sample :=
    ⟨name ++ "_bucket", [("le", bound)], toString count⟩
  ⟨name, help, .histogram,
    h.buckets.map (fun b => bucket (Decimal.shortest b.bound) b.count) ++
      [bucket "+Inf" h.count, ⟨name ++ "_sum", [], Decimal.shortest h.sum⟩,
        ⟨name ++ "_count", [], toString h.count⟩]⟩

/-- The families of the gauges. -/
def gaugeFamilies (g : Gauges) : List Family :=
  [⟨"hangar_runners_total", "Number of runners by state.", .gauge,
      g.runnersByState.map fun e =>
        ⟨"hangar_runners_total", [("state", e.1.name)], toString e.2⟩⟩,
    plainGauge "hangar_runners_idle" "Runners whose guest is waiting for a job."
      (toString g.runnersIdle),
    plainGauge "hangar_runners_busy" "Runners whose guest is running a job."
      (toString g.runnersBusy),
    plainGauge "hangar_runner_errors" "Runners currently in the error state."
      (toString g.runnerErrors),
    ⟨"hangar_agents_total", "Number of agents by status.", .gauge,
      g.agentsByStatus.map fun e =>
        ⟨"hangar_agents_total", [("status", e.1.name)], toString e.2⟩⟩,
    plainGauge "hangar_agents_online" "Number of online agents." (toString g.agentsOnline),
    agentGauge "hangar_agent_capacity_runners" "Maximum concurrent runners per agent." g.agents
      fun a => toString a.maxRunners,
    agentGauge "hangar_agent_current_runners" "Runners occupying a slot per agent." g.agents
      fun a => toString a.currentRunners,
    plainGauge "hangar_capacity_total_runners" "Runner slots across online agents."
      (toString g.capacityTotal),
    plainGauge "hangar_capacity_available_runners" "Free runner slots across online agents."
      (toString g.capacityAvailable),
    plainGauge "hangar_capacity_utilization_ratio" "Occupied share of runner slots (0.0-1.0)."
      (Decimal.fixed 4 g.utilization)]

/-- The families of the request counters. -/
def counterFamilies (c : Counters) : List Family :=
  [counter "hangar_add_instance_requests_total" "AddInstance requests by outcome." "status" c.added,
    counter "hangar_delete_instance_requests_total" "DeleteInstance requests by outcome." "status"
      c.deleted,
    counter "hangar_runner_failures_total" "Failed runner starts by reason." "reason" c.failures,
    histogram "hangar_add_instance_duration_seconds" "AddInstance handling time in seconds."
      c.addDuration,
    histogram "hangar_runner_startup_duration_seconds"
      "Time from placement to SSH-ready in seconds." c.startupDuration]

/-- The whole document, line by line. -/
def families (g : Gauges) (c : Counters) : List Family := gaugeFamilies g ++ counterFamilies c

/-- The whole document as text. -/
def render (g : Gauges) (c : Counters) : String := renderFamilies (families g c)

end Exposition

end RunnerFleet

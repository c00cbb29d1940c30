import RunnerFleet.Proofs.Metrics.Scraping

/-!
# The exposition of the fleet

The numbers of the exposition are tokens: they have no blank, no quote and no line feed. So every
family of this program can be told from its lines, whatever the agents and the counters are called
(`Exposition.wellFormed_families`), and a scraper reads the document as the families that were meant
(`Exposition.reads_back`). Each metric is declared once, and a name that a sample has belongs to one
metric. So what is looked up by name are the gauges and the counters as they are
(`Exposition.Shows`).
-/

namespace RunnerFleet

/-! ## Tokens -/

/-- The characters of numbers and of the words for states. -/
def isTokenChar (c : Char) : Bool :=
  c.isAlphanum || c == '+' || c == '-' || c == '.' || c == '_'

def IsToken (s : String) : Prop := ∀ c ∈ s.toList, isTokenChar c

instance (s : String) : Decidable (IsToken s) :=
  decidable_of_iff (s.toList.all isTokenChar = true) List.all_eq_true

theorem isTokenChar_of_mem_toDigits {n : Nat} {c : Char} (h : c ∈ Nat.toDigits 10 n) :
    isTokenChar c := by
  have hdigit : c.isDigit := Nat.isDigit_of_mem_toDigits (by decide) (by decide) h
  simp [isTokenChar, Char.isAlphanum, hdigit]

namespace IsToken

variable {s t : String}

theorem append (hs : IsToken s) (ht : IsToken t) : IsToken (s ++ t) := by
  intro c hc
  rw [String.toList_append, List.mem_append] at hc
  exact hc.elim (hs c) (ht c)

theorem newline_not_mem (h : IsToken s) : '\n' ∉ s.toList := fun hmem =>
  absurd (h _ hmem) (by decide)

/-- A token is written as it is. -/
theorem escapeLabel_eq (h : IsToken s) : escapeLabel s = s := by
  have hsame : ∀ c ∈ s.toList, escapeLabelChar c = [c] := by
    intro c hc
    have htoken := h c hc
    refine escapeLabelChar_of_ne ?_ ?_ ?_ <;> rintro rfl <;> exact absurd htoken (by decide)
  rw [← String.toList_inj, toList_escapeLabel, List.flatMap_congr hsame]
  exact List.flatMap_singleton' _

theorem toString_nat (n : Nat) : IsToken (toString n) := by
  intro c hc
  have htext : (toString n).toList = Nat.toDigits 10 n := String.toList_ofList
  rw [htext] at hc
  exact isTokenChar_of_mem_toDigits hc

theorem positional (n places : Nat) : IsToken (Decimal.positional n places) := by
  have hpadded : ∀ k, ∀ c ∈ List.replicate k '0' ++ Nat.toDigits 10 n, isTokenChar c := by
    intro k c hc
    rcases List.mem_append.1 hc with hc | hc
    · rw [List.eq_of_mem_replicate hc]
      decide
    · exact isTokenChar_of_mem_toDigits hc
  intro c hc
  rw [Decimal.positional, String.toList_ofList] at hc
  split at hc
  · exact hpadded _ c (List.mem_of_mem_take hc)
  · rcases List.mem_append.1 hc with hc | hc
    · exact hpadded _ c (List.mem_of_mem_take hc)
    · rcases List.mem_cons.1 hc with rfl | hc
      · decide
      · exact hpadded _ c (List.mem_of_mem_drop hc)

theorem write (x : Decimal.Binary64) {digits : Nat → Int → String}
    (h : ∀ m q, IsToken (digits m q)) : IsToken (x.write digits) := by
  have hsign : IsToken (if x.negative then "-" else "") := by
    split <;> decide
  unfold Decimal.Binary64.write
  cases x.magnitude with
  | nan => exact (by decide : IsToken "NaN")
  | infinite => exact hsign.append (by decide)
  | finite m q => exact hsign.append (h m q)

theorem fixed (places : Nat) (x : Float) : IsToken (Decimal.fixed places x) :=
  write _ fun _ _ => positional _ _

theorem shortest (x : Float) : IsToken (Decimal.shortest x) := by
  refine write _ fun m q => ?_
  split
  · decide
  · simp only [Decimal.scaled]
    split <;> exact positional _ _

end IsToken

/-- The names that samples of a family may have. -/
def Family.sampleNames (f : Family) : List String :=
  match f.kind with
  | .histogram => [f.name ++ "_bucket", f.name ++ "_sum", f.name ++ "_count"]
  | _ => [f.name]

/-! ## Looking samples up -/

namespace Scrape

/-- The labels and the values of the samples that bear a name, in their order. -/
def readings (name : String) (fs : List Family) : List (List (String × String) × String) :=
  ((fs.flatMap (·.samples)).filter (·.name == name)).map fun s => (s.labels, s.value)

variable {name : String} {f : Family} {fs : List Family}

theorem readings_cons (name : String) (f : Family) (fs : List Family) :
    readings name (f :: fs) = readings name [f] ++ readings name fs := by
  simp only [readings, List.flatMap_cons, List.flatMap_nil, List.append_nil, List.filter_append,
    List.map_append]

theorem readings_eq_nil (hnamed : ∀ f ∈ fs, ∀ s ∈ f.samples, s.name ∈ f.sampleNames)
    (hname : name ∉ fs.flatMap Family.sampleNames) : readings name fs = [] := by
  rw [readings, List.map_eq_nil_iff, List.filter_eq_nil_iff]
  intro s hs hsname
  obtain ⟨f, hf, hs⟩ := List.mem_flatMap.1 hs
  exact hname (List.mem_flatMap.2 ⟨f, hf, eq_of_beq hsname ▸ hnamed f hf s hs⟩)

/-- Where no name is of two families, the samples that bear it are those of its family. -/
theorem readings_of_mem (hnamed : ∀ f ∈ fs, ∀ s ∈ f.samples, s.name ∈ f.sampleNames)
    (hnodup : (fs.flatMap Family.sampleNames).Nodup) (hf : f ∈ fs) (hname : name ∈ f.sampleNames) :
    readings name fs = readings name [f] := by
  induction fs with
  | nil => cases hf
  | cons first rest ih =>
    obtain ⟨hfirst, hrest⟩ := List.forall_mem_cons.1 hnamed
    rw [List.flatMap_cons] at hnodup
    obtain ⟨-, hnodup, hapart⟩ := List.nodup_append.1 hnodup
    rw [readings_cons]
    rcases List.mem_cons.1 hf with rfl | hf
    · have hnone : name ∉ rest.flatMap Family.sampleNames := fun hmem =>
        hapart name hname name hmem rfl
      rw [readings_eq_nil hrest hnone, List.append_nil]
    · have hlater : name ∈ rest.flatMap Family.sampleNames := List.mem_flatMap.2 ⟨f, hf, hname⟩
      have hnone : name ∉ [first].flatMap Family.sampleNames := by
        rw [List.flatMap_singleton]
        exact fun hmem => hapart name hmem name hlater rfl
      rw [readings_eq_nil (List.forall_mem_singleton.2 hfirst) hnone, List.nil_append,
        ih hrest hnodup hf]

/-- A family whose samples all bear its name. -/
theorem readings_map {α : Type} (name help : String) (kind : FamilyKind) (items : List α)
    (labels : α → List (String × String)) (value : α → String) :
    readings name [⟨name, help, kind, items.map fun x => ⟨name, labels x, value x⟩⟩] =
      items.map fun x => (labels x, value x) := by
  simp [readings, List.filter_map, Function.comp_def]

end Scrape

namespace Exposition

open Scrape (IsName LegibleSample LegibleFamily readings)

/-! ## The families -/

/-- A family that can be told from its lines, and whose samples bear its name. -/
structure WellFormed (f : Family) : Prop where
  legible : LegibleFamily f
  named : ∀ s ∈ f.samples, s.name ∈ f.sampleNames

variable {name help : String}

theorem wellFormed_plainGauge {value : String} (hname : IsName name) (hhelp : '\n' ∉ help.toList)
    (hvalue : IsToken value) : WellFormed (plainGauge name help value) := by
  refine ⟨⟨hname, hhelp, fun s hs => ?_⟩, fun s hs => ?_⟩ <;> rw [List.mem_singleton.1 hs]
  · exact ⟨hname, List.forall_mem_nil _, hvalue.newline_not_mem⟩
  · exact List.mem_singleton_self _

/-- Samples with one label each. -/
theorem wellFormed_labelled {α : Type} {kind : FamilyKind} {items : List α} {label : String}
    {text value : α → String} (hname : IsName name) (hhelp : '\n' ∉ help.toList)
    (hkind : kind ≠ .histogram) (hlabel : IsName label) (hvalue : ∀ x, IsToken (value x)) :
    WellFormed ⟨name, help, kind, items.map fun x => ⟨name, [(label, text x)], value x⟩⟩ := by
  refine ⟨⟨hname, hhelp, fun s hs => ?_⟩, fun s hs => ?_⟩ <;>
    obtain ⟨x, -, rfl⟩ := List.mem_map.1 hs
  · exact ⟨hname, List.forall_mem_singleton.2 hlabel, (hvalue x).newline_not_mem⟩
  · cases kind with
    | histogram => exact absurd rfl hkind
    | gauge | counter => exact List.mem_singleton_self _

theorem wellFormed_agentGauge {agents : List AgentLoad} {value : AgentLoad → String}
    (hname : IsName name) (hhelp : '\n' ∉ help.toList) (hvalue : ∀ a, IsToken (value a)) :
    WellFormed (agentGauge name help agents value) := by
  refine ⟨⟨hname, hhelp, fun s hs => ?_⟩, fun s hs => ?_⟩ <;>
    obtain ⟨a, -, rfl⟩ := List.mem_map.1 hs
  · refine ⟨hname, fun l hl => ?_, (hvalue a).newline_not_mem⟩
    simp only [List.mem_cons, List.not_mem_nil, or_false] at hl
    rcases hl with rfl | rfl
    · exact (by decide : IsName "agent_id")
    · exact (by decide : IsName "hostname")
  · exact List.mem_singleton_self _

theorem wellFormed_histogram {h : Histogram} (hname : IsName name) (hhelp : '\n' ∉ help.toList) :
    WellFormed (histogram name help h) := by
  have hsuffix : ∀ suffix, IsName suffix → IsName (name ++ suffix) := by
    intro suffix hs c hc
    rw [String.toList_append, List.mem_append] at hc
    exact hc.elim (hname c) (hs c)
  have hle : ∀ bound : String, ∀ l ∈ [("le", bound)], IsName l.1 := by
    intro bound l hl
    rw [List.mem_singleton.1 hl]
    exact (by decide : IsName "le")
  have hcount (n : Nat) := (IsToken.toString_nat n).newline_not_mem
  refine ⟨⟨hname, hhelp, fun s hs => ?_⟩, fun s hs => ?_⟩ <;>
    simp only [histogram, List.mem_append, List.mem_map, List.mem_cons, List.not_mem_nil,
      or_false] at hs
  · rcases hs with ⟨b, -, rfl⟩ | rfl | rfl | rfl
    · exact ⟨hsuffix _ (by decide), hle _, hcount _⟩
    · exact ⟨hsuffix _ (by decide), hle _, hcount _⟩
    · exact ⟨hsuffix _ (by decide), List.forall_mem_nil _, (IsToken.shortest _).newline_not_mem⟩
    · exact ⟨hsuffix _ (by decide), List.forall_mem_nil _, hcount _⟩
  · rcases hs with ⟨b, -, rfl⟩ | rfl | rfl | rfl <;> simp [Family.sampleNames, histogram]

theorem newline_not_mem_ofList {l : List Char} (h : '\n' ∉ l) :
    '\n' ∉ (String.ofList l).toList := by
  rwa [String.toList_ofList]

variable (g : Gauges) (c : Counters)

/-- Every family of the program is of one of four shapes. -/
theorem wellFormed_families : ∀ f ∈ families g c, WellFormed f := by
  have hnat := IsToken.toString_nat
  intro f hf
  simp only [families, gaugeFamilies, counterFamilies, List.cons_append, List.nil_append,
    List.mem_cons, List.not_mem_nil, or_false] at hf
  rcases hf with rfl | rfl | rfl | rfl | rfl | rfl | rfl | rfl | rfl | rfl | rfl | rfl | rfl | rfl |
    rfl | rfl
  · exact wellFormed_labelled (.ofList (by decide)) (newline_not_mem_ofList (by simp)) nofun
      (by decide) fun _ => hnat _
  · exact wellFormed_plainGauge (.ofList (by decide)) (newline_not_mem_ofList (by simp)) (hnat _)
  · exact wellFormed_plainGauge (.ofList (by decide)) (newline_not_mem_ofList (by simp)) (hnat _)
  · exact wellFormed_plainGauge (.ofList (by decide)) (newline_not_mem_ofList (by simp)) (hnat _)
  · exact wellFormed_labelled (.ofList (by decide)) (newline_not_mem_ofList (by simp)) nofun
      (by decide) fun _ => hnat _
  · exact wellFormed_plainGauge (.ofList (by decide)) (newline_not_mem_ofList (by simp)) (hnat _)
  · exact wellFormed_agentGauge (.ofList (by decide)) (newline_not_mem_ofList (by simp))
      fun _ => hnat _
  · exact wellFormed_agentGauge (.ofList (by decide)) (newline_not_mem_ofList (by simp))
      fun _ => hnat _
  · exact wellFormed_plainGauge (.ofList (by decide)) (newline_not_mem_ofList (by simp)) (hnat _)
  · exact wellFormed_plainGauge (.ofList (by decide)) (newline_not_mem_ofList (by simp)) (hnat _)
  · exact wellFormed_plainGauge (.ofList (by decide)) (newline_not_mem_ofList (by simp))
      (.fixed _ _)
  · exact wellFormed_labelled (.ofList (by decide)) (newline_not_mem_ofList (by simp)) nofun
      (by decide) fun _ => hnat _
  · exact wellFormed_labelled (.ofList (by decide)) (newline_not_mem_ofList (by simp)) nofun
      (by decide) fun _ => hnat _
  · exact wellFormed_labelled (.ofList (by decide)) (newline_not_mem_ofList (by simp)) nofun
      (by decide) fun _ => hnat _
  · exact wellFormed_histogram (.ofList (by decide)) (newline_not_mem_ofList (by simp))
  · exact wellFormed_histogram (.ofList (by decide)) (newline_not_mem_ofList (by simp))

theorem nodup_names : ((families g c).map Family.name).Nodup := by
  simp [families, gaugeFamilies, counterFamilies, plainGauge, agentGauge, counter, histogram]

theorem nodup_sampleNames : ((families g c).flatMap Family.sampleNames).Nodup := by
  simp [families, gaugeFamilies, counterFamilies, plainGauge, agentGauge, counter, histogram,
    Family.sampleNames]

/-! ## What the samples say -/

/-- The gauges and the counters as they are looked up by name. Agents and counters bear their own
texts as labels. -/
structure Shows (g : Gauges) (c : Counters) (fs : List Family) : Prop where
  states : readings "hangar_runners_total" fs =
    g.runnersByState.map fun e => ([("state", e.1.name)], toString e.2)
  statuses : readings "hangar_agents_total" fs =
    g.agentsByStatus.map fun e => ([("status", e.1.name)], toString e.2)
  slots : readings "hangar_agent_capacity_runners" fs =
    g.agents.map fun a => ([("agent_id", a.agentId), ("hostname", a.hostname)],
      toString a.maxRunners)
  taken : readings "hangar_agent_current_runners" fs =
    g.agents.map fun a => ([("agent_id", a.agentId), ("hostname", a.hostname)],
      toString a.currentRunners)
  plain : ∀ p ∈ [("hangar_runners_idle", toString g.runnersIdle),
      ("hangar_runners_busy", toString g.runnersBusy),
      ("hangar_runner_errors", toString g.runnerErrors),
      ("hangar_agents_online", toString g.agentsOnline),
      ("hangar_capacity_total_runners", toString g.capacityTotal),
      ("hangar_capacity_available_runners", toString g.capacityAvailable),
      ("hangar_capacity_utilization_ratio", Decimal.fixed 4 g.utilization)],
    readings p.1 fs = [([], p.2)]
  counts : ∀ p ∈ [("hangar_add_instance_requests_total", "status", c.added),
      ("hangar_delete_instance_requests_total", "status", c.deleted),
      ("hangar_runner_failures_total", "reason", c.failures)],
    readings p.1 fs = p.2.2.entries.map fun e => ([(p.2.1, e.1)], toString e.2)
  durations : ∀ p ∈ [("hangar_add_instance_duration_seconds", c.addDuration),
      ("hangar_runner_startup_duration_seconds", c.startupDuration)],
    readings (p.1 ++ "_bucket") fs =
      p.2.buckets.map (fun b => ([("le", Decimal.shortest b.bound)], toString b.count)) ++
        [([("le", "+Inf")], toString p.2.count)] ∧
    readings (p.1 ++ "_sum") fs = [([], Decimal.shortest p.2.sum)] ∧
    readings (p.1 ++ "_count") fs = [([], toString p.2.count)]

variable {g c}

theorem readings_families {f : Family} (hf : f ∈ families g c) (hname : name ∈ f.sampleNames) :
    readings name (families g c) = readings name [f] :=
  Scrape.readings_of_mem (fun f hf => (wellFormed_families g c f hf).named)
    (nodup_sampleNames g c) hf hname

theorem readings_plainGauge {value : String}
    (hf : ∃ help, plainGauge name help value ∈ families g c) :
    readings name (families g c) = [([], value)] := by
  obtain ⟨help, hf⟩ := hf
  have hname : name ∈ (plainGauge name help value).sampleNames := List.mem_singleton_self _
  rw [readings_families hf hname]
  simp [readings, plainGauge]

theorem readings_labelled {α : Type} (kind : FamilyKind) {items : List α}
    {labels : α → List (String × String)} {value : α → String} (hkind : kind ≠ .histogram)
    (hf : ∃ help, ⟨name, help, kind, items.map fun x => ⟨name, labels x, value x⟩⟩ ∈
      families g c) :
    readings name (families g c) = items.map fun x => (labels x, value x) := by
  obtain ⟨help, hf⟩ := hf
  have hname : name ∈ Family.sampleNames
      ⟨name, help, kind, items.map fun x => ⟨name, labels x, value x⟩⟩ := by
    cases kind with
    | histogram => exact absurd rfl hkind
    | gauge | counter => exact List.mem_singleton_self _
  rw [readings_families hf hname, Scrape.readings_map]

theorem readings_histogram {h : Histogram} (hf : ∃ help, histogram name help h ∈ families g c) :
    readings (name ++ "_bucket") (families g c) =
      h.buckets.map (fun b => ([("le", Decimal.shortest b.bound)], toString b.count)) ++
        [([("le", "+Inf")], toString h.count)] ∧
    readings (name ++ "_sum") (families g c) = [([], Decimal.shortest h.sum)] ∧
    readings (name ++ "_count") (families g c) = [([], toString h.count)] := by
  obtain ⟨help, hf⟩ := hf
  have hown : ∀ suffix ∈ ["_bucket", "_sum", "_count"],
      readings (name ++ suffix) (families g c) = readings (name ++ suffix) [histogram name help h] :=
    fun suffix hsuffix => readings_families hf (List.mem_map_of_mem (f := (name ++ ·)) hsuffix)
  rw [hown "_bucket" (by decide), hown "_sum" (by decide), hown "_count" (by decide)]
  simp [readings, histogram, List.filter_map, Function.comp_def]

variable (g c)

theorem shows_families : Shows g c (families g c) where
  states := by
    refine readings_labelled .gauge nofun ?_
    simp [families, gaugeFamilies, counterFamilies, plainGauge, agentGauge, counter, histogram]
  statuses := by
    refine readings_labelled .gauge nofun ?_
    simp [families, gaugeFamilies, counterFamilies, plainGauge, agentGauge, counter, histogram]
  slots := by
    refine readings_labelled .gauge nofun ?_
    simp [families, gaugeFamilies, counterFamilies, plainGauge, agentGauge, counter, histogram]
  taken := by
    refine readings_labelled .gauge nofun ?_
    simp [families, gaugeFamilies, counterFamilies, plainGauge, agentGauge, counter, histogram]
  plain := by
    intro p hp
    refine readings_plainGauge ?_
    simp only [List.mem_cons, List.not_mem_nil, or_false] at hp
    rcases hp with rfl | rfl | rfl | rfl | rfl | rfl | rfl <;>
      simp [families, gaugeFamilies, counterFamilies, plainGauge, agentGauge, counter, histogram]
  counts := by
    intro p hp
    refine readings_labelled .counter nofun ?_
    simp only [List.mem_cons, List.not_mem_nil, or_false] at hp
    rcases hp with rfl | rfl | rfl <;>
      simp [families, gaugeFamilies, counterFamilies, plainGauge, agentGauge, counter, histogram]
  durations := by
    intro p hp
    refine readings_histogram ?_
    simp only [List.mem_cons, List.not_mem_nil, or_false] at hp
    rcases hp with rfl | rfl <;>
      simp [families, gaugeFamilies, counterFamilies, plainGauge, agentGauge, counter, histogram]

/-- The program's own words in labels are tokens: escaping leaves them as they are. -/
theorem escapeLabel_words (state : RunnerState) (status : AgentStatus) (bound : Float) :
    escapeLabel state.name = state.name ∧ escapeLabel status.name = status.name ∧
      escapeLabel (Decimal.shortest bound) = Decimal.shortest bound := by
  refine ⟨IsToken.escapeLabel_eq ?_, IsToken.escapeLabel_eq ?_, (IsToken.shortest _).escapeLabel_eq⟩
  · cases state <;> decide
  · cases status <;> decide

/-! ## The document -/

/-- Read by its lines, the document is the families that were meant, whatever the agents, hosts and
labels are called, and there are no lines but theirs. Its samples are the gauges and the counters,
with the agents' and the counters' own texts as labels; the program's own words need no escaping.
Each metric is declared once, and no name of a sample is of two metrics. -/
theorem reads_back :
    Scrape.read? (render g c) = some (families g c) ∧
    Shows g c (families g c) ∧
    (∀ (state : RunnerState) (status : AgentStatus) (bound : Float),
      escapeLabel state.name = state.name ∧ escapeLabel status.name = status.name ∧
        escapeLabel (Decimal.shortest bound) = Decimal.shortest bound) ∧
    (render g c).toList.splitOn '\n' =
      ((families g c).flatMap Family.lines).map String.toList ++ [[]] ∧
    ((families g c).map Family.name).Nodup ∧
    (∀ f ∈ families g c, ∀ s ∈ f.samples, s.name ∈ f.sampleNames) ∧
    ((families g c).flatMap Family.sampleNames).Nodup := by
  have hlegible : ∀ f ∈ families g c, LegibleFamily f := fun f hf =>
    (wellFormed_families g c f hf).legible
  have hnamed : ∀ f ∈ families g c, ∀ s ∈ f.samples, s.name ∈ f.sampleNames := fun f hf =>
    (wellFormed_families g c f hf).named
  exact ⟨Scrape.read?_renderFamilies hlegible, shows_families g c, escapeLabel_words,
    Scrape.splitOn_renderFamilies hlegible, nodup_names g c, hnamed, nodup_sampleNames g c⟩

end Exposition

end RunnerFleet

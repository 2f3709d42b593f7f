import NicResidency.InspectTool
import NicResidency.QueryAnswers

/-!
What the inspection tool answers to its arguments. It never fails. With `--json` it prints the JSON
text of a report if the host, or the name of the scenario, allows it; without it there is none, and
there is none for `--version` and `--help`.
-/

namespace NicResidency.InspectAnswers
open InspectTool HostDiscovery HostReport Inspection FirstDiscovery Throwing NicRegistry Json
open SyntheticBackend (fixture makeNic makeGpu)
open TopologyStaging (Built)

/-! Plain text is no JSON text. -/

/-- No value starts with such a letter. -/
theorem not_wellFormed_letter {c : UInt8} (letter : c ∈ [0x45, 0x4E, 0x4F, 0x53]) (rest : Bytes) :
    ¬WellFormed (c :: rest) := by
  rintro ⟨v, -, gap, inner, tail, blank, spelled, reads, -⟩
  obtain ⟨lead, after, rfl, leads⟩ := reads.lead
  simp only [List.mem_cons, List.not_mem_nil, or_false] at letter
  have printed : Json.blank c = false := by
    rcases letter with rfl | rfl | rfl | rfl <;> rfl
  obtain ⟨-, rfl, -⟩ := blank_append_inj blank_nil blank printed (closed_of_leads leads).1 spelled
  rcases letter with rfl | rfl | rfl | rfl <;>
  · cases v with
    | bool truth => cases truth <;> exact Bool.false_ne_true leads
    | _ => exact Bool.false_ne_true leads

theorem not_wellFormed_version : ¬WellFormed version := by
  obtain ⟨rest, spelled⟩ : ∃ rest, version = 0x4E :: rest := ⟨_, rfl⟩
  rw [spelled]
  exact not_wellFormed_letter (by decide) rest

/-- The usage starts with the first letter of a value only. -/
theorem not_wellFormed_usage : ¬WellFormed usage := by
  obtain ⟨more, used⟩ : ∃ more, usage = 0x6E :: 0x69 :: more := by
    simp only [usage, chars_append, List.append_assoc]
    exact ⟨_, rfl⟩
  rw [used]
  rintro ⟨v, -, gap, inner, tail, blank, spelled, reads, -⟩
  obtain ⟨lead, after, rfl, leads⟩ := reads.lead
  obtain ⟨-, rfl, rfl⟩ := blank_append_inj blank_nil blank rfl (closed_of_leads leads).1 spelled
  have kind := kind_of_leads leads
  cases v with
  | null =>
    cases reads with
    | null spelled => exact absurd (List.cons.inj (List.cons.inj spelled).2).1 (by decide)
  | _ => cases kind

theorem systemText_letter (snap : RegistrySnapshot) : ∃ rest, systemText snap = 0x45 :: rest := by
  simp only [systemText, chars_append, List.append_assoc]
  exact ⟨_, rfl⟩

theorem systemTexts_letter (boot : WorkerBootId) (system : Except ResidencyError DiscoveryResult)
    (nvidia : Option (Except ResidencyError DiscoveryResult)) :
    ∃ c ∈ [0x45, 0x4E, 0x4F, 0x53], ∃ rest, systemTexts boot system nvidia = c :: rest := by
  have failed (before : String) (error : ResidencyError) (more : Bytes) :
      errorText before (.error error) ++ more = chars before ++ (chars (error.message ++ "\n") ++ more) := by
    simp only [errorText, String.append_assoc, chars_append, List.append_assoc]
  simp only [systemTexts]
  generalize ingestFound boot system (engine boot) = first
  obtain ⟨outcome, registry⟩ := first
  cases outcome with
  | error error =>
    refine ⟨0x53, by decide, ?_⟩
    cases nvidia <;> simp only [List.append_assoc, failed] <;> exact ⟨_, rfl⟩
  | ok done =>
    cases nvidia with
    | none =>
      refine ⟨0x4E, by decide, ?_⟩
      exact ⟨_, rfl⟩
    | some found =>
      dsimp only
      generalize ingestFound boot found registry = second
      obtain ⟨outcome, registry⟩ := second
      cases outcome with
      | error error =>
        refine ⟨0x4E, by decide, ?_⟩
        simp only [List.append_assoc, failed]
        exact ⟨_, rfl⟩
      | ok done =>
        simp only [errorText, List.nil_append]
        exact ⟨0x45, by decide, systemText_letter registry.snapshot⟩

theorem syntheticText_letter (name : Bytes) (snap : RegistrySnapshot) :
    ∃ rest, syntheticText name snap = 0x53 :: rest := by
  simp only [syntheticText, List.append_assoc]
  exact ⟨_, rfl⟩

theorem queryText_letter (snap : RegistrySnapshot) (gpu : GpuId) (numa : NumaNodeId) :
    ∃ rest, queryText snap gpu numa = 0x4F :: rest := by
  simp only [queryText, chars_append, List.append_assoc]
  exact ⟨_, rfl⟩

/-! The registry of a fixture. -/

/-- The registry of the tool with a fixture and its topology. -/
structure HoldsFixture (boot : WorkerBootId) (scenario : SyntheticScenario) (t : TopologySnapshot)
    (s : NicRegistry) : Prop where
  discovered : ∃ notes,
    SyntheticBackend.discover scenario {} = .ok ((fixture {} scenario).found (some t), notes)
  topology : Built (fixture {} scenario).nodes (fixture {} scenario).edges
    ({} : DiscoveryContext).topologyGeneration t
  records : Holds (toolAuthority boot) ((fixture {} scenario).found (some t)) s

theorem fixtureRegistry_holds (boot : WorkerBootId) (scenario : SyntheticScenario) :
    ∃ t s, fixtureRegistry boot scenario = some s ∧ HoldsFixture boot scenario t s := by
  obtain ⟨t, notes, discovered, built⟩ := SyntheticBackend.discover_fixture {} scenario
  obtain ⟨s, ingested, holds⟩ := SyntheticBackend.ingest_fixture {} scenario (some t) (toolAuthority boot)
  refine ⟨t, s, ?_, ⟨notes, discovered⟩, built, holds⟩
  unfold fixtureRegistry
  rw [discovered, engine_eq]
  dsimp only
  rw [show (⟨⟨1⟩, ⟨1⟩, boot⟩ : Authority) = toolAuthority boot from rfl, ingested]

theorem encodedNames_fixture (scenario : SyntheticScenario) :
    (∀ nic ∈ (fixture {} scenario).nics, Utf8.Encoded nic.osName) ∧
    ∀ gpu ∈ (fixture {} scenario).gpus, Utf8.Encoded gpu.name := by
  have names := encoded_texts ["synth-nic0", "synth-nic-numa0", "synth-nic-numa1", "synth-nic-sw0",
    "synth-nic-sw1", "synth-nic-remote", "synth-smartnic", "synth-dpu", "synth-pf", "synth-dense",
    "synth-unsupported"] rfl
  have gpu (id pci n ctx) : Utf8.Encoded (makeGpu id pci n ctx).name :=
    ((quotable_of_all rfl).append (quotable_number _)).encoded
  simp only [List.forall_mem_cons] at names
  cases scenario <;> simp [fixture, makeNic, names, gpu]

theorem namesEncoded_fixture {boot : WorkerBootId} {scenario : SyntheticScenario} {t : TopologySnapshot}
    {s : NicRegistry} (held : HoldsFixture boot scenario t s) : NamesEncoded s.snapshot := by
  obtain ⟨nics, gpus⟩ := encodedNames_fixture scenario
  constructor
  · rintro ⟨id, nic⟩ listed
    have stored := Std.ExtTreeMap.mem_toList_iff_getElem?_eq_some.mp listed
    rw [show s.snapshot.nics[id]? = s.nics[id]? from rfl, held.records.nics] at stored
    obtain ⟨found, first, rfl⟩ := Option.map_eq_some_iff.mp stored
    exact nics found (List.mem_of_find?_eq_some first)
  · rintro ⟨id, gpu⟩ listed
    have stored := Std.ExtTreeMap.mem_toList_iff_getElem?_eq_some.mp listed
    rw [show s.snapshot.gpus[id]? = s.gpus[id]? from rfl, held.records.gpus] at stored
    exact gpus gpu (List.mem_reverse.mp (List.mem_of_find?_eq_some stored))

/-! The answers. -/

section
variable (p : Platform) (host : Host) (nvml : Nvml) (boot : WorkerBootId)

/-- What the devices of the host must allow. -/
def Reportable : Prop :=
  Discoverable p host {} ∧ Recordable p host {} ∧ available nvml = true ∧ nvml.count ≠ none

/-- The report on the host. -/
def SystemAnswer (output : Bytes) : Prop :=
  (WellFormed output → Reportable p host nvml) ∧
  (Reportable p host nvml → ∃ topology s, hostTopology p host ⟨1⟩ 4096 = .ok topology ∧
    Holds (toolAuthority boot)
      { nics := reported p host {}, gpus := reportedGpus nvml {}, topology } s ∧
    (WellFormed output ↔ NamesEncoded s.snapshot) ∧
    (Spells (systemValue s.snapshot) output ↔ NamesEncoded s.snapshot))

/-- The report on a fixture. The name is printed as it is, with the escapes that are in it. -/
def SyntheticAnswer (name output : Bytes) : Prop :=
  ∃ t s, HoldsFixture boot (scenarioByName name) t s ∧
    (Spells (syntheticValue name s.snapshot) output ↔ Body name ∧ Utf8.Encoded name)

/-- The report on a decision, and the decision. -/
def QueryAnswer (gpu : GpuId) (numa : NumaNodeId) (output : Bytes) : Prop :=
  ∃ t s, HoldsFixture boot .twoNicsDifferentNuma t s ∧
    let dec := queryPolicy.decide s.snapshot gpu numa {} ⟨1⟩
    Spells (queryValue s.snapshot dec) output ∧
      dec.selected = (if gpu ≠ ⟨101⟩ ∧ numa = ⟨2⟩ then ⟨21⟩ else ⟨20⟩) ∧
      dec.overall =
        if gpu = ⟨101⟩ ∨ numa = ⟨1⟩ ∨ numa = ⟨2⟩ then .residencyAllowed else .residencyAllowedDegraded

def Answer (o : Options) (output : Bytes) : Prop :=
  if o.json then
    o.mode = "system" ∧ SystemAnswer p host nvml boot output ∨
    o.mode = "synthetic" ∧ SyntheticAnswer boot o.scenario output ∨
    o.mode = "query" ∧ QueryAnswer boot (queryGpu o) o.numa output
  else ¬WellFormed output

def Outcome (output : Bytes) : Invocation → Prop
  | .version => output = version ∧ ¬WellFormed output
  | .help => output = usage ∧ ¬WellFormed output
  | .run o => Answer p host nvml boot o output

theorem answer_system {o : Options} (mode : o.mode = "system") :
    Answer p host nvml boot o (InspectTool.runSystem p host nvml boot o.json) := by
  unfold Answer InspectTool.runSystem
  cases o.json with
  | true =>
    obtain ⟨needed, printed⟩ := inspect_system p host nvml boot
    rw [if_pos rfl, if_pos rfl]
    refine .inl ⟨mode, needed, fun reportable => ?_⟩
    obtain ⟨topology, s, built, holds, report⟩ := printed reportable
    rw [report]
    exact ⟨topology, s, built, holds, wellFormed_system s.snapshot, spells_system s.snapshot⟩
  | false =>
    obtain ⟨c, letter, rest, spelled⟩ := systemTexts_letter boot
      ((HostDiscovery.discover p host {}).map Prod.fst)
      (if available nvml then some ((discoverGpus nvml {}).map Prod.fst) else none)
    simp only [Bool.false_eq_true, ↓reduceIte, spelled]
    exact not_wellFormed_letter letter rest

theorem answer_synthetic {o : Options} (mode : o.mode = "synthetic") {t : TopologySnapshot} {s : NicRegistry}
    (held : HoldsFixture boot (scenarioByName o.scenario) t s) :
    Answer p host nvml boot o
      (if o.json then printSynthetic o.scenario s.snapshot else syntheticText o.scenario s.snapshot) := by
  unfold Answer
  cases o.json with
  | true =>
    rw [if_pos rfl, if_pos rfl]
    refine .inr (.inl ⟨mode, t, s, held, ?_⟩)
    rw [spells_synthetic, and_iff_left (namesEncoded_fixture held)]
  | false =>
    obtain ⟨rest, spelled⟩ := syntheticText_letter o.scenario s.snapshot
    simp only [Bool.false_eq_true, ↓reduceIte, spelled]
    exact not_wellFormed_letter (by decide) rest

theorem answer_query {o : Options} (mode : o.mode = "query") {t : TopologySnapshot} {s : NicRegistry}
    (held : HoldsFixture boot .twoNicsDifferentNuma t s) :
    Answer p host nvml boot o
      (if o.json then Inspection.runQuery s.snapshot (queryGpu o) o.numa
        else queryText s.snapshot (queryGpu o) o.numa) := by
  unfold Answer
  cases o.json with
  | true =>
    rw [if_pos rfl, if_pos rfl]
    exact .inr (.inr ⟨mode, t, s, held, spells_query s.snapshot (queryGpu o) o.numa,
      QueryAnswers.query_answer held.records held.topology.nodes (queryGpu o) o.numa {} ⟨1⟩⟩)
  | false =>
    obtain ⟨rest, spelled⟩ := queryText_letter s.snapshot (queryGpu o) o.numa
    simp only [Bool.false_eq_true, ↓reduceIte, spelled]
    exact not_wellFormed_letter (by decide) rest

/-- Every run of the tool ends with the exit code zero, and with the answer to its arguments. -/
theorem main_answers (args : List Bytes) :
    ∃ output, main p host nvml boot args = some (0, output) ∧
      Outcome p host nvml boot output (parse args {}) := by
  unfold main
  cases parsed : parse args {} with
  | version => exact ⟨version, rfl, rfl, not_wellFormed_version⟩
  | help => exact ⟨usage, rfl, rfl, not_wellFormed_usage⟩
  | run o =>
    have known := known_of_parse (.inl rfl) parsed
    dsimp only
    rcases known with mode | mode | mode
    · rw [if_pos mode]
      exact ⟨_, rfl, answer_system p host nvml boot mode⟩
    · have other : o.mode ≠ "system" := by simp [mode]
      obtain ⟨t, s, found, held⟩ := fixtureRegistry_holds boot (scenarioByName o.scenario)
      rw [if_neg other, if_pos mode, runSynthetic, found]
      exact ⟨_, rfl, answer_synthetic p host nvml boot mode held⟩
    · have other : o.mode ≠ "system" ∧ o.mode ≠ "synthetic" := by simp [mode]
      obtain ⟨t, s, found, held⟩ := fixtureRegistry_holds boot .twoNicsDifferentNuma
      rw [if_neg other.1, if_neg other.2, if_pos mode, runQueryMode, found]
      exact ⟨_, rfl, answer_query p host nvml boot mode held⟩

end

end NicResidency.InspectAnswers

import NicResidency.HostReport
import NicResidency.SyntheticBackend

/-!
The inspection tool from its arguments to its output and its exit code. Whatever the arguments are,
it never fails. It prints plain text or the report of one mode.
-/

namespace NicResidency.InspectTool
open HostDiscovery HostReport Inspection FirstDiscovery Throwing NicRegistry Json

/-! Arguments. -/

structure Options where
  json : Bool := false
  mode : String := "system"
  scenario : Bytes := []
  gpu : GpuId := {}
  numa : NumaNodeId := {}

inductive Invocation where
  | version
  | help
  | run (options : Options)

/-- `strtoull` in base zero: the number tells its base. -/
def strtoull (text : Bytes) : UInt64 :=
  let (negative, body) := Scan.sign ((text.map UInt8.toUInt16).dropWhile asciiSpace)
  let base :=
    match body with
    | 0x30 :: 0x78 :: _ | 0x30 :: 0x58 :: _ => 16
    | 0x30 :: _ => 8
    | _ => 10
  let n := Scan.valueOf base (Scan.digits base (Scan.unmarked base body)).1
  if n < 2 ^ 64 then
    if negative then -UInt64.ofNat n else UInt64.ofNat n
  else 0xFFFFFFFFFFFFFFFF

/-- The loop over the arguments. What is not an option is passed over. -/
def parse : List Bytes → Options → Invocation
  | [], o => .run o
  | a :: rest, o =>
    if a = chars "--json" then parse rest { o with json := true }
    else if a = chars "--system" then parse rest { o with mode := "system" }
    else if a = chars "--synthetic" then
      match rest with
      | [] => .run { o with mode := "synthetic" }
      | scenario :: rest => parse rest { o with mode := "synthetic", scenario }
    else if a = chars "--query" then parse rest { o with mode := "query" }
    else if a = chars "--gpu" ∧ rest ≠ [] then
      match rest with
      | [] => .run o
      | id :: rest => parse rest { o with gpu := ⟨strtoull id⟩ }
    else if a = chars "--numa" ∧ rest ≠ [] then
      match rest with
      | [] => .run o
      | id :: rest => parse rest { o with numa := ⟨strtoull id⟩ }
    else if a = chars "--version" then .version
    else if a = chars "--help" then .help
    else parse rest o

def scenarioByName (s : Bytes) : SyntheticScenario :=
  if s = chars "one_gpu" then .oneNicLocalToOneGpu
  else if s = chars "two_numa" then .twoNicsDifferentNuma
  else if s = chars "root_complex" then .sameRootComplexPreference
  else if s = chars "pcie_switch" then .samePcieSwitchPreference
  else if s = chars "remote_numa" then .remoteNumaFallback
  else if s = chars "smartnic" then .smartNicLocalMemory
  else if s = chars "dpu" then .dpuLikeLocalMemory
  else if s = chars "pf_vfs" then .pfWithMultipleVfs
  else if s = chars "dense" then .denseCandidateSet
  else if s = chars "unsupported" then .unsupportedCapability
  else .oneNicLocalToOneGpu

/-! Plain text. -/

/-- What `%s` prints of a string. -/
def cString (s : Bytes) : Bytes := s.takeWhile (· != 0)

def nicLine (n : NicRecord) : Bytes :=
  chars ("  id=" ++ n.id.str ++ " gen=" ++ toString n.generation.value.toNat ++ " os=") ++
    cString n.osName ++
    chars (" pci=" ++ n.pci.str ++ " kind=" ++ n.deviceKind.toString ++ " numa=" ++
      toString n.numaNode.value.toNat ++ " link=" ++ n.linkState.toString ++ " prov=" ++
      n.provenance.str ++ "\n")

def gpuLine (g : GpuRecord) : Bytes :=
  chars ("  id=" ++ g.id.str ++ " name=") ++ cString g.name ++
    chars (" pci=" ++ g.pci.str ++ " numa=" ++ toString g.numaNode.value.toNat ++ " cuda=" ++
      toString g.cudaDevice.value.toNat ++ " prov=" ++ g.provenance.str ++ "\n")

def nicLines (snap : RegistrySnapshot) : Bytes :=
  chars ("NICs (" ++ toString snap.nics.size ++ "):\n") ++
    (snap.nics.toList.map fun kv => nicLine kv.2).flatten

def gpuLines (snap : RegistrySnapshot) : Bytes :=
  chars ("Accelerators (" ++ toString snap.gpus.size ++ "):\n") ++
    (snap.gpus.toList.map fun kv => gpuLine kv.2).flatten

def systemText (snap : RegistrySnapshot) : Bytes :=
  chars ("Epoch=" ++ snap.epoch.str ++ "\n") ++ nicLines snap ++ gpuLines snap ++
    (match snap.topology with
      | some topology =>
        chars ("Topology nodes=" ++ toString topology.nodes.size ++ " gen=" ++
          toString topology.generation.value.toNat ++ "\n")
      | none => []) ++
    chars (snap.summary ++ "\n")

def syntheticText (name : Bytes) (snap : RegistrySnapshot) : Bytes :=
  chars "Scenario: " ++ name ++ chars "\n" ++ nicLines snap ++ gpuLines snap ++
    chars (snap.summary ++ "\n")

def candidateLines (c : CandidateResult) : Bytes :=
  chars ("  candidate=" ++ c.nic.str ++ " elig=" ++ c.eligibility.toString ++ " score=" ++
      toString c.rankScore ++ "\n") ++
    (c.rejections.map fun r => chars ("      reject: " ++ r.name ++ "  (" ++ r.detail ++ ")\n")).flatten

def queryText (snap : RegistrySnapshot) (gpu : GpuId) (numa : NumaNodeId) : Bytes :=
  let dec := queryPolicy.decide snap gpu numa {} ⟨1⟩
  chars ("Overall=" ++ dec.overall.toString ++ "\n") ++
    chars ("Selected=" ++ (if dec.selected.valid then dec.selected.str else "NONE") ++ "\n") ++
    chars ("Explanation: " ++ dec.explanation ++ "\n") ++ (dec.evaluated.map candidateLines).flatten

def errorText (before : String) : Except ResidencyError Unit → Bytes
  | .ok () => []
  | .error error => chars (before ++ error.message ++ "\n")

/-- The run with what the two backends have found. -/
def systemTexts (boot : WorkerBootId) (system : Except ResidencyError DiscoveryResult)
    (nvidia : Option (Except ResidencyError DiscoveryResult)) : Bytes :=
  let first := ingestFound boot system (engine boot)
  match nvidia with
  | none =>
    errorText "System discovery: " first.1 ++ chars "NVIDIA/NVML: UNSUPPORTED (no NVML)\n" ++
      systemText first.2.snapshot
  | some found =>
    let second := ingestFound boot found first.2
    errorText "System discovery: " first.1 ++ errorText "NVIDIA: " second.1 ++
      systemText second.2.snapshot

def usage : Bytes := chars <|
  "nic_residency_inspect [options]\n" ++
  "  --system                 run REAL host discovery (Windows)\n" ++
  "  --synthetic <scenario>   run a synthetic scenario\n" ++
  "  --query --gpu <id> [--numa <id>]  resolve the best resident NIC\n" ++
  "  --json                    emit deterministic JSON\n" ++
  "  --version                 print version\n" ++
  "  --help                    this help\n" ++
  "  scenarios: one_gpu two_numa root_complex pcie_switch remote_numa smartnic dpu pf_vfs dense unsupported\n"

def version : Bytes := chars "NIC Residency 1.0.1 (Summon Software Labs)\n"

/-! The tool. -/

/-- The registry with a fixture. An exception ends the tool before it prints. -/
def fixtureRegistry (boot : WorkerBootId) (scenario : SyntheticScenario) : Option NicRegistry :=
  match SyntheticBackend.discover scenario {} with
  | .ok (d, _) =>
    match perform (ingest d ⟨⟨1⟩, ⟨1⟩, boot⟩) (engine boot) with
    | (.ok (), s) => some s
    | (.error _, _) => none
  | .error _ => none

def runSystem (p : Platform) (host : Host) (nvml : Nvml) (boot : WorkerBootId) (json : Bool) : Bytes :=
  if json then inspectSystem p host nvml boot
  else
    systemTexts boot ((HostDiscovery.discover p host {}).map Prod.fst)
      (if available nvml then some ((discoverGpus nvml {}).map Prod.fst) else none)

def runSynthetic (boot : WorkerBootId) (name : Bytes) (json : Bool) : Option Bytes :=
  (fixtureRegistry boot (scenarioByName name)).map fun s =>
    if json then printSynthetic name s.snapshot else syntheticText name s.snapshot

/-- The accelerator of a query: the one of the fixture, unless another one is given. -/
def queryGpu (o : Options) : GpuId := if o.gpu.valid then o.gpu else ⟨101⟩

def runQueryMode (boot : WorkerBootId) (o : Options) : Option Bytes :=
  (fixtureRegistry boot .twoNicsDifferentNuma).map fun s =>
    if o.json then Inspection.runQuery s.snapshot (queryGpu o) o.numa
    else queryText s.snapshot (queryGpu o) o.numa

/-- The exit code and the output. -/
def main (p : Platform) (host : Host) (nvml : Nvml) (boot : WorkerBootId) (args : List Bytes) :
    Option (Nat × Bytes) :=
  match parse args {} with
  | .version => some (0, version)
  | .help => some (0, usage)
  | .run o =>
    if o.mode = "system" then some (0, runSystem p host nvml boot o.json)
    else if o.mode = "synthetic" then (runSynthetic boot o.scenario o.json).map fun text => (0, text)
    else if o.mode = "query" then (runQueryMode boot o).map fun text => (0, text)
    else some (1, usage)

/-! The modes. -/

/-- There is a report for this mode. -/
def Known (mode : String) : Prop := mode = "system" ∨ mode = "synthetic" ∨ mode = "query"

theorem known_of_parse {args : List Bytes} {o o' : Options} (known : Known o.mode)
    (parsed : parse args o = .run o') : Known o'.mode := by
  fun_induction parse args o with
  | case1 | case7 | case9 =>
    obtain rfl := Invocation.run.inj parsed
    exact known
  | case2 | case8 | case10 | case13 =>
    rename_i ih
    exact ih known parsed
  | case3 _ _ _ ih => exact ih (.inl rfl) parsed
  | case4 o =>
    obtain rfl := Invocation.run.inj parsed
    exact .inr (.inl rfl)
  | case5 _ _ _ _ _ ih => exact ih (.inr (.inl rfl)) parsed
  | case6 _ _ _ _ _ ih => exact ih (.inr (.inr rfl)) parsed
  | case11 | case12 => cases parsed

end NicResidency.InspectTool

import NicResidency.Coordinator
import NicResidency.Ingestion
import NicResidency.Library.Json

/-!
The inspection tool, where it prints JSON. Each report is one value of the snapshot that it is
printed from. The names from the host are printed byte by byte, so the report is in UTF-8 if they
are. The report on the system is behind the lines about failed discoveries, and with such a line
it is no JSON text.
-/

namespace NicResidency

def DeviceKind.toString : DeviceKind → String
  | .nic => "NIC"
  | .smartNic => "SMARTNIC"
  | .dpu => "DPU"
  | .unknown => "UNKNOWN"
  | .unsupported => "UNSUPPORTED"

def LinkState.toString : LinkState → String
  | .up => "UP"
  | .down => "DOWN"
  | .unknown => "UNKNOWN"
  | .unsupported => "UNSUPPORTED"

def RegistrySnapshot.summary (snap : RegistrySnapshot) : String :=
  "epoch=" ++ snap.epoch.str ++ " nics=" ++ toString snap.nics.size ++ " gpus=" ++
    toString snap.gpus.size ++ " funcs=" ++ toString snap.functions.size ++ " ports=" ++
    toString snap.ports.size ++ " queues=" ++ toString snap.queues.size ++ " attachments=" ++
    toString snap.attachments.size ++
    snap.topology.elim "" fun topology => " topo_nodes=" ++ toString topology.nodes.size

namespace Inspection
open Json Throwing NicRegistry

/-! What is printed. -/

def jsonEscape (s : Bytes) : Bytes :=
  s.map fun c => if 0x20 ≤ c ∧ c ≠ quote ∧ c ≠ backslash then c else 0x5F

def printNic (n : NicRecord) : Bytes :=
  chars "\x7b\"id\":\"" ++ chars n.id.str ++ chars "\",\"gen\":" ++
    chars (toString n.generation.value.toNat) ++ chars ",\"os\":\"" ++ jsonEscape n.osName ++
    chars "\",\"pci\":\"" ++ chars n.pci.str ++ chars "\",\"kind\":\"" ++ chars n.deviceKind.toString ++
    chars "\",\"numa\":" ++ chars (toString n.numaNode.value.toNat) ++ chars ",\"link\":\"" ++
    chars n.linkState.toString ++ chars "\",\"prov\":\"" ++ chars n.provenance.str ++
    chars "\",\"lifecycle\":\"" ++ chars n.lifecycle.toString ++ chars "\"\x7d"

def printNics (snap : RegistrySnapshot) : Bytes :=
  chars "\"nics\":[\n" ++ (chars ",\n").intercalate (snap.nics.toList.map fun kv => printNic kv.2) ++
    chars "\n]\n"

def printGpu (g : GpuRecord) : Bytes :=
  chars "\x7b\"id\":\"" ++ chars g.id.str ++ chars "\",\"name\":\"" ++ jsonEscape g.name ++
    chars "\",\"pci\":\"" ++ chars g.pci.str ++ chars "\",\"numa\":" ++
    chars (toString g.numaNode.value.toNat) ++ chars ",\"cuda\":" ++
    chars (toString g.cudaDevice.value.toNat) ++ chars ",\"prov\":\"" ++ chars g.provenance.str ++
    chars "\"\x7d"

def printGpus (snap : RegistrySnapshot) : Bytes :=
  chars "\"gpus\":[\n" ++ (chars ",\n").intercalate (snap.gpus.toList.map fun kv => printGpu kv.2) ++
    chars "\n]\n"

/-- The part of the report on the system that is printed from the snapshot. -/
def printSystem (snap : RegistrySnapshot) : Bytes :=
  chars "\x7b\n" ++ chars "\"host_epoch\":\"" ++ chars snap.epoch.str ++ chars "\",\n" ++
    printNics snap ++ chars ",\n" ++ printGpus snap ++ chars ",\n" ++
    (match snap.topology with
      | some topology =>
        chars "\"topo_nodes\":" ++ chars (toString topology.nodes.size) ++ chars ",\"topo_gen\":" ++
          chars (toString topology.generation.value.toNat) ++ chars ",\n"
      | none => []) ++
    chars "\"summary\":\"" ++ jsonEscape (chars snap.summary) ++ chars "\"\n\x7d\n"

/-- The name of the scenario is printed as it is. -/
def printSynthetic (name : Bytes) (snap : RegistrySnapshot) : Bytes :=
  chars "\x7b\"scenario\":\"" ++ name ++ chars "\"," ++ printNics snap ++ chars ",\n" ++
    printGpus snap ++ chars ",\n\"summary\":\"" ++ jsonEscape (chars snap.summary) ++ chars "\"\x7d\n"

def queryPolicy : ResidencyPolicy := { allowSynthetic := true }

def runQuery (snap : RegistrySnapshot) (gpu : GpuId) (numa : NumaNodeId) : Bytes :=
  let dec := queryPolicy.decide snap gpu numa {} ⟨1⟩
  chars "\x7b\"overall\":\"" ++ chars dec.overall.toString ++ chars "\",\"selected\":\"" ++
    (if dec.selected.valid then chars dec.selected.str else chars "NONE") ++
    chars "\",\"explanation\":\"" ++ jsonEscape (chars dec.explanation) ++ chars "\",\"topo_gen\":" ++
    chars (toString dec.topologyGeneration.value.toNat) ++ chars ",\"epoch\":\"" ++
    chars snap.epoch.str ++ chars "\"\x7d\n"

/-! The runs. -/

/-- The registry of the tool, with the tool as its worker. -/
def engine (boot : WorkerBootId) : NicRegistry := (perform (registerWorker ⟨1⟩ boot) { epoch := ⟨1⟩ }).2

def ingestFound (boot : WorkerBootId) (found : Except ResidencyError DiscoveryResult)
    (s : NicRegistry) : Except ResidencyError Unit × NicRegistry :=
  match found with
  | .ok d => perform (ingest d ⟨s.epoch, ⟨1⟩, boot⟩) s
  | .error error => (.error error, s)

def errorLine (key : String) : Except ResidencyError Unit → Bytes
  | .ok () => []
  | .error error => chars ("\"" ++ key ++ "\":\"") ++ jsonEscape (chars error.message) ++ chars "\"\n"

/-- The run with what the two backends have found. Without NVML there is no second one. -/
def runSystem (boot : WorkerBootId) (system : Except ResidencyError DiscoveryResult)
    (nvidia : Option (Except ResidencyError DiscoveryResult)) : Bytes :=
  let first := ingestFound boot system (engine boot)
  match nvidia with
  | none =>
    errorLine "system_error" first.1 ++ chars "\"nvidia\":\"UNSUPPORTED\"\n" ++
      printSystem first.2.snapshot
  | some found =>
    let second := ingestFound boot found first.2
    errorLine "system_error" first.1 ++ errorLine "nvidia_error" second.1 ++
      printSystem second.2.snapshot

/-! The values. -/

def textValue (s : String) : Value := .str (chars s)

def numberValue (n : Nat) : Value := .num (chars (toString n))

def nicValue (n : NicRecord) : Value :=
  .obj [(chars "id", textValue n.id.str), (chars "gen", numberValue n.generation.value.toNat),
    (chars "os", .str (jsonEscape n.osName)), (chars "pci", textValue n.pci.str),
    (chars "kind", textValue n.deviceKind.toString), (chars "numa", numberValue n.numaNode.value.toNat),
    (chars "link", textValue n.linkState.toString), (chars "prov", textValue n.provenance.str),
    (chars "lifecycle", textValue n.lifecycle.toString)]

def gpuValue (g : GpuRecord) : Value :=
  .obj [(chars "id", textValue g.id.str), (chars "name", .str (jsonEscape g.name)),
    (chars "pci", textValue g.pci.str), (chars "numa", numberValue g.numaNode.value.toNat),
    (chars "cuda", numberValue g.cudaDevice.value.toNat), (chars "prov", textValue g.provenance.str)]

def nicsValue (snap : RegistrySnapshot) : Value := .arr (snap.nics.toList.map fun kv => nicValue kv.2)

def gpusValue (snap : RegistrySnapshot) : Value := .arr (snap.gpus.toList.map fun kv => gpuValue kv.2)

def systemValue (snap : RegistrySnapshot) : Value :=
  .obj ([(chars "host_epoch", textValue snap.epoch.str), (chars "nics", nicsValue snap),
      (chars "gpus", gpusValue snap)] ++
    ((match snap.topology with
      | some topology =>
        [(chars "topo_nodes", numberValue topology.nodes.size),
          (chars "topo_gen", numberValue topology.generation.value.toNat)]
      | none => []) ++
    [(chars "summary", .str (jsonEscape (chars snap.summary)))]))

def syntheticValue (name : Bytes) (snap : RegistrySnapshot) : Value :=
  .obj [(chars "scenario", .str name), (chars "nics", nicsValue snap), (chars "gpus", gpusValue snap),
    (chars "summary", .str (jsonEscape (chars snap.summary)))]

def queryValue (snap : RegistrySnapshot) (dec : ResidencyDecision) : Value :=
  .obj [(chars "overall", textValue dec.overall.toString),
    (chars "selected", textValue (if dec.selected.valid then dec.selected.str else "NONE")),
    (chars "explanation", .str (jsonEscape (chars dec.explanation))),
    (chars "topo_gen", numberValue dec.topologyGeneration.value.toNat),
    (chars "epoch", textValue snap.epoch.str)]

/-! Texts that stand for themselves between quotes. -/

/-- The characters are in ASCII, and none needs an escape. -/
def Quotable (s : String) : Prop := ∀ b ∈ chars s, plain b

theorem quotable_of_all {s : String} (all : (chars s).all plain) : Quotable s := List.all_eq_true.mp all

theorem Quotable.append {s t : String} (first : Quotable s) (second : Quotable t) :
    Quotable (s ++ t) := by
  rw [Quotable, chars_append, List.forall_mem_append]
  exact ⟨first, second⟩

theorem plain_hexDigit (nibble : UInt64) : plain (UInt8.ofNat (hexDigit nibble).toNat) := by
  have digits : ('0' :: "0123456789abcdef".toList).all fun c => plain (UInt8.ofNat c.toNat) := rfl
  refine List.all_eq_true.mp digits _ ?_
  rw [hexDigit, List.getD_eq_getElem?_getD]
  cases found : "0123456789abcdef".toList[nibble.toNat]? with
  | none => exact List.mem_cons_self
  | some c => exact List.mem_cons_of_mem _ (List.mem_of_getElem? found)

theorem quotable_id {tag : Tag} (id : Id tag) : Quotable id.str := by
  intro b member
  rw [Id.str, hex64, chars, String.toList_ofList, List.map_map, List.mem_map] at member
  obtain ⟨i, -, rfl⟩ := member
  exact plain_hexDigit _

theorem quotable_pci (p : PciAddress) : Quotable p.str := by
  simp only [Quotable, PciAddress.str, chars, String.toList_ofList, List.map_cons, List.map_nil,
    List.forall_mem_cons, plain_hexDigit, true_and]
  exact ⟨rfl, rfl, rfl, List.forall_mem_nil _⟩

theorem quotable_intercalate {sep : String} (between : Quotable sep) {parts : List String}
    (each : ∀ part ∈ parts, Quotable part) : Quotable (sep.intercalate parts) := by
  induction parts with
  | nil =>
    rw [String.intercalate_nil]
    exact quotable_of_all rfl
  | cons part rest ih =>
    obtain ⟨first, later⟩ := List.forall_mem_cons.mp each
    cases rest with
    | nil => rwa [String.intercalate_singleton]
    | cons next rest =>
      rw [String.intercalate_cons_cons]
      exact (first.append between).append (ih later)

theorem quotable_source (source : Source) : Quotable source.toString := by
  cases source <;> exact quotable_of_all rfl

theorem quotable_evidence (kind : EvidenceKind) : Quotable kind.toString := by
  cases kind <;> exact quotable_of_all rfl

theorem quotable_provenance (p : Provenance) : Quotable p.str := by
  have sources : Quotable (",".intercalate (p.sources.map Source.toString)) :=
    quotable_intercalate (quotable_of_all rfl)
      (List.forall_mem_map.mpr fun source _ => quotable_source source)
  exact (((quotable_evidence p.kind).append (quotable_of_all rfl)).append sources).append
    (quotable_of_all rfl)

theorem quotable_number (n : Nat) : Quotable (toString n) := by
  intro b member
  have occurs := (number_decimal n).numerals b member
  simp only [numeral, Bool.or_eq_true, beq_iff_eq] at occurs
  rcases occurs with ((((isDigit | rfl) | rfl) | rfl) | rfl) | rfl
  · rw [digit, Bool.and_eq_true, decide_eq_true_eq, decide_eq_true_eq] at isDigit
    obtain ⟨low, high⟩ := isDigit
    have low := UInt8.le_iff_toNat_le.mp low
    have high := UInt8.le_iff_toNat_le.mp high
    have bounds : 48 ≤ b.toNat ∧ b.toNat ≤ 57 := ⟨low, high⟩
    simp only [plain, quote, backslash, Bool.and_eq_true, decide_eq_true_eq, bne_iff_ne, ne_eq,
      UInt8.le_iff_toNat_le, UInt8.lt_iff_toNat_lt, ← UInt8.toNat_inj]
    exact ⟨⟨⟨by simp; omega, by simp; omega⟩, by simp; omega⟩, by simp; omega⟩
  all_goals rfl

theorem quotable_summary (snap : RegistrySnapshot) : Quotable snap.summary := by
  have nodes : Quotable (snap.topology.elim "" fun topology =>
      " topo_nodes=" ++ toString topology.nodes.size) := by
    cases snap.topology with
    | none => exact quotable_of_all rfl
    | some topology => exact (quotable_of_all rfl).append (quotable_number _)
  have labelled (label : String) (all : (chars label).all plain) : Quotable label := quotable_of_all all
  have epoch := (labelled "epoch=" rfl).append (quotable_id snap.epoch)
  have nics := (epoch.append (labelled " nics=" rfl)).append (quotable_number snap.nics.size)
  have gpus := (nics.append (labelled " gpus=" rfl)).append (quotable_number snap.gpus.size)
  have functions := (gpus.append (labelled " funcs=" rfl)).append (quotable_number snap.functions.size)
  have ports := (functions.append (labelled " ports=" rfl)).append (quotable_number snap.ports.size)
  have queues := (ports.append (labelled " queues=" rfl)).append (quotable_number snap.queues.size)
  have attachments := (queues.append (labelled " attachments=" rfl)).append
    (quotable_number snap.attachments.size)
  exact attachments.append nodes

theorem quotable_overall (overall : ResidencyEligibility) : Quotable overall.toString := by
  cases overall <;> exact quotable_of_all rfl

theorem quotable_explanation (d : ResidencyDecision) : Quotable d.buildExplanation := by
  have labelled (label : String) (all : (chars label).all plain) {tag : Tag} (id : Id tag) :
      Quotable (if id.valid then label ++ id.str else "") := by
    split
    · exact (quotable_of_all all).append (quotable_id id)
    · exact quotable_of_all rfl
  unfold ResidencyDecision.buildExplanation
  split
  · have nic : Quotable ("selected=" ++ d.selected.str) :=
      (quotable_of_all rfl).append (quotable_id d.selected)
    have function := nic.append (labelled " func=" rfl d.selectedFunction)
    have port := function.append (labelled " port=" rfl d.selectedPort)
    have queue := port.append (labelled " queue=" rfl d.selectedQueue)
    exact (queue.append (quotable_of_all rfl)).append (quotable_overall d.overall)
  · exact (quotable_of_all rfl).append (quotable_overall d.overall)

theorem quotable_decided (policy : ResidencyPolicy) (snap : RegistrySnapshot) (gpu : GpuId)
    (numa : NumaNodeId) (endpoint : EndpointId) (workload : WorkerId) :
    Quotable (policy.decide snap gpu numa endpoint workload).explanation := quotable_explanation _

theorem unescaped_of_plain {b : UInt8} (itself : plain b) : unescaped b := by
  rw [unescaped, itself, Bool.true_or]

theorem body_chars {s : String} (quotable : Quotable s) : Body (chars s) :=
  body_of_unescaped fun b member => unescaped_of_plain (quotable b member)

theorem body_jsonEscape (s : Bytes) : Body (jsonEscape s) := by
  refine body_of_unescaped (List.forall_mem_map.mpr fun c _ => ?_)
  split
  next itself =>
    by_cases ascii : c < 0x80
    · exact unescaped_of_plain (by simp [plain, itself, ascii])
    · exact Bool.or_eq_true_iff.mpr (.inr (decide_eq_true (UInt8.not_lt.mp ascii)))
  next => decide

/-! Each report is one value. -/

section
variable {v : Value} {text gap : Text}

theorem blank_feed : Blank [0x0A] := by
  intro b member
  obtain rfl := List.mem_singleton.mp member
  rfl

theorem lastMember (before : Blank gap) (key : String) (all : (chars key).all plain)
    (written : Written v text) :
    Members [(chars key, v)] (gap ++ quote :: (chars key ++ quote :: 0x3A :: text)) :=
  members_last before (body_chars (quotable_of_all all)) written

theorem nextMember (before : Blank gap) (key : String) (all : (chars key).all plain)
    (written : Written v text) {ms : List (Text × Value)} {more : Text} (members : Members ms more) :
    Members ((chars key, v) :: ms)
      (gap ++ quote :: (chars key ++ quote :: 0x3A :: (text ++ 0x2C :: more))) :=
  members.cons before (body_chars (quotable_of_all all)) written

end

theorem written_text {s : String} (quotable : Quotable s) :
    Written (textValue s) (quote :: (chars s ++ [quote])) := written_str (body_chars quotable)

theorem written_escaped (s : Bytes) :
    Written (.str (jsonEscape s)) (quote :: (jsonEscape s ++ [quote])) := written_str (body_jsonEscape s)

theorem written_number (n : Nat) : Written (numberValue n) (chars (toString n)) :=
  written_num (number_decimal n)

theorem quotable_device (kind : DeviceKind) : Quotable kind.toString := by
  cases kind <;> exact quotable_of_all rfl

theorem quotable_link (link : LinkState) : Quotable link.toString := by
  cases link <;> exact quotable_of_all rfl

theorem quotable_lifecycle (state : LifecycleState) : Quotable state.toString := by
  cases state <;> exact quotable_of_all rfl

theorem quotable_selected (id : NicId) : Quotable (if id.valid then id.str else "NONE") := by
  split
  · exact quotable_id id
  · exact quotable_of_all rfl

/-! What stands between the parts of a record and of a report. -/

theorem record_separators :
    chars "\x7b\"id\":\"" = 0x7B :: quote :: (chars "id" ++ [quote, 0x3A, quote]) ∧
    chars "\",\"gen\":" = quote :: 0x2C :: quote :: (chars "gen" ++ [quote, 0x3A]) ∧
    chars ",\"os\":\"" = 0x2C :: quote :: (chars "os" ++ [quote, 0x3A, quote]) ∧
    chars "\",\"pci\":\"" = quote :: 0x2C :: quote :: (chars "pci" ++ [quote, 0x3A, quote]) ∧
    chars "\",\"kind\":\"" = quote :: 0x2C :: quote :: (chars "kind" ++ [quote, 0x3A, quote]) ∧
    chars "\",\"numa\":" = quote :: 0x2C :: quote :: (chars "numa" ++ [quote, 0x3A]) ∧
    chars ",\"link\":\"" = 0x2C :: quote :: (chars "link" ++ [quote, 0x3A, quote]) ∧
    chars "\",\"prov\":\"" = quote :: 0x2C :: quote :: (chars "prov" ++ [quote, 0x3A, quote]) ∧
    chars "\",\"lifecycle\":\"" = quote :: 0x2C :: quote :: (chars "lifecycle" ++ [quote, 0x3A, quote]) ∧
    chars "\"\x7d" = [quote, 0x7D] ∧
    chars "\",\"name\":\"" = quote :: 0x2C :: quote :: (chars "name" ++ [quote, 0x3A, quote]) ∧
    chars ",\"cuda\":" = 0x2C :: quote :: (chars "cuda" ++ [quote, 0x3A]) ∧
    chars ",\"prov\":\"" = 0x2C :: quote :: (chars "prov" ++ [quote, 0x3A, quote]) :=
  ⟨rfl, rfl, rfl, rfl, rfl, rfl, rfl, rfl, rfl, rfl, rfl, rfl, rfl⟩

theorem report_separators :
    chars "\x7b\n" = [0x7B, 0x0A] ∧
    chars "\"host_epoch\":\"" = quote :: (chars "host_epoch" ++ [quote, 0x3A, quote]) ∧
    chars "\",\n" = [quote, 0x2C, 0x0A] ∧
    chars ",\n" = [0x2C, 0x0A] ∧
    chars "\"topo_nodes\":" = quote :: (chars "topo_nodes" ++ [quote, 0x3A]) ∧
    chars ",\"topo_gen\":" = 0x2C :: quote :: (chars "topo_gen" ++ [quote, 0x3A]) ∧
    chars "\"summary\":\"" = quote :: (chars "summary" ++ [quote, 0x3A, quote]) ∧
    chars "\"\n\x7d\n" = [quote, 0x0A, 0x7D, 0x0A] ∧
    chars "\x7b\"scenario\":\"" = 0x7B :: quote :: (chars "scenario" ++ [quote, 0x3A, quote]) ∧
    chars "\"," = [quote, 0x2C] ∧
    chars ",\n\"summary\":\"" = 0x2C :: 0x0A :: quote :: (chars "summary" ++ [quote, 0x3A, quote]) ∧
    chars "\"\x7d\n" = [quote, 0x7D, 0x0A] :=
  ⟨rfl, rfl, rfl, rfl, rfl, rfl, rfl, rfl, rfl, rfl, rfl, rfl⟩

theorem decision_separators :
    chars "\x7b\"overall\":\"" = 0x7B :: quote :: (chars "overall" ++ [quote, 0x3A, quote]) ∧
    chars "\",\"selected\":\"" = quote :: 0x2C :: quote :: (chars "selected" ++ [quote, 0x3A, quote]) ∧
    chars "\",\"explanation\":\"" = quote :: 0x2C :: quote :: (chars "explanation" ++ [quote, 0x3A, quote]) ∧
    chars "\",\"topo_gen\":" = quote :: 0x2C :: quote :: (chars "topo_gen" ++ [quote, 0x3A]) ∧
    chars ",\"epoch\":\"" = 0x2C :: quote :: (chars "epoch" ++ [quote, 0x3A, quote]) :=
  ⟨rfl, rfl, rfl, rfl, rfl⟩

theorem written_nic (n : NicRecord) : Written (nicValue n) (printNic n) := by
  have lifecycle := lastMember blank_nil "lifecycle" rfl (written_text (quotable_lifecycle n.lifecycle))
  have prov := nextMember blank_nil "prov" rfl (written_text (quotable_provenance n.provenance)) lifecycle
  have link := nextMember blank_nil "link" rfl (written_text (quotable_link n.linkState)) prov
  have numa := nextMember blank_nil "numa" rfl (written_number n.numaNode.value.toNat) link
  have kind := nextMember blank_nil "kind" rfl (written_text (quotable_device n.deviceKind)) numa
  have pci := nextMember blank_nil "pci" rfl (written_text (quotable_pci n.pci)) kind
  have os := nextMember blank_nil "os" rfl (written_escaped n.osName) pci
  have gen := nextMember blank_nil "gen" rfl (written_number n.generation.value.toNat) os
  have written := (nextMember blank_nil "id" rfl (written_text (quotable_id n.id)) gen).written
  simp only [printNic, record_separators, List.append_assoc, List.cons_append, List.nil_append] at written ⊢
  exact written

theorem written_gpu (g : GpuRecord) : Written (gpuValue g) (printGpu g) := by
  have prov := lastMember blank_nil "prov" rfl (written_text (quotable_provenance g.provenance))
  have cuda := nextMember blank_nil "cuda" rfl (written_number g.cudaDevice.value.toNat) prov
  have numa := nextMember blank_nil "numa" rfl (written_number g.numaNode.value.toNat) cuda
  have pci := nextMember blank_nil "pci" rfl (written_text (quotable_pci g.pci)) numa
  have name := nextMember blank_nil "name" rfl (written_escaped g.name) pci
  have written := (nextMember blank_nil "id" rfl (written_text (quotable_id g.id)) name).written
  simp only [printGpu, record_separators, List.append_assoc, List.cons_append, List.nil_append] at written ⊢
  exact written

/-- A list of records on lines of their own, and the line behind it. -/
theorem written_lines {α : Type} (value : α → Value) (print : α → Bytes)
    (each : ∀ a, Written (value a) (print a)) (records : List α) :
    Written (.arr (records.map value))
      (0x5B :: 0x0A :: ((chars ",\n").intercalate (records.map print) ++ [0x0A, 0x5D, 0x0A])) := by
  have written := (written_arr blank_feed blank_feed blank_feed
    (records.map fun a => (value a, print a)) (by simpa using fun a _ => each a)).before blank_feed
  simp only [List.map_map, List.append_assoc, List.cons_append, List.nil_append] at written ⊢
  exact written

theorem written_nics (snap : RegistrySnapshot) : ∃ text, Written (nicsValue snap) text ∧
    printNics snap = quote :: (chars "nics" ++ quote :: 0x3A :: text) := by
  refine ⟨_, written_lines (fun kv : NicId × NicRecord => nicValue kv.2) (fun kv => printNic kv.2)
    (fun kv => written_nic kv.2) snap.nics.toList, ?_⟩
  simp only [printNics, List.append_assoc]
  rfl

theorem written_gpus (snap : RegistrySnapshot) : ∃ text, Written (gpusValue snap) text ∧
    printGpus snap = quote :: (chars "gpus" ++ quote :: 0x3A :: text) := by
  refine ⟨_, written_lines (fun kv : GpuId × GpuRecord => gpuValue kv.2) (fun kv => printGpu kv.2)
    (fun kv => written_gpu kv.2) snap.gpus.toList, ?_⟩
  simp only [printGpus, List.append_assoc]
  rfl

theorem written_system (snap : RegistrySnapshot) : Written (systemValue snap) (printSystem snap) := by
  obtain ⟨nics, nicsWritten, nicsPrinted⟩ := written_nics snap
  obtain ⟨gpus, gpusWritten, gpusPrinted⟩ := written_gpus snap
  have summary := lastMember blank_feed "summary" rfl
    ((written_escaped (chars snap.summary)).before blank_feed)
  rw [printSystem, nicsPrinted, gpusPrinted, systemValue]
  cases snap.topology with
  | none =>
    have gpus := nextMember blank_feed "gpus" rfl gpusWritten summary
    have nics := nextMember blank_feed "nics" rfl nicsWritten gpus
    have written := (nextMember blank_feed "host_epoch" rfl (written_text (quotable_id snap.epoch))
      nics).written.before blank_feed
    simp only [report_separators, List.append_assoc, List.cons_append, List.nil_append] at written ⊢
    exact written
  | some topology =>
    have gen := nextMember blank_nil "topo_gen" rfl (written_number topology.generation.value.toNat)
      summary
    have nodes := nextMember blank_feed "topo_nodes" rfl (written_number topology.nodes.size) gen
    have gpus := nextMember blank_feed "gpus" rfl gpusWritten nodes
    have nics := nextMember blank_feed "nics" rfl nicsWritten gpus
    have written := (nextMember blank_feed "host_epoch" rfl (written_text (quotable_id snap.epoch))
      nics).written.before blank_feed
    simp only [report_separators, List.append_assoc, List.cons_append, List.nil_append] at written ⊢
    exact written

theorem written_synthetic (snap : RegistrySnapshot) {name : Bytes} (contents : Body name) :
    Written (syntheticValue name snap) (printSynthetic name snap) := by
  obtain ⟨nics, nicsWritten, nicsPrinted⟩ := written_nics snap
  obtain ⟨gpus, gpusWritten, gpusPrinted⟩ := written_gpus snap
  have summary := lastMember blank_feed "summary" rfl (written_escaped (chars snap.summary))
  have gpus := nextMember blank_feed "gpus" rfl gpusWritten summary
  have nics := nextMember blank_nil "nics" rfl nicsWritten gpus
  have written := (nextMember blank_nil "scenario" rfl (written_str contents)
    nics).written.before blank_feed
  rw [printSynthetic, nicsPrinted, gpusPrinted]
  simp only [report_separators, List.append_assoc, List.cons_append, List.nil_append] at written ⊢
  exact written

theorem written_query (snap : RegistrySnapshot) (gpu : GpuId) (numa : NumaNodeId) :
    Written (queryValue snap (queryPolicy.decide snap gpu numa {} ⟨1⟩)) (runQuery snap gpu numa) := by
  rw [runQuery]
  generalize queryPolicy.decide snap gpu numa {} ⟨1⟩ = dec
  have epoch := lastMember blank_nil "epoch" rfl (written_text (quotable_id snap.epoch))
  have gen := nextMember blank_nil "topo_gen" rfl (written_number dec.topologyGeneration.value.toNat) epoch
  have explanation := nextMember blank_nil "explanation" rfl (written_escaped (chars dec.explanation)) gen
  have selected := nextMember blank_nil "selected" rfl
    (written_text (quotable_selected dec.selected)) explanation
  have written := (nextMember blank_nil "overall" rfl (written_text (quotable_overall dec.overall))
    selected).written.before blank_feed
  simp only [apply_ite chars, decision_separators, report_separators, List.append_assoc,
    List.cons_append, List.nil_append] at written ⊢
  exact written

/-! Reports in UTF-8. -/

theorem Quotable.encoded {s : String} (quotable : Quotable s) : Utf8.Encoded (chars s) := by
  refine Utf8.encoded_of_ascii fun b member => ?_
  have itself := quotable b member
  simp only [plain, Bool.and_eq_true] at itself
  exact itself.1.1.2

theorem encoded_texts (keys : List String) (all : keys.all fun key => (chars key).all plain) :
    ∀ key ∈ keys, Utf8.Encoded (chars key) :=
  fun key member => (quotable_of_all (List.all_eq_true.mp all key member)).encoded

/-- The escaping leaves the characters beyond ASCII as they are. -/
@[simp] theorem encoded_jsonEscape {s : Bytes} : Utf8.Encoded (jsonEscape s) ↔ Utf8.Encoded s := by
  refine Utf8.encoded_map_iff (fun b beyond => if_pos ?_) fun b ascii => ?_
  · have high : 0x80 ≤ b := UInt8.not_lt.mp (of_decide_eq_false beyond)
    refine ⟨UInt8.le_trans (by decide) high, ?_, ?_⟩
    · rintro rfl
      exact absurd high (by decide)
    · rintro rfl
      exact absurd high (by decide)
  · split
    · exact ascii
    · rfl

/-- The names that the registry has taken over from the host. -/
structure NamesEncoded (snap : RegistrySnapshot) : Prop where
  nics : ∀ kv ∈ snap.nics.toList, Utf8.Encoded kv.2.osName
  gpus : ∀ kv ∈ snap.gpus.toList, Utf8.Encoded kv.2.name

theorem encoded_text {s : String} (quotable : Quotable s) : (textValue s).Encoded :=
  encoded_str.mpr quotable.encoded

@[simp] theorem encoded_nic {n : NicRecord} : (nicValue n).Encoded ↔ Utf8.Encoded n.osName := by
  have keys := encoded_texts ["id", "gen", "os", "pci", "kind", "numa", "link", "prov", "lifecycle"] rfl
  simp only [List.forall_mem_cons] at keys
  simp [nicValue, numberValue, keys, encoded_text, quotable_id, quotable_pci, quotable_device,
    quotable_link, quotable_provenance, quotable_lifecycle]

@[simp] theorem encoded_gpu {g : GpuRecord} : (gpuValue g).Encoded ↔ Utf8.Encoded g.name := by
  have keys := encoded_texts ["id", "name", "pci", "numa", "cuda", "prov"] rfl
  simp only [List.forall_mem_cons] at keys
  simp [gpuValue, numberValue, keys, encoded_text, quotable_id, quotable_pci, quotable_provenance]

theorem namesEncoded_iff {snap : RegistrySnapshot} :
    NamesEncoded snap ↔ (nicsValue snap).Encoded ∧ (gpusValue snap).Encoded := by
  simp only [nicsValue, gpusValue, encoded_arr, List.forall_mem_map, encoded_nic, encoded_gpu]
  exact ⟨fun names => ⟨names.nics, names.gpus⟩, fun names => ⟨names.1, names.2⟩⟩

theorem encoded_system {snap : RegistrySnapshot} : (systemValue snap).Encoded ↔ NamesEncoded snap := by
  have keys := encoded_texts ["host_epoch", "nics", "gpus", "topo_nodes", "topo_gen", "summary"] rfl
  simp only [List.forall_mem_cons] at keys
  rw [namesEncoded_iff, systemValue]
  cases snap.topology <;>
    simp [numberValue, keys, encoded_text, quotable_id, (quotable_summary snap).encoded]

theorem encoded_synthetic {snap : RegistrySnapshot} {name : Bytes} :
    (syntheticValue name snap).Encoded ↔ Utf8.Encoded name ∧ NamesEncoded snap := by
  have keys := encoded_texts ["scenario", "nics", "gpus", "summary"] rfl
  simp only [List.forall_mem_cons] at keys
  rw [namesEncoded_iff]
  simp [syntheticValue, keys, (quotable_summary snap).encoded]

theorem encoded_query (snap : RegistrySnapshot) {dec : ResidencyDecision}
    (quotable : Quotable dec.explanation) : (queryValue snap dec).Encoded := by
  have keys := encoded_texts ["overall", "selected", "explanation", "topo_gen", "epoch"] rfl
  have selected := encoded_text (quotable_selected dec.selected)
  simp only [List.forall_mem_cons] at keys
  simp only [queryValue, encoded_obj, List.forall_mem_cons, keys, selected, true_and]
  exact ⟨encoded_text (quotable_overall dec.overall),
    encoded_str.mpr (encoded_jsonEscape.mpr quotable.encoded), encoded_num,
    encoded_text (quotable_id snap.epoch), List.forall_mem_nil _⟩

/-- Between the quotes of a text that is read stands the body of a string. -/
theorem body_of_parses {key name : Text} {ms : List (Text × Value)} {text : Text}
    (parses : Parses (.obj ((key, .str name) :: ms)) text) : Body name := by
  obtain ⟨gap, inner, rest, -, -, reads, -⟩ := parses
  cases reads with
  | obj _ inside =>
    cases inside with
    | lastMember _ _ _ _ member => cases member with | str contents => exact contents
    | member _ _ _ _ member => cases member with | str contents => exact contents

theorem spells_system (snap : RegistrySnapshot) :
    Spells (systemValue snap) (printSystem snap) ↔ NamesEncoded snap :=
  (written_system snap).spells_iff.trans encoded_system

theorem wellFormed_system (snap : RegistrySnapshot) :
    WellFormed (printSystem snap) ↔ NamesEncoded snap :=
  (written_system snap).wellFormed_iff.trans encoded_system

theorem spells_query (snap : RegistrySnapshot) (gpu : GpuId) (numa : NumaNodeId) :
    Spells (queryValue snap (queryPolicy.decide snap gpu numa {} ⟨1⟩)) (runQuery snap gpu numa) :=
  (written_query snap gpu numa).spells_iff.mpr
    (encoded_query snap (quotable_decided queryPolicy snap gpu numa {} ⟨1⟩))

theorem spells_synthetic (snap : RegistrySnapshot) (name : Bytes) :
    Spells (syntheticValue name snap) (printSynthetic name snap) ↔
      (Body name ∧ Utf8.Encoded name) ∧ NamesEncoded snap := by
  constructor
  · intro spells
    obtain ⟨parses, encoded⟩ := spells_iff.mp spells
    obtain ⟨inUtf8, names⟩ := encoded_synthetic.mp encoded
    exact ⟨⟨body_of_parses parses, inUtf8⟩, names⟩
  · rintro ⟨⟨contents, inUtf8⟩, names⟩
    exact (written_synthetic snap contents).spells_iff.mpr (encoded_synthetic.mpr ⟨inUtf8, names⟩)

/-- The report on a decision spells its value for every registry, and the one on the system if the
names in the registry are in UTF-8; else it is no JSON text at all. In the report on a scenario
the printed name has to be the body of a string itself, with its escapes. -/
theorem reports_spelled (snap : RegistrySnapshot) (gpu : GpuId) (numa : NumaNodeId) (name : Bytes) :
    (Spells (systemValue snap) (printSystem snap) ↔ NamesEncoded snap) ∧
    (WellFormed (printSystem snap) ↔ NamesEncoded snap) ∧
    Spells (queryValue snap (queryPolicy.decide snap gpu numa {} ⟨1⟩)) (runQuery snap gpu numa) ∧
    (Spells (syntheticValue name snap) (printSynthetic name snap) ↔
      (Body name ∧ Utf8.Encoded name) ∧ NamesEncoded snap) :=
  ⟨spells_system snap, wellFormed_system snap, spells_query snap gpu numa, spells_synthetic snap name⟩

/-! Lines before the report. -/

/-- A text that starts with a member outside of an object. -/
theorem not_wellFormed_line (key : String) (all : (chars key).all plain) (rest : Text) :
    ¬ WellFormed (quote :: (chars key ++ quote :: 0x3A :: rest)) := by
  rintro ⟨v, -, gap, inner, tail, blank, spelled, reads, behind⟩
  obtain ⟨lead, after, rfl, leads⟩ := reads.lead
  obtain ⟨-, rfl, same⟩ := blank_append_inj blank_nil blank rfl (closed_of_leads leads).1 spelled
  cases reads with
  | null spelled => exact absurd (List.cons.inj spelled).1 (by decide)
  | @bool b _ _ spelled => cases b <;> exact absurd (List.cons.inj spelled).1 (by decide)
  | num number _ spelled =>
    obtain ⟨c, digits, rfl, lead⟩ := number.lead
    obtain ⟨rfl, -⟩ := List.cons.inj spelled
    exact absurd lead (by decide)
  | str contents spelled =>
    obtain ⟨-, spelled⟩ := List.cons.inj spelled
    obtain ⟨-, rfl⟩ := (body_chars (quotable_of_all all)).append_inj contents (same.trans spelled)
    exact absurd (behind 0x3A List.mem_cons_self) (by decide)
  | arr spelled => exact absurd (List.cons.inj spelled).1 (by decide)
  | obj spelled => exact absurd (List.cons.inj spelled).1 (by decide)

@[simp] theorem errorLine_ok (key : String) (done : Unit) : errorLine key (.ok done) = [] := rfl

theorem errorLine_error (key : String) (error : ResidencyError) (rest : Bytes) :
    ∃ more, errorLine key (.error error) ++ rest = quote :: (chars key ++ quote :: 0x3A :: more) := by
  have open_quote : chars "\"" = [quote] := rfl
  have colon : chars "\":\"" = [quote, 0x3A, quote] := rfl
  simp only [errorLine, chars_append, open_quote, colon, List.append_assoc, List.cons_append,
    List.nil_append]
  exact ⟨_, rfl⟩

/-- The run prints a JSON text if both discoveries are there and are recorded and the names in the
registry are in UTF-8, and only then: each line about a failure stands before the report. -/
theorem system_run_wellFormed (boot : WorkerBootId) (system : Except ResidencyError DiscoveryResult)
    (nvidia : Option (Except ResidencyError DiscoveryResult)) :
    WellFormed (runSystem boot system nvidia) ↔
      (ingestFound boot system (engine boot)).1 = .ok () ∧ ∃ found, nvidia = some found ∧
        (ingestFound boot found (ingestFound boot system (engine boot)).2).1 = .ok () ∧
        NamesEncoded (ingestFound boot found (ingestFound boot system (engine boot)).2).2.snapshot := by
  simp only [runSystem]
  generalize ingestFound boot system (engine boot) = first
  obtain ⟨outcome, registry⟩ := first
  cases outcome with
  | error error =>
    refine ⟨fun wellFormed => absurd wellFormed ?_, nofun⟩
    cases nvidia <;> dsimp only <;> rw [List.append_assoc] <;>
      obtain ⟨more, spelled⟩ := errorLine_error "system_error" error _ <;> rw [spelled] <;>
      exact not_wellFormed_line "system_error" rfl more
  | ok done =>
    cases nvidia with
    | none =>
      refine ⟨fun wellFormed => absurd wellFormed ?_, fun ⟨_, _, missing, _⟩ => nomatch missing⟩
      have spelled : chars "\"nvidia\":\"UNSUPPORTED\"\n" =
          quote :: (chars "nvidia" ++ quote :: 0x3A :: quote :: (chars "UNSUPPORTED" ++ [quote, 0x0A])) := rfl
      simp only [errorLine_ok, spelled, List.nil_append, List.append_assoc, List.cons_append]
      exact not_wellFormed_line "nvidia" rfl _
    | some found =>
      simp only [errorLine_ok, List.nil_append, Option.some.injEq, true_and, exists_eq_left']
      generalize ingestFound boot found registry = second
      obtain ⟨outcome, registry⟩ := second
      cases outcome with
      | error error =>
        refine ⟨fun wellFormed => absurd wellFormed ?_, nofun⟩
        obtain ⟨more, spelled⟩ := errorLine_error "nvidia_error" error (printSystem registry.snapshot)
        dsimp only
        rw [spelled]
        exact not_wellFormed_line "nvidia_error" rfl more
      | ok done => exact (wellFormed_system registry.snapshot).trans (and_iff_right rfl).symm

end Inspection
end NicResidency

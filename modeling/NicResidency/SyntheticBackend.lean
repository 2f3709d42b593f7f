import NicResidency.HostDiscovery
import NicResidency.Selection
import NicResidency.TopologyStaging

/-!
The synthetic backend: fixtures on one hierarchy of two root complexes and four switches. Each of
them is a topology that the builder takes and a first discovery that a fresh engine ingests.
-/

namespace NicResidency

inductive SyntheticScenario where
  | oneNicLocalToOneGpu | twoNicsDifferentNuma | sameRootComplexPreference
  | samePcieSwitchPreference | remoteNumaFallback | smartNicLocalMemory | dpuLikeLocalMemory
  | pfWithMultipleVfs | denseCandidateSet | unsupportedCapability
  deriving DecidableEq, Repr

def SyntheticScenario.toString : SyntheticScenario → String
  | .oneNicLocalToOneGpu => "ONE_NIC_LOCAL_TO_ONE_GPU"
  | .twoNicsDifferentNuma => "TWO_NICS_DIFFERENT_NUMA"
  | .sameRootComplexPreference => "SAME_ROOT_COMPLEX_PREFERENCE"
  | .samePcieSwitchPreference => "SAME_PCIE_SWITCH_PREFERENCE"
  | .remoteNumaFallback => "REMOTE_NUMA_FALLBACK"
  | .smartNicLocalMemory => "SMARTNIC_LOCAL_MEMORY"
  | .dpuLikeLocalMemory => "DPU_LIKE_LOCAL_MEMORY"
  | .pfWithMultipleVfs => "PF_WITH_MULTIPLE_VFS"
  | .denseCandidateSet => "DENSE_CANDIDATE_SET"
  | .unsupportedCapability => "UNSUPPORTED_CAPABILITY"

namespace SyntheticBackend
open Throwing TopologyBuilder TopologyStaging FirstDiscovery
open Json (chars)

/-! The fixtures. -/

/-- A NUMA node. The null id is not one of them. -/
def numa (v : UInt64) : NumaNodeId := ⟨v + 1⟩

def syn : Provenance := ⟨.synthetic, [.syntheticFixture]⟩

def pciAt (bus device function : UInt8) : PciAddress := { bus, device, function }

def makeNic (id : UInt64) (name : String) (pci : PciAddress) (n : NumaNodeId)
    (ctx : DiscoveryContext) (rdma localMem : Bool) : NicRecord where
  id := ⟨id⟩
  generation := ⟨1⟩
  osName := chars name
  osDescription := chars "synthetic NIC fixture"
  pci
  vendorId := 0x1DB6
  deviceId := 0x1001
  deviceKind := .nic
  functionClass := .physicalFunction
  capability :=
    { generation := ⟨1⟩, rdmaCapable := rdma, offloadCapable := true
      localMemoryObservable := localMem, acceleratorAffinitySupported := true, provenance := syn }
  numaNode := n
  linkState := .up
  health := .ready
  lifecycle := .available
  provenance := syn
  freshness := ctx.freshness

def makePort (id : UInt64) (nic : NicId) (func : FunctionId) (ctx : DiscoveryContext) : PortRecord where
  id := ⟨id⟩
  generation := ⟨1⟩
  parentNic := nic
  parentFunction := func
  osName := chars ("synth-port" ++ toString id.toNat)
  linkState := .up
  linkSpeedMbps := 100000
  lifecycle := .available
  provenance := syn
  freshness := ctx.freshness

def makeQueue (id : UInt64) (func : FunctionId) (nic : NicId) (kind : String) (ctx : DiscoveryContext) :
    QueueRecord where
  id := ⟨id⟩
  generation := ⟨1⟩
  parentFunction := func
  parentNic := nic
  kind := chars kind
  lifecycle := .available
  provenance := syn
  freshness := ctx.freshness

def makeGpu (id : UInt64) (pci : PciAddress) (n : NumaNodeId) (ctx : DiscoveryContext) : GpuRecord where
  id := ⟨id⟩
  generation := ⟨1⟩
  name := chars ("synth-gpu" ++ toString id.toNat)
  pci
  cudaDevice := ⟨0⟩
  cudaVerified := true
  numaNode := n
  provenance := syn
  freshness := ctx.freshness

def rc0 : PciNodeId := ⟨1⟩
def rc1 : PciNodeId := ⟨2⟩
def sw0 : PciNodeId := ⟨101⟩
def sw1 : PciNodeId := ⟨102⟩
def sw2 : PciNodeId := ⟨103⟩
def sw3 : PciNodeId := ⟨104⟩

/-- The nodes that all fixtures have. -/
def hierarchy : List TopologyNode :=
  [{ id := rc0, pci := pciAt 0x00 0 0, kind := .rootComplex, numaNode := numa 0, provenance := syn },
    { id := rc1, pci := pciAt 0x80 0 0, kind := .rootComplex, numaNode := numa 1, provenance := syn },
    { id := sw0, pci := pciAt 0x01 0 0, kind := .switch, parent := rc0, numaNode := numa 0
      provenance := syn },
    { id := sw1, pci := pciAt 0x02 0 0, kind := .switch, parent := rc0, numaNode := numa 0
      provenance := syn },
    { id := sw2, pci := pciAt 0x81 0 0, kind := .switch, parent := rc1, numaNode := numa 1
      provenance := syn },
    { id := sw3, pci := pciAt 0x82 0 0, kind := .switch, parent := rc1, numaNode := numa 1
      provenance := syn }]

def devNode (id : UInt64) (pci : PciAddress) (parent : PciNodeId) (n : NumaNodeId) : TopologyNode :=
  { id := ⟨id⟩, pci, kind := .device, parent, numaNode := n, provenance := syn }

/-- What a scenario adds to the hierarchy. -/
structure Fixture where
  /-- Each with an edge to its parent. -/
  devices : List TopologyNode := []
  nics : List NicRecord := []
  functions : List FunctionRecord := []
  ports : List PortRecord := []
  queues : List QueueRecord := []
  gpus : List GpuRecord := []

def denseBus (i : Nat) : UInt8 := if i % 2 = 0 then 0x01 else 0x81

def densePci (i : Nat) : PciAddress :=
  pciAt (denseBus i) (UInt8.ofNat (i / 2 &&& 0x1F)) (UInt8.ofNat (i % 8))

def denseNuma (i : Nat) : NumaNodeId := if i % 2 = 0 then numa 0 else numa 1

def denseDevice (i : Nat) : TopologyNode :=
  devNode (2000 + UInt64.ofNat i) (densePci i) (if i % 2 = 0 then sw0 else sw2) (denseNuma i)

def virtualFunction (nic : NicId) (ctx : DiscoveryContext) (i : Nat) : FunctionRecord where
  id := ⟨700 + UInt64.ofNat i⟩
  generation := ⟨1⟩
  parentNic := nic
  functionClass := .virtualFunction
  numaNode := numa 0
  lifecycle := .available
  provenance := syn
  freshness := ctx.freshness

def fixture (ctx : DiscoveryContext) : SyntheticScenario → Fixture
  | .oneNicLocalToOneGpu =>
    let nic := makeNic 10 "synth-nic0" (pciAt 0x01 0 0) (numa 0) ctx true false
    let fn : FunctionRecord :=
      { id := ⟨10⟩, generation := ⟨1⟩, parentNic := nic.id, functionClass := .physicalFunction
        numaNode := numa 0, capability := nic.capability, lifecycle := .available, provenance := syn
        freshness := ctx.freshness }
    { devices := [devNode 1000 (pciAt 0x01 0 0) sw0 (numa 0), devNode 1001 (pciAt 0x01 0 1) sw0 (numa 0)]
      nics := [nic]
      functions := [fn]
      ports := [makePort 10 nic.id fn.id ctx]
      queues := [makeQueue 10 fn.id nic.id "RX" ctx]
      gpus := [makeGpu 100 (pciAt 0x01 0 1) (numa 0) ctx] }
  | .twoNicsDifferentNuma =>
    { devices := [devNode 1000 (pciAt 0x01 0 0) sw0 (numa 0), devNode 1001 (pciAt 0x81 0 0) sw2 (numa 1)]
      nics := [makeNic 20 "synth-nic-numa0" (pciAt 0x01 0 0) (numa 0) ctx true false,
        makeNic 21 "synth-nic-numa1" (pciAt 0x81 0 0) (numa 1) ctx true false]
      gpus := [makeGpu 101 (pciAt 0x01 0 1) (numa 0) ctx] }
  | .sameRootComplexPreference | .samePcieSwitchPreference =>
    { devices := [devNode 1000 (pciAt 0x01 0 0) sw0 (numa 0), devNode 1001 (pciAt 0x02 0 0) sw1 (numa 0),
        devNode 1002 (pciAt 0x01 0 1) sw0 (numa 0)]
      nics := [makeNic 30 "synth-nic-sw0" (pciAt 0x01 0 0) (numa 0) ctx true false,
        makeNic 31 "synth-nic-sw1" (pciAt 0x02 0 0) (numa 0) ctx true false]
      gpus := [makeGpu 102 (pciAt 0x01 0 1) (numa 0) ctx] }
  | .remoteNumaFallback =>
    { devices := [devNode 1000 (pciAt 0x81 0 0) sw2 (numa 1), devNode 1001 (pciAt 0x01 0 1) sw0 (numa 0)]
      nics := [makeNic 40 "synth-nic-remote" (pciAt 0x81 0 0) (numa 1) ctx true false]
      gpus := [makeGpu 103 (pciAt 0x01 0 1) (numa 0) ctx] }
  | .smartNicLocalMemory =>
    { devices := [devNode 1000 (pciAt 0x01 0 0) sw0 (numa 0)]
      nics := [{ makeNic 50 "synth-smartnic" (pciAt 0x01 0 0) (numa 0) ctx true true with
        deviceKind := .smartNic }]
      gpus := [makeGpu 104 (pciAt 0x01 0 1) (numa 0) ctx] }
  | .dpuLikeLocalMemory =>
    { devices := [devNode 1000 (pciAt 0x01 0 0) sw0 (numa 0)]
      nics := [{ makeNic 60 "synth-dpu" (pciAt 0x01 0 0) (numa 0) ctx true true with deviceKind := .dpu }]
      gpus := [makeGpu 105 (pciAt 0x01 0 1) (numa 0) ctx] }
  | .pfWithMultipleVfs =>
    let nic := makeNic 70 "synth-pf" (pciAt 0x01 0 0) (numa 0) ctx true false
    { devices := [devNode 1000 (pciAt 0x01 0 0) sw0 (numa 0)]
      nics := [{ nic with capability := { nic.capability with srIovCapable := true } }]
      functions := (List.range 4).map (virtualFunction nic.id ctx)
      ports := (List.range 4).map fun i =>
        makePort (700 + UInt64.ofNat i) nic.id (virtualFunction nic.id ctx i).id ctx
      queues := (List.range 4).map fun i =>
        makeQueue (700 + UInt64.ofNat i) (virtualFunction nic.id ctx i).id nic.id "RDMA" ctx
      gpus := [makeGpu 106 (pciAt 0x01 0 1) (numa 0) ctx] }
  | .denseCandidateSet =>
    { devices := (List.range 200).map denseDevice
      nics := (List.range 200).map fun i =>
        makeNic (200 + UInt64.ofNat i) "synth-dense" (densePci i) (denseNuma i) ctx true false
      gpus := [makeGpu 107 (pciAt 0x01 0 1) (numa 0) ctx] }
  | .unsupportedCapability =>
    let nic := makeNic 80 "synth-unsupported" (pciAt 0x01 0 0) (numa 0) ctx false false
    { devices := [devNode 1000 (pciAt 0x01 0 0) sw0 (numa 0)]
      nics := [{ nic with capability := { nic.capability with provenance := ⟨.unsupported, [.pci]⟩ } }]
      gpus := [makeGpu 108 (pciAt 0x01 0 1) (numa 0) ctx] }

namespace Fixture

def nodes (f : Fixture) : List TopologyNode := hierarchy ++ f.devices

def edges (f : Fixture) : List (PciNodeId × PciNodeId) :=
  [(sw0, rc0), (sw2, rc1)] ++ f.devices.map fun node => (node.id, node.parent)

def found (f : Fixture) (topology : Option TopologySnapshot) : DiscoveryResult :=
  { nics := f.nics, functions := f.functions, ports := f.ports, queues := f.queues, gpus := f.gpus
    topology }

end Fixture

def buildTopology (generation : TopologyGeneration) (nodes : List TopologyNode)
    (edges : List (PciNodeId × PciNodeId)) : Except ResidencyError (Option TopologySnapshot) := do
  let b ← stage (nodesFirst nodes edges)
  return b.build b.nodes.size generation

/-- The discovery, with its notes. -/
def discover (scenario : SyntheticScenario) (ctx : DiscoveryContext) :
    Except ResidencyError (DiscoveryResult × List String) := do
  let f := fixture ctx scenario
  let topology ← buildTopology ctx.topologyGeneration f.nodes f.edges
  return (f.found topology, ["synthetic fixture scenario: " ++ scenario.toString])

/-! The topologies. -/

theorem devices_eq (ctx : DiscoveryContext) (scenario : SyntheticScenario) :
    (fixture ctx scenario).devices = (fixture {} scenario).devices := by
  cases scenario <;> rfl

theorem ids_ascend (scenario : SyntheticScenario) :
    ((fixture {} scenario).nodes.map fun node => node.id.value).IsChain (· < ·) := by
  cases scenario <;> decide +kernel

theorem parents_above (scenario : SyntheticScenario) :
    ∀ node ∈ (fixture {} scenario).nodes, node.parent.value < node.id.value := by
  cases scenario <;> decide +kernel

theorem parents_known (scenario : SyntheticScenario) :
    ∀ node ∈ (fixture {} scenario).devices, node.parent ∈ hierarchy.map TopologyNode.id := by
  cases scenario <;> decide +kernel

theorem few_devices (scenario : SyntheticScenario) : (fixture {} scenario).devices.length ≤ 200 := by
  cases scenario <;> decide +kernel

/-- The topology of a fixture is built, with all its nodes and edges. -/
theorem fixture_built (ctx : DiscoveryContext) (scenario : SyntheticScenario)
    (generation : TopologyGeneration) :
    ∃ t, buildTopology generation (fixture ctx scenario).nodes (fixture ctx scenario).edges =
        .ok (some t) ∧
      Built (fixture ctx scenario).nodes (fixture ctx scenario).edges generation t := by
  have nodes : (fixture ctx scenario).nodes = (fixture {} scenario).nodes :=
    congrArg (hierarchy ++ ·) (devices_eq ctx scenario)
  have edges : (fixture ctx scenario).edges = (fixture {} scenario).edges := by
    rw [Fixture.edges, devices_eq]
    rfl
  rw [nodes, edges]
  have short := few_devices scenario
  have few : (fixture {} scenario).nodes.length ≤ kMaxNodes := by
    rw [Fixture.nodes, List.length_append]
    exact (Nat.add_le_add_left short _).trans (by decide)
  have few' : (fixture {} scenario).edges.length ≤ kMaxEdges := by
    rw [Fixture.edges, List.length_append, List.length_map]
    exact (Nat.add_le_add_left short _).trans (by decide)
  have distinct : ((fixture {} scenario).nodes.map TopologyNode.id).Nodup := by
    have values := (List.isChain_iff_pairwise.mp (ids_ascend scenario)).imp fun less => UInt64.ne_of_lt less
    have ids : ((fixture {} scenario).nodes.map TopologyNode.id).map Id.value =
      (fixture {} scenario).nodes.map fun node => node.id.value := List.map_map
    exact List.Nodup.of_map Id.value (ids ▸ values)
  have linked : ∀ edge ∈ (fixture {} scenario).edges,
      edge.1 ∈ (fixture {} scenario).nodes.map TopologyNode.id ∧
        edge.2 ∈ (fixture {} scenario).nodes.map TopologyNode.id := by
    have among {id : PciNodeId} (above : id ∈ hierarchy.map TopologyNode.id) :
        id ∈ (fixture {} scenario).nodes.map TopologyNode.id := by
      rw [Fixture.nodes, List.map_append, List.mem_append]
      exact .inl above
    intro edge listed
    rw [Fixture.edges, List.mem_append, List.mem_map] at listed
    rcases listed with fixed | ⟨node, device, rfl⟩
    · have ends : ∀ edge ∈ [(sw0, rc0), (sw2, rc1)], edge.1 ∈ hierarchy.map TopologyNode.id ∧
        edge.2 ∈ hierarchy.map TopologyNode.id := by decide
      exact ⟨among (ends edge fixed).1, among (ends edge fixed).2⟩
    · exact ⟨List.mem_map_of_mem (List.mem_append_right _ device), among (parents_known scenario node device)⟩
  obtain ⟨b, t, staged, built, whole⟩ :=
    nodesFirst_builds few few' distinct (parents_above scenario) linked generation
  refine ⟨t, ?_, whole⟩
  rw [buildTopology, staged]
  exact congrArg Except.ok built

/-! The records. -/

/-- The ids of the records, with the ids of their parents. -/
structure References where
  nics : List NicId
  gpus : List GpuId
  functions : List (FunctionId × NicId)
  ports : List (PortId × NicId × FunctionId)
  queues : List (QueueId × FunctionId × NicId)

def Fixture.references (f : Fixture) : References where
  nics := f.nics.map NicRecord.id
  gpus := f.gpus.map GpuRecord.id
  functions := f.functions.map fun func => (func.id, func.parentNic)
  ports := f.ports.map fun port => (port.id, port.parentNic, port.parentFunction)
  queues := f.queues.map fun q => (q.id, q.parentFunction, q.parentNic)

/-- The ids are set and distinct, and the parents are there. -/
def References.Closed (r : References) : Prop :=
  ((∀ id ∈ r.nics, id.valid = true) ∧ (r.nics.map Id.value).IsChain (· < ·)) ∧
  (∀ id ∈ r.gpus, id.valid = true) ∧
  ((∀ func ∈ r.functions, func.1.valid = true ∧ func.2 ∈ r.nics) ∧ (r.functions.map Prod.fst).Nodup) ∧
  ((∀ port ∈ r.ports, port.1.valid = true ∧ port.2.1 ∈ r.nics ∧
    port.2.2 ∈ r.functions.map Prod.fst) ∧ (r.ports.map Prod.fst).Nodup) ∧
  ((∀ q ∈ r.queues, q.1.valid = true ∧ q.2.1 ∈ r.functions.map Prod.fst ∧ q.2.2 ∈ r.nics) ∧
    (r.queues.map Prod.fst).Nodup)

theorem references_eq (ctx : DiscoveryContext) (scenario : SyntheticScenario) :
    (fixture ctx scenario).references = (fixture {} scenario).references := by
  cases scenario <;> rfl

theorem references_closed (ctx : DiscoveryContext) (scenario : SyntheticScenario) :
    (fixture ctx scenario).references.Closed := by
  rw [references_eq, References.Closed]
  cases scenario <;> decide +kernel

theorem first_fixture (ctx : DiscoveryContext) (scenario : SyntheticScenario)
    (topology : Option TopologySnapshot) : First ((fixture ctx scenario).found topology) := by
  cases scenario <;> constructor <;>
    simp [Fixture.found, fixture, makeNic, makePort, makeQueue, makeGpu, virtualFunction,
      NicRegistry.kMaxNics, NicRegistry.kMaxPorts, NicRegistry.kMaxQueues, NicRegistry.kMaxFunctions,
      NicRegistry.kMaxGpus]

/-- A record agrees with the first one of its id, if the ids are distinct. -/
theorem agree_of_distinct {α κ : Type} [DecidableEq κ] {key : α → κ} {same : α → α → Bool} {list : List α}
    (distinct : (list.map key).Nodup) (refl : ∀ a, same a a = true) {a old : α} (member : a ∈ list)
    (found : list.find? (fun other => key other = key a) = some old) : same a old = true := by
  have level : key old = key a := by simpa using List.find?_some found
  rw [List.inj_on_of_nodup_map distinct (List.mem_of_find?_eq_some found) member level]
  exact refl a

theorem consistent_fixture (ctx : DiscoveryContext) (scenario : SyntheticScenario)
    (topology : Option TopologySnapshot) : Consistent ((fixture ctx scenario).found topology) := by
  obtain ⟨⟨nics, ascend⟩, gpus, ⟨functions, distinct⟩, ⟨ports, distinct'⟩, queues, distinct''⟩ :=
    references_closed ctx scenario
  simp only [Fixture.references, List.forall_mem_map, List.map_map] at *
  constructor
  case nics =>
    intro nic member
    have values : (((fixture ctx scenario).nics.map NicRecord.id).map Id.value).Nodup := by
      rw [List.map_map]
      exact (List.isChain_iff_pairwise.mp ascend).imp fun less => UInt64.ne_of_lt less
    exact ⟨nics nic member, fun old found => agree_of_distinct (List.Nodup.of_map Id.value values)
      (fun _ => Contents.nicEqual_of_content rfl) member found⟩
  case gpus => exact gpus
  case functions =>
    intro func member
    obtain ⟨valid, parent⟩ := functions func member
    exact ⟨valid, List.mem_map.mp parent, fun old found =>
      agree_of_distinct distinct (fun _ => Contents.functionEqual_of_content rfl) member found⟩
  case ports =>
    intro port member
    obtain ⟨valid, parent, function⟩ := ports port member
    exact ⟨valid, List.mem_map.mp parent, fun _ => List.mem_map.mp function, fun old found =>
      agree_of_distinct distinct' (fun _ => Contents.portEqual_of_content rfl) member found⟩
  case queues =>
    intro q member
    obtain ⟨valid, function, parent⟩ := queues q member
    exact ⟨valid, List.mem_map.mp function, List.mem_map.mp parent, fun old found =>
      agree_of_distinct distinct'' (fun _ => Contents.queueEqual_of_content rfl) member found⟩

/-! What a fresh engine makes of a fixture. -/

/-- All evidence of the fixture is labelled as synthetic. -/
theorem labels_fixture (ctx : DiscoveryContext) (scenario : SyntheticScenario) :
    (∀ node ∈ (fixture ctx scenario).nodes, node.provenance = syn) ∧
    (∀ nic ∈ (fixture ctx scenario).nics, nic.provenance = syn) ∧
    (∀ func ∈ (fixture ctx scenario).functions, func.provenance = syn) ∧
    (∀ port ∈ (fixture ctx scenario).ports, port.provenance = syn) ∧
    (∀ q ∈ (fixture ctx scenario).queues, q.provenance = syn) ∧
    ∀ gpu ∈ (fixture ctx scenario).gpus, gpu.provenance = syn := by
  cases scenario <;> simp [Fixture.nodes, hierarchy, fixture, devNode, denseDevice, makeNic, makePort,
    makeQueue, makeGpu, virtualFunction]

theorem discover_fixture (ctx : DiscoveryContext) (scenario : SyntheticScenario) :
    ∃ t notes, discover scenario ctx = .ok ((fixture ctx scenario).found (some t), notes) ∧
      Built (fixture ctx scenario).nodes (fixture ctx scenario).edges ctx.topologyGeneration t := by
  obtain ⟨t, built, whole⟩ := fixture_built ctx scenario ctx.topologyGeneration
  refine ⟨t, ["synthetic fixture scenario: " ++ scenario.toString], ?_, whole⟩
  rw [discover, built]
  rfl

theorem ingest_fixture (ctx : DiscoveryContext) (scenario : SyntheticScenario)
    (topology : Option TopologySnapshot) (auth : Authority) :
    ∃ s, perform (NicRegistry.ingest ((fixture ctx scenario).found topology) auth) (freshEngine auth) =
        (.ok (), s) ∧
      Holds auth ((fixture ctx scenario).found topology) s := by
  obtain ⟨ingests, holds⟩ :=
    ingest_first auth (first_fixture ctx scenario topology) (holds_freshEngine auth)
  obtain ⟨s, ingested⟩ := ingests.mpr (consistent_fixture ctx scenario topology)
  exact ⟨s, ingested, holds s ingested⟩

/-- All that is stored is labelled as synthetic. -/
structure Labelled (s : NicRegistry) : Prop where
  nics : ∀ (id : NicId) nic, s.nics[id]? = some nic → nic.provenance = syn
  functions : ∀ (id : FunctionId) func, s.functions[id]? = some func → func.provenance = syn
  ports : ∀ (id : PortId) port, s.ports[id]? = some port → port.provenance = syn
  queues : ∀ (id : QueueId) q, s.queues[id]? = some q → q.provenance = syn
  gpus : ∀ (id : GpuId) gpu, s.gpus[id]? = some gpu → gpu.provenance = syn
  nodes : ∀ t, s.topology = some t →
    ∀ (id : PciNodeId) node, t.nodes[id]? = some node → node.provenance = syn

theorem labelled_of_holds {ctx : DiscoveryContext} {scenario : SyntheticScenario} {auth : Authority}
    {t : TopologySnapshot} {s : NicRegistry}
    (built : Built (fixture ctx scenario).nodes (fixture ctx scenario).edges ctx.topologyGeneration t)
    (holds : Holds auth ((fixture ctx scenario).found (some t)) s) : Labelled s := by
  obtain ⟨nodes, nics, functions, ports, queues, gpus⟩ := labels_fixture ctx scenario
  constructor
  case nics =>
    intro id nic stored
    rw [holds.nics] at stored
    obtain ⟨published, found, rfl⟩ := Option.map_eq_some_iff.mp stored
    exact nics published (List.mem_of_find?_eq_some found)
  case functions =>
    intro id func stored
    rw [holds.functions] at stored
    exact functions func (List.mem_of_find?_eq_some stored)
  case ports =>
    intro id port stored
    rw [holds.ports] at stored
    exact ports port (List.mem_of_find?_eq_some stored)
  case queues =>
    intro id q stored
    rw [holds.queues] at stored
    exact queues q (List.mem_of_find?_eq_some stored)
  case gpus =>
    intro id gpu stored
    rw [holds.gpus] at stored
    exact gpus gpu (List.mem_reverse.mp (List.mem_of_find?_eq_some stored))
  case nodes =>
    intro t' stored id node known
    obtain rfl := Option.some.inj (stored.symm.trans holds.topology)
    exact nodes node ((built.nodes id node).mp known).1

/-- Every fixture is discovered, with its whole topology in the asked generation, and a fresh engine
takes it. All that the engine then holds is labelled as synthetic, and no policy that refuses
synthetic evidence selects anything of it. -/
theorem synthetic_ingested (scenario : SyntheticScenario) (ctx : DiscoveryContext) (auth : Authority) :
    ∃ t notes s, discover scenario ctx = .ok ((fixture ctx scenario).found (some t), notes) ∧
      Built (fixture ctx scenario).nodes (fixture ctx scenario).edges ctx.topologyGeneration t ∧
      perform (NicRegistry.ingest ((fixture ctx scenario).found (some t)) auth) (freshEngine auth) =
        (.ok (), s) ∧
      Holds auth ((fixture ctx scenario).found (some t)) s ∧ Labelled s ∧
      ∀ (policy : ResidencyPolicy) gpu numa endpoint workload n, policy.allowSynthetic = false →
        ¬Selection.Selects (policy.decide s.snapshot gpu numa endpoint workload) n := by
  obtain ⟨t, notes, discovered, built⟩ := discover_fixture ctx scenario
  obtain ⟨s, ingested, holds⟩ := ingest_fixture ctx scenario (some t) auth
  have labelled := labelled_of_holds built holds
  refine ⟨t, notes, s, discovered, built, ingested, holds, labelled, ?_⟩
  intro policy gpu numa endpoint workload n strict selects
  obtain ⟨id, nic, stored, -, allowed⟩ := Selection.selects_allowed selects
  have kind := Selection.real_of_allowed allowed strict
  rw [labelled.nics id nic stored] at kind
  cases kind

end SyntheticBackend
end NicResidency

import NicResidency.Registry

/-!
The deterministic residency policy: hard constraints first, then named ranking
factors, then a stable tie break on the NIC id.
-/

namespace NicResidency

inductive ResidencyEligibility where
  | residencyAllowed | residencyAllowedDegraded | notLocal | notReady | staleTopology
  | staleDevice | staleFunction | staleQueue | staleAttachment | revalidationRequired
  | capabilityMismatch | policyRejected | insufficientEvidence | unsupported | notFound
  deriving DecidableEq, Repr

namespace ResidencyEligibility

def toString : ResidencyEligibility → String
  | .residencyAllowed => "RESIDENCY_ALLOWED"
  | .residencyAllowedDegraded => "RESIDENCY_ALLOWED_DEGRADED"
  | .notLocal => "NOT_LOCAL"
  | .notReady => "NOT_READY"
  | .staleTopology => "STALE_TOPOLOGY"
  | .staleDevice => "STALE_DEVICE"
  | .staleFunction => "STALE_FUNCTION"
  | .staleQueue => "STALE_QUEUE"
  | .staleAttachment => "STALE_ATTACHMENT"
  | .revalidationRequired => "REVALIDATION_REQUIRED"
  | .capabilityMismatch => "CAPABILITY_MISMATCH"
  | .policyRejected => "POLICY_REJECTED"
  | .insufficientEvidence => "INSUFFICIENT_EVIDENCE"
  | .unsupported => "UNSUPPORTED"
  | .notFound => "NOT_FOUND"

/-- The severity rank of an eligibility. Lower is more severe. -/
def severity : ResidencyEligibility → Nat
  | .staleTopology => 30
  | .staleDevice => 31
  | .staleFunction => 32
  | .staleQueue => 33
  | .staleAttachment => 34
  | .revalidationRequired => 35
  | .capabilityMismatch => 40
  | .notReady => 41
  | .notLocal => 42
  | .policyRejected => 43
  | .insufficientEvidence => 44
  | .unsupported => 45
  | .notFound => 46
  | .residencyAllowed => 1
  | .residencyAllowedDegraded => 2

/-- The two outcomes that make a NIC a candidate. -/
def allowed (e : ResidencyEligibility) : Bool :=
  e == .residencyAllowed || e == .residencyAllowedDegraded

end ResidencyEligibility

structure RejectionReason where
  name : String
  detail : String
  deriving DecidableEq, Repr

structure CandidateResult where
  nic : NicId
  function : FunctionId := {}
  port : PortId := {}
  queue : QueueId := {}
  eligibility : ResidencyEligibility
  rankScore : Int := 0
  selected : Bool := false
  rejections : List RejectionReason := []
  localitySummary : String := ""
  deriving DecidableEq, Repr

structure ResidencyDecision where
  id : DecisionId := {}
  workload : WorkerId := {}
  targetGpu : GpuId := {}
  targetNuma : NumaNodeId := {}
  targetEndpoint : EndpointId := {}
  /-- The null id when nothing was selected. -/
  selected : NicId := {}
  selectedFunction : FunctionId := {}
  selectedPort : PortId := {}
  selectedQueue : QueueId := {}
  topologyGeneration : TopologyGeneration := {}
  nicGeneration : NicGeneration := {}
  functionGeneration : FunctionGeneration := {}
  queueGeneration : QueueGeneration := {}
  attachmentGeneration : AttachmentGeneration := {}
  capabilityGeneration : CapabilityGeneration := {}
  residencyGeneration : ResidencyGeneration := {}
  policy : PolicyId := {}
  candidates : List NicId := []
  evaluated : List CandidateResult := []
  overall : ResidencyEligibility := .notFound
  epoch : CoordinatorEpoch := {}
  authorityBoot : WorkerBootId := {}
  freshness : UInt64 := 0
  explanation : String := ""
  authoritative : Bool := true
  deriving DecidableEq, Repr

structure ResidencyPolicy where
  requireRdma : Bool := false
  requireSriov : Bool := false
  requireOffload : Bool := false
  requireLocalMemory : Bool := false
  requireSameNuma : Bool := false
  requireSameRc : Bool := false
  requireSameSwitch : Bool := false
  requireReady : Bool := false
  requireLinkUp : Bool := false
  freshnessLimit : UInt64 := 0xFFFFFFFFFFFFFFFF
  maxCandidates : Nat := 1024
  allowSynthetic : Bool := false
  excluded : Finset NicId := ∅
  policyId : PolicyId := ⟨1⟩
  wSameSwitch : Int := -40
  wSameRoot : Int := -20
  wSameNuma : Int := -10
  wAccel : Int := -50
  wCpuLocal : Int := -5
  wLocalMem : Int := -30
  wCap : Int := 0

/-! Locality of one NIC relative to the target. -/

/-- Two NUMA nodes are known and the same. -/
def sameNumaNode (a b : NumaNodeId) : Bool := a.valid && b.valid && a == b

/-- The locality that the topology derives, or without a topology the one that
the NUMA fields of the records give. -/
def baseLocality (reg : RegistrySnapshot) (nic : NicRecord) (gpu : GpuRecord)
    (targetNuma : NumaNodeId) : Locality :=
  match reg.topology with
  | some topology => topology.localityBetween nic.pci gpu.pci
  | none =>
    let sameNuma := sameNumaNode targetNuma nic.numaNode || sameNumaNode gpu.numaNode nic.numaNode
    { relationship := if sameNuma then .sameNumaNode else .unknown
      numaNode := if sameNuma then nic.numaNode else {}
      pci := gpu.pci
      provenance := ⟨.real, [.numa, .pci, .derived]⟩
      factors :=
        { numaSame := sameNuma
          cpuLocal := sameNuma
          acceleratorAffine := sameNuma
          cost := nic.pci.distanceTo gpu.pci } }

/-- Equal NUMA fields of the records are authoritative for the NUMA factor. -/
def localityToGpu (reg : RegistrySnapshot) (nic : NicRecord) (gpu : GpuRecord)
    (targetNuma : NumaNodeId) : Locality :=
  let loc := baseLocality reg nic gpu targetNuma
  if sameNumaNode gpu.numaNode nic.numaNode || sameNumaNode targetNuma nic.numaNode then
    { loc with
      relationship :=
        if loc.relationship = .unknown ∨ loc.relationship = .remoteNuma ∨
          loc.relationship = .hostLocal then .sameNumaNode else loc.relationship
      numaNode := nic.numaNode
      pci := gpu.pci
      factors := { loc.factors with numaSame := true, cpuLocal := true, acceleratorAffine := true } }
  else { loc with pci := gpu.pci }

def localityOf (reg : RegistrySnapshot) (nic : NicRecord) (gpu : Option GpuRecord)
    (targetNuma : NumaNodeId) : Locality :=
  match gpu with
  | some gpu => localityToGpu reg nic gpu targetNuma
  | none =>
    let sameNuma := sameNumaNode targetNuma nic.numaNode
    { relationship := if sameNuma then .sameNumaNode else .unknown
      numaNode := if sameNuma then nic.numaNode else {}
      pci := nic.pci
      provenance := ⟨.real, [.numa, .derived]⟩
      factors := { numaSame := sameNuma, cpuLocal := sameNuma } }

namespace ResidencyPolicy

/-- The record of the target GPU, when one is named and registered. -/
def gpuRecord (reg : RegistrySnapshot) (gpu : GpuId) : Option GpuRecord :=
  if gpu.valid then reg.gpus[gpu]? else none

/-- One hard constraint: whether a NIC breaks it, and the outcome it then gives. -/
structure Constraint where
  broken : Bool
  eligibility : ResidencyEligibility
  reason : RejectionReason

/-- The hard constraints in the order in which they are checked. -/
def constraints (policy : ResidencyPolicy) (reg : RegistrySnapshot) (nic : NicRecord) (gpu : GpuId)
    (numa : NumaNodeId) : List Constraint :=
  let loc := localityOf reg nic (gpuRecord reg gpu) numa
  [⟨nic.provenance.synthetic && !policy.allowSynthetic, .insufficientEvidence,
      ⟨"SYNTHETIC", "synthetic evidence is not admissible for real residency"⟩⟩,
    ⟨nic.provenance.unsupported, .unsupported,
      ⟨"UNSUPPORTED", "backend reported this capability as unsupported"⟩⟩,
    ⟨decide (nic.id ∈ policy.excluded), .policyRejected,
      ⟨"EXCLUDED", "NIC is excluded by policy"⟩⟩,
    ⟨!nic.id.valid, .notFound, ⟨"NOT_FOUND", "invalid NIC id"⟩⟩,
    ⟨nic.lifecycle == .revalidationRequired || nic.lifecycle == .detached, .revalidationRequired,
      ⟨"STALE_DEVICE", "device requires revalidation"⟩⟩,
    ⟨nic.lifecycle == .failed, .notReady, ⟨"NOT_READY", "device failed"⟩⟩,
    ⟨nic.lifecycle == .retired, .notFound, ⟨"NOT_FOUND", "device retired"⟩⟩,
    ⟨nic.lifecycle == .discovered, .notReady,
      ⟨"NOT_READY", "device only discovered, not yet available"⟩⟩,
    ⟨policy.requireRdma && !nic.capability.rdmaCapable, .capabilityMismatch,
      ⟨"CAPABILITY_RDMA", "REQUIRED RDMA capability absent"⟩⟩,
    ⟨policy.requireSriov && !nic.capability.srIovCapable, .capabilityMismatch,
      ⟨"CAPABILITY_SRIOV", "REQUIRED SR-IOV capability absent"⟩⟩,
    ⟨policy.requireOffload && !nic.capability.offloadCapable, .capabilityMismatch,
      ⟨"CAPABILITY_OFFLOAD", "REQUIRED offload capability absent"⟩⟩,
    ⟨policy.requireLocalMemory && !nic.capability.localMemoryObservable, .capabilityMismatch,
      ⟨"CAPABILITY_LOCAL_MEMORY", "REQUIRED local-memory capability absent"⟩⟩,
    ⟨policy.requireReady && nic.health != .ready, .notReady,
      ⟨"NOT_READY", "device health is not READY"⟩⟩,
    ⟨policy.requireLinkUp && nic.linkState != .up, .notReady,
      ⟨"NOT_READY_LINK", "link is not UP"⟩⟩,
    ⟨decide (policy.freshnessLimit < nic.freshness), .revalidationRequired,
      ⟨"STALE_FRESHNESS", "device evidence is too old"⟩⟩,
    ⟨policy.requireSameNuma && !(loc.factors.numaSame || sameNumaNode numa nic.numaNode), .notLocal,
      ⟨"NOT_LOCAL_NUMA", "NIC is not on the required NUMA node"⟩⟩,
    ⟨policy.requireSameRc && !loc.factors.rootComplexSame, .notLocal,
      ⟨"NOT_LOCAL_ROOT_COMPLEX", "NIC is not on the required root complex"⟩⟩,
    ⟨policy.requireSameSwitch && !loc.factors.pcieSwitchSame, .notLocal,
      ⟨"NOT_LOCAL_SWITCH", "NIC is not on the required PCIe switch"⟩⟩]

/-- A NIC that breaks no constraint and whose locality is at most remote is
allowed in degraded form only. -/
def degraded (relationship : LocalityRelationship) : Bool :=
  relationship == .remoteNuma || relationship == .unknown || relationship == .hostLocal

/-- The outcome of the first broken constraint, with its reason. -/
def hardCheck (policy : ResidencyPolicy) (reg : RegistrySnapshot) (nic : NicRecord) (gpu : GpuId)
    (numa : NumaNodeId) : ResidencyEligibility × List RejectionReason :=
  match (policy.constraints reg nic gpu numa).find? Constraint.broken with
  | some constraint => (constraint.eligibility, [constraint.reason])
  | none =>
    if degraded (localityOf reg nic (gpuRecord reg gpu) numa).relationship then
      (.residencyAllowedDegraded, [])
    else (.residencyAllowed, [])

/-- Lower is better. The source adds 64-bit numbers and leaves their overflow
undefined. -/
def rank (policy : ResidencyPolicy) (reg : RegistrySnapshot) (nic : NicRecord) (gpu : GpuId)
    (numa : NumaNodeId) : Int :=
  let f := (localityOf reg nic (gpuRecord reg gpu) numa).factors
  let capCount : Int :=
    [nic.capability.rdmaCapable, nic.capability.srIovCapable, nic.capability.offloadCapable,
      nic.capability.localMemoryObservable, nic.capability.acceleratorAffinitySupported].count true
  (if f.pcieSwitchSame then policy.wSameSwitch else 0) +
    (if f.rootComplexSame then policy.wSameRoot else 0) +
    (if f.numaSame then policy.wSameNuma else 0) +
    (if f.acceleratorAffine then policy.wAccel else 0) +
    (if f.cpuLocal then policy.wCpuLocal else 0) +
    (if f.localMemory then policy.wLocalMem else 0) + policy.wCap * capCount

/-- The evaluation of one NIC. Only an allowed NIC is ranked. -/
def evaluate (policy : ResidencyPolicy) (reg : RegistrySnapshot) (gpu : GpuId) (numa : NumaNodeId)
    (nic : NicRecord) : CandidateResult :=
  let checked := policy.hardCheck reg nic gpu numa
  { nic := nic.id
    eligibility := checked.1
    rankScore := if checked.1.allowed then policy.rank reg nic gpu numa else 0
    rejections := checked.2
    localitySummary := (localityOf reg nic (gpuRecord reg gpu) numa).str }

/-- The NICs that are considered, in the order of their keys. -/
def considered (policy : ResidencyPolicy) (reg : RegistrySnapshot) : List NicRecord :=
  (reg.nics.toList.map Prod.snd).take policy.maxCandidates

end ResidencyPolicy

/-- The strict order of the sort, weakened to a total one. -/
def CandidateResult.NotAfter (a b : CandidateResult) : Prop :=
  a.rankScore < b.rankScore ∨ a.rankScore = b.rankScore ∧ a.nic.value ≤ b.nic.value

instance : DecidableRel CandidateResult.NotAfter :=
  fun _ _ => inferInstanceAs (Decidable (_ ∨ _))

def ResidencyDecision.buildExplanation (d : ResidencyDecision) : String :=
  if d.selected.valid then
    "selected=" ++ d.selected.str ++
      (if d.selectedFunction.valid then " func=" ++ d.selectedFunction.str else "") ++
      (if d.selectedPort.valid then " port=" ++ d.selectedPort.str else "") ++
      (if d.selectedQueue.valid then " queue=" ++ d.selectedQueue.str else "") ++
      " via " ++ d.overall.toString
  else "no candidate selected; overall=" ++ d.overall.toString

/-- The first of the most severe eligibilities. -/
def worstEligibility : List CandidateResult → ResidencyEligibility
  | [] => .notFound
  | first :: rest => rest.foldl
      (fun worst e => if e.eligibility.severity < worst.severity then e.eligibility else worst)
      first.eligibility

namespace ResidencyDecision

/-- Take the best allowed candidate: mark it and record the generations that the
decision rests on. -/
def select (d : ResidencyDecision) (reg : RegistrySnapshot) (top : CandidateResult) :
    ResidencyDecision :=
  let d :=
    { d with
      selected := top.nic
      selectedFunction := top.function
      selectedPort := top.port
      selectedQueue := top.queue
      overall := top.eligibility
      evaluated := d.evaluated.map fun e =>
        if e.nic = top.nic then { e with selected := true, eligibility := top.eligibility } else e }
  match reg.nics[top.nic]? with
  | none => d
  | some nic =>
    { d with
      nicGeneration := nic.generation
      functionGeneration := if top.function.valid then
        ((reg.functions[top.function]?).map (·.generation)).getD {} else {}
      queueGeneration := if top.queue.valid then
        ((reg.queues[top.queue]?).map (·.generation)).getD {} else {} }

end ResidencyDecision

/-- The decision on a snapshot for one target. -/
def ResidencyPolicy.decide (policy : ResidencyPolicy) (reg : RegistrySnapshot) (targetGpu : GpuId)
    (targetNuma : NumaNodeId) (endpoint : EndpointId) (workload : WorkerId) : ResidencyDecision :=
  let evaluated := (policy.considered reg).map (policy.evaluate reg targetGpu targetNuma)
  let allowed := evaluated.filter (·.eligibility.allowed)
  let d : ResidencyDecision :=
    { id := ⟨1⟩
      workload, targetGpu, targetNuma
      targetEndpoint := endpoint
      topologyGeneration := (reg.topology.map (·.generation)).getD {}
      policy := policy.policyId
      epoch := reg.epoch
      candidates := allowed.map (·.nic)
      evaluated }
  let d := match allowed.insertionSort CandidateResult.NotAfter with
    | top :: _ => d.select reg top
    | [] => { d with overall := worstEligibility evaluated }
  { d with explanation := d.buildExplanation }

end NicResidency

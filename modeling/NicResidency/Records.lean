import NicResidency.Locality

/-!
The core domain records. A zero id in an optional field means that the field is
not set.
-/

namespace NicResidency

abbrev NicId := Id .nic
abbrev NicGeneration := Generation .nic
abbrev PortId := Id .port
abbrev PortGeneration := Generation .port
abbrev FunctionId := Id .function
abbrev FunctionGeneration := Generation .function
abbrev QueueId := Id .queue
abbrev QueueGeneration := Generation .queue
abbrev GpuId := Id .gpu
abbrev GpuGeneration := Generation .gpu
abbrev DeviceId := Id .device
abbrev NumaNodeId := Id .numaNode
abbrev PciNodeId := Id .pciNode
abbrev EndpointId := Id .endpoint
abbrev WorkerId := Id .worker
abbrev WorkerBootId := Id .workerBoot
abbrev CoordinatorEpoch := Id .coordinatorEpoch
abbrev TopologyGeneration := Generation .topology
abbrev CapabilityGeneration := Generation .capability
abbrev PolicyId := Id .policy
abbrev DecisionId := Id .decision
abbrev AttachmentId := Id .attachment
abbrev AttachmentGeneration := Generation .attachment
abbrev ResidencyId := Id .residency
abbrev ResidencyGeneration := Generation .residency

/-- One stable NIC, SmartNIC or DPU-facing device. -/
structure NicRecord where
  id : NicId := {}
  generation : NicGeneration := {}
  osName : Bytes := []
  osDescription : Bytes := []
  pci : PciAddress := {}
  vendorId : UInt16 := 0
  deviceId : UInt16 := 0
  subsystemVendorId : UInt16 := 0
  subsystemId : UInt16 := 0
  revision : UInt8 := 0
  deviceKind : DeviceKind := .nic
  functionClass : FunctionClass := .unknown
  capability : CapabilitySet := {}
  numaNode : NumaNodeId := {}
  linkState : LinkState := .unknown
  health : HealthState := .unknown
  lifecycle : LifecycleState := .discovered
  provenance : Provenance := {}
  freshness : UInt64 := 0
  deriving DecidableEq, Repr

/-- A PCI or SR-IOV function. -/
structure FunctionRecord where
  id : FunctionId := {}
  generation : FunctionGeneration := {}
  parentNic : NicId := {}
  functionClass : FunctionClass := .unknown
  port : PortId := {}
  numaNode : NumaNodeId := {}
  capability : CapabilitySet := {}
  ownership : OwnershipState := .unknown
  ownerWorker : WorkerId := {}
  ownerBoot : WorkerBootId := {}
  epoch : CoordinatorEpoch := {}
  lifecycle : LifecycleState := .discovered
  provenance : Provenance := {}
  freshness : UInt64 := 0
  deriving DecidableEq, Repr

/-- An observable NIC port. -/
structure PortRecord where
  id : PortId := {}
  generation : PortGeneration := {}
  parentNic : NicId := {}
  parentFunction : FunctionId := {}
  osName : Bytes := []
  linkState : LinkState := .unknown
  linkSpeedMbps : UInt64 := 0
  numaNode : NumaNodeId := {}
  lifecycle : LifecycleState := .discovered
  provenance : Provenance := {}
  freshness : UInt64 := 0
  deriving DecidableEq, Repr

/-- An observable queue. -/
structure QueueRecord where
  id : QueueId := {}
  generation : QueueGeneration := {}
  parentFunction : FunctionId := {}
  parentNic : NicId := {}
  kind : Bytes := []
  lifecycle : LifecycleState := .discovered
  provenance : Provenance := {}
  freshness : UInt64 := 0
  deriving DecidableEq, Repr

/-- An accelerator, used as a residency target. -/
structure GpuRecord where
  id : GpuId := {}
  generation : GpuGeneration := {}
  name : Bytes := []
  pci : PciAddress := {}
  cudaDevice : DeviceId := {}
  cudaVerified : Bool := false
  numaNode : NumaNodeId := {}
  provenance : Provenance := {}
  freshness : UInt64 := 0
  deriving DecidableEq, Repr

/-- A governed relationship between two resources. -/
structure Attachment where
  id : AttachmentId := {}
  generation : AttachmentGeneration := {}
  nic : NicId := {}
  function : FunctionId := {}
  port : PortId := {}
  queue : QueueId := {}
  gpu : GpuId := {}
  numa : NumaNodeId := {}
  endpoint : EndpointId := {}
  topologyGeneration : TopologyGeneration := {}
  state : AttachmentState := .proposed
  ownerWorker : WorkerId := {}
  ownerBoot : WorkerBootId := {}
  epoch : CoordinatorEpoch := {}
  provenance : Provenance := {}
  freshness : UInt64 := 0
  deriving DecidableEq, Repr

/-- The residency binding of a NIC resource set to a target domain. -/
structure ResidencyRecord where
  id : ResidencyId := {}
  generation : ResidencyGeneration := {}
  nic : NicId := {}
  function : FunctionId := {}
  port : PortId := {}
  queue : QueueId := {}
  targetGpu : GpuId := {}
  targetNuma : NumaNodeId := {}
  targetEndpoint : EndpointId := {}
  state : ResidencyState := .discovered
  attachmentGeneration : AttachmentGeneration := {}
  topologyGeneration : TopologyGeneration := {}
  capabilityGeneration : CapabilityGeneration := {}
  ownership : OwnershipState := .unknown
  ownerWorker : WorkerId := {}
  ownerBoot : WorkerBootId := {}
  epoch : CoordinatorEpoch := {}
  locality : Locality := {}
  policy : PolicyId := {}
  provenance : Provenance := {}
  freshness : UInt64 := 0
  lifecycle : LifecycleState := .discovered
  explanation : Bytes := []
  deriving DecidableEq, Repr

end NicResidency

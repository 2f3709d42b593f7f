import NicResidency.Identity
import NicResidency.Library.ByteStream

/-!
The enumerated vocabulary, typed errors, provenance labels and static
capability evidence of the core records.
-/

namespace NicResidency

/-- Raw bytes of a string that comes from a backend, a file or the wire. -/
abbrev Bytes := List UInt8

inductive ResidencyState where
  | absent | discovered | available | resident | attached | detached | draining
  | revalidationRequired | stale | failed | unsupported | retired
  deriving DecidableEq, Repr

inductive LifecycleState where
  | discovered | available | reservedForAttachment | attached | resident | draining
  | detached | revalidationRequired | failed | retired
  deriving DecidableEq, Repr

inductive FunctionClass where
  | physicalFunction | virtualFunction | subfunction | representor | unknown
  deriving DecidableEq, Repr

inductive DeviceKind where
  | nic | smartNic | dpu | unknown | unsupported
  deriving DecidableEq, Repr

inductive OwnershipState where
  | unassigned | assigned | contested | revoked | unknown
  deriving DecidableEq, Repr

inductive AttachmentState where
  | proposed | validated | committed | draining | revoked | stale | failed
  deriving DecidableEq, Repr

inductive LinkState where
  | up | down | unknown | unsupported
  deriving DecidableEq, Repr

inductive HealthState where
  | ready | degraded | notReady | unknown | unsupported
  deriving DecidableEq, Repr

inductive ErrorCode where
  | ok | notFound | unsupported | invalidArgument | invalidTopology | invalidAttachment
  | staleNic | staleFunction | staleQueue | staleTopology | staleResidency | staleBoot | staleEpoch
  | capabilityMismatch | notLocal | notReady | ownerConflict | revalidationRequired
  | insufficientEvidence | policyRejected | backendUnavailable | backendError | protocolError
  | integrityFailure | resourceLimit | cancelled | internalError
  deriving DecidableEq, Repr

/-- A typed failure: a stable code, a message and an inspection detail. -/
structure ResidencyError where
  code : ErrorCode
  message : String
  detail : String := ""
  deriving DecidableEq, Repr

/-- The outcome of code that may throw; an access outside a buffer is undefined. -/
abbrev Outcome := Except (ByteStream.Fault ResidencyError)

inductive EvidenceKind where
  | real | synthetic | unsupported
  deriving DecidableEq, Repr

def EvidenceKind.toString : EvidenceKind → String
  | .real => "REAL"
  | .synthetic => "SYNTHETIC"
  | .unsupported => "UNSUPPORTED"

inductive Source where
  | operatingSystem | pci | numa | cuda | nvml | rdmaProvider | verbs | netAdapterApi
  | vendorSdk | dpuRuntime | persisted | derived | syntheticFixture
  deriving DecidableEq, Repr

def Source.toString : Source → String
  | .operatingSystem => "OPERATING_SYSTEM"
  | .pci => "PCI"
  | .numa => "NUMA"
  | .cuda => "CUDA"
  | .nvml => "NVML"
  | .rdmaProvider => "RDMA_PROVIDER"
  | .verbs => "VERBS"
  | .netAdapterApi => "NET_ADAPTER_API"
  | .vendorSdk => "VENDOR_SDK"
  | .dpuRuntime => "DPU_RUNTIME"
  | .persisted => "PERSISTED"
  | .derived => "DERIVED"
  | .syntheticFixture => "SYNTHETIC_FIXTURE"

/-- The class and the origin of one piece of evidence. -/
structure Provenance where
  kind : EvidenceKind := .unsupported
  sources : List Source := []
  deriving DecidableEq, Repr

namespace Provenance

def synthetic (p : Provenance) : Bool := p.kind == .synthetic

def unsupported (p : Provenance) : Bool := p.kind == .unsupported

def str (p : Provenance) : String :=
  p.kind.toString ++ "[" ++ ",".intercalate (p.sources.map Source.toString) ++ "]"

end Provenance

/-- Static capability evidence. -/
structure CapabilitySet where
  generation : Generation .capability := {}
  rdmaCapable : Bool := false
  srIovCapable : Bool := false
  offloadCapable : Bool := false
  localMemoryObservable : Bool := false
  acceleratorAffinitySupported : Bool := false
  provenance : Provenance := {}
  deriving DecidableEq, Repr

/-- The source's `operator==`: it compares the five flags, not the generation or
the provenance. -/
def CapabilitySet.equal (a b : CapabilitySet) : Bool :=
  a.rdmaCapable == b.rdmaCapable && a.srIovCapable == b.srIovCapable &&
    a.offloadCapable == b.offloadCapable &&
    a.localMemoryObservable == b.localMemoryObservable &&
    a.acceleratorAffinitySupported == b.acceleratorAffinitySupported

end NicResidency

import NicResidency.Library.Loops
import NicResidency.Records

/-!
Durable state in a file: a magic string, a payload of records, and a checksum of
the payload. Dynamic evidence is not restored from it.
-/

namespace NicResidency
open ByteStream ByteStream.Reader

/-- Durable policy configuration. -/
structure PersistedPolicy where
  requireRdma : Bool := false
  requireSriov : Bool := false
  requireOffload : Bool := false
  requireLocalMemory : Bool := false
  requireSameNuma : Bool := false
  requireSameRootComplex : Bool := false
  requireSamePcieSwitch : Bool := false
  requireReady : Bool := false
  requireLinkUp : Bool := false
  allowSynthetic : Bool := false
  freshnessLimit : UInt64 := 0
  deriving DecidableEq, Repr

/-- The state that is written to storage and recovered from it. -/
structure PersistentState where
  formatVersion : UInt32 := 1
  epoch : CoordinatorEpoch := {}
  nics : List NicRecord := []
  gpus : List GpuRecord := []
  policy : PersistedPolicy := {}
  history : List ResidencyRecord := []
  deriving DecidableEq, Repr

structure RecoveryResult where
  ok : Bool := false
  epoch : CoordinatorEpoch := {}
  nics : List NicRecord := []
  gpus : List GpuRecord := []
  policy : PersistedPolicy := {}
  historicalDecisions : Nat := 0
  message : String := ""
  deriving DecidableEq, Repr

def integrityFailure (message : String) : ResidencyError := { code := .integrityFailure, message }

/-! The enumerations of the payload, in the order of their numbers. -/

instance : ByteEnum EvidenceKind where
  values := [.real, .synthetic, .unsupported]
  complete value := by cases value <;> decide
  nodup := by decide
  small := by decide

instance : ByteEnum Source where
  values := [.operatingSystem, .pci, .numa, .cuda, .nvml, .rdmaProvider, .verbs, .netAdapterApi,
    .vendorSdk, .dpuRuntime, .persisted, .derived, .syntheticFixture]
  complete value := by cases value <;> decide
  nodup := by decide
  small := by decide

instance : ByteEnum DeviceKind where
  values := [.nic, .smartNic, .dpu, .unknown, .unsupported]
  complete value := by cases value <;> decide
  nodup := by decide
  small := by decide

instance : ByteEnum FunctionClass where
  values := [.physicalFunction, .virtualFunction, .subfunction, .representor, .unknown]
  complete value := by cases value <;> decide
  nodup := by decide
  small := by decide

instance : ByteEnum ResidencyState where
  values := [.absent, .discovered, .available, .resident, .attached, .detached, .draining,
    .revalidationRequired, .stale, .failed, .unsupported, .retired]
  complete value := by cases value <;> decide
  nodup := by decide
  small := by decide

instance : ByteEnum OwnershipState where
  values := [.unassigned, .assigned, .contested, .revoked, .unknown]
  complete value := by cases value <;> decide
  nodup := by decide
  small := by decide

instance : ByteEnum LifecycleState where
  values := [.discovered, .available, .reservedForAttachment, .attached, .resident, .draining,
    .detached, .revalidationRequired, .failed, .retired]
  complete value := by cases value <;> decide
  nodup := by decide
  small := by decide

/-- Sorting by a number. The order of values with the same number is left open. -/
structure SortRoutine where
  sort {α : Type} : (α → UInt64) → List α → List α
  perm {α : Type} (key : α → UInt64) (values : List α) : (sort key values).Perm values
  sorted {α : Type} (key : α → UInt64) (values : List α) :
    (sort key values).Pairwise fun a b => key a ≤ key b

namespace PersistenceStore

def kPersistenceFormatVersion : UInt32 := 1

def kMagicBox : Bytes :=
  ['N', 'I', 'C', 'R', 'E', 'S', 'I', 'D', 'E', 'N', 'C', 'Y', 'P', 'E', 'R', 'S', 'I', 'S',
    'T'].map fun c => UInt8.ofNat c.toNat

def kMagicLen : Nat := 19
def kMaxNics : Nat := 4096
def kMaxGpus : Nat := 1024
def kMaxHistory : Nat := 8192

/-! The writer. -/

def writeStr (s : Bytes) : Except ResidencyError Bytes :=
  if s.length > 0xFFFF then
    .error { code := .resourceLimit, message := "string too large to persist" }
  else .ok (leBytes 2 s.length ++ s)

def writeProvenance (p : Provenance) : Bytes :=
  [ByteEnum.toByte p.kind] ++ leBytes 4 p.sources.length ++ p.sources.map ByteEnum.toByte

def writeCapability (c : CapabilitySet) : Bytes :=
  let flags := flagWord [c.rdmaCapable, c.srIovCapable, c.offloadCapable, c.localMemoryObservable,
    c.acceleratorAffinitySupported]
  leBytes 8 c.generation.value.toNat ++ leBytes 4 flags.toNat ++ writeProvenance c.provenance

def writePci (p : PciAddress) : Bytes :=
  leBytes 2 p.segment.toNat ++ [p.bus] ++ [p.device] ++ [p.function]

def writeNic (n : NicRecord) : Except ResidencyError Bytes := do
  let osName ← writeStr n.osName
  let osDescription ← writeStr n.osDescription
  return leBytes 8 n.id.value.toNat ++ leBytes 8 n.generation.value.toNat ++ osName ++
    osDescription ++ writePci n.pci ++ leBytes 2 n.vendorId.toNat ++ leBytes 2 n.deviceId.toNat ++
    leBytes 2 n.subsystemVendorId.toNat ++ leBytes 2 n.subsystemId.toNat ++ [n.revision] ++
    [ByteEnum.toByte n.deviceKind] ++ [ByteEnum.toByte n.functionClass] ++
    writeCapability n.capability ++ leBytes 8 n.numaNode.value.toNat ++ writeProvenance n.provenance

def writeGpu (g : GpuRecord) : Except ResidencyError Bytes := do
  let name ← writeStr g.name
  return leBytes 8 g.id.value.toNat ++ leBytes 8 g.generation.value.toNat ++ name ++
    writePci g.pci ++ leBytes 8 g.cudaDevice.value.toNat ++ [if g.cudaVerified then 1 else 0] ++
    leBytes 8 g.numaNode.value.toNat ++ writeProvenance g.provenance

def writeHistory (r : ResidencyRecord) : Except ResidencyError Bytes := do
  let explanation ← writeStr r.explanation
  return leBytes 8 r.id.value.toNat ++ leBytes 8 r.generation.value.toNat ++
    leBytes 8 r.nic.value.toNat ++ leBytes 8 r.function.value.toNat ++
    leBytes 8 r.port.value.toNat ++ leBytes 8 r.queue.value.toNat ++
    leBytes 8 r.targetGpu.value.toNat ++ leBytes 8 r.targetNuma.value.toNat ++
    leBytes 8 r.targetEndpoint.value.toNat ++ [ByteEnum.toByte r.state] ++
    leBytes 8 r.topologyGeneration.value.toNat ++ [ByteEnum.toByte r.ownership] ++
    leBytes 8 r.ownerWorker.value.toNat ++ leBytes 8 r.ownerBoot.value.toNat ++
    leBytes 8 r.epoch.value.toNat ++ [ByteEnum.toByte r.lifecycle] ++ explanation

/-- A bounded list of records behind its length. -/
def writeRecords {α : Type} (limit : Nat) (tooMany : String)
    (write : α → Except ResidencyError Bytes) (records : List α) : Except ResidencyError Bytes := do
  if records.length > limit then throw { code := .resourceLimit, message := tooMany }
  let written ← records.mapM write
  return leBytes 4 records.length ++ written.flatten

def policyFlags (p : PersistedPolicy) : UInt32 :=
  flagWord [p.requireRdma, p.requireSriov, p.requireOffload, p.requireLocalMemory, p.requireSameNuma,
    p.requireSameRootComplex, p.requireSamePcieSwitch, p.requireReady, p.requireLinkUp,
    p.allowSynthetic]

def serialize (routine : SortRoutine) (st : PersistentState) : Except ResidencyError Bytes := do
  let nics ← writeRecords kMaxNics "NIC count exceeds persistence bound" writeNic
    (routine.sort (·.id.value) st.nics)
  let gpus ← writeRecords kMaxGpus "GPU count exceeds persistence bound" writeGpu
    (routine.sort (·.id.value) st.gpus)
  let history ← writeRecords kMaxHistory "history exceeds persistence bound" writeHistory
    (routine.sort (·.id.value) st.history)
  return leBytes 4 st.formatVersion.toNat ++ leBytes 8 st.epoch.value.toNat ++
    leBytes 4 (policyFlags st.policy).toNat ++ leBytes 8 st.policy.freshnessLimit.toNat ++
    nics ++ gpus ++ history

/-- The bytes of the file that a save leaves. -/
def save (routine : SortRoutine) (st : PersistentState) : Except ResidencyError Bytes := do
  let payload ← serialize routine st
  return kMagicBox ++ payload ++ leBytes 8 (fnv1a payload).toNat

/-! The reader. -/

def short : ResidencyError := integrityFailure "truncated persistence stream"

/-- The low byte is a signed character: it is widened with its sign before the
high byte is joined to it. -/
def joinU16 (low high : UInt8) : UInt16 :=
  low.toInt8.toInt16.toUInt16 ||| (high.toUInt16 <<< 8)

def u16 : Reader ResidencyError UInt16 :=
  (fun bytes => joinU16 (bytes.getD 0 0) (bytes.getD 1 0)) <$> take short 2

def str : Reader ResidencyError Bytes := do
  let n ← u16
  take short n.toNat

def readEnum {α : Type} [DecidableEq α] [ByteEnum α] (invalid : String) : Reader ResidencyError α := do
  let byte ← u8 short
  enumerated (integrityFailure invalid) byte

def readProvenance : Reader ResidencyError Provenance := do
  let kind ← readEnum "invalid evidence kind"
  let sources ← counted short (integrityFailure "provenance source count too large") 64
    (fun _ : Unit => readEnum "invalid provenance source") (fun _ _ => ()) ()
  return { kind, sources }

def readCapability : Reader ResidencyError CapabilitySet := do
  let generation ← u64 short
  let flags ← u32 short
  let provenance ← readProvenance
  return {
    generation := ⟨generation⟩
    rdmaCapable := flag flags 0
    srIovCapable := flag flags 1
    offloadCapable := flag flags 2
    localMemoryObservable := flag flags 3
    acceleratorAffinitySupported := flag flags 4
    provenance }

def readPci : Reader ResidencyError PciAddress := do
  let segment ← u16
  let bus ← u8 short
  let device ← u8 short
  let function ← u8 short
  return { segment, bus, device, function }

/-- Dynamic fields are not persisted as authority. -/
def readNic : Reader ResidencyError NicRecord := do
  let id ← u64 short
  let generation ← u64 short
  let osName ← str
  let osDescription ← str
  let pci ← readPci
  let vendorId ← u16
  let deviceId ← u16
  let subsystemVendorId ← u16
  let subsystemId ← u16
  let revision ← u8 short
  let dk ← u8 short
  let fc ← u8 short
  let deviceKind ← enumerated (integrityFailure "invalid device kind") dk
  let functionClass ← enumerated (integrityFailure "invalid function class") fc
  let capability ← readCapability
  let numaNode ← u64 short
  let provenance ← readProvenance
  return {
    id := ⟨id⟩
    generation := ⟨generation⟩
    osName, osDescription, pci, vendorId, deviceId, subsystemVendorId, subsystemId, revision
    deviceKind, functionClass, capability
    numaNode := ⟨numaNode⟩
    provenance
    linkState := .unknown
    health := .unknown
    lifecycle := .revalidationRequired
    freshness := 0 }

def readGpu : Reader ResidencyError GpuRecord := do
  let id ← u64 short
  let generation ← u64 short
  let name ← str
  let pci ← readPci
  let cudaDevice ← u64 short
  let cudaVerified ← u8 short
  let numaNode ← u64 short
  let provenance ← readProvenance
  return {
    id := ⟨id⟩
    generation := ⟨generation⟩
    name, pci
    cudaDevice := ⟨cudaDevice⟩
    cudaVerified := cudaVerified != 0
    numaNode := ⟨numaNode⟩
    provenance
    freshness := 0 }

def readHistory : Reader ResidencyError ResidencyRecord := do
  let id ← u64 short
  let generation ← u64 short
  let nic ← u64 short
  let function ← u64 short
  let port ← u64 short
  let queue ← u64 short
  let targetGpu ← u64 short
  let targetNuma ← u64 short
  let targetEndpoint ← u64 short
  let state ← readEnum "invalid residency state"
  let topologyGeneration ← u64 short
  let ownership ← readEnum "invalid ownership"
  let ownerWorker ← u64 short
  let ownerBoot ← u64 short
  let epoch ← u64 short
  let lifecycle ← readEnum "invalid lifecycle"
  let explanation ← str
  return {
    id := ⟨id⟩
    generation := ⟨generation⟩
    nic := ⟨nic⟩
    function := ⟨function⟩
    port := ⟨port⟩
    queue := ⟨queue⟩
    targetGpu := ⟨targetGpu⟩
    targetNuma := ⟨targetNuma⟩
    targetEndpoint := ⟨targetEndpoint⟩
    state
    topologyGeneration := ⟨topologyGeneration⟩
    ownership
    ownerWorker := ⟨ownerWorker⟩
    ownerBoot := ⟨ownerBoot⟩
    epoch := ⟨epoch⟩
    lifecycle, explanation }

def policyOf (flags : UInt32) (freshnessLimit : UInt64) : PersistedPolicy :=
  { requireRdma := flag flags 0
    requireSriov := flag flags 1
    requireOffload := flag flags 2
    requireLocalMemory := flag flags 3
    requireSameNuma := flag flags 4
    requireSameRootComplex := flag flags 5
    requireSamePcieSwitch := flag flags 6
    requireReady := flag flags 7
    requireLinkUp := flag flags 8
    allowSynthetic := flag flags 9
    freshnessLimit }

def readNics : Reader ResidencyError (List NicRecord) :=
  counted short (integrityFailure "NIC count too large") kMaxNics
    (readNic.distinct (·.id) (¬·.id.valid) (integrityFailure "persisted NIC has invalid id")
      (integrityFailure "duplicate persisted NIC id"))
    (fun seen n => seen ++ [n.id]) []

def readGpus : Reader ResidencyError (List GpuRecord) :=
  counted short (integrityFailure "GPU count too large") kMaxGpus
    (readGpu.distinct (·.id) (¬·.id.valid) (integrityFailure "persisted GPU has invalid id")
      (integrityFailure "duplicate persisted GPU id"))
    (fun seen g => seen ++ [g.id]) []

def readHistories : Reader ResidencyError (List ResidencyRecord) :=
  counted short (integrityFailure "history too large") kMaxHistory (fun _ : Unit => readHistory)
    (fun _ _ => ()) ()

def readState : Reader ResidencyError PersistentState := do
  let formatVersion ← u32 short
  reject (formatVersion > kPersistenceFormatVersion)
    { code := .unsupported, message := "unsupported future persistence format"
      detail := toString formatVersion }
  let epoch ← u64 short
  let flags ← u32 short
  let freshnessLimit ← u64 short
  let nics ← readNics
  let gpus ← readGpus
  let history ← readHistories
  return {
    formatVersion
    epoch := ⟨epoch⟩
    policy := policyOf flags freshnessLimit
    nics, gpus, history }

def deserialize (payload : Bytes) : Outcome PersistentState :=
  readState.whole (integrityFailure "trailing garbage after persistence payload") payload

/-- Load the bytes of an existing file. -/
def load (data : Bytes) : Outcome PersistentState :=
  if data.length < kMagicLen + 8 then
    .error (.thrown (integrityFailure "persistence file too short"))
  else if data.take kMagicLen ≠ kMagicBox then
    .error (.thrown (integrityFailure "bad persistence magic"))
  else
    let payload := (data.drop kMagicLen).take (data.length - kMagicLen - 8)
    if (fnv1a payload).toNat ≠ leValue (data.drop (data.length - 8)) then
      .error (.thrown (integrityFailure "persistence checksum mismatch"))
    else deserialize payload

/-- Whatever the bytes are, no read leaves the payload. -/
theorem load_ne_outOfBounds (data : Bytes) : load data ≠ .error .outOfBounds := by
  unfold load
  split
  next => simp
  next =>
    split
    next => simp
    next =>
      simp only
      split
      next => simp
      next => exact whole_ne_outOfBounds _ _ _

/-- Recover from a file, or from none. -/
def recover : Option Bytes → Outcome RecoveryResult
  | none => .ok { message := "no persisted state" }
  | some data =>
    match load data with
    | .ok st => .ok {
        ok := true
        epoch := st.epoch
        nics := st.nics
        gpus := st.gpus
        policy := st.policy
        historicalDecisions := st.history.length
        message := "recovered durable identity; dynamic evidence requires revalidation" }
    | .error (.thrown error) => .ok { message := "recovery failed: " ++ error.message }
    | .error .outOfBounds => .error .outOfBounds

end PersistenceStore
end NicResidency

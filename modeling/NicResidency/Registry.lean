import NicResidency.Library.Throwing
import NicResidency.Topology

/-!
The mutable, authority-aware store of current residency state. Every mutator
runs under one lock, so it is one atomic method on the registry, and each of
them first checks the epoch and the worker incarnation that it was called with.
-/

namespace NicResidency
open Throwing

structure WorkerHandle where
  worker : WorkerId
  boot : WorkerBootId
  deriving DecidableEq, Repr

structure NicRegistry where
  epoch : CoordinatorEpoch
  workers : Std.ExtTreeMap WorkerId WorkerHandle := ∅
  nics : Std.ExtTreeMap NicId NicRecord := ∅
  functions : Std.ExtTreeMap FunctionId FunctionRecord := ∅
  ports : Std.ExtTreeMap PortId PortRecord := ∅
  queues : Std.ExtTreeMap QueueId QueueRecord := ∅
  attachments : Std.ExtTreeMap AttachmentId Attachment := ∅
  gpus : Std.ExtTreeMap GpuId GpuRecord := ∅
  residencies : List ResidencyRecord := []
  topology : Option TopologySnapshot := none
  /-- The NIC ids each worker has published. -/
  workerNics : Std.ExtTreeMap WorkerId (Finset NicId) := ∅

/-- The epoch, worker and boot id that a mutator is called with. -/
structure Authority where
  epoch : CoordinatorEpoch
  worker : WorkerId
  boot : WorkerBootId
  deriving DecidableEq, Repr

abbrev RegistryM := Method NicRegistry ResidencyError

namespace NicRegistry

def kMaxNics : Nat := 1024
def kMaxGpus : Nat := 512
def kMaxFunctions : Nat := 8192
def kMaxPorts : Nat := 8192
def kMaxQueues : Nat := 16384
def kMaxAttachments : Nat := 16384
def kMaxResidencies : Nat := 16384

/-- The constructor. -/
def create (epoch : CoordinatorEpoch) : Except ResidencyError NicRegistry :=
  if epoch.valid then .ok { epoch }
  else .error { code := .invalidArgument, message := "epoch must be non-zero" }

/-- The call comes from the registered incarnation of its worker, in the current
epoch. -/
def Authorised (s : NicRegistry) (auth : Authority) : Prop :=
  auth.epoch = s.epoch ∧ (s.workers[auth.worker]?).map WorkerHandle.boot = some auth.boot

instance (s : NicRegistry) (auth : Authority) : Decidable (s.Authorised auth) :=
  inferInstanceAs (Decidable (_ ∧ _))

def ensureAuthority (auth : Authority) : RegistryM Unit := do
  let s ← get
  reject (auth.epoch ≠ s.epoch)
    { code := .staleEpoch, message := "stale coordinator epoch rejected", detail := auth.epoch.str }
  match s.workers[auth.worker]? with
  | none =>
    throw { code := .notReady, message := "worker is not a registered authority"
            detail := "worker=" ++ auth.worker.str }
  | some handle =>
    reject (handle.boot ≠ auth.boot)
      { code := .staleBoot, message := "stale worker boot identity rejected"
        detail := auth.boot.str }

end NicRegistry

/-! The identity comparisons that decide whether a publication at the stored
generation is a duplicate or a conflict. -/

def nicEqual (a b : NicRecord) : Bool :=
  a.id == b.id && a.generation == b.generation && a.osName == b.osName &&
    a.osDescription == b.osDescription && a.pci.equal b.pci &&
    a.vendorId == b.vendorId && a.deviceId == b.deviceId &&
    a.subsystemVendorId == b.subsystemVendorId && a.subsystemId == b.subsystemId &&
    a.revision == b.revision && a.deviceKind == b.deviceKind &&
    a.functionClass == b.functionClass && a.numaNode == b.numaNode &&
    a.capability.equal b.capability && a.provenance == b.provenance

def functionEqual (a b : FunctionRecord) : Bool :=
  a.id == b.id && a.generation == b.generation && a.parentNic == b.parentNic &&
    a.functionClass == b.functionClass && a.port == b.port && a.numaNode == b.numaNode &&
    a.capability.equal b.capability && a.provenance == b.provenance

def portEqual (a b : PortRecord) : Bool :=
  a.id == b.id && a.generation == b.generation && a.parentNic == b.parentNic &&
    a.parentFunction == b.parentFunction && a.osName == b.osName &&
    a.numaNode == b.numaNode && a.provenance == b.provenance

def queueEqual (a b : QueueRecord) : Bool :=
  a.id == b.id && a.generation == b.generation && a.parentFunction == b.parentFunction &&
    a.parentNic == b.parentNic && a.kind == b.kind && a.provenance == b.provenance

/-! What the registry does to a stored record on its own. -/

def NicRecord.requireRevalidation (n : NicRecord) : NicRecord :=
  { n with lifecycle := .revalidationRequired, freshness := 0 }

def NicRecord.advance (n : NicRecord) : NicRecord := { n with generation := n.generation.next }

def FunctionRecord.requireRevalidation (f : FunctionRecord) : FunctionRecord :=
  { f with lifecycle := .revalidationRequired }

def FunctionRecord.advance (f : FunctionRecord) : FunctionRecord :=
  { f with generation := f.generation.next }

def FunctionRecord.disown (f : FunctionRecord) (epoch : CoordinatorEpoch) : FunctionRecord :=
  { f with ownership := .unassigned, ownerWorker := {}, ownerBoot := {}, epoch := epoch }

def QueueRecord.requireRevalidation (q : QueueRecord) : QueueRecord :=
  { q with lifecycle := .revalidationRequired }

def QueueRecord.advance (q : QueueRecord) : QueueRecord :=
  { q with generation := q.generation.next }

def Attachment.markStale (a : Attachment) : Attachment := { a with state := .stale }

def Attachment.disown (a : Attachment) : Attachment :=
  { a with state := .stale, ownerWorker := {}, ownerBoot := {} }

def Attachment.revoke (a : Attachment) : Attachment := { a with state := .revoked }

def ResidencyRecord.requireRevalidation (r : ResidencyRecord) : ResidencyRecord :=
  { r with state := .revalidationRequired, lifecycle := .revalidationRequired }

def ResidencyRecord.disown (r : ResidencyRecord) : ResidencyRecord :=
  { r with state := .revalidationRequired, lifecycle := .revalidationRequired
           ownerWorker := {}, ownerBoot := {} }

def ResidencyRecord.retire (r : ResidencyRecord) : ResidencyRecord :=
  { r with state := .retired, lifecycle := .retired }

namespace NicRegistry

/-! Authority operations. -/

def registerWorker (worker : WorkerId) (boot : WorkerBootId) : RegistryM Unit := do
  let s ← get
  reject (∃ handle ∈ s.workers[worker]?, handle.boot ≠ boot)
    { code := .ownerConflict, message := "worker already active with a different boot id"
      detail := "worker=" ++ worker.str }
  modify fun s => { s with workers := s.workers.insert worker ⟨worker, boot⟩ }

/-- The ids that a worker's process death has to demote. -/
def publishedBy (s : NicRegistry) (worker : WorkerId) : Finset NicId :=
  s.workerNics[worker]?.getD ∅

def retireWorker (worker : WorkerId) (boot : WorkerBootId) (s : NicRegistry) : NicRegistry :=
  { s with
    workers := s.workers.erase worker
    nics := s.nics.map fun id n => if id ∈ s.publishedBy worker then n.requireRevalidation else n
    workerNics := s.workerNics.erase worker
    attachments := s.attachments.map fun _ a =>
      if a.ownerWorker = worker ∧ a.ownerBoot = boot then a.disown else a
    residencies := s.residencies.map fun r =>
      if r.ownerWorker = worker ∧ r.ownerBoot = boot then r.disown else r }

/-- A stale boot id cannot retire a newer incarnation. -/
def workerRetired (worker : WorkerId) (boot : WorkerBootId) : RegistryM Unit := do
  let s ← get
  if ∃ handle ∈ s.workers[worker]?, handle.boot ≠ boot then return ()
  else modify (retireWorker worker boot)

/-- The changes of an accepted restart. The NIC, port and queue records are not
among them. -/
def restart (newEpoch : CoordinatorEpoch) (s : NicRegistry) : NicRegistry :=
  { s with
    epoch := newEpoch
    workers := ∅
    workerNics := ∅
    functions := s.functions.map fun _ f => f.disown newEpoch
    attachments := s.attachments.map fun _ a => { a.disown with epoch := newEpoch }
    residencies := s.residencies.map fun r => { r.disown with epoch := newEpoch } }

def coordinatorRestart (newEpoch : CoordinatorEpoch) : RegistryM Unit := do
  let s ← get
  reject (¬newEpoch.value > s.epoch.value)
    { code := .staleEpoch, message := "coordinator epoch must advance monotonically"
      detail := newEpoch.str }
  modify (restart newEpoch)

/-! The two ways in which a publication meets the record stored under its id.
NICs, functions, ports and queues are versioned: at the stored generation only an
equal record is taken, as a duplicate that changes nothing. Attachments and GPUs
are overwritten from the stored generation on. -/

section
variable {α : Type} {tag : Tag}

def storeVersioned (slot : Option α) (new : α) (generation : α → Generation tag)
    (same : α → α → Bool) (invalid conflict stale : ResidencyError)
    (write : NicRegistry → NicRegistry) : RegistryM (Generation tag) :=
  match slot with
  | none => do
    reject (¬(generation new).valid) invalid
    modify write
    return generation new
  | some existing =>
    if generation new = generation existing then do
      reject (¬same new existing) conflict
      return generation existing
    else do
      reject (generation new < generation existing) stale
      modify write
      return generation new

def storeLatest (slot : Option α) (new : α) (generation : α → Generation tag)
    (invalid stale : ResidencyError) (write : NicRegistry → NicRegistry) :
    RegistryM (Generation tag) :=
  match slot with
  | none => do
    reject (¬(generation new).valid) invalid
    modify write
    return generation new
  | some existing => do
    reject (generation new < generation existing) stale
    modify write
    return generation new

end

def invalidArgument (message : String) (detail : String) : ResidencyError :=
  { code := .invalidArgument, message, detail }

def resourceLimit (message : String) : ResidencyError := { code := .resourceLimit, message }

/-! NICs. -/

/-- The worker is put on record for the id before the id is checked. -/
def notePublisher (worker : WorkerId) (id : NicId) (s : NicRegistry) : NicRegistry :=
  { s with workerNics := s.workerNics.insert worker (insert id (s.publishedBy worker)) }

def registerNic (rec : NicRecord) (auth : Authority) : RegistryM NicGeneration := do
  ensureAuthority auth
  modify (notePublisher auth.worker rec.id)
  reject (¬rec.id.valid) (invalidArgument "NIC id must be valid" "")
  let s ← get
  reject (s.nics.size ≥ kMaxNics) (resourceLimit "NIC count limit exceeded")
  storeVersioned s.nics[rec.id]? rec NicRecord.generation nicEqual
    (invalidArgument "new NIC generation must be non-zero" "")
    (invalidArgument "conflicting duplicate NIC publication at same generation" rec.id.str)
    { code := .staleNic, message := "stale NIC generation rejected", detail := rec.id.str }
    fun s => { s with nics := s.nics.insert rec.id { rec with freshness := 0 } }

def invalidateNicDependents (id : NicId) (s : NicRegistry) : NicRegistry :=
  { s with
    functions := s.functions.map fun _ f => if f.parentNic = id then f.requireRevalidation else f
    queues := s.queues.map fun _ q => if q.parentNic = id then q.requireRevalidation else q
    attachments := s.attachments.map fun _ a => if a.nic = id then a.markStale else a
    residencies := s.residencies.map fun r => if r.nic = id then r.requireRevalidation else r }

def advanceNicGeneration (id : NicId) (auth : Authority) : RegistryM Unit := do
  ensureAuthority auth
  let s ← get
  reject (s.nics[id]? = none) { code := .notFound, message := "NIC not found", detail := id.str }
  modify fun s => invalidateNicDependents id { s with nics := s.nics.modify id NicRecord.advance }

/-! Functions. -/

def registerFunction (rec : FunctionRecord) (auth : Authority) : RegistryM FunctionGeneration := do
  ensureAuthority auth
  reject (¬rec.id.valid ∨ ¬rec.parentNic.valid)
    (invalidArgument "function id and parent NIC id required" "")
  let s ← get
  reject (rec.parentNic ∉ s.nics)
    { code := .invalidTopology, message := "function references nonexistent NIC"
      detail := rec.parentNic.str }
  reject (s.functions.size ≥ kMaxFunctions) (resourceLimit "function count limit exceeded")
  storeVersioned s.functions[rec.id]? rec FunctionRecord.generation functionEqual
    (invalidArgument "new function generation must be non-zero" "")
    (invalidArgument "conflicting duplicate function publication at same generation" rec.id.str)
    { code := .staleFunction, message := "stale function generation rejected", detail := rec.id.str }
    fun s => { s with functions := s.functions.insert rec.id rec }

def invalidateFunctionDependents (id : FunctionId) (s : NicRegistry) : NicRegistry :=
  { s with
    queues := s.queues.map fun _ q => if q.parentFunction = id then q.requireRevalidation else q
    attachments := s.attachments.map fun _ a => if a.function = id then a.markStale else a
    residencies := s.residencies.map fun r =>
      if r.function = id then r.requireRevalidation else r }

def advanceFunctionGeneration (id : FunctionId) (auth : Authority) : RegistryM Unit := do
  ensureAuthority auth
  let s ← get
  reject (s.functions[id]? = none)
    { code := .notFound, message := "function not found", detail := id.str }
  modify fun s => invalidateFunctionDependents id
    { s with functions := s.functions.modify id FunctionRecord.advance }

/-! Ports and queues. -/

def registerPort (rec : PortRecord) (auth : Authority) : RegistryM PortGeneration := do
  ensureAuthority auth
  reject (¬rec.id.valid ∨ ¬rec.parentNic.valid)
    (invalidArgument "port id and parent NIC id required" "")
  let s ← get
  reject (rec.parentNic ∉ s.nics)
    { code := .invalidTopology, message := "port references nonexistent NIC"
      detail := rec.parentNic.str }
  reject (rec.parentFunction.valid ∧ rec.parentFunction ∉ s.functions)
    { code := .invalidTopology, message := "port references nonexistent function"
      detail := rec.parentFunction.str }
  reject (s.ports.size ≥ kMaxPorts) (resourceLimit "port count limit exceeded")
  storeVersioned s.ports[rec.id]? rec PortRecord.generation portEqual
    (invalidArgument "new port generation must be non-zero" "")
    (invalidArgument "conflicting duplicate port publication at same generation" rec.id.str)
    (invalidArgument "stale port generation rejected" rec.id.str)
    fun s => { s with ports := s.ports.insert rec.id rec }

def registerQueue (rec : QueueRecord) (auth : Authority) : RegistryM QueueGeneration := do
  ensureAuthority auth
  reject (¬rec.id.valid ∨ ¬rec.parentFunction.valid ∨ ¬rec.parentNic.valid)
    (invalidArgument "queue id, parent function, and parent NIC id required" "")
  let s ← get
  reject (rec.parentFunction ∉ s.functions)
    { code := .invalidTopology, message := "queue references nonexistent function"
      detail := rec.parentFunction.str }
  reject (rec.parentNic ∉ s.nics)
    { code := .invalidTopology, message := "queue references nonexistent NIC"
      detail := rec.parentNic.str }
  reject (s.queues.size ≥ kMaxQueues) (resourceLimit "queue count limit exceeded")
  storeVersioned s.queues[rec.id]? rec QueueRecord.generation queueEqual
    (invalidArgument "new queue generation must be non-zero" "")
    (invalidArgument "conflicting duplicate queue publication at same generation" rec.id.str)
    (invalidArgument "stale queue generation rejected" rec.id.str)
    fun s => { s with queues := s.queues.insert rec.id rec }

/-- A queue advance reaches the residencies only, not the attachments. -/
def invalidateQueueDependents (id : QueueId) (s : NicRegistry) : NicRegistry :=
  { s with
    residencies := s.residencies.map fun r => if r.queue = id then r.requireRevalidation else r }

def advanceQueueGeneration (id : QueueId) (auth : Authority) : RegistryM Unit := do
  ensureAuthority auth
  let s ← get
  reject (s.queues[id]? = none) { code := .notFound, message := "queue not found", detail := id.str }
  modify fun s => invalidateQueueDependents id
    { s with queues := s.queues.modify id QueueRecord.advance }

/-! Topology. -/

def invalidateTopologyDependents (s : NicRegistry) : NicRegistry :=
  { s with
    attachments := s.attachments.map fun _ a => a.markStale
    residencies := s.residencies.map ResidencyRecord.requireRevalidation }

def setTopology (top : TopologySnapshot) (auth : Authority) : RegistryM Unit := do
  ensureAuthority auth
  let s ← get
  reject (∃ current ∈ s.topology, top.generation < current.generation)
    { code := .staleTopology, message := "stale topology generation rejected"
      detail := top.generation.str }
  modify fun s => invalidateTopologyDependents { s with topology := some top }

/-! Attachments. -/

def registerAttachment (att : Attachment) (auth : Authority) : RegistryM AttachmentGeneration := do
  ensureAuthority auth
  reject (¬att.id.valid ∨ ¬att.nic.valid) (invalidArgument "attachment id and NIC id required" "")
  let s ← get
  reject (att.nic ∉ s.nics)
    { code := .invalidAttachment, message := "attachment references nonexistent NIC"
      detail := att.nic.str }
  reject (att.function.valid ∧ att.function ∉ s.functions)
    { code := .invalidAttachment, message := "attachment references nonexistent function"
      detail := att.function.str }
  reject (att.port.valid ∧ att.port ∉ s.ports)
    { code := .invalidAttachment, message := "attachment references nonexistent port"
      detail := att.port.str }
  reject (att.queue.valid ∧ att.queue ∉ s.queues)
    { code := .invalidAttachment, message := "attachment references nonexistent queue"
      detail := att.queue.str }
  reject (s.attachments.size ≥ kMaxAttachments) (resourceLimit "attachment count limit exceeded")
  storeLatest s.attachments[att.id]? att Attachment.generation
    (invalidArgument "new attachment generation must be non-zero" "")
    { code := .invalidAttachment, message := "stale attachment generation rejected"
      detail := att.id.str }
    fun s => { s with attachments := s.attachments.insert att.id att }

def retireAttachment (id : AttachmentId) (auth : Authority) : RegistryM Unit := do
  ensureAuthority auth
  let s ← get
  reject (s.attachments[id]? = none)
    { code := .notFound, message := "attachment not found", detail := id.str }
  modify fun s => { s with attachments := s.attachments.modify id Attachment.revoke }

/-! Accelerators. -/

def registerGpu (rec : GpuRecord) (auth : Authority) : RegistryM Unit := do
  ensureAuthority auth
  reject (¬rec.id.valid) (invalidArgument "GPU id must be valid" "")
  let s ← get
  reject (s.gpus.size ≥ kMaxGpus) (resourceLimit "GPU count limit exceeded")
  discard <| storeLatest s.gpus[rec.id]? rec GpuRecord.generation
    (invalidArgument "new GPU generation must be non-zero" "")
    (invalidArgument "stale GPU generation rejected" rec.id.str)
    fun s => { s with gpus := s.gpus.insert rec.id rec }

/-! Residency. Every accepted publication appends a record. -/

def publishResidency (rec : ResidencyRecord) (auth : Authority) : RegistryM ResidencyRecord := do
  ensureAuthority auth
  reject (¬rec.id.valid ∨ ¬rec.nic.valid) (invalidArgument "residency id and NIC id required" "")
  let s ← get
  reject (rec.nic ∉ s.nics)
    (invalidArgument "residency references nonexistent NIC" rec.nic.str)
  reject (rec.function.valid ∧ rec.function ∉ s.functions)
    (invalidArgument "residency references nonexistent function" rec.function.str)
  reject (rec.port.valid ∧ rec.port ∉ s.ports)
    (invalidArgument "residency references nonexistent port" rec.port.str)
  reject (rec.queue.valid ∧ rec.queue ∉ s.queues)
    (invalidArgument "residency references nonexistent queue" rec.queue.str)
  reject (s.residencies.length ≥ kMaxResidencies) (resourceLimit "residency count limit exceeded")
  reject (∃ r ∈ s.residencies, r.id = rec.id ∧ rec.generation < r.generation)
    { code := .staleResidency, message := "stale residency generation rejected"
      detail := rec.id.str }
  modify fun s => { s with residencies := s.residencies ++ [rec] }
  return rec

/-- Only the first record of the id is retired. -/
def retireResidency (id : ResidencyId) (auth : Authority) : RegistryM Unit := do
  ensureAuthority auth
  let s ← get
  match s.residencies.findIdx? (·.id = id) with
  | none =>
    throw { code := .notFound, message := "residency not found", detail := id.str }
  | some i =>
    modify fun s => { s with residencies := s.residencies.modify i ResidencyRecord.retire }

end NicRegistry

/-- The immutable read surface: a copy of the registry without its authority
tables. -/
structure RegistrySnapshot where
  epoch : CoordinatorEpoch := {}
  nics : Std.ExtTreeMap NicId NicRecord := ∅
  functions : Std.ExtTreeMap FunctionId FunctionRecord := ∅
  ports : Std.ExtTreeMap PortId PortRecord := ∅
  queues : Std.ExtTreeMap QueueId QueueRecord := ∅
  attachments : Std.ExtTreeMap AttachmentId Attachment := ∅
  gpus : Std.ExtTreeMap GpuId GpuRecord := ∅
  residencies : List ResidencyRecord := []
  topology : Option TopologySnapshot := none

def NicRegistry.snapshot (s : NicRegistry) : RegistrySnapshot :=
  { s with }

end NicResidency

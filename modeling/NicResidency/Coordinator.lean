import NicResidency.Persistence
import NicResidency.Policy
import NicResidency.RegistrySteps
import NicResidency.Wire

/-!
The coordinator processes. The first one takes its epoch from the frame of a worker and
saves what it decides. A restarted one recovers the saved state and takes the epoch
behind the recovered one. A process is modelled by what it leaves: the files on disk,
and the registry that it has constructed.
-/

namespace NicResidency

def ErrorCode.toString : ErrorCode → String
  | .ok => "OK"
  | .notFound => "NOT_FOUND"
  | .unsupported => "UNSUPPORTED"
  | .invalidArgument => "INVALID_ARGUMENT"
  | .invalidTopology => "INVALID_TOPOLOGY"
  | .invalidAttachment => "INVALID_ATTACHMENT"
  | .staleNic => "STALE_NIC"
  | .staleFunction => "STALE_FUNCTION"
  | .staleQueue => "STALE_QUEUE"
  | .staleTopology => "STALE_TOPOLOGY"
  | .staleResidency => "STALE_RESIDENCY"
  | .staleBoot => "STALE_BOOT"
  | .staleEpoch => "STALE_EPOCH"
  | .capabilityMismatch => "CAPABILITY_MISMATCH"
  | .notLocal => "NOT_LOCAL"
  | .notReady => "NOT_READY"
  | .ownerConflict => "OWNER_CONFLICT"
  | .revalidationRequired => "REVALIDATION_REQUIRED"
  | .insufficientEvidence => "INSUFFICIENT_EVIDENCE"
  | .policyRejected => "POLICY_REJECTED"
  | .backendUnavailable => "BACKEND_UNAVAILABLE"
  | .backendError => "BACKEND_ERROR"
  | .protocolError => "PROTOCOL_ERROR"
  | .integrityFailure => "INTEGRITY_FAILURE"
  | .resourceLimit => "RESOURCE_LIMIT"
  | .cancelled => "CANCELLED"
  | .internalError => "INTERNAL_ERROR"

def ResidencyState.toString : ResidencyState → String
  | .absent => "ABSENT"
  | .discovered => "DISCOVERED"
  | .available => "AVAILABLE"
  | .resident => "RESIDENT"
  | .attached => "ATTACHED"
  | .detached => "DETACHED"
  | .draining => "DRAINING"
  | .revalidationRequired => "REVALIDATION_REQUIRED"
  | .stale => "STALE"
  | .failed => "FAILED"
  | .unsupported => "UNSUPPORTED"
  | .retired => "RETIRED"

def LifecycleState.toString : LifecycleState → String
  | .discovered => "DISCOVERED"
  | .available => "AVAILABLE"
  | .reservedForAttachment => "RESERVED_FOR_ATTACHMENT"
  | .attached => "ATTACHED"
  | .resident => "RESIDENT"
  | .draining => "DRAINING"
  | .detached => "DETACHED"
  | .revalidationRequired => "REVALIDATION_REQUIRED"
  | .failed => "FAILED"
  | .retired => "RETIRED"

namespace Coordinator
open ByteStream Throwing NicRegistry PersistenceStore
open FrameCodec (NicPublication)

/-- The lines of a result file. -/
abbrev Results := Std.ExtTreeMap String String

/-- The files that the processes share. -/
structure Disk where
  workerA : Option Bytes := none
  workerB : Option Bytes := none
  state : Option Bytes := none
  firstResult : Option Results := none
  restartResult : Option Results := none

/-- What a process leaves. It blocks until it is killed, unless it exits with an
error. -/
structure Process where
  disk : Disk
  registry : Option NicRegistry := none
  blocked : Bool := false

/-- The epoch of the registry that the process has constructed. -/
def Process.epoch (process : Process) : Option CoordinatorEpoch := process.registry.map (·.epoch)

/-! Reading the files. -/

/-- The variables that a decoded frame is stored into. -/
structure DecodedFrame where
  publication : Option NicPublication := none
  worker : WorkerId := {}
  boot : WorkerBootId := {}

def wordAt (payload : Bytes) (offset : Nat) : UInt64 :=
  if offset + 8 ≤ payload.length then UInt64.ofNat (leValue ((payload.drop offset).take 8)) else 0

/-- Decode a frame of any type as the publication of a NIC. From a payload that is not
one, the worker and the boot id are stored as far as they are there. -/
def decodeWorkerFrame (file : Option Bytes) : DecodedFrame :=
  match file.bind fun frame => (FrameCodec.tryDecode frame).toOption.join with
  | none => {}
  | some frame =>
    { publication := (FrameCodec.parsePublishNic frame.payload {}).toOption.join
      worker := ⟨wordAt frame.payload 0⟩
      boot := ⟨wordAt frame.payload 8⟩ }

theorem recover_ne_error (file : Option Bytes) (fault : Fault ResidencyError) :
    recover file ≠ .error fault := by
  intro faulty
  cases file with
  | none => cases faulty
  | some data =>
    unfold recover at faulty
    cases loaded : load data with
    | ok st => simp [loaded] at faulty
    | error fault =>
      cases fault with
      | thrown error => simp [loaded] at faulty
      | outOfBounds => exact load_ne_outOfBounds data loaded

/-- The recovery of the state file. -/
def recovery (file : Option Bytes) : RecoveryResult :=
  match recovered : recover file with
  | .ok result => result
  | .error fault => absurd recovered (recover_ne_error file fault)

def loadState (file : Option Bytes) : Except ResidencyError PersistentState :=
  match file with
  | none =>
    .error { code := .notFound, message := "persistence file not found", detail := "nic_crd2_state.ner" }
  | some data =>
    match loaded : load data with
    | .ok st => .ok st
    | .error (.thrown error) => .error error
    | .error .outOfBounds => absurd loaded (load_ne_outOfBounds data)

/-! A running process. -/

/-- A process after it has constructed its registry. -/
structure Running where
  disk : Disk
  registry : NicRegistry
  results : Results

abbrev RunningM := Method Running ResidencyError

def bit (b : Bool) : String := if b then "1" else "0"

def note (key value : String) : RunningM Unit :=
  modify fun running => { running with results := running.results.insert key value }

/-- A method of the registry, whose exceptions pass through. -/
def onRegistry {α : Type} (method : RegistryM α) : RunningM α := do
  let running ← get
  let (outcome, registry) := perform method running.registry
  modify fun running => { running with registry }
  ofExcept outcome

/-- A method of the registry, whose exceptions are caught. It gives the code of the
exception. -/
def attempt {α : Type} (method : RegistryM α) : RunningM (Option ErrorCode) := do
  let running ← get
  let (outcome, registry) := perform method running.registry
  modify fun running => { running with registry }
  return match outcome with
    | .ok _ => none
    | .error error => some error.code

def saveState (routine : SortRoutine) (st : PersistentState) : RunningM Unit := do
  let file ← ofExcept (save routine st)
  modify fun running => { running with disk := { running.disk with state := some file } }

def decideFor (numa : NumaNodeId) (worker : WorkerId) : RunningM ResidencyDecision := do
  let running ← get
  return ({} : ResidencyPolicy).decide running.registry.snapshot {} numa {} worker

def failed (results : Results) (error message : String) : Results :=
  ((results.insert "status" "ERROR").insert "error" error).insert "message" message

def threw (results : Results) (error : ResidencyError) : Results :=
  failed results error.code.toString error.message

/-- Construct the registry, do the rest and write the results, also after an
exception. -/
def serve (report : Disk → Results → Disk) (disk : Disk) (results : Results) (epoch : CoordinatorEpoch)
    (rest : RunningM Unit) : Process :=
  match create epoch with
  | .error error => { disk := report disk (threw results error) }
  | .ok registry =>
    match perform rest { disk, registry, results } with
    | (.ok (), left) =>
      { disk := report left.disk left.results, registry := some left.registry, blocked := true }
    | (.error error, left) =>
      { disk := report left.disk (threw left.results error), registry := some left.registry }

/-! The first process. -/

def firstResidency (published : NicPublication) : ResidencyRecord where
  id := ⟨1⟩
  generation := ⟨1⟩
  nic := published.nic.id
  state := .resident
  lifecycle := .resident
  ownerWorker := published.worker
  ownerBoot := published.boot
  epoch := published.epoch
  targetNuma := published.nic.numaNode
  provenance := published.nic.provenance
  ownership := .assigned
  policy := ⟨1⟩
  freshness := 1

/-- The durable state: the identity of the NIC, and the residency as history. -/
def firstState (published : NicPublication) : PersistentState where
  formatVersion := kPersistenceFormatVersion
  epoch := published.epoch
  nics := [published.nic]
  history := [firstResidency published]

def serveFirst (routine : SortRoutine) (published : NicPublication) : RunningM Unit := do
  let auth : Authority := ⟨published.epoch, published.worker, published.boot⟩
  let nic := published.nic
  onRegistry (registerWorker published.worker published.boot)
  discard <| onRegistry (registerNic nic auth)
  discard <| onRegistry (publishResidency (firstResidency published) auth)
  let d ← decideFor nic.numaNode published.worker
  saveState routine (firstState published)
  note "epoch" (toString published.epoch.value)
  note "worker_boot" published.boot.str
  note "nic_id" nic.id.str
  note "nic_generation" (toString nic.generation.value)
  note "decision" d.overall.toString
  note "selected" d.selected.str
  note "residency_state" (firstResidency published).state.toString
  note "persisted" "1"
  note "authoritative" (bit (d.selected == nic.id && d.overall.allowed))

def runFirst (routine : SortRoutine) (disk : Disk) : Process :=
  let report (disk : Disk) (results : Results) : Disk := { disk with firstResult := some results }
  let results := (∅ : Results).insert "phase" "first"
  match (decodeWorkerFrame disk.workerA).publication with
  | none =>
    { disk := report disk (failed results "decode_failed" "could not decode worker A frame") }
  | some published => serve report disk results published.epoch (serveFirst routine published)

/-! A restarted process. -/

def freshResidency (epoch : CoordinatorEpoch) (b : NicPublication) : ResidencyRecord where
  id := ⟨1⟩
  generation := ⟨2⟩
  nic := b.nic.id
  state := .resident
  lifecycle := .resident
  ownerWorker := b.worker
  ownerBoot := b.boot
  epoch := epoch
  targetNuma := b.nic.numaNode
  provenance := b.nic.provenance
  ownership := .assigned
  policy := ⟨1⟩
  freshness := 1

/-- The frame of worker A, when there is one, against the new registry. -/
def replayStale : Option NicPublication → RunningM (Option ErrorCode)
  | some stale => attempt (registerNic stale.nic ⟨stale.epoch, stale.worker, stale.boot⟩)
  | none => pure none

/-- The old decision is history only. -/
def noteHistory (epoch : CoordinatorEpoch) : RunningM Unit := do
  let running ← get
  let loaded ← ofExcept (loadState running.disk.state)
  match loaded.history with
  | old :: _ =>
    note "pre_restart_epoch" (toString old.epoch.value)
    note "pre_restart_state" old.state.toString
    note "pre_restart_boot" old.ownerBoot.str
    note "pre_restart_non_authoritative" (bit (old.epoch.value < epoch.value))
  | [] => note "pre_restart_non_authoritative" "0"

def noteLive : RunningM Unit := do
  let running ← get
  match running.registry.residencies.getLast? with
  | some live =>
    note "fresh_residency_epoch" (toString live.epoch.value)
    note "fresh_residency_boot" live.ownerBoot.str
  | none => pure ()

def serveRestart (epoch : CoordinatorEpoch) (recovered : NicRecord) (a : DecodedFrame)
    (b : NicPublication) : RunningM Unit := do
  let stale ← replayStale a.publication
  note "stale_epoch_rejected" (bit (stale == some .staleEpoch))
  note "stale_replay_code" ((stale.map ErrorCode.toString).getD "")
  onRegistry (registerWorker b.worker b.boot)
  let takeover ← attempt (registerWorker a.worker a.boot)
  note "old_boot_takeover_rejected" (bit (takeover == some .ownerConflict))
  let auth : Authority := ⟨epoch, b.worker, b.boot⟩
  -- the recovered identity is not selected before fresh evidence binds it
  discard <| onRegistry (registerNic recovered auth)
  let pre ← decideFor recovered.numaNode b.worker
  note "pre_revalidation_overall" pre.overall.toString
  note "pre_revalidation_selected" (bit pre.selected.valid)
  note "worker_authority_not_recovered" (bit !pre.overall.allowed)
  discard <| onRegistry (registerNic b.nic auth)
  discard <| onRegistry (publishResidency (freshResidency epoch b) auth)
  let post ← decideFor b.nic.numaNode b.worker
  note "post_revalidation_overall" post.overall.toString
  note "post_revalidation_selected" post.selected.str
  note "required_refresh" (bit (post.overall.allowed && post.selected == b.nic.id))
  note "fresh_boot" b.boot.str
  noteHistory epoch
  if takeover == some .ownerConflict then noteLive

/-- The state file is read, and never written. -/
def runRestart (disk : Disk) : Process :=
  let report (disk : Disk) (results : Results) : Disk := { disk with restartResult := some results }
  let results := (∅ : Results).insert "phase" "restart"
  let recovered := recovery disk.state
  if !recovered.ok then
    { disk := report disk (failed results "recovery_failed" recovered.message) }
  else
    let newEpoch : CoordinatorEpoch := ⟨recovered.epoch.value + 1⟩
    let results := results.insertMany
      [("recovered_ok", "1"), ("old_epoch", toString recovered.epoch.value),
        ("recovered_nic_count", toString recovered.nics.length), ("new_epoch", toString newEpoch.value),
        ("epoch_advanced", bit (recovered.epoch.value < newEpoch.value))]
    match recovered.nics with
    | [] => { disk := report disk (failed results "no_recovered_nic" "no durable NIC recovered") }
    | nic :: _ =>
      let results := results.insertMany
        [("recovered_lifecycle", nic.lifecycle.toString), ("recovered_freshness", toString nic.freshness),
          ("recovered_conservative", bit (nic.lifecycle == .revalidationRequired && nic.freshness == 0))]
      let a := decodeWorkerFrame disk.workerA
      let results := match a.publication with
        | some stale => results.insert "recovered_matches_a" (bit (nic.id == stale.nic.id &&
            nic.generation == stale.nic.generation && stale.epoch.value < newEpoch.value))
        | none => results
      match (decodeWorkerFrame disk.workerB).publication with
      | none =>
        { disk := report disk (failed results "no_worker_b_frame" "no fresh worker A' frame") }
      | some b => serve report disk results newEpoch (serveRestart newEpoch nic a b)

end Coordinator
end NicResidency

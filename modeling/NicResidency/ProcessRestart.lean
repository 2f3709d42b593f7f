import NicResidency.AcceptedCalls
import NicResidency.CoordinatorRestarts
import NicResidency.Decisions
import NicResidency.DurableStore
import NicResidency.Library.Json
import NicResidency.Library.OrderedMap

/-!
The processes together. A worker writes a frame and is killed; a coordinator takes its
epoch from the frame, decides and saves; a second coordinator recovers the saved state
and finds the frame of a second worker. What the coordinators report is what the ids,
boot ids, epochs and generations of the two workers make of it.
-/

namespace NicResidency.ProcessRestart
open ByteStream Throwing NicRegistry PersistenceStore Coordinator FrameCodec
open Decisions PersistenceRoundTrip ResidencyPolicy Selection
open DurableStore (Restorable)
open Json (chars)

/-! The worker process. -/

/-- What a worker is started with, and the boot id that it draws. -/
structure Worker where
  id : WorkerId := ⟨1⟩
  boot : WorkerBootId
  epoch : CoordinatorEpoch := ⟨1⟩
  generation : NicGeneration := ⟨1⟩

def publishedName : Bytes := chars "worker-published-nic"

def publishedPci : PciAddress := { segment := 0, bus := 0x01, device := 0, function := 0 }

/-- The NIC that every worker publishes. -/
def Worker.nic (worker : Worker) : NicRecord where
  id := ⟨0x1000⟩
  generation := worker.generation
  osName := publishedName
  osDescription := chars "evidence published by a real worker process"
  pci := publishedPci
  numaNode := ⟨1⟩
  capability := { rdmaCapable := true, provenance := ⟨.real, [.rdmaProvider]⟩ }
  provenance := ⟨.real, [.rdmaProvider]⟩
  lifecycle := .available
  freshness := 1

/-- The frame file that a worker leaves. -/
def Worker.frame (worker : Worker) : Except ResidencyError Bytes := do
  let payload ← payloadPublishNic worker.id worker.boot worker.epoch worker.nic
  encode .publishNic payload

/-- The frame as a coordinator decodes it. The description and the capabilities are not
sent. -/
def Worker.published (worker : Worker) : NicPublication where
  worker := worker.id
  boot := worker.boot
  epoch := worker.epoch
  nic :=
    { id := ⟨0x1000⟩
      generation := worker.generation
      osName := publishedName
      pci := publishedPci
      numaNode := ⟨1⟩
      provenance := ⟨.real, [.rdmaProvider]⟩
      lifecycle := .available
      freshness := 1 }

theorem length_publishedName : publishedName.length = 20 := by decide

/-- The default policy on one NIC decides as the hard constraints do. -/
theorem decide_single (reg : RegistrySnapshot) (nic : NicRecord)
    (single : reg.nics = (∅ : Std.ExtTreeMap NicId NicRecord).insert nic.id nic) (gpu : GpuId)
    (numa : NumaNodeId) (endpoint : EndpointId) (workload : WorkerId) :
    let d := ({} : ResidencyPolicy).decide reg gpu numa endpoint workload
    let eligibility := (({} : ResidencyPolicy).hardCheck reg nic gpu numa).1
    d.overall = eligibility ∧ d.selected = if eligibility.allowed then nic.id else {} := by
  have considered : ({} : ResidencyPolicy).considered reg = [nic] := by
    rw [ResidencyPolicy.considered, single, OrderedMap.toList_single]
    rfl
  have evaluated : evaluations {} reg gpu numa = [({} : ResidencyPolicy).evaluate reg gpu numa nic] := by
    rw [evaluations, considered]
    rfl
  by_cases allowed : (({} : ResidencyPolicy).hardCheck reg nic gpu numa).1.allowed = true
  · have sorted : contenders {} reg gpu numa = [({} : ResidencyPolicy).evaluate reg gpu numa nic] := by
      rw [contenders, ← evaluations, evaluated, List.filter_cons_of_pos (by exact allowed)]
      rfl
    obtain ⟨-, selected, overall, -⟩ := decide_top endpoint workload sorted
    refine ⟨overall, ?_⟩
    rw [if_pos allowed]
    exact selected
  · have sorted : contenders {} reg gpu numa = [] := by
      rw [contenders, ← evaluations, evaluated, List.filter_cons_of_neg (by exact allowed)]
      rfl
    obtain ⟨-, selected, overall⟩ := decide_none endpoint workload sorted
    rw [evaluated] at overall
    refine ⟨overall, ?_⟩
    rw [if_neg allowed]
    exact selected

/-- Published evidence is selected. -/
theorem decide_published (worker : Worker) (reg : RegistrySnapshot)
    (single : reg.nics = (∅ : Std.ExtTreeMap NicId NicRecord).insert worker.published.nic.id
      { worker.published.nic with freshness := 0 }) (workload : WorkerId) :
    let d := ({} : ResidencyPolicy).decide reg {} worker.published.nic.numaNode {} workload
    d.overall = .residencyAllowed ∧ d.selected = worker.published.nic.id :=
  decide_single reg { worker.published.nic with freshness := 0 } single {} _ {} workload

/-- Recovered evidence is not. -/
theorem decide_restored (worker : Worker) (reg : RegistrySnapshot)
    (single : reg.nics = (∅ : Std.ExtTreeMap NicId NicRecord).insert worker.published.nic.id
      (restoredNic worker.published.nic)) (workload : WorkerId) :
    let d := ({} : ResidencyPolicy).decide reg {} (restoredNic worker.published.nic).numaNode {} workload
    d.overall = .revalidationRequired ∧ d.selected = {} :=
  decide_single reg (restoredNic worker.published.nic) single {} _ {} workload

/-! Calls on the registry of a process. -/

/-- The authority is current, and these NICs and residencies are stored. -/
structure Serves (auth : Authority) (nics : Std.ExtTreeMap NicId NicRecord)
    (residencies : List ResidencyRecord) (s : NicRegistry) : Prop where
  current : s.Authorised auth
  nics : s.nics = nics
  residencies : s.residencies = residencies

section
variable {s : NicRegistry} {auth : Authority} {nics : Std.ExtTreeMap NicId NicRecord}
  {residencies : List ResidencyRecord} {nic old : NicRecord} {worker : WorkerId} {boot : WorkerBootId}

/-- A new registry with one registered worker. -/
def joined (epoch : CoordinatorEpoch) (worker : WorkerId) (boot : WorkerBootId) : NicRegistry :=
  { epoch, workers := (∅ : Std.ExtTreeMap WorkerId WorkerHandle).insert worker ⟨worker, boot⟩ }

theorem Serves.noted (serves : Serves auth nics residencies s) (worker : WorkerId) (id : NicId) :
    Serves auth nics residencies (notePublisher worker id s) :=
  ⟨serves.current, serves.nics, serves.residencies⟩

/-- A new NIC, or a newer one, is stored. -/
theorem Serves.wrote (serves : Serves auth nics residencies s) (nic : NicRecord)
    (valid : nic.id.valid = true)
    (room : nics.size < NicRegistry.kMaxNics)
    (newer : ∀ old, nics[nic.id]? = some old → old.generation < nic.generation)
    (first : nics[nic.id]? = none → nic.generation.valid = true) :
    ∃ t, perform (registerNic nic auth) s = (.ok nic.generation, t) ∧
      Serves auth (nics.insert nic.id { nic with freshness := 0 }) residencies t := by
  obtain rfl := serves.nics
  refine ⟨_, (registerNic_passed serves.current valid room).trans (perform_write newer first), ?_⟩
  exact ⟨serves.current, rfl, serves.residencies⟩

/-- The stored NIC changes nothing. -/
theorem Serves.repeated (serves : Serves auth nics residencies s) (valid : nic.id.valid = true)
    (room : nics.size < NicRegistry.kMaxNics) (stored : nics[nic.id]? = some old)
    (level : nic.generation = old.generation) (same : nicEqual nic old = true) :
    ∃ t, perform (registerNic nic auth) s = (.ok nic.generation, t) ∧
      Serves auth nics residencies t := by
  obtain rfl := serves.nics
  exact ⟨_, (registerNic_passed serves.current valid room).trans (perform_duplicate stored level same),
    serves.noted auth.worker nic.id⟩

end

/-! The statements of a process. -/

section
variable {α β : Type} {method : RegistryM α} {running : Running} {value : α} {error : ResidencyError}
  {registry : NicRegistry}

end

/-! The first coordinator. -/

theorem signSafe_published : SignSafe publishedName.length := by decide

theorem signSafe_zero : SignSafe 0 := by decide

theorem firstState_restorable (a : Worker) : Restorable (firstState a.published) where
  fits :=
    { formatVersion := rfl
      nics := List.forall_mem_singleton.mpr
        { id := rfl
          osName := length_publishedName.trans_le (by omega)
          osDescription := Nat.zero_le _
          sources := Nat.le_of_ble_eq_true rfl
          capabilitySources := Nat.zero_le _ }
      nicsDistinct := List.nodup_singleton _
      nicCount := Nat.le_of_ble_eq_true rfl
      gpus := nofun
      gpusDistinct := List.nodup_nil
      gpuCount := Nat.zero_le _
      history := List.forall_mem_singleton.mpr (Nat.zero_le _)
      historyCount := Nat.le_of_ble_eq_true rfl }
  safe :=
    { nics := List.forall_mem_singleton.mpr
        { osName := signSafe_published
          osDescription := signSafe_zero
          segment := signSafe_zero
          vendorId := signSafe_zero
          deviceId := signSafe_zero
          subsystemVendorId := signSafe_zero
          subsystemId := signSafe_zero }
      gpus := nofun
      history := List.forall_mem_singleton.mpr signSafe_zero }

/-- The file of the state gives the NIC back without its readiness, and the residency as
history. -/
theorem firstState_recovered (routine : SortRoutine) (a : Worker) :
    ∃ file loaded, save routine (firstState a.published) = .ok file ∧
      load file = .ok loaded ∧ loaded.epoch = a.epoch ∧
      loaded.nics = [restoredNic a.published.nic] ∧
      loaded.history = [restoredHistory (firstResidency a.published)] := by
  have restorable := firstState_restorable a
  obtain ⟨file, written, loads⟩ :=
    loads_reread routine restorable.fits.writable restorable.fits.admissible restorable.safe.lengths
  rw [rereadState_of_safe routine restorable.safe] at loads
  have restores := restores_restored routine (firstState a.published)
  exact ⟨file, _, written, loads, restores.epoch, List.perm_singleton.mp restores.nics,
    List.perm_singleton.mp restores.history⟩

/-- What the results hold. -/
def Reports (results : Results) (lines : List (String × String)) : Prop :=
  ∀ line ∈ lines, results[line.1]? = some line.2

section
variable {report : Disk → Results → Disk} {disk : Disk} {results : Results} {epoch : CoordinatorEpoch}
  {rest : RunningM Unit} {left : Running} {error : ResidencyError}

end

/-- The first coordinator, on the frame of a worker that was killed. -/
def first (routine : SortRoutine) (a : Worker) : Process :=
  runFirst routine { workerA := a.frame.toOption }

/-- The worker is served: its NIC is selected, and the state is in its file. -/
structure Authoritative (routine : SortRoutine) (a : Worker) (process : Process) : Prop where
  blocked : process.blocked = true
  left : ∃ file notes, save routine (firstState a.published) = .ok file ∧
    process.disk = { workerA := a.frame.toOption, state := some file, firstResult := some notes } ∧
    Reports notes
      [("decision", "RESIDENCY_ALLOWED"), ("selected", a.published.nic.id.str), ("persisted", "1"),
        ("authoritative", "1")]

/-- Another line changes none of these. -/
theorem Reports.noted {results : Results} {lines : List (String × String)} {key value : String}
    (reports : Reports results lines) (other : key ∉ lines.map Prod.fst) :
    Reports (results.insert key value) lines := by
  intro line member
  have different : key ≠ line.1 := by
    rintro rfl
    exact other (List.mem_map_of_mem member)
  rw [Std.ExtTreeMap.getElem?_insert, if_neg (by simp [different])]
  exact reports line member

/-- The old incarnation is refused exactly when the new worker has its id and another boot
id. -/
def takeover (a b : Worker) : Option ErrorCode :=
  if a.id = b.id ∧ a.boot ≠ b.boot then some .ownerConflict else none

theorem nicEqual_restored {a b : Worker} (level : b.generation = a.generation) :
    nicEqual b.published.nic (restoredNic a.published.nic) = true := by
  have same : restoredNic a.published.nic = { restoredNic b.published.nic with generation := b.generation } := by
    rw [level]
    rfl
  rw [same]
  simp [nicEqual, restoredNic, PciAddress.equal, CapabilitySet.equal]
  rfl

/-- The stored NIC is the recovered one until it is renewed, which a higher generation does. -/
theorem renewed (a b : Worker) (notOlder : ¬b.generation < a.generation) {auth : Authority}
    {s : NicRegistry}
    (serves : Serves auth ((∅ : Std.ExtTreeMap NicId NicRecord).insert a.published.nic.id
      (restoredNic a.published.nic)) [] s) :
    ∃ t nics, perform (registerNic b.published.nic auth) s = (.ok b.generation, t) ∧
      Serves auth nics [] t ∧ b.published.nic.id ∈ nics ∧
      ∀ reg : RegistrySnapshot, reg.nics = nics → ∀ workload,
        let d := ({} : ResidencyPolicy).decide reg {} b.published.nic.numaNode {} workload
        (d.overall.allowed && d.selected == b.published.nic.id) = decide (a.generation < b.generation) := by
  have stored : ((∅ : Std.ExtTreeMap NicId NicRecord).insert a.published.nic.id
      (restoredNic a.published.nic))[b.published.nic.id]? = some (restoredNic a.published.nic) :=
    Std.ExtTreeMap.getElem?_insert_self
  have room : ((∅ : Std.ExtTreeMap NicId NicRecord).insert a.published.nic.id
      (restoredNic a.published.nic)).size < NicRegistry.kMaxNics := by
    simp [NicRegistry.kMaxNics, Std.ExtTreeMap.size_insert]
  by_cases newer : a.generation < b.generation
  · have written : ((∅ : Std.ExtTreeMap NicId NicRecord).insert a.published.nic.id
        (restoredNic a.published.nic)).insert b.published.nic.id
          { b.published.nic with freshness := 0 } =
        (∅ : Std.ExtTreeMap NicId NicRecord).insert b.published.nic.id
          { b.published.nic with freshness := 0 } := OrderedMap.insert_insert _ _
    obtain ⟨t, stores, serves⟩ := serves.wrote b.published.nic rfl room
      (fun old found => by
        rw [stored] at found
        rw [← Option.some.inj found]
        exact newer)
      (fun missing => by
        rw [stored] at missing
        cases missing)
    rw [written] at serves
    refine ⟨t, _, stores, serves, Std.ExtTreeMap.mem_insert_self, fun reg single workload => ?_⟩
    obtain ⟨overall, selected⟩ := decide_published b reg single workload
    dsimp only
    rw [overall, selected, beq_self_eq_true, decide_eq_true newer]
    rfl
  · have level : b.generation = a.generation := le_antisymm (not_lt.mp newer) (not_lt.mp notOlder)
    obtain ⟨t, stores, serves⟩ := serves.repeated rfl room stored level (nicEqual_restored level)
    refine ⟨t, _, stores, serves, Std.ExtTreeMap.mem_insert_self, fun reg single workload => ?_⟩
    obtain ⟨overall, -⟩ := decide_restored a reg single workload
    have pending : (({} : ResidencyPolicy).decide reg {} b.published.nic.numaNode {} workload).overall =
      .revalidationRequired := overall
    dsimp only
    rw [pending, decide_eq_false newer]
    rfl

/-- The old state in its file. -/
structure Recoverable (a : Worker) (disk : Disk) : Prop where
  state : ∃ file loaded, disk.state = some file ∧ load file = .ok loaded ∧
    loaded.epoch = a.epoch ∧ loaded.nics = [restoredNic a.published.nic] ∧
    loaded.history = [restoredHistory (firstResidency a.published)]

theorem Recoverable.beside {a : Worker} {disk : Disk} (recoverable : Recoverable a disk)
    (workerB : Option Bytes) : Recoverable a { disk with workerB } := ⟨recoverable.state⟩

/-- The restarted coordinator, after the worker and the first coordinator were killed and a new
worker has left its frame. -/
def restarted (routine : SortRoutine) (a b : Worker) : Process :=
  runRestart { (first routine a).disk with workerB := b.frame.toOption }

theorem Authoritative.recoverable {routine : SortRoutine} {a : Worker} {process : Process}
    (served : Authoritative routine a process) : Recoverable a process.disk := by
  obtain ⟨file, notes, written, disk, -⟩ := served.left
  obtain ⟨saved, loaded, wrote, loads, recovered⟩ := firstState_recovered routine a
  obtain rfl : file = saved := Except.ok.inj (written.symm.trans wrote)
  refine ⟨file, loaded, ?_, loads, recovered⟩
  rw [disk]

end NicResidency.ProcessRestart

import NicResidency.FileFormat

/-!
Saving and loading. The reader widens the low byte of a 16-bit number as a signed
character, so it gives only some of these numbers. A state that fits into a file
is restored from it exactly when all its 16-bit numbers and string lengths are
among them.
-/

namespace NicResidency.PersistenceRoundTrip
open ByteStream ByteStream.Reader PersistenceStore FileFormat

/-! The 16-bit numbers that the reader gives. -/

/-- The low byte is no negative character, or the high byte has all bits set. -/
def SignSafe (v : Nat) : Prop := v % 256 < 128 ∨ v / 256 = 255

instance (v : Nat) : Decidable (SignSafe v) := inferInstanceAs (Decidable (_ ∨ _))

/-- What widening a signed character puts above its byte. -/
def extension (low : Nat) : Nat := if low < 128 then 0 else 255

theorem toNat_widened (low : UInt8) :
    low.toInt8.toInt16.toUInt16.toNat = low.toNat + 256 * extension low.toNat := by
  have all : ∀ n : Fin 256, (UInt8.ofNat n).toInt8.toInt16.toUInt16.toNat =
      n + 256 * extension n := by decide +kernel
  have found := all ⟨low.toNat, low.toNat_lt⟩
  rwa [UInt8.ofNat_toNat] at found

theorem or_bytes {low : Nat} (bound : low < 256) (extension high : Nat) :
    (low + 256 * extension) ||| (256 * high) = low + 256 * (extension ||| high) := by
  have lower := @Nat.or_mod_two_pow (low + 256 * extension) (256 * high) 8
  have upper := @Nat.or_div_two_pow (low + 256 * extension) (256 * high) 8
  have zero : 256 * high % 2 ^ 8 = 0 := by omega
  have keep : (low + 256 * extension) % 2 ^ 8 = low := by omega
  have first : (low + 256 * extension) / 2 ^ 8 = extension := by omega
  have second : 256 * high / 2 ^ 8 = high := by omega
  rw [zero, keep, Nat.or_zero] at lower
  rw [first, second] at upper
  omega

theorem toNat_joinU16 (low high : UInt8) :
    (joinU16 low high).toNat = low.toNat + 256 * (extension low.toNat ||| high.toNat) := by
  have shifted : (high.toUInt16 <<< 8).toNat = 256 * high.toNat := by
    have bound := high.toNat_lt
    rw [UInt16.toNat_shiftLeft, UInt8.toNat_toUInt16, Nat.shiftLeft_eq]
    change high.toNat * 2 ^ 8 % 2 ^ 16 = _
    omega
  rw [joinU16, UInt16.toNat_or, toNat_widened, shifted, or_bytes low.toNat_lt]

theorem extended_or {high : Nat} (bound : high < 256) : 255 ||| high = 255 := by
  have all : ∀ n : Fin 256, 255 ||| n.val = 255 := by decide +kernel
  exact all ⟨high, bound⟩

theorem signSafe_joinU16 (low high : UInt8) : SignSafe (joinU16 low high).toNat := by
  have lowBound := low.toNat_lt
  rw [toNat_joinU16, SignSafe, extension]
  split
  next positive =>
    left
    omega
  next =>
    right
    rw [extended_or high.toNat_lt]
    omega

theorem joinU16_of_signSafe {v : UInt16} (safe : SignSafe v.toNat) :
    joinU16 (UInt8.ofNat v.toNat) (UInt8.ofNat (v.toNat / 256)) = v := by
  have bound := v.toNat_lt
  apply UInt16.toNat_inj.mp
  rw [toNat_joinU16, UInt8.toNat_ofNat', UInt8.toNat_ofNat', extension]
  split
  next =>
    rw [Nat.zero_or]
    omega
  next negative =>
    have high : v.toNat / 256 = 255 := safe.resolve_left (by omega)
    rw [extended_or (by omega)]
    omega

/-- What the reader makes of a written number. -/
def reread (v : UInt16) : UInt16 := joinU16 (UInt8.ofNat v.toNat) (UInt8.ofNat (v.toNat / 256))

theorem half_written (v : UInt16) : leBytes 2 v.toNat ∈ half (reread v) := ⟨_, _, rfl, rfl⟩

theorem reread_of_signSafe {v : UInt16} (safe : SignSafe v.toNat) : reread v = v :=
  joinU16_of_signSafe safe

theorem gives_u16 : u16.Gives fun v => SignSafe v.toNat := by
  intro chunk value reads
  obtain ⟨low, high, -, rfl⟩ := reads_u16.mp reads
  exact signSafe_joinU16 low high

/-- A string is written, in a form that is read when its length is. -/
theorem text_written {s : Bytes} (fits : s.length ≤ 0xFFFF) (safe : SignSafe s.length) :
    ∃ bytes, writeStr s = .ok bytes ∧ bytes ∈ text s := by
  have count : (UInt16.ofNat s.length).toNat = s.length :=
    (UInt16.toNat_ofNat' ..).trans (Nat.mod_eq_of_lt (by omega))
  have length : leBytes 2 s.length ∈ half (UInt16.ofNat s.length) := by
    have written := half_written (UInt16.ofNat s.length)
    rwa [reread_of_signSafe (by rwa [count]), count] at written
  exact ⟨_, if_neg (by omega), UInt16.ofNat s.length, count, Language.append_mem_mul length rfl⟩

theorem gives_str : str.Gives fun s => SignSafe s.length :=
  gives_u16.bind fun n safe chunk s reads => by
    rwa [(reads_take.mp reads).2]

/-! The parts of a record. -/

/-- The sources of a provenance are written one after the other. -/
theorem sources_encoded (p : Provenance) :
    List.Forall₂ (fun source encoding => encoding = [ByteEnum.toByte source]) p.sources
      (p.sources.map fun source => [ByteEnum.toByte source]) := by
  rw [List.forall₂_map_right_iff, List.forall₂_same]
  exact fun _ _ => rfl

theorem sources_flat (p : Provenance) : p.sources.map ByteEnum.toByte =
    (p.sources.map fun source => [ByteEnum.toByte source]).flatten := by
  rw [← List.flatMap_def, List.map_eq_flatMap]

theorem provenance_written (p : Provenance) : writeProvenance p ∈ provenance p := by
  have each : List.Forall₂ (fun source encoding => encoding ∈ enum source) p.sources
      (p.sources.map fun source => [ByteEnum.toByte source]) := sources_encoded p
  rw [writeProvenance, List.append_assoc, sources_flat]
  exact mem_prod_cons rfl <| mem_prod_last <| Language.append_mem_mul rfl (flatten_mem_prod each)

theorem capability_written (c : CapabilitySet) : writeCapability c ∈ capability c := by
  unfold writeCapability
  simp only [List.append_assoc]
  refine mem_prod_cons rfl <| mem_prod_cons ⟨_, rfl, ?_⟩ <| mem_prod_last (provenance_written _)
  simp [flag_flagWord, List.range_succ]

def rereadPci (p : PciAddress) : PciAddress := { p with segment := reread p.segment }

theorem pci_written (p : PciAddress) : writePci p ∈ pci (rereadPci p) := by
  unfold writePci
  simp only [List.append_assoc]
  exact mem_prod_cons (half_written _) <| mem_prod_cons rfl <| mem_prod_cons rfl <|
    mem_prod_last rfl

theorem gives_readPci : readPci.Gives fun p => SignSafe p.segment.toNat :=
  gives_u16.bind fun _ safe => gives_bind fun _ => gives_bind fun _ => gives_bind fun _ =>
    gives_pure safe

/-! The three kinds of records. -/

/-- The fields of a NIC record that depend on the widening. -/
structure NicSafe (n : NicRecord) : Prop where
  osName : SignSafe n.osName.length
  osDescription : SignSafe n.osDescription.length
  segment : SignSafe n.pci.segment.toNat
  vendorId : SignSafe n.vendorId.toNat
  deviceId : SignSafe n.deviceId.toNat
  subsystemVendorId : SignSafe n.subsystemVendorId.toNat
  subsystemId : SignSafe n.subsystemId.toNat

structure GpuSafe (g : GpuRecord) : Prop where
  name : SignSafe g.name.length
  segment : SignSafe g.pci.segment.toNat

def HistorySafe (r : ResidencyRecord) : Prop := SignSafe r.explanation.length

/-- A NIC record that fits into the store. -/
structure NicFits (n : NicRecord) : Prop where
  id : n.id.valid = true
  osName : n.osName.length ≤ 0xFFFF
  osDescription : n.osDescription.length ≤ 0xFFFF
  sources : n.provenance.sources.length ≤ 64
  capabilitySources : n.capability.provenance.sources.length ≤ 64

structure GpuFits (g : GpuRecord) : Prop where
  id : g.id.valid = true
  name : g.name.length ≤ 0xFFFF
  sources : g.provenance.sources.length ≤ 64

/-- A restored NIC: its dynamic fields are reset. -/
def restoredNic (n : NicRecord) : NicRecord :=
  { n with
    linkState := .unknown
    health := .unknown
    lifecycle := .revalidationRequired
    freshness := 0 }

def restoredGpu (g : GpuRecord) : GpuRecord := { g with freshness := 0 }

/-- A restored history record: the fields that are written, and defaults. -/
def restoredHistory (r : ResidencyRecord) : ResidencyRecord :=
  { id := r.id
    generation := r.generation
    nic := r.nic
    function := r.function
    port := r.port
    queue := r.queue
    targetGpu := r.targetGpu
    targetNuma := r.targetNuma
    targetEndpoint := r.targetEndpoint
    state := r.state
    topologyGeneration := r.topologyGeneration
    ownership := r.ownership
    ownerWorker := r.ownerWorker
    ownerBoot := r.ownerBoot
    epoch := r.epoch
    lifecycle := r.lifecycle
    explanation := r.explanation }

/-- What the reader makes of a written record, once it finds the ends of its strings. -/
def rereadNic (n : NicRecord) : NicRecord :=
  { restoredNic n with
    pci := rereadPci n.pci
    vendorId := reread n.vendorId
    deviceId := reread n.deviceId
    subsystemVendorId := reread n.subsystemVendorId
    subsystemId := reread n.subsystemId }

def rereadGpu (g : GpuRecord) : GpuRecord := { restoredGpu g with pci := rereadPci g.pci }

theorem rereadNic_of_safe {n : NicRecord} (safe : NicSafe n) : rereadNic n = restoredNic n := by
  simp only [rereadNic, rereadPci, reread_of_signSafe safe.segment, reread_of_signSafe safe.vendorId,
    reread_of_signSafe safe.deviceId, reread_of_signSafe safe.subsystemVendorId,
    reread_of_signSafe safe.subsystemId, restoredNic]

theorem rereadGpu_of_safe {g : GpuRecord} (safe : GpuSafe g) : rereadGpu g = restoredGpu g := by
  simp only [rereadGpu, rereadPci, reread_of_signSafe safe.segment, restoredGpu]

theorem nic_written {n : NicRecord} (nameFits : n.osName.length ≤ 0xFFFF)
    (descriptionFits : n.osDescription.length ≤ 0xFFFF) (nameSafe : SignSafe n.osName.length)
    (descriptionSafe : SignSafe n.osDescription.length) :
    ∃ bytes, writeNic n = .ok bytes ∧ bytes ∈ nic (rereadNic n) := by
  obtain ⟨osName, wroteName, name⟩ := text_written nameFits nameSafe
  obtain ⟨osDescription, wroteDescription, description⟩ := text_written descriptionFits descriptionSafe
  simp only [writeNic, wroteName, wroteDescription]
  refine ⟨_, rfl, ?_⟩
  simp only [List.append_assoc]
  exact mem_prod_cons rfl <| mem_prod_cons rfl <| mem_prod_cons name <| mem_prod_cons description <|
    mem_prod_cons (pci_written _) <| mem_prod_cons (half_written _) <|
    mem_prod_cons (half_written _) <| mem_prod_cons (half_written _) <|
    mem_prod_cons (half_written _) <| mem_prod_cons rfl <| mem_prod_cons rfl <|
    mem_prod_cons rfl <| mem_prod_cons (capability_written _) <| mem_prod_cons rfl <|
    mem_prod_last (provenance_written _)

theorem gpu_written {g : GpuRecord} (fits : g.name.length ≤ 0xFFFF) (safe : SignSafe g.name.length) :
    ∃ bytes, writeGpu g = .ok bytes ∧ bytes ∈ gpu (rereadGpu g) := by
  obtain ⟨name, wrote, spelled⟩ := text_written fits safe
  simp only [writeGpu, wrote]
  refine ⟨_, rfl, ?_⟩
  simp only [List.append_assoc]
  have verified : [if g.cudaVerified then (1 : UInt8) else 0] ∈ truth g.cudaVerified := by
    refine ⟨_, rfl, ?_⟩
    cases g.cudaVerified <;> rfl
  exact mem_prod_cons rfl <| mem_prod_cons rfl <| mem_prod_cons spelled <|
    mem_prod_cons (pci_written _) <| mem_prod_cons rfl <| mem_prod_cons verified <|
    mem_prod_cons rfl <| mem_prod_last (provenance_written _)

theorem history_written {r : ResidencyRecord} (fits : r.explanation.length ≤ 0xFFFF)
    (safe : HistorySafe r) :
    ∃ bytes, writeHistory r = .ok bytes ∧ bytes ∈ history (restoredHistory r) := by
  obtain ⟨explanation, wrote, spelled⟩ := text_written fits safe
  simp only [writeHistory, wrote]
  refine ⟨_, rfl, ?_⟩
  simp only [List.append_assoc]
  exact mem_prod_cons rfl <| mem_prod_cons rfl <| mem_prod_cons rfl <| mem_prod_cons rfl <|
    mem_prod_cons rfl <| mem_prod_cons rfl <| mem_prod_cons rfl <| mem_prod_cons rfl <|
    mem_prod_cons rfl <| mem_prod_cons rfl <| mem_prod_cons rfl <| mem_prod_cons rfl <|
    mem_prod_cons rfl <| mem_prod_cons rfl <| mem_prod_cons rfl <| mem_prod_cons rfl <|
    mem_prod_last spelled

/-! Whatever the file, a record that is read is safe. -/

theorem gives_readNic : readNic.Gives NicSafe :=
  gives_bind fun _ => gives_bind fun _ => gives_str.bind fun _ osName =>
  gives_str.bind fun _ osDescription => gives_readPci.bind fun _ segment =>
  gives_u16.bind fun _ vendorId => gives_u16.bind fun _ deviceId =>
  gives_u16.bind fun _ subsystemVendorId => gives_u16.bind fun _ subsystemId =>
  gives_bind fun _ => gives_bind fun _ => gives_bind fun _ => gives_bind fun _ =>
  gives_bind fun _ => gives_bind fun _ => gives_bind fun _ => gives_bind fun _ =>
  gives_pure { osName, osDescription, segment, vendorId, deviceId, subsystemVendorId, subsystemId }

theorem gives_readGpu : readGpu.Gives GpuSafe :=
  gives_bind fun _ => gives_bind fun _ => gives_str.bind fun _ name =>
  gives_readPci.bind fun _ segment => gives_bind fun _ => gives_bind fun _ => gives_bind fun _ =>
  gives_bind fun _ => gives_pure { name, segment }

theorem gives_readHistory : readHistory.Gives HistorySafe :=
  gives_bind fun _ => gives_bind fun _ => gives_bind fun _ => gives_bind fun _ =>
  gives_bind fun _ => gives_bind fun _ => gives_bind fun _ => gives_bind fun _ =>
  gives_bind fun _ => gives_bind fun _ => gives_bind fun _ => gives_bind fun _ =>
  gives_bind fun _ => gives_bind fun _ => gives_bind fun _ => gives_bind fun _ =>
  gives_str.bind fun _ safe => gives_pure safe

/-! Lists of records. -/

/-- Records that are few enough are written, one after the other. -/
theorem records_written {α : Type} {limit : Nat} {write : α → Except ResidencyError Bytes}
    {spelling : α → Language UInt8} {image : α → α} {records : List α} (tooMany : String)
    (few : records.length ≤ limit)
    (each : ∀ record ∈ records, ∃ bytes, write record = .ok bytes ∧ bytes ∈ spelling (image record)) :
    ∃ bytes, writeRecords limit tooMany write records = .ok bytes ∧
      bytes ∈ listed spelling (records.map image) := by
  have all : ∃ written, records.mapM write = .ok written ∧
      List.Forall₂ (fun value encoding => encoding ∈ spelling value) (records.map image) written := by
    clear few
    induction records with
    | nil => exact ⟨[], rfl, .nil⟩
    | cons record records ih =>
      obtain ⟨⟨bytes, wrote, spelled⟩, others⟩ := List.forall_mem_cons.mp each
      obtain ⟨written, wroteAll, spelledAll⟩ := ih others
      refine ⟨bytes :: written, ?_, .cons spelled spelledAll⟩
      rw [List.mapM_cons, wrote, wroteAll]
      rfl
  obtain ⟨written, wrote, spelled⟩ := all
  refine ⟨leBytes 4 (records.map image).length ++ written.flatten, ?_,
    Language.append_mem_mul rfl (flatten_mem_prod spelled)⟩
  rw [writeRecords, if_neg (by omega), wrote, List.length_map]
  rfl

/-! Whole states. -/

/-- Every 16-bit number and string length of the state is one that the reader
gives. -/
structure Safe (st : PersistentState) : Prop where
  nics : ∀ n ∈ st.nics, NicSafe n
  gpus : ∀ g ∈ st.gpus, GpuSafe g
  history : ∀ r ∈ st.history, HistorySafe r

/-- The counts and the string lengths that the writer takes. -/
structure Writable (st : PersistentState) : Prop where
  nics : ∀ n ∈ st.nics, n.osName.length ≤ 0xFFFF ∧ n.osDescription.length ≤ 0xFFFF
  nicCount : st.nics.length ≤ kMaxNics
  gpus : ∀ g ∈ st.gpus, g.name.length ≤ 0xFFFF
  gpuCount : st.gpus.length ≤ kMaxGpus
  history : ∀ r ∈ st.history, r.explanation.length ≤ 0xFFFF
  historyCount : st.history.length ≤ kMaxHistory

/-- The reader finds the end of every string. -/
structure LengthsSafe (st : PersistentState) : Prop where
  nics : ∀ n ∈ st.nics, SignSafe n.osName.length ∧ SignSafe n.osDescription.length
  gpus : ∀ g ∈ st.gpus, SignSafe g.name.length
  history : ∀ r ∈ st.history, HistorySafe r

/-- What the reader checks and the writer does not. -/
structure Admissible (st : PersistentState) : Prop where
  formatVersion : st.formatVersion ≤ kPersistenceFormatVersion
  nics : ∀ n ∈ st.nics, n.id.valid = true ∧ n.provenance.sources.length ≤ 64 ∧
    n.capability.provenance.sources.length ≤ 64
  nicsDistinct : (st.nics.map (·.id)).Nodup
  gpus : ∀ g ∈ st.gpus, g.id.valid = true ∧ g.provenance.sources.length ≤ 64
  gpusDistinct : (st.gpus.map (·.id)).Nodup

theorem Safe.lengths {st : PersistentState} (safe : Safe st) : LengthsSafe st where
  nics n member := ⟨(safe.nics n member).osName, (safe.nics n member).osDescription⟩
  gpus g member := (safe.gpus g member).name
  history := safe.history

/-- A state of the current format that fits into the store. -/
structure Persistable (st : PersistentState) : Prop where
  formatVersion : st.formatVersion = kPersistenceFormatVersion
  nics : ∀ n ∈ st.nics, NicFits n
  nicsDistinct : (st.nics.map (·.id)).Nodup
  nicCount : st.nics.length ≤ kMaxNics
  gpus : ∀ g ∈ st.gpus, GpuFits g
  gpusDistinct : (st.gpus.map (·.id)).Nodup
  gpuCount : st.gpus.length ≤ kMaxGpus
  history : ∀ r ∈ st.history, r.explanation.length ≤ 0xFFFF
  historyCount : st.history.length ≤ kMaxHistory

theorem Persistable.writable {st : PersistentState} (fits : Persistable st) : Writable st where
  nics n member := ⟨(fits.nics n member).osName, (fits.nics n member).osDescription⟩
  nicCount := fits.nicCount
  gpus g member := (fits.gpus g member).name
  gpuCount := fits.gpuCount
  history := fits.history
  historyCount := fits.historyCount

theorem Persistable.admissible {st : PersistentState} (fits : Persistable st) : Admissible st where
  formatVersion := by
    rw [fits.formatVersion]
    exact UInt32.le_refl _
  nics n member :=
    ⟨(fits.nics n member).id, (fits.nics n member).sources, (fits.nics n member).capabilitySources⟩
  nicsDistinct := fits.nicsDistinct
  gpus g member := ⟨(fits.gpus g member).id, (fits.gpus g member).sources⟩
  gpusDistinct := fits.gpusDistinct

/-- The loaded state is the saved one with the dynamic fields reset, and its lists
are sorted by id. -/
structure Restores (st loaded : PersistentState) : Prop where
  formatVersion : loaded.formatVersion = st.formatVersion
  epoch : loaded.epoch = st.epoch
  policy : loaded.policy = st.policy
  nics : loaded.nics.Perm (st.nics.map restoredNic)
  nicsSorted : loaded.nics.Pairwise fun a b => a.id.value ≤ b.id.value
  gpus : loaded.gpus.Perm (st.gpus.map restoredGpu)
  gpusSorted : loaded.gpus.Pairwise fun a b => a.id.value ≤ b.id.value
  history : loaded.history.Perm (st.history.map restoredHistory)
  historySorted : loaded.history.Pairwise fun a b => a.id.value ≤ b.id.value

/-- What is loaded from the file of a state that is saved with a sort routine. -/
def restored (routine : SortRoutine) (st : PersistentState) : PersistentState :=
  { st with
    nics := (routine.sort (·.id.value) st.nics).map restoredNic
    gpus := (routine.sort (·.id.value) st.gpus).map restoredGpu
    history := (routine.sort (·.id.value) st.history).map restoredHistory }

theorem restores_restored (routine : SortRoutine) (st : PersistentState) :
    Restores st (restored routine st) where
  formatVersion := rfl
  epoch := rfl
  policy := rfl
  nics := (routine.perm ..).map restoredNic
  nicsSorted := List.pairwise_map.mpr (routine.sorted (·.id.value) st.nics)
  gpus := (routine.perm ..).map restoredGpu
  gpusSorted := List.pairwise_map.mpr (routine.sorted (·.id.value) st.gpus)
  history := (routine.perm ..).map restoredHistory
  historySorted := List.pairwise_map.mpr (routine.sorted (·.id.value) st.history)

/-- What the reader makes of the file of a state, once it finds the ends of the strings. -/
def rereadState (routine : SortRoutine) (st : PersistentState) : PersistentState :=
  { restored routine st with
    nics := (routine.sort (·.id.value) st.nics).map rereadNic
    gpus := (routine.sort (·.id.value) st.gpus).map rereadGpu }

theorem rereadState_of_safe (routine : SortRoutine) {st : PersistentState} (safe : Safe st) :
    rereadState routine st = restored routine st := by
  have nics : (routine.sort (·.id.value) st.nics).map rereadNic =
      (routine.sort (·.id.value) st.nics).map restoredNic := by
    apply List.map_congr_left
    intro n member
    exact rereadNic_of_safe (safe.nics n ((routine.perm ..).mem_iff.mp member))
  have gpus : (routine.sort (·.id.value) st.gpus).map rereadGpu =
      (routine.sort (·.id.value) st.gpus).map restoredGpu := by
    apply List.map_congr_left
    intro g member
    exact rereadGpu_of_safe (safe.gpus g ((routine.perm ..).mem_iff.mp member))
  rw [rereadState, nics, gpus, restored]

theorem state_written (routine : SortRoutine) {st : PersistentState} (fits : Writable st)
    (safe : LengthsSafe st) :
    ∃ bytes, serialize routine st = .ok bytes ∧ bytes ∈ payload (rereadState routine st) := by
  have nicsPerm := routine.perm (·.id.value) st.nics
  have gpusPerm := routine.perm (·.id.value) st.gpus
  have historyPerm := routine.perm (·.id.value) st.history
  obtain ⟨nics, wroteNics, nicsSpelled⟩ := records_written "NIC count exceeds persistence bound"
    (nicsPerm.length_eq.trans_le fits.nicCount) fun n listed =>
      have member := nicsPerm.mem_iff.mp listed
      nic_written (fits.nics n member).1 (fits.nics n member).2 (safe.nics n member).1
        (safe.nics n member).2
  obtain ⟨gpus, wroteGpus, gpusSpelled⟩ := records_written "GPU count exceeds persistence bound"
    (gpusPerm.length_eq.trans_le fits.gpuCount) fun g listed =>
      have member := gpusPerm.mem_iff.mp listed
      gpu_written (fits.gpus g member) (safe.gpus g member)
  obtain ⟨history, wroteHistory, historySpelled⟩ := records_written "history exceeds persistence bound"
    (historyPerm.length_eq.trans_le fits.historyCount) fun r listed =>
      have member := historyPerm.mem_iff.mp listed
      history_written (fits.history r member) (safe.history r member)
  simp only [serialize, wroteNics, wroteGpus, wroteHistory]
  refine ⟨_, rfl, ?_⟩
  simp only [List.append_assoc]
  have policy : leBytes 4 (policyFlags st.policy).toNat ∈ policyWord st.policy := by
    refine ⟨_, rfl, ?_⟩
    simp [policyFlags, flag_flagWord, List.range_succ]
  exact mem_prod_cons rfl <| mem_prod_cons rfl <| mem_prod_cons policy <| mem_prod_cons rfl <|
    mem_prod_cons nicsSpelled <| mem_prod_cons gpusSpelled <| mem_prod_last historySpelled

/-- What is read of an admissible state passes the checks of the reader. -/
theorem checked_reread (routine : SortRoutine) {st : PersistentState} (fits : Writable st)
    (admissible : Admissible st) : Checked (rereadState routine st) := by
  have nicsPerm := routine.perm (·.id.value) st.nics
  have gpusPerm := routine.perm (·.id.value) st.gpus
  have historyPerm := routine.perm (·.id.value) st.history
  constructor
  · exact admissible.formatVersion
  · simpa only [rereadState, List.length_map, nicsPerm.length_eq] using fits.nicCount
  · refine List.forall_mem_map.mpr fun n member => ?_
    obtain ⟨id, sources, capabilitySources⟩ := admissible.nics n (nicsPerm.mem_iff.mp member)
    exact ⟨⟨sources, capabilitySources, rfl, rfl, rfl, rfl⟩, id⟩
  · rw [rereadState, List.map_map]
    exact (nicsPerm.map _).nodup_iff.mpr admissible.nicsDistinct
  · simpa only [rereadState, List.length_map, gpusPerm.length_eq] using fits.gpuCount
  · refine List.forall_mem_map.mpr fun g member => ?_
    obtain ⟨id, sources⟩ := admissible.gpus g (gpusPerm.mem_iff.mp member)
    exact ⟨⟨sources, rfl⟩, id⟩
  · rw [rereadState, List.map_map]
    exact (gpusPerm.map _).nodup_iff.mpr admissible.gpusDistinct
  · simpa only [rereadState, restored, List.length_map, historyPerm.length_eq] using fits.historyCount
  · exact List.forall_mem_map.mpr fun _ _ => ⟨rfl, rfl, rfl, rfl, rfl, rfl⟩

/-- The file of an admissible state with safe lengths loads. -/
theorem loads_reread (routine : SortRoutine) {st : PersistentState} (fits : Writable st)
    (admissible : Admissible st) (safe : LengthsSafe st) :
    ∃ file, save routine st = .ok file ∧ load file = .ok (rereadState routine st) := by
  obtain ⟨body, wrote, spelled⟩ := state_written routine fits safe
  refine ⟨kMagicBox ++ body ++ leBytes 8 (fnv1a body).toNat, ?_, ?_⟩
  · rw [save, wrote]
    rfl
  · exact load_eq_ok_iff.mpr ⟨⟨body, spelled, rfl⟩, checked_reread routine fits admissible⟩

theorem gives_readState : readState.Gives Safe :=
  gives_bind fun _ => gives_bind fun _ => gives_bind fun _ => gives_bind fun _ =>
  gives_bind fun _ =>
  (gives_counted (fun seen => gives_readNic.distinct _ _ _ _ seen) []).bind fun _ nics =>
  (gives_counted (fun seen => gives_readGpu.distinct _ _ _ _ seen) []).bind fun _ gpus =>
  (gives_counted (fun _ => gives_readHistory) ()).bind fun _ history =>
  gives_pure { nics, gpus, history }

/-! The file. -/

/-- The file of the state loads, and what is loaded restores the state. -/
def RoundTrips (routine : SortRoutine) (st : PersistentState) : Prop :=
  ∃ file loaded, save routine st = .ok file ∧ load file = .ok loaded ∧ Restores st loaded

theorem safe_of_restores {st loaded : PersistentState} (safe : Safe loaded)
    (restores : Restores st loaded) : Safe st where
  nics n member := by
    have kept := safe.nics _ (restores.nics.mem_iff.mpr (List.mem_map_of_mem member))
    exact ⟨kept.osName, kept.osDescription, kept.segment, kept.vendorId, kept.deviceId,
      kept.subsystemVendorId, kept.subsystemId⟩
  gpus g member := by
    have kept := safe.gpus _ (restores.gpus.mem_iff.mpr (List.mem_map_of_mem member))
    exact ⟨kept.name, kept.segment⟩
  history r member := by
    have kept := safe.history (restoredHistory r)
      (restores.history.mem_iff.mpr (List.mem_map_of_mem member))
    exact kept

theorem safe_of_roundTrips {routine : SortRoutine} {st : PersistentState}
    (trips : RoundTrips routine st) : Safe st := by
  obtain ⟨file, loaded, -, read, restores⟩ := trips
  obtain ⟨body, -, read⟩ := written_of_load read
  exact safe_of_restores (gives_readState body loaded ((whole_eq_ok_iff _).mp read)) restores

/-- A state that fits into the store is restored from its file exactly when the
reader gives all its 16-bit numbers and string lengths. -/
theorem roundTrips_iff (routine : SortRoutine) (st : PersistentState) (fits : Persistable st) :
    RoundTrips routine st ↔ Safe st := by
  constructor
  · exact safe_of_roundTrips
  · intro safe
    obtain ⟨file, wrote, loads⟩ := loads_reread routine fits.writable fits.admissible safe.lengths
    rw [rereadState_of_safe routine safe] at loads
    exact ⟨file, restored routine st, wrote, loads, restores_restored routine st⟩

/-- Insertion sort, as one routine. -/
def insertion : SortRoutine where
  sort key values := values.insertionSort fun a b => key a ≤ key b
  perm key values := List.perm_insertionSort _ values
  sorted {α} key values := by
    have total : Std.Total fun a b : α => key a ≤ key b := ⟨fun a b => UInt64.le_total ..⟩
    have trans : IsTrans α fun a b => key a ≤ key b := ⟨fun a b c => UInt64.le_trans⟩
    exact List.pairwise_insertionSort _ values

/-- One NIC with a vendor id and one GPU with a name that the reader gives back. -/
def plainState : PersistentState :=
  { epoch := ⟨3⟩
    nics := [{ id := ⟨10⟩, generation := ⟨1⟩, vendorId := 0x1567, provenance := ⟨.real, [.pci]⟩ }]
    gpus := [{ id := ⟨20⟩, generation := ⟨1⟩, name := [71, 80, 85] }] }

theorem plainState_roundTrips : RoundTrips insertion plainState :=
  (roundTrips_iff insertion plainState
    { formatVersion := rfl
      nics := by
        intro n member
        obtain rfl := List.mem_singleton.mp member
        exact ⟨rfl, by decide, by decide, by decide, by decide⟩
      nicsDistinct := by decide
      nicCount := by decide
      gpus := by
        intro g member
        obtain rfl := List.mem_singleton.mp member
        exact ⟨rfl, by decide, by decide⟩
      gpusDistinct := by decide
      gpuCount := by decide
      history := fun _ member => nomatch member
      historyCount := by decide }).mpr
    { nics := by
        intro n member
        obtain rfl := List.mem_singleton.mp member
        exact ⟨by decide, by decide, by decide, by decide, by decide, by decide, by decide⟩
      gpus := by
        intro g member
        obtain rfl := List.mem_singleton.mp member
        exact ⟨by decide, by decide⟩
      history := fun _ member => nomatch member }

/-- The low byte of this vendor id is a negative character. -/
def negativeByteState : PersistentState :=
  { nics := [{ id := ⟨10⟩, generation := ⟨1⟩, vendorId := 0x10EC }] }

/-- The file loads, with another vendor id. -/
theorem negativeByteState_changed :
    ¬RoundTrips insertion negativeByteState ∧
    (((save insertion negativeByteState).toOption.bind fun file => (load file).toOption).map
      fun loaded => loaded.nics.map (·.vendorId)) = some [0xFFEC] := by
  constructor
  · intro trips
    have safe := ((safe_of_roundTrips trips).nics _ (List.mem_singleton.mpr rfl)).vendorId
    exact absurd safe (by decide)
  · decide +kernel

end NicResidency.PersistenceRoundTrip

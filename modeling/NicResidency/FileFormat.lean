import NicResidency.Library.Grammar
import NicResidency.Persistence

/-!
The format of a state file, as a language. Every record has the byte strings that
spell it, field by field; a file is loaded exactly when it spells a state that
passes the checks of the reader.
-/

namespace NicResidency.FileFormat
open ByteStream ByteStream.Reader PersistenceStore

/-! Fields. -/

def word (v : UInt64) : Language UInt8 := exactly (leBytes 8 v.toNat)

def byte (b : UInt8) : Language UInt8 := exactly [b]

def enum {α : Type} [DecidableEq α] [ByteEnum α] (value : α) : Language UInt8 :=
  exactly [ByteEnum.toByte value]

/-- The pairs of bytes that the reader joins to this number. -/
def half (v : UInt16) : Language UInt8 :=
  {bytes | ∃ low high, bytes = [low, high] ∧ joinU16 low high = v}

/-- A string behind its length. -/
def text (s : Bytes) : Language UInt8 :=
  {bytes | ∃ n : UInt16, n.toNat = s.length ∧ bytes ∈ half n * exactly s}

/-- A word of flags, of which only the lowest are read. -/
def flagged (flags : List Bool) : Language UInt8 :=
  {bytes | ∃ bits : UInt32, bytes = leBytes 4 bits.toNat ∧
    (List.range flags.length).map (flag bits) = flags}

/-- A byte that stands for a truth value. -/
def truth (b : Bool) : Language UInt8 := {bytes | ∃ c : UInt8, bytes = [c] ∧ (c != 0) = b}

/-! Parts of a record. -/

def provenance (p : Provenance) : Language UInt8 := [enum p.kind, listed enum p.sources].prod

def capability (c : CapabilitySet) : Language UInt8 :=
  [word c.generation.value,
    flagged [c.rdmaCapable, c.srIovCapable, c.offloadCapable, c.localMemoryObservable,
      c.acceleratorAffinitySupported],
    provenance c.provenance].prod

def pci (p : PciAddress) : Language UInt8 :=
  [half p.segment, byte p.bus, byte p.device, byte p.function].prod

/-! Records. -/

def nic (n : NicRecord) : Language UInt8 :=
  [word n.id.value, word n.generation.value, text n.osName, text n.osDescription, pci n.pci,
    half n.vendorId, half n.deviceId, half n.subsystemVendorId, half n.subsystemId,
    byte n.revision, enum n.deviceKind, enum n.functionClass, capability n.capability,
    word n.numaNode.value, provenance n.provenance].prod

def gpu (g : GpuRecord) : Language UInt8 :=
  [word g.id.value, word g.generation.value, text g.name, pci g.pci, word g.cudaDevice.value,
    truth g.cudaVerified, word g.numaNode.value,
    provenance g.provenance].prod

def history (r : ResidencyRecord) : Language UInt8 :=
  [word r.id.value, word r.generation.value, word r.nic.value, word r.function.value,
    word r.port.value, word r.queue.value, word r.targetGpu.value, word r.targetNuma.value,
    word r.targetEndpoint.value, enum r.state, word r.topologyGeneration.value, enum r.ownership,
    word r.ownerWorker.value, word r.ownerBoot.value, word r.epoch.value, enum r.lifecycle,
    text r.explanation].prod

def policyWord (p : PersistedPolicy) : Language UInt8 :=
  flagged [p.requireRdma, p.requireSriov, p.requireOffload, p.requireLocalMemory, p.requireSameNuma,
    p.requireSameRootComplex, p.requireSamePcieSwitch, p.requireReady, p.requireLinkUp,
    p.allowSynthetic]

def payload (st : PersistentState) : Language UInt8 :=
  [exactly (leBytes 4 st.formatVersion.toNat), word st.epoch.value, policyWord st.policy,
    word st.policy.freshnessLimit, listed nic st.nics, listed gpu st.gpus,
    listed history st.history].prod

/-- A payload between the magic string and its checksum. -/
def file (st : PersistentState) : Language UInt8 :=
  {data | ∃ body ∈ payload st, data = kMagicBox ++ body ++ leBytes 8 (fnv1a body).toNat}

/-! The checks of the reader, on what the bytes spell. Fields that are not in the
file have their defaults, and the evidence of a NIC requires revalidation. -/

structure NicChecked (n : NicRecord) : Prop where
  sources : n.provenance.sources.length ≤ 64
  capabilitySources : n.capability.provenance.sources.length ≤ 64
  linkState : n.linkState = .unknown
  health : n.health = .unknown
  lifecycle : n.lifecycle = .revalidationRequired
  freshness : n.freshness = 0

structure GpuChecked (g : GpuRecord) : Prop where
  sources : g.provenance.sources.length ≤ 64
  freshness : g.freshness = 0

structure HistoryChecked (r : ResidencyRecord) : Prop where
  attachmentGeneration : r.attachmentGeneration = {}
  capabilityGeneration : r.capabilityGeneration = {}
  locality : r.locality = {}
  policy : r.policy = {}
  provenance : r.provenance = {}
  freshness : r.freshness = 0

structure Checked (st : PersistentState) : Prop where
  formatVersion : st.formatVersion ≤ kPersistenceFormatVersion
  nicCount : st.nics.length ≤ kMaxNics
  nics : ∀ n ∈ st.nics, NicChecked n ∧ n.id.valid = true
  nicsDistinct : (st.nics.map (·.id)).Nodup
  gpuCount : st.gpus.length ≤ kMaxGpus
  gpus : ∀ g ∈ st.gpus, GpuChecked g ∧ g.id.valid = true
  gpusDistinct : (st.gpus.map (·.id)).Nodup
  historyCount : st.history.length ≤ kMaxHistory
  history : ∀ r ∈ st.history, HistoryChecked r

/-! The readers of the fields. -/

section
variable {chunk : Bytes}

@[simp] theorem mem_word {v : UInt64} : chunk ∈ word v ↔ chunk = leBytes 8 v.toNat := Iff.rfl

@[simp] theorem mem_byte {b : UInt8} : chunk ∈ byte b ↔ chunk = [b] := Iff.rfl

@[simp] theorem mem_enum {α : Type} [DecidableEq α] [ByteEnum α] {value : α} :
    chunk ∈ enum value ↔ chunk = [ByteEnum.toByte value] := Iff.rfl

@[simp] theorem mem_flagged {flags : List Bool} :
    chunk ∈ flagged flags ↔ ∃ bits : UInt32, chunk = leBytes 4 bits.toNat ∧
      (List.range flags.length).map (flag bits) = flags := Iff.rfl

@[simp] theorem mem_truth {b : Bool} :
    chunk ∈ truth b ↔ ∃ c : UInt8, chunk = [c] ∧ (c != 0) = b := Iff.rfl

theorem mk_id_iff {tag : Tag} {v : UInt64} {id : Id tag} : Id.mk v = id ↔ v = id.value := by
  cases id
  simp

theorem mk_generation_iff {tag : Tag} {v : UInt64} {g : Generation tag} :
    Generation.mk v = g ↔ v = g.value := by
  cases g
  simp

theorem reads_u16 {v : UInt16} : u16.Reads chunk v ↔ chunk ∈ half v := by
  simp only [u16, reads_map, reads_take]
  constructor
  · intro found
    obtain ⟨bytes, ⟨rfl, two⟩, rfl⟩ := found
    obtain ⟨low, high, rfl⟩ := List.length_eq_two.mp two
    exact ⟨low, high, rfl, rfl⟩
  · intro found
    obtain ⟨low, high, rfl, rfl⟩ := found
    exact ⟨_, ⟨rfl, rfl⟩, rfl⟩

theorem reads_str {s : Bytes} : str.Reads chunk s ↔ chunk ∈ text s := by
  simp only [str, reads_bind, reads_u16, reads_take]
  constructor
  · intro found
    obtain ⟨n, head, _, length, ⟨rfl, size⟩, rfl⟩ := found
    exact ⟨n, size.symm, Language.append_mem_mul length rfl⟩
  · intro found
    obtain ⟨n, size, head, length, _, rfl, rfl⟩ := found
    exact ⟨n, head, _, length, ⟨rfl, size.symm⟩, rfl⟩

theorem reads_readEnum {α : Type} [DecidableEq α] [ByteEnum α] {invalid : String} {value : α} :
    (readEnum invalid).Reads chunk value ↔ chunk ∈ enum value := by
  simp [readEnum]

theorem reads_readProvenance {p : Provenance} :
    readProvenance.Reads chunk p ↔ chunk ∈ provenance p ∧ p.sources.length ≤ 64 := by
  have sources {tail : Bytes} {values : List Source} :
      (counted short (integrityFailure "provenance source count too large") 64
        (fun _ : Unit => readEnum "invalid provenance source") (fun _ _ => ()) ()).Reads tail values ↔
        tail ∈ listed enum values ∧ values.length ≤ 64 := by
    have each (chunk : Bytes) (source : Source) :
        (readEnum "invalid provenance source").Reads chunk source ↔ chunk ∈ enum source ∧ True := by
      rw [reads_readEnum, and_true]
    rw [reads_counted_each_iff each (by decide)]
    simp only [implies_true, and_true]
  cases p
  simp only [readProvenance, reads_bind, reads_readEnum, mem_enum, sources, reads_pure,
    Provenance.mk.injEq, exists_and_left, ↓existsAndEq, true_and, and_true, List.append_nil,
    exists_eq_left, provenance, List.prod_cons, List.prod_nil, mul_one, mem_mul]
  constructor
  · intro found
    obtain ⟨_, ⟨spelled, few⟩, rfl⟩ := found
    exact ⟨⟨_, spelled, rfl⟩, few⟩
  · intro found
    obtain ⟨⟨_, spelled, rfl⟩, few⟩ := found
    exact ⟨_, ⟨spelled, few⟩, rfl⟩

theorem reads_readCapability {c : CapabilitySet} :
    readCapability.Reads chunk c ↔ chunk ∈ capability c ∧ c.provenance.sources.length ≤ 64 := by
  cases c
  simp only [readCapability, reads_bind, reads_u64, reads_u32, reads_readProvenance, reads_pure,
    CapabilitySet.mk.injEq, mk_generation_iff, exists_and_left, ↓existsAndEq, true_and, and_true,
    List.append_nil, exists_eq_left, capability, List.prod_cons, List.prod_nil, mul_one, mem_mul,
    mem_word, mem_flagged, List.length_cons, List.length_nil, zero_add, Nat.reduceAdd,
    List.range_succ, List.range_zero, List.nil_append, List.cons_append, List.map_cons, List.map_nil,
    List.cons.injEq]
  constructor
  · intro found
    obtain ⟨_, _, ⟨⟨spelled, few⟩, flags⟩, rfl⟩ := found
    exact ⟨⟨_, _, ⟨flags, spelled⟩, rfl⟩, few⟩
  · intro found
    obtain ⟨⟨_, _, ⟨flags, spelled⟩, rfl⟩, few⟩ := found
    exact ⟨_, _, ⟨⟨spelled, few⟩, flags⟩, rfl⟩

theorem reads_readPci {p : PciAddress} : readPci.Reads chunk p ↔ chunk ∈ pci p := by
  cases p
  simp [readPci, reads_u16, pci, mem_mul]

theorem reads_readNic {n : NicRecord} : readNic.Reads chunk n ↔ chunk ∈ nic n ∧ NicChecked n := by
  cases n
  simp only [readNic, reads_bind, reads_u64, reads_str, reads_readPci, reads_u16, reads_u8,
    reads_enumerated, reads_readCapability, reads_readProvenance, reads_pure, NicRecord.mk.injEq,
    mk_id_iff, mk_generation_iff, exists_and_left, ↓existsAndEq, true_and, and_true, List.append_nil,
    exists_eq_left, List.nil_append, List.cons_append, nic, List.prod_cons, List.prod_nil, mul_one,
    mem_mul, mem_word, mem_byte, mem_enum]
  constructor
  · intro found
    obtain ⟨_, _, _, _, _, _, _, _, _, ⟨name, description, address, vendor, device, subVendor,
      subsystem, ⟨capability, capabilityFew⟩, ⟨provenance, few⟩, rfl, rfl, rfl, rfl⟩, rfl⟩ := found
    exact ⟨⟨_, _, _, _, _, _, _, _, _, ⟨name, description, address, vendor, device, subVendor,
      subsystem, capability, provenance⟩, rfl⟩, few, capabilityFew, rfl, rfl, rfl, rfl⟩
  · intro found
    obtain ⟨⟨_, _, _, _, _, _, _, _, _, ⟨name, description, address, vendor, device, subVendor,
      subsystem, capability, provenance⟩, rfl⟩, few, capabilityFew, rfl, rfl, rfl, rfl⟩ := found
    exact ⟨_, _, _, _, _, _, _, _, _, ⟨name, description, address, vendor, device, subVendor,
      subsystem, ⟨capability, capabilityFew⟩, ⟨provenance, few⟩, rfl, rfl, rfl, rfl⟩, rfl⟩

theorem reads_readGpu {g : GpuRecord} : readGpu.Reads chunk g ↔ chunk ∈ gpu g ∧ GpuChecked g := by
  cases g
  simp only [readGpu, reads_bind, reads_u64, reads_str, reads_readPci, reads_u8, reads_readProvenance,
    reads_pure, GpuRecord.mk.injEq, mk_id_iff, mk_generation_iff, exists_and_left, ↓existsAndEq,
    true_and, and_true, List.append_nil, exists_eq_left, List.cons_append, List.nil_append, gpu,
    List.prod_cons, List.prod_nil, mul_one, mem_mul, mem_word, mem_truth]
  constructor
  · intro found
    obtain ⟨_, _, _, _, ⟨name, address, ⟨provenance, few⟩, verified, rfl⟩, rfl⟩ := found
    exact ⟨⟨_, _, _, _, ⟨name, address, verified, provenance⟩, rfl⟩, few, rfl⟩
  · intro found
    obtain ⟨⟨_, _, _, _, ⟨name, address, verified, provenance⟩, rfl⟩, few, rfl⟩ := found
    exact ⟨_, _, _, _, ⟨name, address, ⟨provenance, few⟩, verified, rfl⟩, rfl⟩

theorem reads_readHistory {r : ResidencyRecord} :
    readHistory.Reads chunk r ↔ chunk ∈ history r ∧ HistoryChecked r := by
  cases r
  simp only [readHistory, reads_bind, reads_u64, reads_readEnum, mem_enum, reads_str, reads_pure,
    ResidencyRecord.mk.injEq, mk_id_iff, mk_generation_iff, exists_and_left, ↓existsAndEq, true_and,
    and_true, List.append_nil, exists_eq_left, List.cons_append, List.nil_append, history,
    List.prod_cons, List.prod_nil, mul_one, mem_mul, mem_word]
  constructor
  · intro found
    obtain ⟨_, ⟨explanation, attachment, capability, rfl, policy, rfl, rfl⟩, rfl⟩ := found
    exact ⟨⟨_, explanation, rfl⟩, (mk_generation_iff.mpr attachment).symm,
      (mk_generation_iff.mpr capability).symm, rfl, (mk_id_iff.mpr policy).symm, rfl, rfl⟩
  · intro found
    obtain ⟨⟨_, explanation, rfl⟩, attachment, capability, locality, policy, provenance, freshness⟩ :=
      found
    exact ⟨_, ⟨explanation, mk_generation_iff.mp attachment.symm, mk_generation_iff.mp capability.symm,
      locality.symm, mk_id_iff.mp policy.symm, provenance.symm, freshness.symm⟩, rfl⟩

theorem reads_readNics {values : List NicRecord} :
    readNics.Reads chunk values ↔ chunk ∈ listed nic values ∧ values.length ≤ kMaxNics ∧
      (∀ n ∈ values, NicChecked n ∧ n.id.valid = true) ∧ (values.map (·.id)).Nodup := by
  rw [readNics, reads_counted_distinct_iff (fun _ _ => reads_readNic) (by decide)]
  simp only [Decidable.not_not]

theorem reads_readGpus {values : List GpuRecord} :
    readGpus.Reads chunk values ↔ chunk ∈ listed gpu values ∧ values.length ≤ kMaxGpus ∧
      (∀ g ∈ values, GpuChecked g ∧ g.id.valid = true) ∧ (values.map (·.id)).Nodup := by
  rw [readGpus, reads_counted_distinct_iff (fun _ _ => reads_readGpu) (by decide)]
  simp only [Decidable.not_not]

theorem reads_readHistories {values : List ResidencyRecord} :
    readHistories.Reads chunk values ↔ chunk ∈ listed history values ∧
      values.length ≤ kMaxHistory ∧ ∀ r ∈ values, HistoryChecked r :=
  reads_counted_each_iff (fun _ _ => reads_readHistory) (by decide)

theorem reads_readState {st : PersistentState} :
    readState.Reads chunk st ↔ chunk ∈ payload st ∧ Checked st := by
  obtain ⟨formatVersion, epoch, nics, gpus, policy, history⟩ := st
  cases policy
  simp only [readState, reads_bind, reads_u32, reads_reject, reads_u64, reads_readNics, reads_readGpus,
    reads_readHistories, reads_pure, PersistentState.mk.injEq, mk_id_iff, policyOf,
    PersistedPolicy.mk.injEq, exists_and_left, ↓existsAndEq, true_and, and_true, List.append_nil,
    exists_eq_left, List.nil_append, payload, policyWord, List.prod_cons, List.prod_nil, mul_one,
    mem_mul, mem_exactly, mem_word, mem_flagged, List.length_cons, List.length_nil, zero_add,
    Nat.reduceAdd, List.range_succ, List.range_zero, List.cons_append, List.map_cons, List.map_nil,
    List.cons.injEq]
  constructor
  · intro found
    obtain ⟨_, _, _, _, _, ⟨supported, ⟨nics, nicCount, nicsChecked, nicsDistinct⟩,
      ⟨gpus, gpuCount, gpusChecked, gpusDistinct⟩, ⟨history, historyCount, historyChecked⟩, flags⟩,
      rfl⟩ := found
    exact ⟨⟨_, _, _, _, ⟨flags, nics, gpus, history⟩, rfl⟩, UInt32.not_lt.mp supported, nicCount,
      nicsChecked, nicsDistinct, gpuCount, gpusChecked, gpusDistinct, historyCount, historyChecked⟩
  · intro found
    obtain ⟨⟨_, _, _, _, ⟨flags, nics, gpus, history⟩, rfl⟩, supported, nicCount, nicsChecked,
      nicsDistinct, gpuCount, gpusChecked, gpusDistinct, historyCount, historyChecked⟩ := found
    exact ⟨(), _, _, _, _, ⟨UInt32.not_lt.mpr supported, ⟨nics, nicCount, nicsChecked, nicsDistinct⟩,
      ⟨gpus, gpuCount, gpusChecked, gpusDistinct⟩, ⟨history, historyCount, historyChecked⟩, flags⟩,
      rfl⟩

end

/-! Whole files. -/

theorem length_kMagicBox : kMagicBox.length = kMagicLen := by decide

/-- The checks of a file that is cut into its three parts. -/
theorem load_parts (magic body sum : Bytes) (magicSize : magic.length = kMagicLen)
    (sumSize : sum.length = 8) :
    load (magic ++ body ++ sum) =
      if magic ≠ kMagicBox then .error (.thrown (integrityFailure "bad persistence magic"))
      else if (fnv1a body).toNat ≠ leValue sum then
        .error (.thrown (integrityFailure "persistence checksum mismatch"))
      else deserialize body := by
  have length : (magic ++ body ++ sum).length = kMagicLen + body.length + 8 := by
    rw [List.length_append, List.length_append, magicSize, sumSize]
  have first : (magic ++ body ++ sum).take kMagicLen = magic := by
    rw [List.append_assoc, ← magicSize, List.take_left]
  have middle : ((magic ++ body ++ sum).drop kMagicLen).take body.length = body := by
    rw [List.append_assoc, ← magicSize, List.drop_left, List.take_left]
  have last : (magic ++ body ++ sum).drop (kMagicLen + body.length) = sum := by
    rw [← magicSize, ← List.length_append, List.drop_left]
  have bodySize : kMagicLen + body.length + 8 - kMagicLen - 8 = body.length := by omega
  have sumStart : kMagicLen + body.length + 8 - 8 = kMagicLen + body.length := by omega
  simp only [load, length, first, bodySize, middle, sumStart, last]
  rw [if_neg (by omega)]

/-- The checks around the payload pass on a written file. -/
theorem load_written (body : Bytes) :
    load (kMagicBox ++ body ++ leBytes 8 (fnv1a body).toNat) = deserialize body := by
  rw [load_parts _ _ _ length_kMagicBox (length_leBytes ..), if_neg (not_not.mpr rfl), if_neg]
  rw [leValue_leBytes (fnv1a body).toNat_lt]
  exact not_not.mpr rfl

/-- A file that is not too short has three parts. -/
theorem parts_of_length {data : Bytes} (long : kMagicLen + 8 ≤ data.length) :
    ∃ magic body sum, data = magic ++ body ++ sum ∧ magic.length = kMagicLen ∧ sum.length = 8 := by
  refine ⟨data.take kMagicLen, (data.drop kMagicLen).take (data.length - 8 - kMagicLen),
    data.drop (data.length - 8), ?_, ?_, ?_⟩
  · have rest : (data.drop kMagicLen).drop (data.length - 8 - kMagicLen) =
        data.drop (data.length - 8) := by
      rw [List.drop_drop]
      congr 1
      omega
    rw [List.append_assoc, ← rest, List.take_append_drop, List.take_append_drop]
  · rw [List.length_take]
    omega
  · rw [List.length_drop]
    omega

/-- A loaded file has the magic string and the checksum of its payload. -/
theorem written_of_load {data : Bytes} {st : PersistentState} (loaded : load data = .ok st) :
    ∃ body, data = kMagicBox ++ body ++ leBytes 8 (fnv1a body).toNat ∧ deserialize body = .ok st := by
  by_cases long : kMagicLen + 8 ≤ data.length
  · obtain ⟨magic, body, sum, rfl, magicSize, sumSize⟩ := parts_of_length long
    rw [load_parts magic body sum magicSize sumSize] at loaded
    split_ifs at loaded with otherMagic otherSum
    have sumBytes := leBytes_leValue sum
    rw [sumSize, ← not_not.mp otherSum] at sumBytes
    exact ⟨body, by rw [not_not.mp otherMagic, sumBytes], loaded⟩
  · rw [load, if_pos (not_le.mp long)] at loaded
    cases loaded

/-- A file is loaded exactly when it spells a state that passes the checks. -/
theorem load_eq_ok_iff {data : Bytes} {st : PersistentState} :
    load data = .ok st ↔ data ∈ file st ∧ Checked st := by
  constructor
  · intro loaded
    obtain ⟨body, rfl, read⟩ := written_of_load loaded
    obtain ⟨spelled, checked⟩ := reads_readState.mp ((whole_eq_ok_iff _).mp read)
    exact ⟨⟨body, spelled, rfl⟩, checked⟩
  · intro found
    obtain ⟨⟨body, spelled, rfl⟩, checked⟩ := found
    rw [load_written]
    exact (whole_eq_ok_iff _).mpr (reads_readState.mpr ⟨spelled, checked⟩)

theorem load_of_toOption {data : Bytes} {st : PersistentState}
    (read : (load data).toOption = some st) : load data = .ok st := by
  cases outcome : load data with
  | error fault =>
    rw [outcome] at read
    cases read
  | ok other =>
    rw [outcome] at read
    exact congrArg Except.ok (Option.some.inj read)

end NicResidency.FileFormat

import NicResidency.Library.Throwing
import NicResidency.PersistenceRoundTrip

/-!
Which saved files load. The reader checks ids, duplicates, source counts and the format
version, of which the writer checks none, and it misreads some string lengths: as at least
65408, so that it runs on into the records behind the string.
-/

namespace NicResidency.SavedFiles
open ByteStream ByteStream.Reader Throwing PersistenceStore FileFormat PersistenceRoundTrip

/-- The smallest number that the reader makes of a low byte with its sign bit set. -/
def leastMisread : Nat := 65408

/-- If the state is saved, its file loads. -/
def SavesLoadable (routine : SortRoutine) (st : PersistentState) : Prop :=
  ∀ file, save routine st = .ok file → ∃ loaded, load file = .ok loaded

/-- The writer refuses the state, or the reader has nothing to object to. -/
def ReaderTakes (st : PersistentState) : Prop := Writable st → Admissible st ∧ LengthsSafe st

/-- Every number of sources fits into its 32-bit count. -/
structure SourcesCounted (st : PersistentState) : Prop where
  nics : ∀ n ∈ st.nics, n.provenance.sources.length < 2 ^ 32 ∧
    n.capability.provenance.sources.length < 2 ^ 32
  gpus : ∀ g ∈ st.gpus, g.provenance.sources.length < 2 ^ 32

/-- The reader finds the records where the writer has put them, or has not enough bytes for
a string that it misreads. -/
def Traceable (routine : SortRoutine) (st : PersistentState) : Prop :=
  (LengthsSafe st ∧ SourcesCounted st) ∨
    ∀ body, serialize routine st = .ok body → body.length < leastMisread

/-! What the writer writes. -/

theorem writeStr_eq_ok_iff {s bytes : Bytes} :
    writeStr s = .ok bytes ↔ s.length ≤ 0xFFFF ∧ bytes = leBytes 2 s.length ++ s := by
  unfold writeStr
  split
  next long => exact iff_of_false (nomatch ·) fun found => absurd found.1 (not_le.mpr long)
  next fits =>
    rw [Except.ok.injEq, eq_comm]
    exact (and_iff_right (not_lt.mp fits)).symm

theorem mapM_eq_ok_iff {α : Type} {write : α → Except ResidencyError Bytes} {records : List α}
    {written : List Bytes} :
    records.mapM write = .ok written ↔
      List.Forall₂ (fun record bytes => write record = .ok bytes) records written := by
  induction records generalizing written with
  | nil =>
    rw [List.mapM_nil, List.forall₂_nil_left_iff, eq_comm]
    exact Except.ok.injEq .. |>.to_iff
  | cons record records ih =>
    rw [List.mapM_cons, List.forall₂_cons_left_iff]
    constructor
    · intro wrote
      obtain ⟨bytes, head, wrote⟩ := bind_eq_ok_iff.mp wrote
      obtain ⟨rest, tail, wrote⟩ := bind_eq_ok_iff.mp wrote
      cases wrote
      exact ⟨bytes, rest, head, ih.mp tail, rfl⟩
    · intro found
      obtain ⟨bytes, rest, head, tail, rfl⟩ := found
      exact bind_eq_ok_iff.mpr ⟨bytes, head, bind_eq_ok_iff.mpr ⟨rest, ih.mpr tail, rfl⟩⟩

theorem writeRecords_eq_ok_iff {α : Type} {limit : Nat} {tooMany : String}
    {write : α → Except ResidencyError Bytes} {records : List α} {bytes : Bytes} :
    writeRecords limit tooMany write records = .ok bytes ↔ records.length ≤ limit ∧
      ∃ written, List.Forall₂ (fun record bytes => write record = .ok bytes) records written ∧
        bytes = leBytes 4 records.length ++ written.flatten := by
  unfold writeRecords
  by_cases many : records.length > limit
  · rw [if_pos many]
    exact iff_of_false (nomatch ·) fun found => absurd found.1 (not_le.mpr many)
  · rw [if_neg many, and_iff_right (not_lt.mp many)]
    constructor
    · intro wrote
      obtain ⟨written, all, wrote⟩ := bind_eq_ok_iff.mp wrote
      cases wrote
      exact ⟨written, mapM_eq_ok_iff.mp all, rfl⟩
    · intro found
      obtain ⟨written, all, rfl⟩ := found
      exact bind_eq_ok_iff.mpr ⟨written, mapM_eq_ok_iff.mpr all, rfl⟩

theorem exists_forall₂_iff {α β : Type} {relation : α → β → Prop} {records : List α} :
    (∃ values, List.Forall₂ relation records values) ↔ ∀ record ∈ records, ∃ value, relation record value := by
  induction records with
  | nil => simp
  | cons record records ih =>
    rw [List.forall_mem_cons, ← ih]
    constructor
    · intro found
      obtain ⟨_, all⟩ := found
      cases all with
      | cons first others => exact ⟨⟨_, first⟩, _, others⟩
    · intro found
      obtain ⟨⟨value, first⟩, values, others⟩ := found
      exact ⟨value :: values, .cons first others⟩

theorem writeRecords_isOk_iff {α : Type} {limit : Nat} {tooMany : String}
    {write : α → Except ResidencyError Bytes} {records : List α} :
    (∃ bytes, writeRecords limit tooMany write records = .ok bytes) ↔
      records.length ≤ limit ∧ ∀ record ∈ records, ∃ bytes, write record = .ok bytes := by
  simp only [writeRecords_eq_ok_iff, ← exists_forall₂_iff]
  constructor
  · intro found
    obtain ⟨bytes, few, written, all, -⟩ := found
    exact ⟨few, written, all⟩
  · intro found
    obtain ⟨few, written, all⟩ := found
    exact ⟨_, few, written, all, rfl⟩

theorem writeNic_isOk_iff {n : NicRecord} : (∃ bytes, writeNic n = .ok bytes) ↔
    n.osName.length ≤ 0xFFFF ∧ n.osDescription.length ≤ 0xFFFF := by
  simp only [writeNic, bind_eq_ok_iff, writeStr_eq_ok_iff]
  constructor
  · intro found
    obtain ⟨bytes, name, ⟨nameFits, -⟩, description, ⟨descriptionFits, -⟩, -⟩ := found
    exact ⟨nameFits, descriptionFits⟩
  · intro fits
    exact ⟨_, _, ⟨fits.1, rfl⟩, _, ⟨fits.2, rfl⟩, rfl⟩

theorem writeGpu_isOk_iff {g : GpuRecord} :
    (∃ bytes, writeGpu g = .ok bytes) ↔ g.name.length ≤ 0xFFFF := by
  simp only [writeGpu, bind_eq_ok_iff, writeStr_eq_ok_iff]
  constructor
  · intro found
    obtain ⟨bytes, name, ⟨fits, -⟩, -⟩ := found
    exact fits
  · intro fits
    exact ⟨_, _, ⟨fits, rfl⟩, rfl⟩

theorem writeHistory_isOk_iff {r : ResidencyRecord} :
    (∃ bytes, writeHistory r = .ok bytes) ↔ r.explanation.length ≤ 0xFFFF := by
  simp only [writeHistory, bind_eq_ok_iff, writeStr_eq_ok_iff]
  constructor
  · intro found
    obtain ⟨bytes, explanation, ⟨fits, -⟩, -⟩ := found
    exact fits
  · intro fits
    exact ⟨_, _, ⟨fits, rfl⟩, rfl⟩

/-- The writer takes exactly the writable states. -/
theorem serialize_isOk_iff (routine : SortRoutine) (st : PersistentState) :
    (∃ body, serialize routine st = .ok body) ↔ Writable st := by
  have nics : (∃ bytes, writeRecords kMaxNics "NIC count exceeds persistence bound" writeNic
      (routine.sort (·.id.value) st.nics) = .ok bytes) ↔ _ := writeRecords_isOk_iff
  have gpus : (∃ bytes, writeRecords kMaxGpus "GPU count exceeds persistence bound" writeGpu
      (routine.sort (·.id.value) st.gpus) = .ok bytes) ↔ _ := writeRecords_isOk_iff
  have history : (∃ bytes, writeRecords kMaxHistory "history exceeds persistence bound" writeHistory
      (routine.sort (·.id.value) st.history) = .ok bytes) ↔ _ := writeRecords_isOk_iff
  simp only [(routine.perm ..).length_eq, (routine.perm ..).mem_iff, writeNic_isOk_iff,
    writeGpu_isOk_iff, writeHistory_isOk_iff] at nics gpus history
  simp only [serialize, bind_eq_ok_iff]
  constructor
  · intro found
    obtain ⟨body, nicBytes, wroteNics, gpuBytes, wroteGpus, historyBytes, wroteHistory, -⟩ := found
    obtain ⟨nicCount, nicsFit⟩ := nics.mp ⟨_, wroteNics⟩
    obtain ⟨gpuCount, gpusFit⟩ := gpus.mp ⟨_, wroteGpus⟩
    obtain ⟨historyCount, historyFits⟩ := history.mp ⟨_, wroteHistory⟩
    exact ⟨nicsFit, nicCount, gpusFit, gpuCount, historyFits, historyCount⟩
  · intro fits
    obtain ⟨nicBytes, wroteNics⟩ := nics.mpr ⟨fits.nicCount, fits.nics⟩
    obtain ⟨gpuBytes, wroteGpus⟩ := gpus.mpr ⟨fits.gpuCount, fits.gpus⟩
    obtain ⟨historyBytes, wroteHistory⟩ := history.mpr ⟨fits.historyCount, fits.history⟩
    exact ⟨_, nicBytes, wroteNics, gpuBytes, wroteGpus, historyBytes, wroteHistory, rfl⟩

theorem save_eq_ok_iff {routine : SortRoutine} {st : PersistentState} {file : Bytes} :
    save routine st = .ok file ↔ ∃ body, serialize routine st = .ok body ∧
      file = kMagicBox ++ body ++ leBytes 8 (fnv1a body).toNat := by
  rw [save, bind_eq_ok_iff]
  constructor
  · intro saved
    obtain ⟨body, wrote, written⟩ := saved
    exact ⟨body, wrote, (Except.ok.inj written).symm⟩
  · intro saved
    obtain ⟨body, wrote, rfl⟩ := saved
    exact ⟨body, wrote, rfl⟩

/-! Where the reader ends in what the writer has written. -/

section
variable {bound : Nat}

theorem word_delimits {v v' : UInt64} : Delimits bound (leBytes 8 v.toNat) (word v') (v = v') := by
  refine (delimits_exactly (by rw [length_leBytes, length_leBytes])).imp fun same => ?_
  have values := congrArg leValue same
  rw [leValue_leBytes v.toNat_lt, leValue_leBytes v'.toNat_lt] at values
  exact UInt64.toNat_inj.mp values

theorem half_delimits {v v' : UInt16} : Delimits bound (leBytes 2 v.toNat) (half v') True := by
  refine (delimits_sized fun text member => ?_).imp fun _ => trivial
  obtain ⟨low, high, rfl, -⟩ := member
  rfl

theorem byte_delimits {b b' : UInt8} : Delimits bound [b] (byte b') True := by
  refine (delimits_sized fun text member => ?_).imp fun _ => trivial
  rw [mem_byte.mp member]
  rfl

theorem enum_delimits {α : Type} [DecidableEq α] [ByteEnum α] {value value' : α} :
    Delimits bound [ByteEnum.toByte value] (enum value') True := by
  refine (delimits_sized fun text member => ?_).imp fun _ => trivial
  rw [mem_enum.mp member]
  rfl

theorem truth_delimits {b : UInt8} {b' : Bool} : Delimits bound [b] (truth b') True := by
  refine (delimits_sized fun text member => ?_).imp fun _ => trivial
  obtain ⟨c, rfl, -⟩ := member
  rfl

theorem flagged_delimits {bits : UInt32} {flags : List Bool} :
    Delimits bound (leBytes 4 bits.toNat) (flagged flags) True := by
  refine (delimits_sized fun text member => ?_).imp fun _ => trivial
  obtain ⟨other, rfl, -⟩ := member
  rw [length_leBytes, length_leBytes]

/-- The length that the reader finds in front of a string. -/
def readLength (v : Nat) : Nat := (joinU16 (UInt8.ofNat v) (UInt8.ofNat (v / 256))).toNat

theorem readLength_safe {v : Nat} (fits : v ≤ 0xFFFF) (safe : SignSafe v) : readLength v = v := by
  have written : (UInt16.ofNat v).toNat = v :=
    (UInt16.toNat_ofNat' ..).trans (Nat.mod_eq_of_lt (by omega))
  have read := @joinU16_of_signSafe (UInt16.ofNat v)
  rw [written] at read
  rw [readLength, read safe, written]

theorem readLength_unsafe {v : Nat} (misread : ¬SignSafe v) : leastMisread ≤ readLength v := by
  rw [SignSafe, not_or, not_lt] at misread
  have negative : ¬(UInt8.ofNat v).toNat < 128 := by
    rw [UInt8.toNat_ofNat']
    omega
  rw [readLength, toNat_joinU16, extension, if_neg negative, extended_or (UInt8.toNat_lt _),
    leastMisread]
  omega

/-- The reader finds the end of a string when its length is safe, and runs out of bytes when it
is not and the bytes are few. -/
theorem text_delimits {s s' bytes : Bytes} (wrote : writeStr s = .ok bytes)
    (safe : SignSafe s.length ∨ bound < leastMisread) :
    Delimits bound bytes (text s') (SignSafe s.length) := by
  obtain ⟨fits, rfl⟩ := writeStr_eq_ok_iff.mp wrote
  intro rest other tail few member same
  obtain ⟨n, size, head, ⟨low, high, rfl, joined⟩, read, spelled, rfl⟩ := member
  obtain rfl : s' = read := (mem_exactly.mp spelled).symm
  obtain ⟨rfl, rfl, level⟩ : UInt8.ofNat s.length = low ∧ UInt8.ofNat (s.length / 256) = high ∧
      s ++ rest = s' ++ tail := by
    simpa [leBytes] using same
  have read : readLength s.length = s'.length := by rw [← size, ← joined, readLength]
  by_cases stated : SignSafe s.length
  · rw [readLength_safe fits stated] at read
    exact ⟨stated, (List.append_inj level read).2⟩
  · -- the string that the reader takes is longer than all that there is
    have large := readLength_unsafe stated
    have short := safe.resolve_left stated
    have lengths := congrArg List.length level
    simp only [List.length_append, length_leBytes] at few lengths
    omega

theorem provenance_delimits {p p' : Provenance}
    (counted : p.sources.length < 2 ^ 32 ∨ bound < 2 ^ 32) (few : p'.sources.length ≤ 64) :
    Delimits bound (writeProvenance p) (provenance p') (p.sources.length ≤ 64) := by
  have each : ∀ source encoding (value : Source), source ∈ p.sources → value ∈ p'.sources →
      encoding = [ByteEnum.toByte source] → Delimits bound encoding (enum value) True := by
    intro source encoding value _ _ wrote
    rw [wrote]
    exact enum_delimits
  intro rest other tail fits member same
  have small : p.sources.length < 2 ^ 32 := by
    rcases counted with small | short
    · exact small
    · simp only [writeProvenance, List.length_append, List.length_map] at fits
      omega
  have kind : Delimits bound [ByteEnum.toByte p.kind] (enum p'.kind) True := enum_delimits
  have delimits := kind.cons (delimits_listed (sources_encoded p) each small (by omega)).last
  rw [← sources_flat, ← List.append_assoc] at delimits
  obtain ⟨⟨-, agrees⟩, level⟩ := delimits rest other tail fits member same
  exact ⟨agrees.length_eq.trans_le few, level⟩

theorem capability_delimits {c c' : CapabilitySet}
    (counted : c.provenance.sources.length < 2 ^ 32 ∨ bound < 2 ^ 32)
    (few : c'.provenance.sources.length ≤ 64) :
    Delimits bound (writeCapability c) (capability c') (c.provenance.sources.length ≤ 64) := by
  unfold writeCapability
  simp only [List.append_assoc]
  refine Delimits.imp (word_delimits.cons <| flagged_delimits.cons
    (provenance_delimits counted few).last) ?_
  intro facts
  exact facts.2.2

theorem pci_delimits {p p' : PciAddress} : Delimits bound (writePci p) (pci p') True := by
  unfold writePci
  simp only [List.append_assoc]
  exact Delimits.imp (half_delimits.cons <| byte_delimits.cons <| byte_delimits.cons
    byte_delimits.last) fun _ => trivial

/-- What the reader finds out about a written NIC. -/
def NicAgrees (n n' : NicRecord) : Prop :=
  n.id = n'.id ∧ SignSafe n.osName.length ∧ SignSafe n.osDescription.length ∧
    n.provenance.sources.length ≤ 64 ∧ n.capability.provenance.sources.length ≤ 64

theorem nic_delimits {n n' : NicRecord} {bytes : Bytes} (wrote : writeNic n = .ok bytes)
    (checked : NicChecked n')
    (safe : (SignSafe n.osName.length ∧ SignSafe n.osDescription.length) ∨ bound < leastMisread)
    (counted : (n.provenance.sources.length < 2 ^ 32 ∧
      n.capability.provenance.sources.length < 2 ^ 32) ∨ bound < leastMisread) :
    Delimits bound bytes (nic n') (NicAgrees n n') := by
  have below : bound < leastMisread → bound < 2 ^ 32 := fun short => short.trans (by decide)
  obtain ⟨name, wroteName, wrote⟩ := bind_eq_ok_iff.mp wrote
  obtain ⟨description, wroteDescription, wrote⟩ := bind_eq_ok_iff.mp wrote
  cases wrote
  simp only [List.append_assoc]
  refine Delimits.imp (word_delimits.cons <| word_delimits.cons <|
    (text_delimits wroteName (safe.imp_left And.left)).cons <|
    (text_delimits wroteDescription (safe.imp_left And.right)).cons <| pci_delimits.cons <|
    half_delimits.cons <| half_delimits.cons <| half_delimits.cons <| half_delimits.cons <|
    byte_delimits.cons <| enum_delimits.cons <| enum_delimits.cons <|
    (capability_delimits (counted.imp And.right below) checked.capabilitySources).cons <|
    word_delimits.cons (provenance_delimits (counted.imp And.left below) checked.sources).last) ?_
  intro facts
  obtain ⟨id, -, name, description, -, -, -, -, -, -, -, -, capability, -, provenance⟩ := facts
  exact ⟨Id.value_inj.mp id, name, description, provenance, capability⟩

def GpuAgrees (g g' : GpuRecord) : Prop :=
  g.id = g'.id ∧ SignSafe g.name.length ∧ g.provenance.sources.length ≤ 64

theorem gpu_delimits {g g' : GpuRecord} {bytes : Bytes} (wrote : writeGpu g = .ok bytes)
    (checked : GpuChecked g') (safe : SignSafe g.name.length ∨ bound < leastMisread)
    (counted : g.provenance.sources.length < 2 ^ 32 ∨ bound < leastMisread) :
    Delimits bound bytes (gpu g') (GpuAgrees g g') := by
  have below : bound < leastMisread → bound < 2 ^ 32 := fun short => short.trans (by decide)
  obtain ⟨name, wroteName, wrote⟩ := bind_eq_ok_iff.mp wrote
  cases wrote
  simp only [List.append_assoc]
  refine Delimits.imp (word_delimits.cons <| word_delimits.cons <|
    (text_delimits wroteName safe).cons <| pci_delimits.cons <| word_delimits.cons <|
    truth_delimits.cons <| word_delimits.cons
    (provenance_delimits (counted.imp_right below) checked.sources).last) ?_
  intro facts
  obtain ⟨id, -, name, -, -, -, -, provenance⟩ := facts
  exact ⟨Id.value_inj.mp id, name, provenance⟩

theorem history_delimits {r r' : ResidencyRecord} {bytes : Bytes} (wrote : writeHistory r = .ok bytes)
    (safe : HistorySafe r ∨ bound < leastMisread) :
    Delimits bound bytes (history r') (HistorySafe r) := by
  obtain ⟨explanation, wroteExplanation, wrote⟩ := bind_eq_ok_iff.mp wrote
  cases wrote
  simp only [List.append_assoc]
  refine Delimits.imp (word_delimits.cons <| word_delimits.cons <| word_delimits.cons <|
    word_delimits.cons <| word_delimits.cons <| word_delimits.cons <| word_delimits.cons <|
    word_delimits.cons <| word_delimits.cons <| enum_delimits.cons <| word_delimits.cons <|
    enum_delimits.cons <| word_delimits.cons <| word_delimits.cons <| word_delimits.cons <|
    enum_delimits.cons (text_delimits wroteExplanation safe).last) ?_
  intro facts
  obtain ⟨-, -, -, -, -, -, -, -, -, -, -, -, -, -, -, -, safe⟩ := facts
  exact safe

/-- The list that is read is the list that was written, entry by entry. -/
theorem records_delimits {α : Type} {limit : Nat} {tooMany : String}
    {write : α → Except ResidencyError Bytes} {records values : List α} {bytes : Bytes}
    {spelling : α → Language UInt8} {agree : α → α → Prop}
    (wrote : writeRecords limit tooMany write records = .ok bytes) (few : values.length ≤ limit)
    (small : limit < 2 ^ 32)
    (each : ∀ record encoding value, record ∈ records → value ∈ values → write record = .ok encoding →
      Delimits bound encoding (spelling value) (agree record value)) :
    Delimits bound bytes (listed spelling values) (List.Forall₂ agree records values) := by
  obtain ⟨count, encodings, encoded, rfl⟩ := writeRecords_eq_ok_iff.mp wrote
  exact delimits_listed encoded each (count.trans_lt small) (few.trans_lt small)

end

section
variable {α β κ : Type} {agree : α → β → Prop} {records : List α} {values : List β}

theorem forall_of_agrees {good : α → Prop} (agrees : List.Forall₂ agree records values)
    (each : ∀ record, ∀ value ∈ values, agree record value → good record) :
    ∀ record ∈ records, good record := by
  induction agrees with
  | nil => simp
  | cons first _ ih =>
    rw [List.forall_mem_cons]
    exact ⟨each _ _ (List.mem_cons_self ..) first,
      ih fun record value listed => each record value (List.mem_cons_of_mem _ listed)⟩

theorem keys_of_agrees {key : α → κ} {key' : β → κ} (agrees : List.Forall₂ agree records values)
    (same : ∀ record value, agree record value → key record = key' value) :
    records.map key = values.map key' := by
  induction agrees with
  | nil => rfl
  | cons first _ ih => rw [List.map_cons, List.map_cons, same _ _ first, ih]

end

/-- A written payload that spells a checked state has the version and the ids of that state,
and every length in it is read as it was written. -/
theorem agrees_of_spelled (routine : SortRoutine) {st st' : PersistentState} {body : Bytes}
    (wrote : serialize routine st = .ok body) (spelled : body ∈ payload st') (checked : Checked st')
    (traceable : (LengthsSafe st ∧ SourcesCounted st) ∨ body.length < leastMisread) :
    st.formatVersion = st'.formatVersion ∧
      List.Forall₂ NicAgrees (routine.sort (·.id.value) st.nics) st'.nics ∧
      List.Forall₂ GpuAgrees (routine.sort (·.id.value) st.gpus) st'.gpus ∧
      List.Forall₂ (fun r _ => HistorySafe r) (routine.sort (·.id.value) st.history) st'.history := by
  obtain ⟨bound, size⟩ : ∃ bound, body.length = bound := ⟨_, rfl⟩
  rw [size] at traceable
  have nicsPerm := routine.perm (·.id.value) st.nics
  have gpusPerm := routine.perm (·.id.value) st.gpus
  have historyPerm := routine.perm (·.id.value) st.history
  obtain ⟨nicBytes, wroteNics, written⟩ := bind_eq_ok_iff.mp wrote
  obtain ⟨gpuBytes, wroteGpus, written⟩ := bind_eq_ok_iff.mp written
  obtain ⟨historyBytes, wroteHistory, written⟩ := bind_eq_ok_iff.mp written
  have nics : Delimits bound nicBytes (listed nic st'.nics)
      (List.Forall₂ NicAgrees (routine.sort (·.id.value) st.nics) st'.nics) := by
    refine records_delimits wroteNics checked.nicCount (by decide) ?_
    intro n encoding n' listed listed' wroteNic
    have member := nicsPerm.mem_iff.mp listed
    exact nic_delimits wroteNic (checked.nics n' listed').1
      (traceable.imp_left fun fits => fits.1.nics n member)
      (traceable.imp_left fun fits => fits.2.nics n member)
  have gpus : Delimits bound gpuBytes (listed gpu st'.gpus)
      (List.Forall₂ GpuAgrees (routine.sort (·.id.value) st.gpus) st'.gpus) := by
    refine records_delimits wroteGpus checked.gpuCount (by decide) ?_
    intro g encoding g' listed listed' wroteGpu
    have member := gpusPerm.mem_iff.mp listed
    exact gpu_delimits wroteGpu (checked.gpus g' listed').1
      (traceable.imp_left fun fits => fits.1.gpus g member)
      (traceable.imp_left fun fits => fits.2.gpus g member)
  have history : Delimits bound historyBytes (listed history st'.history)
      (List.Forall₂ (fun r _ => HistorySafe r) (routine.sort (·.id.value) st.history) st'.history) := by
    refine records_delimits wroteHistory checked.historyCount (by decide) ?_
    intro r encoding r' listed _ wroteRecord
    exact history_delimits wroteRecord
      (traceable.imp_left fun fits => fits.1.history r (historyPerm.mem_iff.mp listed))
  have version : Delimits bound (leBytes 4 st.formatVersion.toNat)
      (exactly (leBytes 4 st'.formatVersion.toNat)) (st.formatVersion = st'.formatVersion) := by
    refine (delimits_exactly (by rw [length_leBytes, length_leBytes])).imp fun same => ?_
    have values := congrArg leValue same
    rw [leValue_leBytes st.formatVersion.toNat_lt, leValue_leBytes st'.formatVersion.toNat_lt] at values
    exact UInt32.toNat_inj.mp values
  cases written
  simp only [List.append_assoc] at size
  obtain ⟨⟨sameVersion, -, -, -, nicsAgree, gpusAgree, historyAgrees⟩, -⟩ :=
    (version.cons <| word_delimits.cons <| flagged_delimits.cons <| word_delimits.cons <|
      nics.cons <| gpus.cons history.last) [] _ [] (by rw [List.append_nil, size]) spelled
      (by simp only [List.append_assoc, List.append_nil])
  exact ⟨sameVersion, nicsAgree, gpusAgree, historyAgrees⟩

/-- A state whose file spells a checked state is one that the reader takes. -/
theorem admissible_of_spelled (routine : SortRoutine) {st st' : PersistentState} {body : Bytes}
    (wrote : serialize routine st = .ok body) (spelled : body ∈ payload st') (checked : Checked st')
    (traceable : (LengthsSafe st ∧ SourcesCounted st) ∨ body.length < leastMisread) :
    Admissible st ∧ LengthsSafe st := by
  have nicsPerm := routine.perm (·.id.value) st.nics
  have gpusPerm := routine.perm (·.id.value) st.gpus
  have historyPerm := routine.perm (·.id.value) st.history
  obtain ⟨sameVersion, nicsAgree, gpusAgree, historyAgrees⟩ :=
    agrees_of_spelled routine wrote spelled checked traceable
  have nicIds := keys_of_agrees nicsAgree fun _ _ agrees => agrees.1
  have gpuIds := keys_of_agrees gpusAgree fun _ _ agrees => agrees.1
  have eachNic := forall_of_agrees nicsAgree fun n n' listed agrees =>
    (⟨by rw [agrees.1]; exact (checked.nics n' listed).2, agrees.2⟩ : n.id.valid = true ∧ _)
  have eachGpu := forall_of_agrees gpusAgree fun g g' listed agrees =>
    (⟨by rw [agrees.1]; exact (checked.gpus g' listed).2, agrees.2⟩ : g.id.valid = true ∧ _)
  have eachHistory := forall_of_agrees historyAgrees fun _ _ _ safe => safe
  constructor
  · exact {
      formatVersion := by rw [sameVersion]; exact checked.formatVersion
      nics := fun n member =>
        have ⟨id, _, _, sources, capability⟩ := eachNic n (nicsPerm.mem_iff.mpr member)
        ⟨id, sources, capability⟩
      nicsDistinct := (nicsPerm.map _).nodup_iff.mp (by rw [nicIds]; exact checked.nicsDistinct)
      gpus := fun g member =>
        have ⟨id, _, sources⟩ := eachGpu g (gpusPerm.mem_iff.mpr member)
        ⟨id, sources⟩
      gpusDistinct := (gpusPerm.map _).nodup_iff.mp (by rw [gpuIds]; exact checked.gpusDistinct) }
  · exact {
      nics := fun n member =>
        have ⟨_, name, description, _⟩ := eachNic n (nicsPerm.mem_iff.mpr member)
        ⟨name, description⟩
      gpus := fun g member => (eachGpu g (gpusPerm.mem_iff.mpr member)).2.1
      history := fun r member => eachHistory r (historyPerm.mem_iff.mpr member) }

/-- A saved file loads if the state passes the checks of the reader and all its string lengths
are safe. Among the states whose records the reader can trace, it loads only then. -/
theorem saved_loads (routine : SortRoutine) (st : PersistentState) :
    (ReaderTakes st → SavesLoadable routine st) ∧
      (Traceable routine st → (SavesLoadable routine st ↔ ReaderTakes st)) := by
  have enough (takes : ReaderTakes st) : SavesLoadable routine st := by
    intro file saved
    obtain ⟨body, wrote, -⟩ := save_eq_ok_iff.mp saved
    have writable := (serialize_isOk_iff routine st).mp ⟨body, wrote⟩
    obtain ⟨admissible, safe⟩ := takes writable
    obtain ⟨file', saved', loads⟩ := loads_reread routine writable admissible safe
    obtain rfl : file = file' := Except.ok.inj (saved.symm.trans saved')
    exact ⟨_, loads⟩
  refine ⟨enough, fun traceable => ⟨fun loads writable => ?_, enough⟩⟩
  obtain ⟨body, wrote⟩ := (serialize_isOk_iff routine st).mpr writable
  obtain ⟨loaded, read⟩ := loads _ (save_eq_ok_iff.mpr ⟨body, wrote, rfl⟩)
  rw [load_written] at read
  obtain ⟨spelled, checked⟩ := reads_readState.mp ((whole_eq_ok_iff _).mp read)
  exact admissible_of_spelled routine wrote spelled checked
    (traceable.imp_right fun few => few body wrote)

/-- A NIC with a description of 128 bytes. -/
def longDescription : PersistentState :=
  { epoch := ⟨1⟩
    nics := [{ id := ⟨10⟩, generation := ⟨1⟩, osDescription := List.replicate 128 65 }] }

theorem longDescription_rejected : ¬∀ routine st, SavesLoadable routine st := by
  intro always
  have rejected : ((save insertion longDescription).toOption.map fun file => (load file).toOption) =
      some none := by decide +kernel
  cases saved : save insertion longDescription with
  | error failure =>
    rw [saved] at rejected
    cases rejected
  | ok file =>
    obtain ⟨loaded, read⟩ := always insertion longDescription file saved
    rw [saved, Except.toOption, Option.map_some, read] at rejected
    cases rejected

/-! Behind a misread string there may be enough bytes for the reader to go on: it takes the
name of this NIC and all but two bytes of its description for the name. -/

def overrunNic (name rest : Bytes) : NicRecord :=
  { id := ⟨10⟩, osName := name, osDescription := rest ++ [0, 0] }

def overrunName (name rest : Bytes) : Bytes := name ++ (leBytes 2 65280 ++ rest)

section
variable {name rest : Bytes}

theorem overrunName_spelled (short : name.length = 128) (long : rest.length = 65278) :
    leBytes 2 128 ++ overrunName name rest ∈ text (overrunName name rest) := by
  refine ⟨65408, ?_, Language.append_mem_mul ⟨128, 0, rfl, by decide⟩ rfl⟩
  rw [overrunName, List.length_append, List.length_append, length_leBytes, short, long]
  rfl

theorem empty_spelled : ([0, 0] : Bytes) ∈ text [] :=
  ⟨0, rfl, mem_mul.mpr ⟨[0, 0], ⟨0, 0, rfl, by decide⟩, [], rfl, rfl⟩⟩

/-- What the reader makes of the NIC. -/
def overrunRead (name rest : Bytes) : NicRecord :=
  rereadNic { overrunNic name rest with osName := overrunName name rest, osDescription := [] }

theorem overrunNic_spelled {bytes : Bytes} (short : name.length = 128) (long : rest.length = 65278)
    (wrote : writeNic (overrunNic name rest) = .ok bytes) :
    bytes ∈ nic (overrunRead name rest) := by
  obtain ⟨osName, wroteName, wrote⟩ := bind_eq_ok_iff.mp wrote
  obtain ⟨osDescription, wroteDescription, wrote⟩ := bind_eq_ok_iff.mp wrote
  obtain ⟨-, rfl⟩ := writeStr_eq_ok_iff.mp wroteName
  obtain ⟨-, rfl⟩ := writeStr_eq_ok_iff.mp wroteDescription
  cases wrote
  have total : (rest ++ [0, 0]).length = 65280 := by rw [List.length_append, long]; rfl
  have regroup (more : Bytes) : leBytes 2 128 ++ (name ++ (leBytes 2 65280 ++ (rest ++ ([0, 0] ++ more)))) =
      (leBytes 2 128 ++ overrunName name rest) ++ ([0, 0] ++ more) := by
    simp only [overrunName, List.append_assoc]
  simp only [overrunNic, short, total, List.append_assoc, regroup]
  rw [← List.append_assoc (leBytes 2 128)]
  exact mem_prod_cons rfl <| mem_prod_cons rfl <| mem_prod_cons (overrunName_spelled short long) <|
    mem_prod_cons empty_spelled <|
    mem_prod_cons (pci_written _) <| mem_prod_cons (half_written _) <|
    mem_prod_cons (half_written _) <| mem_prod_cons (half_written _) <|
    mem_prod_cons (half_written _) <| mem_prod_cons rfl <| mem_prod_cons rfl <|
    mem_prod_cons rfl <| mem_prod_cons (capability_written _) <| mem_prod_cons rfl <|
    mem_prod_last (provenance_written _)

theorem overrunRead_checked : Checked { nics := [overrunRead name rest] } where
  formatVersion := UInt32.le_refl _
  nicCount := show 1 ≤ kMaxNics by decide
  nics n member := by
    obtain rfl := List.mem_singleton.mp member
    exact ⟨⟨Nat.zero_le _, Nat.zero_le _, rfl, rfl, rfl, rfl⟩, rfl⟩
  nicsDistinct := List.nodup_singleton _
  gpuCount := Nat.zero_le _
  gpus _ member := nomatch member
  gpusDistinct := List.nodup_nil
  historyCount := Nat.zero_le _
  history _ member := nomatch member

theorem overrun_writable (short : name.length = 128) (long : rest.length = 65278) :
    Writable { nics := [overrunNic name rest] } where
  nics n member := by
    obtain rfl := List.mem_singleton.mp member
    rw [overrunNic, List.length_append, short, long]
    decide
  nicCount := show 1 ≤ kMaxNics by decide
  gpus _ member := nomatch member
  gpuCount := Nat.zero_le _
  history _ member := nomatch member
  historyCount := Nat.zero_le _

theorem overrun_misread (short : name.length = 128) (long : rest.length = 65278) :
    ¬ReaderTakes { nics := [overrunNic name rest] } := by
  intro takes
  have safe := ((takes (overrun_writable short long)).2.nics _ (List.mem_singleton.mpr rfl)).1
  rw [overrunNic, short] at safe
  exact absurd safe (by decide)

/-- A state with a misread string whose file loads all the same. -/
theorem overrun_loads (routine : SortRoutine) (short : name.length = 128) (long : rest.length = 65278) :
    SavesLoadable routine { nics := [overrunNic name rest] } := by
  intro file saved
  obtain ⟨body, wrote, rfl⟩ := save_eq_ok_iff.mp saved
  obtain ⟨nicBytes, wroteNics, wrote⟩ := bind_eq_ok_iff.mp wrote
  obtain ⟨gpuBytes, wroteGpus, wrote⟩ := bind_eq_ok_iff.mp wrote
  obtain ⟨historyBytes, wroteHistory, wrote⟩ := bind_eq_ok_iff.mp wrote
  rw [List.perm_singleton.mp (routine.perm ..)] at wroteNics
  rw [List.perm_nil.mp (routine.perm ..)] at wroteGpus wroteHistory
  have nics : nicBytes ∈ listed nic [overrunRead name rest] := by
    obtain ⟨-, encodings, encoded, rfl⟩ := writeRecords_eq_ok_iff.mp wroteNics
    cases encoded with
    | cons wroteNic none =>
      cases none
      exact Language.append_mem_mul rfl
        (flatten_mem_prod (.cons (overrunNic_spelled short long wroteNic) .nil))
  have gpus : gpuBytes ∈ listed gpu [] := by
    cases wroteGpus
    exact Language.append_mem_mul rfl Language.nil_mem_one
  have histories : historyBytes ∈ listed history [] := by
    cases wroteHistory
    exact Language.append_mem_mul rfl Language.nil_mem_one
  have policy : leBytes 4 (policyFlags {}).toNat ∈ policyWord {} := ⟨_, rfl, by decide⟩
  cases wrote
  refine ⟨{ nics := [overrunRead name rest] }, load_eq_ok_iff.mpr ⟨⟨_, ?_, rfl⟩, ?_⟩⟩
  · simp only [List.append_assoc]
    exact mem_prod_cons rfl <| mem_prod_cons rfl <| mem_prod_cons policy <| mem_prod_cons rfl <|
      mem_prod_cons nics <| mem_prod_cons gpus <| mem_prod_last histories
  · exact overrunRead_checked

end

end NicResidency.SavedFiles

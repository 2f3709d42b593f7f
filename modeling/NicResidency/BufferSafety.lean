import NicResidency.Library.ReadSafety
import NicResidency.Persistence
import NicResidency.Wire

/-!
The readers of files and frames on arbitrary bytes: every access stays inside the
buffer, and a buffer that cannot be read is refused with a known error.
-/

namespace NicResidency.BufferSafety
open ByteStream ByteStream.Reader

/-- A result that is an exception of one of the given kinds. -/
def Refused {α : Type} (kinds : List ErrorCode) (outcome : Outcome α) : Prop :=
  ∃ error, outcome = .error (.thrown error) ∧ error.code ∈ kinds

/-! A persistence file. -/

section
open PersistenceStore

/-- The bytes between the magic string and the checksum. -/
def payloadOf (data : Bytes) : Bytes := (data.drop kMagicLen).take (data.length - kMagicLen - 8)

def Unreadable (error : ResidencyError) : Prop :=
  error.code ∈ [ErrorCode.integrityFailure, .unsupported]

theorem unreadable_integrityFailure (message : String) : Unreadable (integrityFailure message) :=
  .head _

theorem throws_byte : (u8 short).Throws Unreadable := throws_u8 (unreadable_integrityFailure _)

theorem throws_number : (u64 short).Throws Unreadable := throws_u64 (unreadable_integrityFailure _)

theorem throws_flags : (u32 short).Throws Unreadable := throws_u32 (unreadable_integrityFailure _)

theorem throws_u16 : u16.Throws Unreadable :=
  (throws_take (unreadable_integrityFailure _) 2).map _

theorem throws_str : str.Throws Unreadable :=
  throws_u16.bind fun _ => throws_take (unreadable_integrityFailure _) _

theorem throws_numbered {α : Type} [DecidableEq α] [ByteEnum α] (invalid : String) (byte : UInt8) :
    (enumerated (integrityFailure invalid) byte : Reader ResidencyError α).Throws Unreadable :=
  throws_enumerated (unreadable_integrityFailure _) byte

theorem throws_readEnum {α : Type} [DecidableEq α] [ByteEnum α] (invalid : String) :
    (readEnum invalid : Reader ResidencyError α).Throws Unreadable :=
  throws_byte.bind fun _ => throws_numbered _ _

theorem throws_readProvenance : readProvenance.Throws Unreadable :=
  (throws_readEnum _).bind fun _ =>
    (throws_counted (unreadable_integrityFailure _) (unreadable_integrityFailure _)
      (fun _ => throws_readEnum _) ()).bind fun _ => throws_pure

theorem throws_readCapability : readCapability.Throws Unreadable :=
  throws_number.bind fun _ => throws_flags.bind fun _ => throws_readProvenance.bind fun _ =>
    throws_pure

theorem throws_readPci : readPci.Throws Unreadable :=
  throws_u16.bind fun _ => throws_byte.bind fun _ => throws_byte.bind fun _ =>
    throws_byte.bind fun _ => throws_pure

theorem throws_readNic : readNic.Throws Unreadable :=
  throws_number.bind fun _ => throws_number.bind fun _ => throws_str.bind fun _ =>
    throws_str.bind fun _ => throws_readPci.bind fun _ => throws_u16.bind fun _ =>
    throws_u16.bind fun _ => throws_u16.bind fun _ => throws_u16.bind fun _ =>
    throws_byte.bind fun _ => throws_byte.bind fun _ => throws_byte.bind fun _ =>
    (throws_numbered _ _).bind fun _ => (throws_numbered _ _).bind fun _ =>
    throws_readCapability.bind fun _ => throws_number.bind fun _ =>
    throws_readProvenance.bind fun _ => throws_pure

theorem throws_readGpu : readGpu.Throws Unreadable :=
  throws_number.bind fun _ => throws_number.bind fun _ => throws_str.bind fun _ =>
    throws_readPci.bind fun _ => throws_number.bind fun _ => throws_byte.bind fun _ =>
    throws_number.bind fun _ => throws_readProvenance.bind fun _ => throws_pure

theorem throws_readHistory : readHistory.Throws Unreadable :=
  throws_number.bind fun _ => throws_number.bind fun _ => throws_number.bind fun _ =>
    throws_number.bind fun _ => throws_number.bind fun _ => throws_number.bind fun _ =>
    throws_number.bind fun _ => throws_number.bind fun _ => throws_number.bind fun _ =>
    (throws_readEnum _).bind fun _ => throws_number.bind fun _ =>
    (throws_readEnum _).bind fun _ => throws_number.bind fun _ => throws_number.bind fun _ =>
    throws_number.bind fun _ => (throws_readEnum _).bind fun _ => throws_str.bind fun _ =>
    throws_pure

/-- A list of records whose ids are distinct. -/
theorem throws_records {α κ : Type} [DecidableEq κ] {reader : Reader ResidencyError α}
    (throws : reader.Throws Unreadable) (limit : Nat) (key : α → κ) (bad : α → Prop)
    [DecidablePred bad] (tooMany invalid duplicate : String) (update : List κ → α → List κ) :
    (counted short (integrityFailure tooMany) limit
      (reader.distinct key bad (integrityFailure invalid) (integrityFailure duplicate))
      update []).Throws Unreadable :=
  throws_counted (unreadable_integrityFailure _) (unreadable_integrityFailure _)
    (throws.distinct key bad (unreadable_integrityFailure _) (unreadable_integrityFailure _)) []

theorem throws_readHistories : readHistories.Throws Unreadable :=
  throws_counted (unreadable_integrityFailure _) (unreadable_integrityFailure _)
    (fun _ => throws_readHistory) ()

theorem throws_readState : readState.Throws Unreadable :=
  throws_flags.bind fun _ => (throws_reject (.tail _ (.head _))).bind fun _ =>
    throws_number.bind fun _ => throws_flags.bind fun _ => throws_number.bind fun _ =>
    (throws_records throws_readNic _ _ _ _ _ _ _).bind fun _ =>
    (throws_records throws_readGpu _ _ _ _ _ _ _).bind fun _ =>
    throws_readHistories.bind fun _ => throws_pure

theorem load_outcome (data : Bytes) :
    (∃ st, load data = .ok st) ∨ Refused [.integrityFailure, .unsupported] (load data) := by
  unfold load
  split
  next => exact .inr ⟨_, rfl, .head _⟩
  next =>
    split
    next => exact .inr ⟨_, rfl, .head _⟩
    next =>
      simp only
      split
      next => exact .inr ⟨_, rfl, .head _⟩
      next => exact throws_readState.whole (unreadable_integrityFailure _) _

end

/-! A frame. -/

section
open FrameCodec

theorem toU32Le_inside (data : Bytes) {offset : Nat} (inside : offset + 4 ≤ data.length) :
    ∃ value, toU32Le data offset = .ok value := by
  rw [toU32Le, fetch_inside inside]
  exact ⟨_, rfl⟩

/-- A length that is given for a whole prefix covers the header, so the payload length is
no wrapped difference. -/
theorem headerLength_outcome (data : Bytes) :
    (data.length < 8 ∧ headerLength data = .ok 0) ∨
      (∃ len, headerLength data = .ok len ∧ kHeaderSize ≤ len ∧ len ≤ kMaxFrame) ∨
      Refused [.protocolError] (headerLength data) := by
  by_cases short : data.length < 8
  · apply Or.inl
    rw [headerLength, if_pos short]
    exact ⟨short, rfl⟩
  · apply Or.inr
    obtain ⟨magic, magicAt⟩ : ∃ magic, toU32Le data 0 = .ok magic := toU32Le_inside data (by omega)
    obtain ⟨len, lenAt⟩ : ∃ len, toU32Le data 4 = .ok len := toU32Le_inside data (by omega)
    by_cases badMagic : magic ≠ kMagic
    · simp only [headerLength, if_neg short, magicAt, ok_bind, if_pos badMagic]
      exact .inr ⟨_, rfl, .head _⟩
    by_cases badLength : len < kHeaderSize ∨ len > kMaxFrame
    · simp only [headerLength, if_neg short, magicAt, lenAt, ok_bind, if_neg badMagic,
        if_pos badLength]
      exact .inr ⟨_, rfl, .head _⟩
    · simp only [headerLength, if_neg short, magicAt, lenAt, ok_bind, if_neg badMagic,
        if_neg badLength]
      exact .inl ⟨len, rfl, by omega, by omega⟩

theorem tryDecode_outcome (data : Bytes) :
    tryDecode data = .ok none ∨
      (∃ frame, tryDecode data = .ok (some frame) ∧ frame.consumed ≤ data.length) ∨
      Refused [.protocolError] (tryDecode data) := by
  cases decoded : tryDecode data with
  | error fault =>
    obtain ⟨error, rfl, code⟩ := tryDecode_error decoded
    exact .inr (.inr ⟨error, rfl, List.mem_singleton.mpr code⟩)
  | ok found =>
    cases found with
    | none => exact .inl rfl
    | some frame =>
      obtain ⟨bytes, rest, -, rfl, size⟩ := tryDecode_eq_some_iff.mp decoded
      refine .inr (.inl ⟨frame, rfl, ?_⟩)
      rw [size, List.length_append]
      omega

theorem parse_total {α : Type} (reader : Reader ResidencyError α) (p : Bytes) :
    ∃ parsed, parse reader p = .ok parsed := by
  unfold parse
  split
  next value _ => exact ⟨some value, rfl⟩
  next => exact ⟨none, rfl⟩
  next outside => exact absurd outside (whole_ne_outOfBounds reader truncated p)

/-- The reader under `parseRegisterWorker`. -/
def readRegisterWorker : Reader ResidencyError WorkerRegistration := do
  let w ← u64 truncated
  let b ← u64 truncated
  let e ← u64 truncated
  return { worker := ⟨w⟩, boot := ⟨b⟩, epoch := ⟨e⟩ }

theorem parseRegisterWorker_eq (p : Bytes) : parseRegisterWorker p = parse readRegisterWorker p :=
  rfl

end

/-! All readers together. -/

section
open PersistenceStore FrameCodec

/-- What holds of every buffer. A result other than `outOfBounds` says that no access and no
bounds test was made outside the buffer. -/
structure StaysInside (data : Bytes) : Prop where
  loadAccesses : kMagicLen + 8 ≤ data.length →
    (fetch data 0 kMagicLen : Outcome Bytes) = .ok (data.take kMagicLen) ∧
    (fetch data kMagicLen (data.length - kMagicLen - 8) : Outcome Bytes) = .ok (payloadOf data) ∧
    (fetch data (data.length - 8) 8 : Outcome Bytes) = .ok (data.drop (data.length - 8))
  loadPositions : ∀ position, readState.Visits (payloadOf data) 0 position →
    position ≤ (payloadOf data).length
  loadOutcome : (∃ st, load data = .ok st) ∨ Refused [.integrityFailure, .unsupported] (load data)
  headerOutcome : (data.length < 8 ∧ headerLength data = .ok 0) ∨
    (∃ len, headerLength data = .ok len ∧ kHeaderSize ≤ len ∧ len ≤ kMaxFrame) ∨
    Refused [.protocolError] (headerLength data)
  decodeOutcome : tryDecode data = .ok none ∨
    (∃ frame, tryDecode data = .ok (some frame) ∧ frame.consumed ≤ data.length) ∨
    Refused [.protocolError] (tryDecode data)
  registerPositions : ∀ position, readRegisterWorker.Visits data 0 position →
    position ≤ data.length
  registerOutcome : ∃ parsed, parseRegisterWorker data = .ok parsed
  publishPositions : ∀ nic position, (readPublishNic nic).Visits data 0 position →
    position ≤ data.length
  publishOutcome : ∀ nic, ∃ parsed, parsePublishNic data nic = .ok parsed

theorem load_accesses {data : Bytes} (long : kMagicLen + 8 ≤ data.length) :
    (fetch data 0 kMagicLen : Outcome Bytes) = .ok (data.take kMagicLen) ∧
    (fetch data kMagicLen (data.length - kMagicLen - 8) : Outcome Bytes) = .ok (payloadOf data) ∧
    (fetch data (data.length - 8) 8 : Outcome Bytes) = .ok (data.drop (data.length - 8)) := by
  refine ⟨fetch_inside (by omega), fetch_inside (by omega), ?_⟩
  rw [fetch_inside (by omega), List.take_of_length_le]
  rw [List.length_drop]
  omega

/-- Whatever the bytes are, every reader stays inside its buffer. -/
theorem every_read_stays_inside (data : Bytes) : StaysInside data where
  loadAccesses := load_accesses
  loadPositions _ visits := visits.le (Nat.zero_le _)
  loadOutcome := load_outcome data
  headerOutcome := headerLength_outcome data
  decodeOutcome := tryDecode_outcome data
  registerPositions _ visits := visits.le (Nat.zero_le _)
  registerOutcome := by
    rw [parseRegisterWorker_eq]
    exact parse_total readRegisterWorker data
  publishPositions _ _ visits := visits.le (Nat.zero_le _)
  publishOutcome nic := parse_total (readPublishNic nic) data

-- the positions between the reads count
example : readRegisterWorker.Visits (List.replicate 24 0) 0 16 := .tail rfl (.tail rfl .start)

end

end NicResidency.BufferSafety

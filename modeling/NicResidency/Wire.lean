import NicResidency.Library.Encoding
import NicResidency.Records

/-!
The framed protocol of worker publications. A frame carries a magic number, its
length, a message type and a checksum of its payload.
-/

namespace NicResidency
open ByteStream ByteStream.Reader

def protocolError (message : String) : ResidencyError := { code := .protocolError, message }

inductive ProtocolMessageType where
  | hello | registerWorker | publishNic | queryResidency | retireResidency | ready | ack | error
  deriving DecidableEq, Repr

namespace ProtocolMessageType

def toByte : ProtocolMessageType → UInt8
  | .hello => 1
  | .registerWorker => 2
  | .publishNic => 3
  | .queryResidency => 4
  | .retireResidency => 5
  | .ready => 6
  | .ack => 7
  | .error => 8

/-- The message type of a byte from one to eight. -/
def ofByte (byte : UInt8) : Option ProtocolMessageType :=
  [hello, registerWorker, publishNic, queryResidency, retireResidency, ready, ack, error].find?
    (·.toByte == byte)

@[simp] theorem ofByte_toByte (type : ProtocolMessageType) : ofByte type.toByte = some type := by
  cases type <;> rfl

theorem ofByte_eq_some_iff {byte : UInt8} {type : ProtocolMessageType} :
    ofByte byte = some type ↔ byte = type.toByte := by
  constructor
  · intro found
    have equal := List.find?_some found
    exact (beq_iff_eq.mp equal).symm
  · intro same
    rw [same, ofByte_toByte]

end ProtocolMessageType

/-- A decoded frame and the number of bytes it takes. -/
structure Frame where
  type : ProtocolMessageType
  payload : Bytes
  consumed : Nat
  deriving DecidableEq, Repr

namespace FrameCodec

def kMagic : Nat := 0x4E495243
def kMaxFrame : Nat := 65536
def kHeaderSize : Nat := 13

/-- The stored part of the payload checksum. -/
def checksum (payload : Bytes) : Nat := (fnv1a payload).toNat % 2 ^ 32

def encode (type : ProtocolMessageType) (payload : Bytes) : Except ResidencyError Bytes :=
  if payload.length + kHeaderSize > kMaxFrame then
    .error { code := .resourceLimit, message := "frame too large" }
  else
    .ok (leBytes 4 kMagic ++ leBytes 4 (kHeaderSize + payload.length) ++ [type.toByte] ++
      leBytes 4 (checksum payload) ++ payload)

/-- The 32-bit number at an offset. -/
def toU32Le (data : Bytes) (offset : Nat) : Outcome Nat := leValue <$> fetch data offset 4

def headerLength (data : Bytes) : Outcome Nat := do
  if data.length < 8 then return 0
  let magic ← toU32Le data 0
  if magic ≠ kMagic then throw (.thrown (protocolError "bad frame magic"))
  let len ← toU32Le data 4
  if len < kHeaderSize ∨ len > kMaxFrame then
    throw (.thrown (protocolError "frame length out of bounds"))
  return len

/-- The frame at the start of the data, or none when more bytes are needed. -/
def tryDecode (data : Bytes) : Outcome (Option Frame) := do
  if data.length < kHeaderSize then return none
  let len ← headerLength data
  if len > data.length then return none
  let type ← fetch data 8 1
  match ProtocolMessageType.ofByte (type.headD 0) with
  | none => throw (.thrown (protocolError "invalid protocol message type"))
  | some type =>
    let payload ← fetch data kHeaderSize (len - kHeaderSize)
    let stored ← toU32Le data 9
    if checksum payload ≠ stored then throw (.thrown (protocolError "frame checksum mismatch"))
    return some { type, payload, consumed := len }

/-! Payloads. -/

def putStr (v : Bytes) : Except ResidencyError Bytes :=
  if v.length > 0xFFFF then .error (protocolError "string field too large for frame")
  else .ok (leBytes 4 v.length ++ v)

def truncated : ResidencyError := protocolError "protocol payload truncated"

def str : Reader ResidencyError Bytes := do
  let n ← u32 truncated
  take truncated n.toNat

def payloadRegisterWorker (w : WorkerId) (b : WorkerBootId) (e : CoordinatorEpoch) : Bytes :=
  leBytes 8 w.value.toNat ++ leBytes 8 b.value.toNat ++ leBytes 8 e.value.toNat

def payloadPublishNic (w : WorkerId) (b : WorkerBootId) (e : CoordinatorEpoch) (nic : NicRecord) :
    Except ResidencyError Bytes := do
  let osName ← putStr nic.osName
  return leBytes 8 w.value.toNat ++ leBytes 8 b.value.toNat ++ leBytes 8 e.value.toNat ++
    leBytes 8 nic.id.value.toNat ++ leBytes 8 nic.generation.value.toNat ++
    leBytes 4 nic.pci.numeric.toNat ++ leBytes 8 nic.numaNode.value.toNat ++ osName

/-- A parser that catches the reader's exceptions: it gives nothing for them and
for bytes that are left over. -/
def parse {α : Type} (reader : Reader ResidencyError α) (p : Bytes) : Outcome (Option α) :=
  match reader.whole truncated p with
  | .ok value => .ok (some value)
  | .error (.thrown _) => .ok none
  | .error .outOfBounds => .error .outOfBounds

theorem parse_eq_some_iff {α : Type} {reader : Reader ResidencyError α} {p : Bytes} {value : α} :
    parse reader p = .ok (some value) ↔ reader.Reads p value := by
  rw [← whole_eq_ok_iff truncated, parse]
  split
  next found read => simp [read]
  next read => simp [read]
  next read => simp [read]

structure WorkerRegistration where
  worker : WorkerId
  boot : WorkerBootId
  epoch : CoordinatorEpoch
  deriving DecidableEq, Repr

def parseRegisterWorker (p : Bytes) : Outcome (Option WorkerRegistration) :=
  parse (do
    let w ← u64 truncated
    let b ← u64 truncated
    let e ← u64 truncated
    return { worker := ⟨w⟩, boot := ⟨b⟩, epoch := ⟨e⟩ }) p

/-- A payload is parsed to a registration exactly when it was built from it. -/
theorem parseRegisterWorker_eq_some_iff {p : Bytes} {r : WorkerRegistration} :
    parseRegisterWorker p = .ok (some r) ↔ p = payloadRegisterWorker r.worker r.boot r.epoch := by
  obtain ⟨⟨w⟩, ⟨b⟩, ⟨e⟩⟩ := r
  simp only [parseRegisterWorker, parse_eq_some_iff, payloadRegisterWorker, reads_bind, reads_u64,
    reads_pure, WorkerRegistration.mk.injEq, Id.mk.injEq, exists_and_left, ↓existsAndEq, true_and,
    and_true, List.append_nil, List.append_assoc]

structure NicPublication where
  worker : WorkerId
  boot : WorkerBootId
  epoch : CoordinatorEpoch
  nic : NicRecord
  deriving DecidableEq, Repr

/-- The fields that the payload carries are stored into the given record. -/
def readPublishNic (nic : NicRecord) : Reader ResidencyError NicPublication := do
  let w ← u64 truncated
  let b ← u64 truncated
  let e ← u64 truncated
  let id ← u64 truncated
  let generation ← u64 truncated
  let bdf ← u32 truncated
  let numaNode ← u64 truncated
  let osName ← str
  return {
    worker := ⟨w⟩
    boot := ⟨b⟩
    epoch := ⟨e⟩
    nic :=
      { nic with
        id := ⟨id⟩
        generation := ⟨generation⟩
        pci := PciAddress.fromBdf (bdf >>> 16).toUInt16 (bdf &&& 0xFFFF).toUInt16
        numaNode := ⟨numaNode⟩
        osName := osName
        provenance := ⟨.real, [.rdmaProvider]⟩
        lifecycle := .available
        freshness := 1 } }

def parsePublishNic (p : Bytes) (nic : NicRecord) : Outcome (Option NicPublication) :=
  parse (readPublishNic nic) p

/-! A frame is decoded to what was encoded. -/

theorem ok_bind {α β : Type} (value : α) (next : α → Outcome β) :
    (Except.ok value : Outcome α) >>= next = next value := rfl

theorem toU32Le_eq {data bytes : Bytes} {offset : Nat} (before after : Bytes)
    (split : data = before ++ bytes ++ after) (start : before.length = offset)
    (size : bytes.length = 4) : toU32Le data offset = .ok (leValue bytes) := by
  rw [toU32Le, fetch_eq before after split start size]
  rfl

theorem checksum_lt (payload : Bytes) : checksum payload < 2 ^ 32 := Nat.mod_lt _ (by decide)

theorem tryDecode_short {data : Bytes} (short : data.length < kHeaderSize) :
    tryDecode data = .ok none := by
  simp only [tryDecode, if_pos short]
  rfl

/-- A buffer with a complete header, region by region. -/
theorem tryDecode_parts {magic len sum : Bytes} (type : UInt8) (body : Bytes)
    (magicSize : magic.length = 4) (lenSize : len.length = 4) (sumSize : sum.length = 4) :
    tryDecode (magic ++ len ++ [type] ++ sum ++ body) =
      if leValue magic ≠ kMagic then .error (.thrown (protocolError "bad frame magic"))
      else if leValue len < kHeaderSize ∨ leValue len > kMaxFrame then
        .error (.thrown (protocolError "frame length out of bounds"))
      else if leValue len > kHeaderSize + body.length then .ok none
      else match ProtocolMessageType.ofByte type with
        | none => .error (.thrown (protocolError "invalid protocol message type"))
        | some type =>
          if checksum (body.take (leValue len - kHeaderSize)) ≠ leValue sum then
            .error (.thrown (protocolError "frame checksum mismatch"))
          else .ok (some
            { type, payload := body.take (leValue len - kHeaderSize), consumed := leValue len }) := by
  generalize buffer : magic ++ len ++ [type] ++ sum ++ body = data
  have size : data.length = kHeaderSize + body.length := by
    simp [← buffer, magicSize, lenSize, sumSize, kHeaderSize]
    omega
  have magicAt : toU32Le data 0 = .ok (leValue magic) :=
    toU32Le_eq [] (len ++ [type] ++ sum ++ body) (by simp [← buffer]) rfl magicSize
  have lenAt : toU32Le data 4 = .ok (leValue len) :=
    toU32Le_eq magic ([type] ++ sum ++ body) (by simp [← buffer]) magicSize lenSize
  have typeAt : (fetch data 8 1 : Outcome _) = .ok [type] :=
    fetch_eq (magic ++ len) (sum ++ body) (by simp [← buffer]) (by simp [magicSize, lenSize]) rfl
  have sumAt : toU32Le data 9 = .ok (leValue sum) :=
    toU32Le_eq (magic ++ len ++ [type]) body buffer.symm (by simp [magicSize, lenSize]) sumSize
  have long : ¬data.length < kHeaderSize := by omega
  have start : ¬data.length < 8 := by
    unfold kHeaderSize at long
    omega
  by_cases badMagic : leValue magic ≠ kMagic
  · simp only [tryDecode, headerLength, if_neg long, if_neg start, magicAt, ok_bind, if_pos badMagic]
    rfl
  by_cases badLength : leValue len < kHeaderSize ∨ leValue len > kMaxFrame
  · simp only [tryDecode, headerLength, if_neg long, if_neg start, magicAt, lenAt, ok_bind,
      if_neg badMagic, if_pos badLength]
    rfl
  have header : headerLength data = .ok (leValue len) := by
    simp only [headerLength, if_neg start, magicAt, lenAt, ok_bind, if_neg badMagic, if_neg badLength]
    rfl
  by_cases incomplete : leValue len > kHeaderSize + body.length
  · have missing : leValue len > data.length := by omega
    simp only [tryDecode, if_neg long, header, ok_bind, if_pos missing, if_neg badMagic,
      if_neg badLength, if_pos incomplete]
    rfl
  have complete : ¬leValue len > data.length := by omega
  have bodyAt : (fetch data kHeaderSize (leValue len - kHeaderSize) : Outcome _) =
      .ok (body.take (leValue len - kHeaderSize)) :=
    fetch_eq (magic ++ len ++ [type] ++ sum) (body.drop (leValue len - kHeaderSize))
      (by simp [← buffer]) (by simp [magicSize, lenSize, sumSize, kHeaderSize])
      (by rw [List.length_take]; omega)
  simp only [tryDecode, if_neg long, header, ok_bind, if_neg complete, if_neg badMagic,
    if_neg badLength, if_neg incomplete, typeAt, List.headD_cons, bodyAt, sumAt]
  cases ProtocolMessageType.ofByte type with
  | none => rfl
  | some type =>
    by_cases mismatch : checksum (body.take (leValue len - kHeaderSize)) ≠ leValue sum
    · simp only [if_pos mismatch]
      rfl
    · simp only [if_neg mismatch]
      rfl

/-- The regions of an encoded frame. -/
theorem encode_eq_ok_iff {type : ProtocolMessageType} {payload frame : Bytes} :
    encode type payload = .ok frame ↔ kHeaderSize + payload.length ≤ kMaxFrame ∧
      frame = leBytes 4 kMagic ++ leBytes 4 (kHeaderSize + payload.length) ++ [type.toByte] ++
        leBytes 4 (checksum payload) ++ payload := by
  unfold encode
  split
  next large => exact iff_of_false (fun encoded => nomatch encoded) (fun found => by omega)
  next fits => simp only [Except.ok.injEq, eq_comm (b := frame), iff_and_self]; omega

theorem length_encode {type : ProtocolMessageType} {payload frame : Bytes}
    (encoded : encode type payload = .ok frame) : frame.length = kHeaderSize + payload.length := by
  obtain ⟨-, rfl⟩ := encode_eq_ok_iff.mp encoded
  simp [kHeaderSize]
  omega

theorem tryDecode_encode {type : ProtocolMessageType} {payload frame : Bytes}
    (encoded : encode type payload = .ok frame) (rest : Bytes) :
    tryDecode (frame ++ rest) = .ok (some { type, payload, consumed := frame.length }) := by
  have size := length_encode encoded
  obtain ⟨fits, rfl⟩ := encode_eq_ok_iff.mp encoded
  have magic : leValue (leBytes 4 kMagic) = kMagic := leValue_leBytes (by decide)
  have len : leValue (leBytes 4 (kHeaderSize + payload.length)) = kHeaderSize + payload.length := by
    apply leValue_leBytes
    unfold kMaxFrame at fits
    omega
  have sum : leValue (leBytes 4 (checksum payload)) = checksum payload :=
    leValue_leBytes (checksum_lt payload)
  have inBounds : ¬(kHeaderSize + payload.length < kHeaderSize ∨
      kHeaderSize + payload.length > kMaxFrame) := by omega
  have complete : ¬kHeaderSize + payload.length > kHeaderSize + (payload ++ rest).length := by
    rw [List.length_append]
    omega
  rw [size, List.append_assoc, tryDecode_parts type.toByte (payload ++ rest) (length_leBytes ..)
    (length_leBytes ..) (length_leBytes ..), magic, len, sum, if_neg (not_not.mpr rfl),
    if_neg inBounds, if_neg complete, ProtocolMessageType.ofByte_toByte]
  simp only [Nat.add_sub_cancel_left, List.take_left, ne_eq, not_true_eq_false, if_false]

/-- A buffer that holds a header, in its regions. -/
theorem parts_of_header {data : Bytes} (long : kHeaderSize ≤ data.length) :
    ∃ magic len type sum body, data = magic ++ len ++ [type] ++ sum ++ body ∧ magic.length = 4 ∧
      len.length = 4 ∧ sum.length = 4 := by
  unfold kHeaderSize at long
  obtain ⟨magic, rest, rfl, magicSize⟩ := split_at data 4 (by omega)
  rw [List.length_append] at long
  obtain ⟨len, rest, rfl, lenSize⟩ := split_at rest 4 (by omega)
  rw [List.length_append] at long
  obtain ⟨type, rest, rfl⟩ := List.exists_cons_of_length_pos (l := rest) (by omega)
  rw [List.length_cons] at long
  obtain ⟨sum, body, rfl, sumSize⟩ := split_at rest 4 (by omega)
  exact ⟨magic, len, type, sum, body, by simp, magicSize, lenSize, sumSize⟩

/-- A frame is found exactly where the encoding of its type and payload stands. -/
theorem tryDecode_eq_some_iff {data : Bytes} {found : Frame} :
    tryDecode data = .ok (some found) ↔
      ∃ frame rest, encode found.type found.payload = .ok frame ∧ data = frame ++ rest ∧
        found.consumed = frame.length := by
  constructor
  · intro decoded
    by_cases short : data.length < kHeaderSize
    · rw [tryDecode_short short] at decoded
      cases decoded
    obtain ⟨magic, len, type, sum, body, rfl, magicSize, lenSize, sumSize⟩ :=
      parts_of_header (not_lt.mp short)
    rw [tryDecode_parts type body magicSize lenSize sumSize] at decoded
    cases typed : ProtocolMessageType.ofByte type with
    | none =>
      simp only [typed] at decoded
      split_ifs at decoded
      cases decoded
    | some type' =>
      simp only [typed] at decoded
      split_ifs at decoded with badMagic badLength incomplete mismatch <;> cases decoded
      rw [not_not] at badMagic mismatch
      have payloadSize : (body.take (leValue len - kHeaderSize)).length = leValue len - kHeaderSize := by
        rw [List.length_take]
        omega
      have encoded : encode type' (body.take (leValue len - kHeaderSize)) = .ok (magic ++ len ++ [type] ++
          sum ++ body.take (leValue len - kHeaderSize)) := by
        have total : kHeaderSize + (leValue len - kHeaderSize) = leValue len := by omega
        have magicBytes := leBytes_leValue magic
        have lenBytes := leBytes_leValue len
        have sumBytes := leBytes_leValue sum
        rw [magicSize, badMagic] at magicBytes
        rw [lenSize] at lenBytes
        rw [sumSize, ← mismatch] at sumBytes
        rw [encode_eq_ok_iff, payloadSize, total, magicBytes, lenBytes, sumBytes,
          ProtocolMessageType.ofByte_eq_some_iff.mp typed]
        exact ⟨by omega, rfl⟩
      refine ⟨_, body.drop (leValue len - kHeaderSize), encoded, by simp, ?_⟩
      have total : kHeaderSize + (leValue len - kHeaderSize) = leValue len := by omega
      rw [length_encode encoded, payloadSize, total]
  · intro standing
    obtain ⟨frame, rest, encoded, rfl, size⟩ := standing
    rw [tryDecode_encode encoded, ← size]

/-- Whatever the buffer holds, the decoder throws protocol errors only and reads no byte
outside. -/
theorem tryDecode_error {data : Bytes} {fault : ByteStream.Fault ResidencyError}
    (threw : tryDecode data = .error fault) :
    ∃ error, fault = .thrown error ∧ error.code = .protocolError := by
  by_cases short : data.length < kHeaderSize
  · rw [tryDecode_short short] at threw
    cases threw
  obtain ⟨magic, len, type, sum, body, rfl, magicSize, lenSize, sumSize⟩ :=
    parts_of_header (not_lt.mp short)
  rw [tryDecode_parts type body magicSize lenSize sumSize] at threw
  cases typed : ProtocolMessageType.ofByte type <;> simp only [typed] at threw <;>
    split_ifs at threw <;> cases threw <;> exact ⟨_, rfl, rfl⟩

/-! A NIC record on the other side of the wire. -/

/-- What the receiver makes of a published record: the carried fields, stored
into the record it passes. -/
def received (nic into : NicRecord) : NicRecord :=
  { into with
    id := nic.id
    generation := nic.generation
    pci := PciAddress.fromBdf (nic.pci.numeric >>> 16).toUInt16 (nic.pci.numeric &&& 0xFFFF).toUInt16
    numaNode := nic.numaNode
    osName := nic.osName
    provenance := ⟨.real, [.rdmaProvider]⟩
    lifecycle := .available
    freshness := 1 }

theorem reads_str {chunk value : Bytes} :
    str.Reads chunk value ↔ chunk = leBytes 4 value.length ++ value ∧ value.length < 2 ^ 32 := by
  simp only [str, reads_bind, reads_u32, reads_take]
  constructor
  · intro found
    obtain ⟨n, head, tail, rfl, ⟨rfl, size⟩, rfl⟩ := found
    rw [size]
    exact ⟨rfl, n.toNat_lt⟩
  · intro found
    obtain ⟨rfl, bound⟩ := found
    have count : (UInt32.ofNat value.length).toNat = value.length :=
      (UInt32.toNat_ofNat' ..).trans (Nat.mod_eq_of_lt bound)
    exact ⟨UInt32.ofNat value.length, _, value, by rw [count], ⟨rfl, count.symm⟩, rfl⟩

theorem parsePublishNic_payload {w : WorkerId} {b : WorkerBootId} {e : CoordinatorEpoch}
    {nic : NicRecord} {payload : Bytes} (built : payloadPublishNic w b e nic = .ok payload)
    (into : NicRecord) :
    parsePublishNic payload into =
      .ok (some { worker := w, boot := b, epoch := e, nic := received nic into }) := by
  rw [parsePublishNic, parse_eq_some_iff]
  unfold payloadPublishNic putStr at built
  split at built
  next => cases built
  next fits =>
    injection built with same
    subst same
    simp only [List.append_assoc]
    refine (reads_u64.mpr rfl).andThen <| (reads_u64.mpr rfl).andThen <|
      (reads_u64.mpr rfl).andThen <| (reads_u64.mpr rfl).andThen <|
      (reads_u64.mpr rfl).andThen <| (reads_u32.mpr rfl).andThen <|
      (reads_u64.mpr rfl).andThen <| (reads_str.mpr ⟨rfl, ?_⟩).andReturn rfl
    omega

/-- Publish a record over the wire: build the payload, frame it, decode the frame
and parse the payload into a record of the receiver. -/
def carry (w : WorkerId) (b : WorkerBootId) (e : CoordinatorEpoch) (nic into : NicRecord) :
    Outcome (Option NicPublication) := do
  let payload ← (payloadPublishNic w b e nic).mapError .thrown
  let frame ← (encode .publishNic payload).mapError .thrown
  match ← tryDecode frame with
  | none => return none
  | some decoded => parsePublishNic decoded.payload into

/-- The longest name that fits into a frame beside the other fields. -/
def kMaxOsName : Nat := 65467

theorem payloadPublishNic_length {w : WorkerId} {b : WorkerBootId} {e : CoordinatorEpoch}
    {nic : NicRecord} {payload : Bytes} (built : payloadPublishNic w b e nic = .ok payload) :
    payload.length = 56 + nic.osName.length := by
  unfold payloadPublishNic putStr at built
  split at built
  next => cases built
  next =>
    injection built with same
    subst same
    simp
    omega

theorem carry_of_fits (w : WorkerId) (b : WorkerBootId) (e : CoordinatorEpoch) (nic into : NicRecord)
    (fits : nic.osName.length ≤ kMaxOsName) :
    carry w b e nic into =
      .ok (some { worker := w, boot := b, epoch := e, nic := received nic into }) := by
  unfold kMaxOsName at fits
  obtain ⟨payload, built⟩ : ∃ payload, payloadPublishNic w b e nic = .ok payload := by
    unfold payloadPublishNic putStr
    rw [if_neg (by omega)]
    exact ⟨_, rfl⟩
  have size := payloadPublishNic_length built
  obtain ⟨frame, encoded⟩ : ∃ frame, encode .publishNic payload = .ok frame := by
    unfold encode kHeaderSize kMaxFrame
    rw [if_neg (by omega)]
    exact ⟨_, rfl⟩
  have decoded := tryDecode_encode encoded []
  rw [List.append_nil] at decoded
  simp only [carry, built, encoded, Except.mapError, ok_bind, decoded, parsePublishNic_payload built]

theorem carry_of_too_long (w : WorkerId) (b : WorkerBootId) (e : CoordinatorEpoch)
    (nic into : NicRecord) (long : kMaxOsName < nic.osName.length) (publication : NicPublication) :
    carry w b e nic into ≠ .ok (some publication) := by
  unfold kMaxOsName at long
  unfold carry
  cases built : payloadPublishNic w b e nic with
  | error error => exact fun carried => nomatch carried
  | ok payload =>
    have size := payloadPublishNic_length built
    have tooLarge : encode .publishNic payload =
        .error { code := .resourceLimit, message := "frame too large" } := by
      unfold encode kHeaderSize kMaxFrame
      rw [if_pos (by omega)]
    simp only [Except.mapError, ok_bind, tooLarge]
    exact fun carried => nomatch carried

end FrameCodec
end NicResidency

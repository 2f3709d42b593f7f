import NicResidency.Library.Framing
import NicResidency.Wire

/-!
What arrives on a connection: streams of frames that are cut anywhere, and frames
with one damaged byte. The checksum covers the payload and neither the type nor the
length, so those two can be damaged without notice.
-/

namespace NicResidency.Frames
open ByteStream FrameCodec Framing

/-- A message that fits into a frame. -/
structure Message where
  type : ProtocolMessageType
  payload : Bytes
  fits : payload.length ≤ kMaxFrame - kHeaderSize

namespace Message
variable (message : Message)

def frame : Bytes :=
  leBytes 4 kMagic ++ leBytes 4 (kHeaderSize + message.payload.length) ++ [message.type.toByte] ++
    leBytes 4 (checksum message.payload) ++ message.payload

/-- What the decoder gives for the frame. -/
def decoded : Frame where
  type := message.type
  payload := message.payload
  consumed := message.frame.length

theorem frame_fits : kHeaderSize + message.payload.length ≤ kMaxFrame := by
  have fits := message.fits
  unfold kMaxFrame kHeaderSize at *
  omega

theorem encode_frame : encode message.type message.payload = .ok message.frame :=
  encode_eq_ok_iff.mpr ⟨message.frame_fits, rfl⟩

theorem length_frame : message.frame.length = kHeaderSize + message.payload.length :=
  length_encode message.encode_frame

theorem leValue_magic : leValue (leBytes 4 kMagic) = kMagic := leValue_leBytes (by decide)

theorem leValue_length :
    leValue (leBytes 4 (kHeaderSize + message.payload.length)) = kHeaderSize + message.payload.length := by
  have fits := message.frame_fits
  apply leValue_leBytes
  unfold kMaxFrame at fits
  omega

theorem leValue_sum : leValue (leBytes 4 (checksum message.payload)) = checksum message.payload :=
  leValue_leBytes (checksum_lt message.payload)

end Message

/-! Streams. -/

def frameDecoder : Decoder (Fault ResidencyError) Frame UInt8 where
  decode := tryDecode
  size := Frame.consumed
  consumes data found decoded := by
    obtain ⟨frame, rest, encoded, rfl, size⟩ := tryDecode_eq_some_iff.mp decoded
    rw [size, length_encode encoded, List.length_append, length_encode encoded]
    unfold kHeaderSize
    omega

theorem frameDecoder_decode (data : Bytes) : frameDecoder.decode data = tryDecode data := rfl

/-- Decoding at the consumed offset until more bytes are needed. -/
def decodeStream (data : Bytes) : Outcome (List Frame × Bytes) := frameDecoder.drain data

/-- The frames of the messages, one after the other. -/
def stream (messages : List Message) : Bytes := messages.flatMap Message.frame

/-- A strict prefix of a frame lacks its header or the end of its payload. -/
theorem tryDecode_cut (message : Message) (front lost : Bytes) (split : message.frame = front ++ lost)
    (some : lost ≠ []) : tryDecode front = .ok none := by
  by_cases short : front.length < kHeaderSize
  · exact tryDecode_short short
  obtain ⟨magic, len, type, sum, body, rfl, magicSize, lenSize, sumSize⟩ :=
    parts_of_header (not_lt.mp short)
  simp only [Message.frame, List.append_assoc] at split
  obtain ⟨rfl, afterMagic⟩ := List.append_inj split (by rw [magicSize, length_leBytes])
  obtain ⟨rfl, afterLength⟩ := List.append_inj afterMagic (by rw [lenSize, length_leBytes])
  obtain ⟨-, afterType⟩ := List.append_inj afterLength rfl
  obtain ⟨-, payload⟩ := List.append_inj afterType (by rw [sumSize, length_leBytes])
  have lostSize := List.length_pos_of_ne_nil some
  have payloadSize := congrArg List.length payload
  rw [List.length_append] at payloadSize
  have fits := message.frame_fits
  have inBounds : ¬(kHeaderSize + message.payload.length < kHeaderSize ∨
      kHeaderSize + message.payload.length > kMaxFrame) := by omega
  have incomplete : kHeaderSize + message.payload.length > kHeaderSize + body.length := by omega
  rw [tryDecode_parts type body magicSize lenSize sumSize, Message.leValue_magic,
    message.leValue_length, if_neg (not_not.mpr rfl), if_neg inBounds, if_pos incomplete]

theorem frameDecoder_reads : frameDecoder.Reads Message.frame Message.decoded where
  whole message rest := tryDecode_encode message.encode_frame rest
  size _ := rfl
  cut := tryDecode_cut
  empty := by
    rw [frameDecoder_decode]
    exact tryDecode_short (by decide)

/-- A prefix of a stream gives the messages whose frames lie wholly inside, and the
decoder asks for more bytes on the rest; the whole stream is consumed to its end. The frames
are what `encode` returns (`encode_frame`). -/
theorem prefix_decoded (messages : List Message) (front : Bytes) (cut : front <+: stream messages) :
    (∃ whole later rest, messages = whole ++ later ∧ front = stream whole ++ rest ∧
      (∀ next ∈ later.head?, rest.length < next.frame.length) ∧ (later = [] → rest = []) ∧
      decodeStream front = .ok (whole.map Message.decoded, rest) ∧ tryDecode rest = .ok none) ∧
    decodeStream (stream messages) = .ok (messages.map Message.decoded, []) := by
  obtain ⟨lost, split⟩ := cut
  exact ⟨frameDecoder_reads.drain_cut messages front lost split.symm,
    frameDecoder_reads.drain_all messages⟩

/-- Two messages, cut inside the length field of the second one. -/
theorem prefix_decoded_two :
    let first : Message := ⟨.hello, [], by decide⟩
    let second : Message := ⟨.publishNic, [1, 2, 3], by decide⟩
    decodeStream (first.frame ++ second.frame.take 6) = .ok ([first.decoded], second.frame.take 6) ∧
      (∃ whole later rest, [first, second] = whole ++ later ∧
        first.frame ++ second.frame.take 6 = stream whole ++ rest ∧
        (∀ next ∈ later.head?, rest.length < next.frame.length) ∧ (later = [] → rest = []) ∧
        decodeStream (first.frame ++ second.frame.take 6) = .ok (whole.map Message.decoded, rest) ∧
        tryDecode rest = .ok none) ∧
      decodeStream (stream [first, second]) = .ok ([first, second].map Message.decoded, []) := by
  intro first second
  refine ⟨?_, prefix_decoded [first, second] (first.frame ++ second.frame.take 6)
    ⟨second.frame.drop 6, ?_⟩⟩
  · have rest : frameDecoder.decode (second.frame.take 6) = .ok none := by
      rw [frameDecoder_decode]
      exact tryDecode_short ((List.length_take_le 6 _).trans_lt (by decide))
    rw [decodeStream, frameDecoder_reads.drain_message, frameDecoder.drain_incomplete rest]
    rfl
  · simp only [stream, List.flatMap_cons, List.flatMap_nil, List.append_nil, List.append_assoc,
      List.take_append_drop]

/-! One damaged byte. -/

/-- The damaged byte is the type, and the new one is a type as well: the frame is read
as a message of that type. -/
def Retyped (message : Message) (before : Bytes) (new : UInt8) (found : Frame) : Prop :=
  before.length = 8 ∧ ∃ type, ProtocolMessageType.ofByte new = some type ∧
    found = { type, payload := message.payload, consumed := message.frame.length }

/-- The damaged byte is one of the length, the new length is smaller, and the part of the
payload that is left happens to have the checksum of the whole: it is read as the message. -/
def Shortened (message : Message) (before : Bytes) (new : UInt8) (after : Bytes) (found : Frame) :
    Prop :=
  4 ≤ before.length ∧ before.length < 8 ∧ ∃ size < message.payload.length,
    leValue (((before ++ new :: after).drop 4).take 4) = kHeaderSize + size ∧
      checksum (message.payload.take size) = checksum message.payload ∧
      found = { type := message.type, payload := message.payload.take size
                consumed := kHeaderSize + size }

/-- What the decoder makes of the frame of a message in which one byte was replaced. -/
structure Damaged (message : Message) (before : Bytes) (new : UInt8) (after : Bytes) : Prop where
  misread : ∀ found, tryDecode (before ++ new :: after) = .ok (some found) ↔
    Retyped message before new found ∨ Shortened message before new after found
  incomplete : tryDecode (before ++ new :: after) = .ok none → 4 ≤ before.length ∧ before.length < 8
  refused : ∀ fault, tryDecode (before ++ new :: after) = .error fault →
    ∃ error, fault = .thrown error ∧ error.code = .protocolError

section
variable {message : Message} {before after : Bytes} {old new : UInt8}

/-- Outside of the type and the length, a refusal is all there is to say. -/
theorem damaged_of_refusal {fault : Fault ResidencyError}
    (threw : tryDecode (before ++ new :: after) = .error fault)
    (outside : before.length < 4 ∨ 8 < before.length) : Damaged message before new after where
  misread found := by
    rw [threw]
    refine iff_of_false (fun found => nomatch found) ?_
    intro misread
    rcases misread with ⟨here, -⟩ | ⟨low, high, -⟩ <;> omega
  incomplete none := nomatch threw.symm.trans none
  refused _ := tryDecode_error

theorem damaged_magic {rest : Bytes} (magic : leBytes 4 kMagic = before ++ old :: rest)
    (changed : new ≠ old)
    (behind : after = rest ++ leBytes 4 (kHeaderSize + message.payload.length) ++
      [message.type.toByte] ++ leBytes 4 (checksum message.payload) ++ message.payload) :
    Damaged message before new after := by
  have size : (before ++ new :: rest).length = 4 := by rw [length_replace, ← magic, length_leBytes]
  have bad : leValue (before ++ new :: rest) ≠ kMagic := by
    rw [← Message.leValue_magic, magic]
    exact leValue_replace_ne changed
  have threw : tryDecode (before ++ new :: after) = .error (.thrown (protocolError "bad frame magic")) := by
    have parts := tryDecode_parts message.type.toByte message.payload size
      (length_leBytes 4 (kHeaderSize + message.payload.length))
      (length_leBytes 4 (checksum message.payload))
    rw [if_pos bad] at parts
    rw [← parts, behind]
    simp
  refine damaged_of_refusal threw (.inl ?_)
  rw [List.length_append, List.length_cons] at size
  omega

/-- Behind the length field of the message, a type, a checksum and a body of its size. -/
theorem tryDecode_header (message : Message) (type : UInt8) {sum body : Bytes}
    (sumSize : sum.length = 4) (bodySize : body.length = message.payload.length) :
    tryDecode (leBytes 4 kMagic ++ leBytes 4 (kHeaderSize + message.payload.length) ++ [type] ++ sum ++
        body) =
      match ProtocolMessageType.ofByte type with
      | none => .error (.thrown (protocolError "invalid protocol message type"))
      | some type =>
        if checksum body ≠ leValue sum then .error (.thrown (protocolError "frame checksum mismatch"))
        else .ok (some { type, payload := body, consumed := message.frame.length }) := by
  have fits := message.frame_fits
  have inBounds : ¬(kHeaderSize + message.payload.length < kHeaderSize ∨
      kHeaderSize + message.payload.length > kMaxFrame) := by omega
  have complete : ¬kHeaderSize + message.payload.length > kHeaderSize + body.length := by omega
  have parts := tryDecode_parts type body (length_leBytes 4 kMagic)
    (length_leBytes 4 (kHeaderSize + message.payload.length)) sumSize
  rw [Message.leValue_magic, message.leValue_length, if_neg (not_not.mpr rfl), if_neg inBounds,
    if_neg complete, Nat.add_sub_cancel_left, ← bodySize, List.take_length, bodySize] at parts
  rw [message.length_frame]
  exact parts

theorem damaged_type (front : before = leBytes 4 kMagic ++ leBytes 4 (kHeaderSize + message.payload.length))
    (behind : after = leBytes 4 (checksum message.payload) ++ message.payload) :
    Damaged message before new after := by
  have place : before.length = 8 := by simp [front]
  have decoded := tryDecode_header message new (length_leBytes 4 (checksum message.payload)) rfl
  rw [message.leValue_sum] at decoded
  simp only [ne_eq, not_true_eq_false, if_false] at decoded
  have buffer : before ++ new :: after = leBytes 4 kMagic ++
      leBytes 4 (kHeaderSize + message.payload.length) ++ [new] ++ leBytes 4 (checksum message.payload) ++
      message.payload := by simp [front, behind]
  rw [← buffer] at decoded
  refine ⟨fun found => ?_, fun none => ?_, fun _ => tryDecode_error⟩
  · rw [decoded]
    constructor
    · intro read
      cases known : ProtocolMessageType.ofByte new with
      | none =>
        rw [known] at read
        cases read
      | some type =>
        rw [known] at read
        cases read
        exact .inl ⟨place, type, known, rfl⟩
    · intro misread
      rcases misread with ⟨-, type, known, rfl⟩ | ⟨-, low, -⟩
      · rw [known]
      · omega
  · rw [decoded] at none
    cases known : ProtocolMessageType.ofByte new <;> rw [known] at none <;> cases none

/-- A checksum and a payload of the right sizes that do not belong together. -/
theorem damaged_behind {sum body : Bytes} (sumSize : sum.length = 4)
    (bodySize : body.length = message.payload.length) (mismatch : checksum body ≠ leValue sum)
    (buffer : before ++ new :: after = leBytes 4 kMagic ++
      leBytes 4 (kHeaderSize + message.payload.length) ++ [message.type.toByte] ++ sum ++ body)
    (place : 8 < before.length) : Damaged message before new after := by
  have threw := tryDecode_header message message.type.toByte sumSize bodySize
  rw [ProtocolMessageType.ofByte_toByte] at threw
  simp only [if_pos mismatch] at threw
  rw [← buffer] at threw
  exact damaged_of_refusal threw (.inr place)

theorem damaged_length {first last : Bytes}
    (len : leBytes 4 (kHeaderSize + message.payload.length) = first ++ old :: last)
    (changed : new ≠ old) (front : before = leBytes 4 kMagic ++ first)
    (behind : after = last ++ [message.type.toByte] ++ leBytes 4 (checksum message.payload) ++
      message.payload) : Damaged message before new after := by
  have size : (first ++ new :: last).length = 4 := by rw [length_replace, ← len, length_leBytes]
  have other : leValue (first ++ new :: last) ≠ kHeaderSize + message.payload.length := by
    rw [← message.leValue_length, len]
    exact leValue_replace_ne changed
  have place : before.length = 4 + first.length := by simp [front]
  have inside : first.length < 4 := by
    rw [List.length_append, List.length_cons] at size
    omega
  have buffer : before ++ new :: after = leBytes 4 kMagic ++ (first ++ new :: last) ++
      [message.type.toByte] ++ leBytes 4 (checksum message.payload) ++ message.payload := by
    simp [front, behind]
  have field : ((before ++ new :: after).drop 4).take 4 = first ++ new :: last := by
    rw [buffer, List.append_assoc, List.append_assoc, List.append_assoc,
      List.drop_left' (length_leBytes ..), List.take_left' size]
  have decoded := tryDecode_parts message.type.toByte message.payload (length_leBytes 4 kMagic) size
    (length_leBytes 4 (checksum message.payload))
  rw [← buffer, Message.leValue_magic, message.leValue_sum, ProtocolMessageType.ofByte_toByte] at decoded
  have fits := message.frame_fits
  refine ⟨fun found => ?_, fun _ => by omega, fun _ => tryDecode_error⟩
  simp only [Retyped, Shortened, field, decoded]
  generalize leValue (first ++ new :: last) = length at other
  constructor
  · intro read
    split_ifs at read with _ outside beyond mismatch <;> cases read
    refine .inr ⟨by omega, by omega, length - kHeaderSize, by omega, by omega,
      not_not.mp mismatch, ?_⟩
    have total : kHeaderSize + (length - kHeaderSize) = length := by omega
    rw [total]
  · intro misread
    rcases misread with ⟨here, -⟩ | ⟨-, -, size, shorter, rfl, same, rfl⟩
    · omega
    · rw [if_neg (not_not.mpr rfl), if_neg (by omega), if_neg (by omega), Nat.add_sub_cancel_left]
      simp only [same, ne_eq, not_true_eq_false, if_false]

end

/-- A frame with one replaced byte is refused or incomplete, except where the byte is the
type or one of the length. The frame is what `encode` returns (`encode_frame`). -/
theorem damaged_frame (message : Message) {before after : Bytes} {old new : UInt8}
    (framed : message.frame = before ++ old :: after) (changed : new ≠ old) :
    Damaged message before new after := by
  rcases byte_of_append framed with ⟨rest, toSum, rfl⟩ | ⟨rest, payload, rfl⟩
  · rcases byte_of_append toSum with ⟨rest, toType, rfl⟩ | ⟨first, sum, rfl⟩
    · rcases byte_of_append toType with ⟨rest, toLength, rfl⟩ | ⟨first, type, rfl⟩
      · rcases byte_of_append toLength with ⟨rest, magic, rfl⟩ | ⟨first, len, rfl⟩
        · exact damaged_magic magic changed rfl
        · exact damaged_length len changed rfl rfl
      · obtain ⟨rfl, rfl⟩ : first = [] ∧ rest = [] := by
          have size := congrArg List.length type
          simp only [List.length_append, List.length_cons, List.length_nil] at size
          exact ⟨List.length_eq_zero_iff.mp (by omega), List.length_eq_zero_iff.mp (by omega)⟩
        exact damaged_type (List.append_nil _) rfl
    · have size : (first ++ new :: rest).length = 4 := by
        rw [length_replace, ← sum, length_leBytes]
      have mismatch : checksum message.payload ≠ leValue (first ++ new :: rest) := by
        rw [← message.leValue_sum, sum]
        exact (leValue_replace_ne changed).symm
      exact damaged_behind size rfl mismatch (by simp) (by simp; omega)
  · have size : (rest ++ new :: after).length = message.payload.length := by
      rw [length_replace, ← payload]
    have mismatch : checksum (rest ++ new :: after) ≠ leValue (leBytes 4 (checksum message.payload)) := by
      rw [message.leValue_sum, payload, checksum, checksum, ← UInt64.toNat_toUInt32,
        ← UInt64.toNat_toUInt32]
      exact fun same => changed (fnv1a_replace_inj (UInt32.toNat_inj.mp same))
    exact damaged_behind (length_leBytes ..) size mismatch (by simp) (by simp; omega)

/-- The magic of an empty message, damaged in its first byte. -/
theorem damaged_frame_hello :
    let hello : Message := ⟨.hello, [], by decide⟩
    hello.frame = [] ++ 0x43 :: hello.frame.drop 1 ∧ (0 : UInt8) ≠ 0x43 ∧
      Damaged hello [] 0 (hello.frame.drop 1) := by
  intro hello
  have framed : hello.frame = [] ++ 0x43 :: hello.frame.drop 1 := by decide +kernel
  have changed : (0 : UInt8) ≠ 0x43 := by decide
  exact ⟨framed, changed, damaged_frame hello framed changed⟩

/-- One byte of the type, and one of the length, replaced in the frames of two messages. -/
theorem damaged_frames_misread :
    (encode .hello [] = .ok [0x43, 0x52, 0x49, 0x4E, 13, 0, 0, 0, 1, 0x25, 0x23, 0x22, 0x84] ∧
      tryDecode [0x43, 0x52, 0x49, 0x4E, 13, 0, 0, 0, 2, 0x25, 0x23, 0x22, 0x84] =
        .ok (some ⟨.registerWorker, [], 13⟩)) ∧
    (encode .hello [197, 185, 71, 244, 0] =
        .ok [0x43, 0x52, 0x49, 0x4E, 18, 0, 0, 0, 1, 0, 0, 0, 0, 197, 185, 71, 244, 0] ∧
      tryDecode [0x43, 0x52, 0x49, 0x4E, 17, 0, 0, 0, 1, 0, 0, 0, 0, 197, 185, 71, 244, 0] =
        .ok (some ⟨.hello, [197, 185, 71, 244], 17⟩)) := by
  decide +kernel

end NicResidency.Frames

import Mathlib

/-!
Streams of frames. A decoder looks at the start of a buffer and finds a frame there,
asks for more bytes, or throws; repeated behind every frame it has found, it cuts a
stream into frames. When the decoder finds a whole frame whatever follows it, and asks
for more on every strict prefix of a frame, then a stream that is cut anywhere is
drained of exactly the frames that lie before the cut.
-/

namespace Framing

variable {ε α β μ : Type*}

/-- A decoder of frames. A frame it finds takes at least one byte, and only bytes that
are there. -/
structure Decoder (ε α β : Type*) where
  decode : List β → Except ε (Option α)
  size : α → Nat
  consumes : ∀ data frame, decode data = .ok (some frame) → 0 < size frame ∧ size frame ≤ data.length

namespace Decoder
variable (decoder : Decoder ε α β)

/-- The frames of a buffer in order, and the bytes that are left when more are needed. -/
def drain (data : List β) : Except ε (List α × List β) :=
  match _ : decoder.decode data with
  | .error error => .error error
  | .ok none => .ok ([], data)
  | .ok (some frame) =>
    (drain (data.drop (decoder.size frame))).map fun drained => (frame :: drained.1, drained.2)
termination_by data.length
decreasing_by
  have bounds := decoder.consumes data frame ‹_›
  rw [List.length_drop]
  omega

theorem drain_incomplete {data : List β} (incomplete : decoder.decode data = .ok none) :
    decoder.drain data = .ok ([], data) := by
  rw [drain]
  split
  next found => cases incomplete.symm.trans found
  next => rfl
  next found => cases incomplete.symm.trans found

theorem drain_frame {data : List β} {frame : α} (whole : decoder.decode data = .ok (some frame)) :
    decoder.drain data =
      (decoder.drain (data.drop (decoder.size frame))).map fun drained =>
        (frame :: drained.1, drained.2) := by
  rw [drain]
  split
  next found => cases whole.symm.trans found
  next found => cases whole.symm.trans found
  next frame' found =>
    obtain rfl : frame = frame' := by simpa using whole.symm.trans found
    rfl

/-- The decoder reads the frames that an encoder writes for messages. -/
structure Reads (bytes : μ → List β) (frame : μ → α) : Prop where
  whole : ∀ message rest, decoder.decode (bytes message ++ rest) = .ok (some (frame message))
  size : ∀ message, decoder.size (frame message) = (bytes message).length
  cut : ∀ message front lost, bytes message = front ++ lost → lost ≠ [] →
    decoder.decode front = .ok none
  empty : decoder.decode [] = .ok none

namespace Reads
variable {decoder} {bytes : μ → List β} {frame : μ → α} (reads : decoder.Reads bytes frame)

include reads in
theorem drain_message (message : μ) (rest : List β) :
    decoder.drain (bytes message ++ rest) =
      (decoder.drain rest).map fun drained => (frame message :: drained.1, drained.2) := by
  rw [decoder.drain_frame (reads.whole message rest), reads.size, List.drop_left]

include reads in
/-- A stream that is cut gives the frames before the cut, and asks for more at the
frame that the cut goes through. -/
theorem drain_cut (messages : List μ) (front lost : List β)
    (split : messages.flatMap bytes = front ++ lost) :
    ∃ whole later rest, messages = whole ++ later ∧ front = whole.flatMap bytes ++ rest ∧
      (∀ next ∈ later.head?, rest.length < (bytes next).length) ∧ (later = [] → rest = []) ∧
      decoder.drain front = .ok (whole.map frame, rest) ∧ decoder.decode rest = .ok none := by
  induction messages generalizing front with
  | nil =>
    obtain ⟨rfl, rfl⟩ := List.nil_eq_append_iff.mp split
    exact ⟨[], [], [], rfl, rfl, by simp, fun _ => rfl, decoder.drain_incomplete reads.empty,
      reads.empty⟩
  | cons message messages ih =>
    rw [List.flatMap_cons] at split
    by_cases inside : (bytes message).length ≤ front.length
    · obtain ⟨front', rfl⟩ : ∃ front', front = bytes message ++ front' :=
        (List.prefix_of_prefix_length_le ⟨_, rfl⟩ ⟨lost, split.symm⟩ inside).imp fun _ => Eq.symm
      rw [List.append_assoc, List.append_cancel_left_eq] at split
      obtain ⟨whole, later, rest, rfl, rfl, short, none, drained, incomplete⟩ := ih front' split
      refine ⟨message :: whole, later, rest, rfl, by simp, short, none, ?_, incomplete⟩
      rw [reads.drain_message, drained]
      rfl
    · obtain ⟨lost', framed⟩ : front <+: bytes message :=
        List.prefix_of_prefix_length_le ⟨lost, split.symm⟩ ⟨_, rfl⟩ (by omega)
      have some : lost' ≠ [] := by
        intro none
        rw [none, List.append_nil] at framed
        rw [framed] at inside
        exact inside le_rfl
      have incomplete := reads.cut message front lost' framed.symm some
      exact ⟨[], message :: messages, front, rfl, rfl, by simpa using inside, by simp,
        decoder.drain_incomplete incomplete, incomplete⟩

include reads in
/-- A whole stream is drained to its end. -/
theorem drain_all (messages : List μ) :
    decoder.drain (messages.flatMap bytes) = .ok (messages.map frame, []) := by
  induction messages with
  | nil => exact decoder.drain_incomplete reads.empty
  | cons message messages ih =>
    rw [List.flatMap_cons, reads.drain_message, ih]
    rfl

end Reads
end Decoder
end Framing

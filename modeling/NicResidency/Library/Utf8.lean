import Mathlib

/-!
Texts in UTF-8. A text is put together and cut at bytes of ASCII: what stands before and behind
such a byte is encoded for itself.
-/

namespace Utf8

abbrev Text := List UInt8

def ascii (b : UInt8) : Bool := b < 0x80

/-- The encodings of characters, one behind the other. -/
inductive Encoded : Text → Prop where
  | nil : Encoded []
  | char (c : Char) {rest : Text} (more : Encoded rest) : Encoded (String.utf8EncodeChar c ++ rest)

def Ascii (text : Text) : Prop := ∀ b ∈ text, ascii b

variable {text first second : Text} {b : UInt8}

/-! One character. -/

/-- A byte of ASCII is a character, and no part of another one. -/
theorem encodeChar_cases (c : Char) :
    (∃ b, String.utf8EncodeChar c = [b] ∧ ascii b) ∨ ∀ b ∈ String.utf8EncodeChar c, ascii b = false := by
  have beyond (n lead : Nat) (high : 0x80 ≤ lead) (small : n + lead < 256) :
      ascii (UInt8.ofNat (n + lead)) = false := by
    rw [ascii, decide_eq_false_iff_not, UInt8.lt_iff_toNat_lt, UInt8.toNat_ofNat',
      Nat.mod_eq_of_lt small]
    exact Nat.not_lt.mpr (high.trans (Nat.le_add_left _ _))
  unfold String.utf8EncodeChar
  dsimp only
  split
  next single =>
    refine .inl ⟨_, rfl, ?_⟩
    rw [ascii, decide_eq_true_eq, UInt8.lt_iff_toNat_lt, UInt8.toNat_ofNat', Nat.mod_eq_of_lt (by omega)]
    exact Nat.lt_succ_of_le single
  next =>
    refine .inr ?_
    split
    · simp only [List.forall_mem_cons]
      refine ⟨beyond _ _ ?_ ?_, beyond _ _ ?_ ?_, List.forall_mem_nil _⟩ <;> omega
    · split
      · simp only [List.forall_mem_cons]
        refine ⟨beyond _ _ ?_ ?_, beyond _ _ ?_ ?_, beyond _ _ ?_ ?_, List.forall_mem_nil _⟩ <;> omega
      · simp only [List.forall_mem_cons]
        refine ⟨beyond _ _ ?_ ?_, beyond _ _ ?_ ?_, beyond _ _ ?_ ?_, beyond _ _ ?_ ?_,
          List.forall_mem_nil _⟩ <;> omega

theorem encodeChar_of_mem {c : Char} (is : ascii b) (listed : b ∈ String.utf8EncodeChar c) :
    String.utf8EncodeChar c = [b] := by
  rcases encodeChar_cases c with ⟨b', single, -⟩ | high
  · rw [single, List.mem_singleton] at listed
    rw [single, listed]
  · exact absurd is (by simp [high b listed])

theorem exists_encodeChar (is : ascii b) : ∃ c, String.utf8EncodeChar c = [b] := by
  have small : b.toNat < 128 := UInt8.lt_iff_toNat_lt.mp (of_decide_eq_true is)
  have value : b.toUInt32.toNat = b.toNat := UInt8.toNat_toUInt32 b
  refine ⟨⟨b.toUInt32, .inl (by omega)⟩, ?_⟩
  unfold String.utf8EncodeChar
  dsimp only
  rw [value, if_pos (by omega), UInt8.ofNat_toNat]

/-! Texts. -/

theorem Encoded.append (encoded : Encoded first) (encoded' : Encoded second) :
    Encoded (first ++ second) := by
  induction encoded with
  | nil => exact encoded'
  | char c more ih =>
    rw [List.append_assoc]
    exact .char c ih

theorem encoded_cons_iff (is : ascii b) : Encoded (b :: text) ↔ Encoded text := by
  obtain ⟨c, encoding⟩ := exists_encodeChar is
  constructor
  · intro encoded
    generalize spelled : b :: text = whole at encoded
    cases encoded with
    | nil => cases spelled
    | char d more =>
      cases bytes : String.utf8EncodeChar d with
      | nil => exact absurd bytes String.utf8EncodeChar_ne_nil
      | cons b' others =>
        rw [bytes] at spelled
        obtain ⟨rfl, rfl⟩ := List.cons.inj spelled
        have single := encodeChar_of_mem is (bytes ▸ List.mem_cons_self)
        obtain ⟨-, rfl⟩ := List.cons.inj (bytes.symm.trans single)
        exact more
  · intro encoded
    have whole := Encoded.char c encoded
    rwa [encoding] at whole

/-- A text is cut at a byte of ASCII. -/
theorem encoded_append_cons_iff (is : ascii b) :
    Encoded (first ++ b :: second) ↔ Encoded first ∧ Encoded second := by
  constructor
  · intro encoded
    generalize spelled : first ++ b :: second = whole at encoded
    induction encoded generalizing first with
    | nil => exact absurd spelled (by simp)
    | char c more ih =>
      rcases List.append_eq_append_iff.mp spelled with ⟨inner, inside, rest⟩ | ⟨after, rfl, rest⟩
      · -- The cut is behind the encoding of the character, or it is the whole of it.
        cases inner with
        | nil =>
          rw [List.append_nil] at inside
          rw [List.nil_append] at rest
          rw [← inside]
          exact ⟨by simpa using Encoded.char c .nil, (encoded_cons_iff is).mp (rest ▸ more)⟩
        | cons b' inner =>
          obtain ⟨rfl, rfl⟩ := List.cons.inj rest
          have single : String.utf8EncodeChar c = [b] := encodeChar_of_mem is (by simp [inside])
          have lengths := congrArg List.length (inside.symm.trans single)
          simp only [List.length_append, List.length_cons, List.length_nil] at lengths
          obtain rfl : first = [] := List.length_eq_zero_iff.mp (by omega)
          obtain rfl : inner = [] := List.length_eq_zero_iff.mp (by omega)
          exact ⟨.nil, more⟩
      · obtain ⟨encoded, encoded'⟩ := ih rest.symm
        exact ⟨.char c encoded, encoded'⟩
  · rintro ⟨encoded, encoded'⟩
    exact encoded.append ((encoded_cons_iff is).mpr encoded')

theorem encoded_ascii_append_iff (is : Ascii first) : Encoded (first ++ second) ↔ Encoded second := by
  induction first with
  | nil => rfl
  | cons b first ih =>
    obtain ⟨here, more⟩ := List.forall_mem_cons.mp is
    rw [List.cons_append, encoded_cons_iff here, ih more]

theorem encoded_of_ascii (is : Ascii text) : Encoded text := by
  rw [← List.append_nil text, encoded_ascii_append_iff is]
  exact .nil

/-- Changes among the bytes of ASCII do not matter. -/
theorem encoded_map_iff {f : UInt8 → UInt8} (same : ∀ b, ascii b = false → f b = b)
    (stays : ∀ b, ascii b → ascii (f b)) : Encoded (text.map f) ↔ Encoded text := by
  suffices behind : ∀ before : Text, Encoded (before ++ text.map f) ↔ Encoded (before ++ text) from behind []
  induction text with
  | nil => exact fun _ => Iff.rfl
  | cons b text ih =>
    intro before
    rw [List.map_cons]
    cases is : ascii b with
    | true =>
      have tails := ih []
      rw [List.nil_append, List.nil_append] at tails
      rw [encoded_append_cons_iff (stays b is), encoded_append_cons_iff is, tails]
    | false =>
      have tails := ih (before ++ [b])
      rw [List.append_assoc, List.append_assoc] at tails
      rw [same b is]
      exact tails

end Utf8

import NicResidency.FileFormat

/-!
What the store makes of a damaged file. Readers are self-delimiting, so no loaded
file is a prefix of another one, whatever the checksums are. The checksum tells any
two payloads apart that differ in one byte.
-/

namespace NicResidency.Corruption
open ByteStream ByteStream.Reader PersistenceStore FileFormat

/-! Truncation and trailing bytes. -/

/-- The loaded files are a prefix-free set. -/
theorem loaded_prefix_free {first second : Bytes} {st st' : PersistentState}
    (loaded : load first = .ok st) (loaded' : load second = .ok st') (shorter : first <+: second) :
    first = second := by
  obtain ⟨extra, rfl⟩ := shorter
  obtain ⟨body, rfl, read⟩ := written_of_load loaded
  obtain ⟨body', same, read'⟩ := written_of_load loaded'
  rw [deserialize, whole_eq_ok_iff] at read read'
  simp only [List.append_assoc, List.append_cancel_left_eq] at same ⊢
  obtain ⟨rfl, sums, -⟩ := read.unique read' same
  rw [sums]

theorem load_error_of_not_ok {data : Bytes} (refused : ∀ st, load data ≠ .ok st) :
    ∃ error, load data = .error (.thrown error) := by
  cases outcome : load data with
  | ok st => exact absurd outcome (refused st)
  | error fault =>
    cases fault with
    | thrown error => exact ⟨error, rfl⟩
    | outOfBounds => exact absurd outcome (load_ne_outOfBounds data)

/-- A loaded file that loses bytes at its end, or gains some there, is refused. -/
theorem resized_refused {file : Bytes} {st : PersistentState} (loaded : load file = .ok st) :
    (∀ cut lost, file = cut ++ lost → lost ≠ [] → ∃ error, load cut = .error (.thrown error)) ∧
      ∀ extra, extra ≠ [] → ∃ error, load (file ++ extra) = .error (.thrown error) := by
  constructor
  · intro cut lost split some
    apply load_error_of_not_ok
    intro st' loaded'
    have same := loaded_prefix_free loaded' loaded ⟨lost, split.symm⟩
    rw [same] at split
    exact some (List.append_right_eq_self.mp split.symm)
  · intro extra some
    apply load_error_of_not_ok
    intro st' loaded'
    have same := loaded_prefix_free loaded loaded' ⟨extra, rfl⟩
    exact some (List.append_right_eq_self.mp same.symm)

/-- The payload of a state without records. -/
def blankPayload : Bytes :=
  leBytes 4 1 ++ leBytes 8 1 ++ List.replicate 24 0

def blankFile : Bytes := kMagicBox ++ blankPayload ++ leBytes 8 (fnv1a blankPayload).toNat

theorem blankFile_resized_refused :
    load blankFile = .ok { epoch := ⟨1⟩ } ∧
      (∀ cut lost, blankFile = cut ++ lost → lost ≠ [] →
          ∃ error, load cut = .error (.thrown error)) ∧
        ∀ extra, extra ≠ [] → ∃ error, load (blankFile ++ extra) = .error (.thrown error) :=
  have loaded : load blankFile = .ok { epoch := ⟨1⟩ } := load_of_toOption (by decide +kernel)
  ⟨loaded, resized_refused loaded⟩

/-! One changed byte. -/

section
variable {before after : Bytes} {old new : UInt8} (changed : new ≠ old)

/-- The error of a failed integrity check. -/
def FailsIntegrity (data : Bytes) : Prop :=
  ∃ error, load data = .error (.thrown error) ∧ error.code = .integrityFailure

include changed in
/-- In the magic string, in the payload and in the checksum: the byte is noticed. -/
theorem changed_byte_fails_integrity {st : PersistentState} (loaded : load (before ++ old :: after) = .ok st) :
    FailsIntegrity (before ++ new :: after) := by
  obtain ⟨body, written, -⟩ := written_of_load loaded
  have sumSize : (leBytes 8 (fnv1a body).toNat).length = 8 := length_leBytes ..
  have stored : leValue (leBytes 8 (fnv1a body).toNat) = (fnv1a body).toNat :=
    leValue_leBytes (fnv1a body).toNat_lt
  rcases byte_of_append written.symm with ⟨rest, front, rfl⟩ | ⟨rest, sum, rfl⟩
  · rcases byte_of_append front with ⟨rest', magic, rfl⟩ | ⟨rest', payload, rfl⟩
    · -- the magic string
      have size : (before ++ new :: rest').length = kMagicLen := by
        rw [length_replace, ← magic, length_kMagicBox]
      have split : before ++ new :: (rest' ++ body ++ leBytes 8 (fnv1a body).toNat) =
          (before ++ new :: rest') ++ body ++ leBytes 8 (fnv1a body).toNat := by simp
      rw [split, FailsIntegrity, load_parts _ _ _ size sumSize, if_pos (magic ▸ replace_ne changed)]
      exact ⟨_, rfl, rfl⟩
    · -- the payload
      have split : kMagicBox ++ rest' ++ new :: (rest ++ leBytes 8 (fnv1a body).toNat) =
          kMagicBox ++ (rest' ++ new :: rest) ++ leBytes 8 (fnv1a body).toNat := by simp
      have hashes : (fnv1a (rest' ++ new :: rest)).toNat ≠ leValue (leBytes 8 (fnv1a body).toNat) := by
        rw [stored, payload]
        exact fun same => changed (fnv1a_replace_inj (congrArg UInt64.toUInt32 (UInt64.toNat_inj.mp same)))
      rw [split, FailsIntegrity, load_parts _ _ _ length_kMagicBox sumSize, if_neg (not_not.mpr rfl),
        if_pos hashes]
      exact ⟨_, rfl, rfl⟩
  · -- the checksum
    have size : (rest ++ new :: after).length = 8 := by rw [length_replace, ← sum, sumSize]
    have hashes : (fnv1a body).toNat ≠ leValue (rest ++ new :: after) := by
      rw [← stored, sum]
      exact (leValue_replace_ne changed).symm
    rw [List.append_assoc, FailsIntegrity, load_parts _ _ _ length_kMagicBox size, if_neg (not_not.mpr rfl),
      if_pos hashes]
    exact ⟨_, rfl, rfl⟩

end

theorem blankFile_version_fails_integrity :
    let rest := blankPayload.tail ++ leBytes 8 (fnv1a blankPayload).toNat
    load (kMagicBox ++ 1 :: rest) = .ok { epoch := ⟨1⟩ } ∧ FailsIntegrity (kMagicBox ++ 9 :: rest) := by
  intro rest
  have loaded : load (kMagicBox ++ 1 :: rest) = .ok { epoch := ⟨1⟩ } :=
    load_of_toOption (by decide +kernel)
  exact ⟨loaded, changed_byte_fails_integrity (by decide) loaded⟩

end NicResidency.Corruption

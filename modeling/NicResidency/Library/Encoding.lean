import NicResidency.Library.ByteStream

/-!
The fields of a binary format and the readers that undo their encodings:
little-endian numbers, words of flags, and enumerations in one byte.
-/

namespace ByteStream

variable {ε α : Type}

/-! Little-endian numbers. -/

def leBytes : Nat → Nat → List UInt8
  | 0, _ => []
  | width + 1, value => UInt8.ofNat value :: leBytes width (value / 256)

def leValue : List UInt8 → Nat
  | [] => 0
  | byte :: rest => byte.toNat + 256 * leValue rest

@[simp] theorem length_leBytes (width value : Nat) : (leBytes width value).length = width := by
  induction width generalizing value with
  | zero => rfl
  | succ width ih => simp [leBytes, ih]

theorem leValue_lt (bytes : List UInt8) : leValue bytes < 256 ^ bytes.length := by
  induction bytes with
  | nil => simp [leValue]
  | cons byte rest ih =>
    have bound := byte.toNat_lt
    rw [leValue, List.length_cons, Nat.pow_succ]
    omega

theorem leValue_leBytes {width value : Nat} (bound : value < 256 ^ width) :
    leValue (leBytes width value) = value := by
  induction width generalizing value with
  | zero =>
    rw [Nat.pow_zero] at bound
    simp only [leBytes, leValue]
    omega
  | succ width ih =>
    rw [Nat.pow_succ] at bound
    rw [leBytes, leValue, ih (by omega), UInt8.toNat_ofNat']
    omega

theorem leBytes_leValue (bytes : List UInt8) : leBytes bytes.length (leValue bytes) = bytes := by
  induction bytes with
  | nil => rfl
  | cons byte rest ih =>
    have bound := byte.toNat_lt
    have head : UInt8.ofNat (byte.toNat + 256 * leValue rest) = byte := by
      apply UInt8.toNat_inj.mp
      rw [UInt8.toNat_ofNat']
      omega
    have tail : (byte.toNat + 256 * leValue rest) / 256 = leValue rest := by omega
    rw [List.length_cons, leBytes, leValue, head, tail, ih]

theorem leValue_inj {bytes other : List UInt8} (level : bytes.length = other.length)
    (same : leValue bytes = leValue other) : bytes = other := by
  rw [← leBytes_leValue bytes, ← leBytes_leValue other, level, same]

/-! Words of flags. -/

/-- The word whose bits are the given flags, the lowest first. -/
def flagWord (flags : List Bool) : UInt32 := ⟨(BitVec.ofBoolListLE flags).setWidth 32⟩

def flag (word : UInt32) (position : Nat) : Bool := word.toBitVec.getLsbD position

theorem flag_flagWord {flags : List Bool} {position : Nat} (inside : position < 32) :
    flag (flagWord flags) position = flags.getD position false := by
  simp [flag, flagWord, inside]

/-- The 64-bit FNV-1a hash. -/
def fnv1a (data : List UInt8) : UInt64 :=
  data.foldl (fun h c => (h ^^^ c.toUInt64) * 0x100000001b3) 0xcbf29ce484222325

/-- A change of one entry changes a fold whose step keeps states apart and entries apart. -/
theorem foldl_replace_inj {σ β : Type*} {mix : σ → β → σ} {state : σ} {before after : List β}
    {old new : β} (states : ∀ entry a b, mix a entry = mix b entry → a = b)
    (entries : ∀ state a b, mix state a = mix state b → a = b)
    (same : (before ++ old :: after).foldl mix state = (before ++ new :: after).foldl mix state) :
    old = new := by
  have rest_inj (rest : List β) (a b : σ) (same : rest.foldl mix a = rest.foldl mix b) : a = b := by
    induction rest generalizing a b with
    | nil => exact same
    | cons entry rest ih => exact states entry a b (ih _ _ same)
  simp only [List.foldl_append, List.foldl_cons] at same
  exact entries _ _ _ (rest_inj after _ _ same)

/-- The step of the hash on the low half of its state. -/
def fnv1aLow (h : UInt32) (c : UInt8) : UInt32 := (h ^^^ c.toUInt32) * 0x1b3

/-- The low half of the hash does not depend on the high half of any state. -/
theorem toUInt32_fnv1a (data : List UInt8) :
    (fnv1a data).toUInt32 = data.foldl fnv1aLow 0x84222325 := by
  have prime : (0x100000001b3 : UInt64).toUInt32 = 0x1b3 := by decide
  have start : (0xcbf29ce484222325 : UInt64).toUInt32 = 0x84222325 := by decide
  have low (h : UInt64) (c : UInt8) :
      fnv1aLow h.toUInt32 c = ((h ^^^ c.toUInt64) * 0x100000001b3).toUInt32 := by
    rw [UInt64.toUInt32_mul, UInt64.toUInt32_xor, prime, UInt8.toUInt32_toUInt64, fnv1aLow]
  rw [fnv1a, ← start]
  exact (List.foldl_hom UInt64.toUInt32 low).symm

/-- The prime of the hash is odd, so a multiplication by it can be undone. -/
theorem fnv1a_prime_inj {a b : UInt32} (same : a * 0x1b3 = b * 0x1b3) : a = b := by
  have inverse : (0x1b3 : UInt32) * 0xaff6957b = 1 := by decide
  have undone (v : UInt32) : v * 0x1b3 * 0xaff6957b = v := by
    rw [UInt32.mul_assoc, inverse, UInt32.mul_one]
  rw [← undone a, ← undone b, same]

theorem fnv1aLow_state_inj (c : UInt8) (a b : UInt32) (same : fnv1aLow a c = fnv1aLow b c) : a = b :=
  (UInt32.xor_left_inj _).mp (fnv1a_prime_inj same)

theorem fnv1aLow_byte_inj (h : UInt32) (a b : UInt8) (same : fnv1aLow h a = fnv1aLow h b) : a = b :=
  UInt8.toUInt32_inj.mp ((UInt32.xor_right_inj _).mp (fnv1a_prime_inj same))

/-- A change of one byte changes the low half of the hash. -/
theorem fnv1a_replace_inj {before after : List UInt8} {old new : UInt8}
    (same : (fnv1a (before ++ old :: after)).toUInt32 = (fnv1a (before ++ new :: after)).toUInt32) :
    old = new := by
  rw [toUInt32_fnv1a, toUInt32_fnv1a] at same
  exact foldl_replace_inj fnv1aLow_state_inj fnv1aLow_byte_inj same

/-! A byte of a buffer and its replacement. -/

/-- A byte of a concatenation is a byte of one of its parts. -/
theorem byte_of_append {first second before after : List UInt8} {old : UInt8}
    (same : first ++ second = before ++ old :: after) :
    (∃ rest, first = before ++ old :: rest ∧ after = rest ++ second) ∨
      ∃ rest, second = rest ++ old :: after ∧ before = first ++ rest := by
  rcases List.append_eq_append_iff.mp same with ⟨rest, left, right⟩ | ⟨rest, left, right⟩
  · exact .inr ⟨rest, right, left⟩
  · cases rest with
    | nil =>
      rw [List.append_nil] at left
      exact .inr ⟨[], right.symm, by rw [left, List.append_nil]⟩
    | cons byte rest =>
      obtain ⟨rfl, rfl⟩ := List.cons.inj right
      exact .inl ⟨rest, left, rfl⟩

section
variable {before after : List UInt8} {old new : UInt8}

theorem replace_ne (changed : new ≠ old) : before ++ new :: after ≠ before ++ old :: after := by
  intro same
  exact changed (List.cons.inj (List.append_cancel_left same)).1

theorem length_replace : (before ++ new :: after).length = (before ++ old :: after).length := by
  simp only [List.length_append, List.length_cons]

/-- A number with one byte replaced is another number. -/
theorem leValue_replace_ne (changed : new ≠ old) :
    leValue (before ++ new :: after) ≠ leValue (before ++ old :: after) :=
  fun same => replace_ne changed (leValue_inj length_replace same)

end

/-! Enumerations that are stored as their number. -/

/-- A type whose values are numbered in one byte. -/
class ByteEnum (α : Type) [DecidableEq α] where
  values : List α
  complete : ∀ value, value ∈ values
  nodup : values.Nodup
  small : values.length ≤ 256

namespace ByteEnum
variable [DecidableEq α] [ByteEnum α]

def toByte (value : α) : UInt8 := UInt8.ofNat ((values : List α).idxOf value)

def ofByte (byte : UInt8) : Option α := (values : List α)[byte.toNat]?

theorem toNat_toByte (value : α) : (toByte value).toNat = (values : List α).idxOf value := by
  have inside := List.idxOf_lt_length_of_mem (complete value)
  have small := small (α := α)
  rw [toByte, UInt8.toNat_ofNat']
  omega

theorem ofByte_eq_some_iff {byte : UInt8} {value : α} :
    ofByte byte = some value ↔ byte = toByte value := by
  have inside := List.idxOf_lt_length_of_mem (complete value)
  constructor
  · intro found
    obtain ⟨bound, same⟩ := List.getElem?_eq_some_iff.mp found
    apply UInt8.toNat_inj.mp
    rw [toNat_toByte, ← same, nodup.idxOf_getElem]
  · intro same
    subst same
    rw [ofByte, toNat_toByte, List.getElem?_eq_getElem inside, List.getElem_idxOf]

end ByteEnum

namespace Reader

/-! The readers of single fields. `short` is thrown when the buffer ends early. -/

def u8 (short : ε) : Reader ε UInt8 := (·.headD 0) <$> take short 1

@[simp] theorem reads_u8 {short : ε} {chunk : List UInt8} {value : UInt8} :
    (u8 short).Reads chunk value ↔ chunk = [value] := by
  simp only [u8, reads_map, reads_take]
  constructor
  · intro found
    obtain ⟨bytes, ⟨rfl, one⟩, rfl⟩ := found
    obtain ⟨byte, rfl⟩ := List.length_eq_one_iff.mp one
    rfl
  · intro same
    subst same
    exact ⟨[value], ⟨rfl, rfl⟩, rfl⟩

/-- A number of the given width. -/
def word (short : ε) (width : Nat) : Reader ε Nat := leValue <$> take short width

theorem reads_word {short : ε} {width : Nat} {chunk : List UInt8} {value : Nat} :
    (word short width).Reads chunk value ↔ chunk = leBytes width value ∧ value < 256 ^ width := by
  simp only [word, reads_map, reads_take]
  constructor
  · intro found
    obtain ⟨bytes, ⟨rfl, rfl⟩, rfl⟩ := found
    exact ⟨(leBytes_leValue _).symm, leValue_lt _⟩
  · intro found
    obtain ⟨rfl, bound⟩ := found
    exact ⟨leBytes width value, ⟨rfl, length_leBytes ..⟩, leValue_leBytes bound⟩

def u32 (short : ε) : Reader ε UInt32 := UInt32.ofNat <$> word short 4

@[simp] theorem reads_u32 {short : ε} {chunk : List UInt8} {value : UInt32} :
    (u32 short).Reads chunk value ↔ chunk = leBytes 4 value.toNat := by
  simp only [u32, reads_map, reads_word]
  constructor
  · intro found
    obtain ⟨number, ⟨rfl, bound⟩, rfl⟩ := found
    rw [UInt32.toNat_ofNat', Nat.mod_eq_of_lt (by omega)]
  · intro same
    subst same
    exact ⟨value.toNat, ⟨rfl, value.toNat_lt⟩, UInt32.ofNat_toNat⟩

def u64 (short : ε) : Reader ε UInt64 := UInt64.ofNat <$> word short 8

@[simp] theorem reads_u64 {short : ε} {chunk : List UInt8} {value : UInt64} :
    (u64 short).Reads chunk value ↔ chunk = leBytes 8 value.toNat := by
  simp only [u64, reads_map, reads_word]
  constructor
  · intro found
    obtain ⟨number, ⟨rfl, bound⟩, rfl⟩ := found
    rw [UInt64.toNat_ofNat', Nat.mod_eq_of_lt (by omega)]
  · intro same
    subst same
    exact ⟨value.toNat, ⟨rfl, value.toNat_lt⟩, UInt64.ofNat_toNat⟩

/-- The value of an enumeration byte, unless the byte is out of range. -/
def enumerated [DecidableEq α] [ByteEnum α] (invalid : ε) (byte : UInt8) : Reader ε α :=
  match ByteEnum.ofByte byte with
  | some value => pure value
  | none => fail invalid

@[simp] theorem reads_enumerated [DecidableEq α] [ByteEnum α] {invalid : ε} {byte : UInt8}
    {chunk : List UInt8} {value : α} :
    (enumerated invalid byte).Reads chunk value ↔ chunk = [] ∧ byte = ByteEnum.toByte value := by
  rw [← ByteEnum.ofByte_eq_some_iff, enumerated]
  cases ByteEnum.ofByte (α := α) byte <;> simp

/-- Read a value and throw when it is bad. -/
def checked (reader : Reader ε α) (bad : α → Prop) [DecidablePred bad] (error : ε) : Reader ε α := do
  let value ← reader
  reject (bad value) error
  pure value

@[simp] theorem reads_checked {reader : Reader ε α} {bad : α → Prop} [DecidablePred bad] {error : ε}
    {chunk : List UInt8} {value : α} :
    (reader.checked bad error).Reads chunk value ↔ reader.Reads chunk value ∧ ¬bad value := by
  simp only [checked, reads_bind, reads_reject, reads_pure]
  constructor
  · intro found
    obtain ⟨found, head, tail, reads, ⟨_, _, _, ⟨rfl, passed⟩, ⟨rfl, rfl⟩, rfl⟩, rfl⟩ := found
    simpa using ⟨reads, passed⟩
  · intro found
    obtain ⟨reads, passed⟩ := found
    exact ⟨value, chunk, [], reads, ⟨(), [], [], ⟨rfl, passed⟩, ⟨rfl, rfl⟩, rfl⟩, by simp⟩

/-! Whole buffers. -/

/-- Read the whole buffer: bytes that are left over are an error. -/
def whole (reader : Reader ε α) (trailing : ε) (data : List UInt8) : Except (Fault ε) α :=
  match reader.run data 0 with
  | .ok (value, next) => if next = data.length then .ok value else .error (.thrown trailing)
  | .error fault => .error fault

theorem whole_eq_ok_iff (trailing : ε) {reader : Reader ε α} {data : List UInt8} {value : α} :
    reader.whole trailing data = .ok value ↔ reader.Reads data value := by
  unfold whole
  constructor
  · intro read
    split at read
    next found next ran =>
      split at read
      next reached =>
        cases read
        rw [← List.nil_append data, ← List.length_nil] at ran
        obtain ⟨chunk, after, rfl, level, reads⟩ := reader.reads_of_run ran
        have none : after = [] := by
          simp only [List.length_nil, List.length_append, Nat.zero_add] at level reached
          exact List.length_eq_zero_iff.mp (by omega)
        simpa [none] using reads
      next => cases read
    next => cases read
  · intro reads
    have ran := reads.run [] []
    simp only [List.append_nil, List.nil_append, List.length_nil, Nat.zero_add] at ran
    simp [ran]

/-- The reader throws or gives a value, and never reads outside the buffer. -/
theorem whole_ne_outOfBounds (reader : Reader ε α) (trailing : ε) (data : List UInt8) :
    reader.whole trailing data ≠ .error .outOfBounds := by
  unfold whole
  split
  next => split <;> simp
  next fault ran =>
    intro found
    cases found
    exact reader.safe data 0 (Nat.zero_le _) ran

end Reader
end ByteStream

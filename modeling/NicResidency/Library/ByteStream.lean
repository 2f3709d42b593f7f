import Mathlib

/-!
Readers over a byte buffer. A reader looks at a buffer from a position and gives
a value and the next position, or throws. Every reader carries two proofs: it
reads no byte outside the buffer, and a value it gives depends on nothing but the
chunk of bytes it has read. So a reader denotes the relation `Reads` between
chunks and values, and a sequence of readers a concatenation of chunks.
-/

namespace ByteStream

/-- Why a read gives no value: an exception, or an access or a bounds test that is
made outside the buffer. -/
inductive Fault (ε : Type) where
  | thrown (error : ε)
  | outOfBounds
  deriving DecidableEq, Repr

variable {ε α β : Type}

/-- Wherever the chunk stands in a buffer, the read gives the value and goes on
right behind the chunk. -/
def ReadsChunk (run : List UInt8 → Nat → Except (Fault ε) (α × Nat)) (chunk : List UInt8)
    (value : α) : Prop :=
  ∀ before after, run (before ++ chunk ++ after) before.length =
    .ok (value, before.length + chunk.length)

structure Reader (ε α : Type) where
  run : List UInt8 → Nat → Except (Fault ε) (α × Nat)
  safe : ∀ data position, position ≤ data.length → run data position ≠ .error .outOfBounds
  framed : ∀ data position value next, position ≤ data.length →
    run data position = .ok (value, next) →
    ∃ before chunk after, data = before ++ chunk ++ after ∧ before.length = position ∧
      next = position + chunk.length ∧ ReadsChunk run chunk value

namespace Reader

def Reads (reader : Reader ε α) (chunk : List UInt8) (value : α) : Prop :=
  ReadsChunk reader.run chunk value

/-- The chunk a successful read has consumed. -/
theorem reads_of_run (reader : Reader ε α) {before rest : List UInt8} {value : α} {next : Nat}
    (ran : reader.run (before ++ rest) before.length = .ok (value, next)) :
    ∃ chunk after, rest = chunk ++ after ∧ next = before.length + chunk.length ∧
      reader.Reads chunk value := by
  obtain ⟨before', chunk, after, same, level, reached, reads⟩ :=
    reader.framed _ _ value next (by simp) ran
  rw [List.append_assoc] at same
  obtain ⟨rfl, rfl⟩ := List.append_inj same level.symm
  exact ⟨chunk, after, rfl, reached, reads⟩

theorem Reads.run {reader : Reader ε α} {chunk : List UInt8} {value : α}
    (reads : reader.Reads chunk value) (before after : List UInt8) :
    reader.run (before ++ (chunk ++ after)) before.length =
      .ok (value, before.length + chunk.length) := by
  rw [← List.append_assoc]
  exact reads before after

/-- Readers are self-delimiting: two reads at the start of one buffer take the same
chunk and give the same value. -/
theorem Reads.unique {reader : Reader ε α} {chunk chunk' rest rest' : List UInt8} {value value' : α}
    (reads : reader.Reads chunk value) (reads' : reader.Reads chunk' value')
    (same : chunk ++ rest = chunk' ++ rest') : chunk = chunk' ∧ rest = rest' ∧ value = value' := by
  have ran := reads.run [] rest
  rw [same, reads'.run [] rest'] at ran
  injection ran with ran
  injection ran with values lengths
  obtain ⟨chunks, rests⟩ := List.append_inj same (by omega)
  exact ⟨chunks, rests, values.symm⟩

/-! Giving a value and throwing. -/

protected def pure (value : α) : Reader ε α where
  run _ position := .ok (value, position)
  safe _ _ _ := by simp
  framed data position found next inside ran := by
    cases ran
    exact ⟨data.take position, [], data.drop position, by simp, by simpa using inside, by simp,
      fun _ _ => by simp⟩

def fail (error : ε) : Reader ε α where
  run _ _ := .error (.thrown error)
  safe _ _ _ := by simp
  framed _ _ _ _ _ ran := by cases ran

/-! Sequencing. -/

/-- The second reader starts where the first one has stopped. -/
def bindRun (first : Reader ε α) (second : α → Reader ε β) (data : List UInt8) (position : Nat) :
    Except (Fault ε) (β × Nat) :=
  match first.run data position with
  | .ok (value, next) => (second value).run data next
  | .error fault => .error fault

theorem readsChunk_bindRun {first : Reader ε α} {second : α → Reader ε β}
    {chunk chunk' : List UInt8} {value : α} {result : β} (reads : first.Reads chunk value)
    (reads' : (second value).Reads chunk' result) :
    ReadsChunk (bindRun first second) (chunk ++ chunk') result := by
  intro before after
  have ran := reads.run before (chunk' ++ after)
  have ran' := reads'.run (before ++ chunk) after
  rw [List.append_assoc, List.length_append] at ran'
  rw [List.append_assoc, List.append_assoc]
  simp only [bindRun, ran, ran', List.length_append, Nat.add_assoc]

/-- A successful sequence has consumed a chunk of each part. -/
theorem chunks_of_bindRun {first : Reader ε α} {second : α → Reader ε β}
    {before rest : List UInt8} {result : β} {next : Nat}
    (ran : bindRun first second (before ++ rest) before.length = .ok (result, next)) :
    ∃ chunk chunk' after value, rest = chunk ++ chunk' ++ after ∧
      next = before.length + (chunk ++ chunk').length ∧ first.Reads chunk value ∧
      (second value).Reads chunk' result := by
  unfold bindRun at ran
  split at ran
  next value middle found =>
    obtain ⟨chunk, after, rfl, rfl, reads⟩ := first.reads_of_run found
    rw [← List.append_assoc, ← List.length_append] at ran
    obtain ⟨chunk', after, rfl, rfl, reads'⟩ := (second value).reads_of_run ran
    exact ⟨chunk, chunk', after, value, by simp, by simp [Nat.add_assoc], reads, reads'⟩
  next => cases ran

theorem split_at (data : List UInt8) (position : Nat) (inside : position ≤ data.length) :
    ∃ before rest, data = before ++ rest ∧ before.length = position :=
  ⟨data.take position, data.drop position, by simp, by simpa using inside⟩

protected def bind (first : Reader ε α) (second : α → Reader ε β) : Reader ε β where
  run := bindRun first second
  safe data position inside := by
    obtain ⟨before, rest, rfl, rfl⟩ := split_at data position inside
    unfold bindRun
    split
    next value middle found =>
      obtain ⟨chunk, after, rfl, rfl, -⟩ := first.reads_of_run found
      exact (second value).safe _ _ (by simp)
    next fault found =>
      intro outside
      cases outside
      exact first.safe _ _ inside found
  framed data position result next inside ran := by
    obtain ⟨before, rest, rfl, rfl⟩ := split_at data position inside
    obtain ⟨chunk, chunk', after, value, rfl, rfl, reads, reads'⟩ := chunks_of_bindRun ran
    exact ⟨before, chunk ++ chunk', after, by simp, rfl, rfl, readsChunk_bindRun reads reads'⟩

instance : Monad (Reader ε) where
  pure := Reader.pure
  bind := Reader.bind

@[simp] theorem reads_pure {chunk : List UInt8} {value result : α} :
    (pure value : Reader ε α).Reads chunk result ↔ chunk = [] ∧ value = result := by
  constructor
  · intro reads
    have ran : Except.ok (value, 0) = Except.ok (result, 0 + chunk.length) := reads [] []
    injection ran with same
    injection same with same none
    exact ⟨List.length_eq_zero_iff.mp (by omega), same⟩
  · intro found
    obtain ⟨rfl, rfl⟩ := found
    exact fun _ _ => by rfl

@[simp] theorem reads_fail {chunk : List UInt8} {error : ε} {result : α} :
    (fail error : Reader ε α).Reads chunk result ↔ False :=
  iff_of_false (fun reads => nomatch reads [] []) id

@[simp] theorem reads_bind {first : Reader ε α} {second : α → Reader ε β} {chunk : List UInt8}
    {result : β} :
    (first >>= second).Reads chunk result ↔
      ∃ value head tail, first.Reads head value ∧ (second value).Reads tail result ∧
        chunk = head ++ tail := by
  constructor
  · intro reads
    have ran : bindRun first second ([] ++ chunk ++ []) ([] : List UInt8).length =
        .ok (result, 0 + chunk.length) := reads [] []
    rw [List.append_nil] at ran
    obtain ⟨head, tail, after, value, split, reached, first, second⟩ := chunks_of_bindRun ran
    have none : after = [] := List.length_eq_zero_iff.mp (by
      have lengths := congrArg List.length split
      simp at lengths reached
      omega)
    exact ⟨value, head, tail, first, second, by simpa [none] using split⟩
  · intro found
    obtain ⟨value, head, tail, first, second, rfl⟩ := found
    exact readsChunk_bindRun first second

theorem Reads.andThen {first : Reader ε α} {second : α → Reader ε β} {head tail : List UInt8}
    {value : α} {result : β} (reads : first.Reads head value)
    (reads' : (second value).Reads tail result) : (first >>= second).Reads (head ++ tail) result :=
  reads_bind.mpr ⟨value, head, tail, reads, reads', rfl⟩

/-- The last read of a sequence, and what is built from its value. -/
theorem Reads.andReturn {reader : Reader ε α} {chunk : List UInt8} {value : α} {build : α → β}
    {result : β} (reads : reader.Reads chunk value) (same : build value = result) :
    (reader >>= fun value => pure (build value)).Reads chunk result :=
  reads_bind.mpr ⟨value, chunk, [], reads, reads_pure.mpr ⟨rfl, same⟩, (List.append_nil _).symm⟩

@[simp] theorem reads_map {reader : Reader ε α} {change : α → β} {chunk : List UInt8}
    {result : β} :
    (change <$> reader).Reads chunk result ↔ ∃ value, reader.Reads chunk value ∧
      change value = result := by
  change (reader >>= fun value => pure (change value)).Reads chunk result ↔ _
  simp only [reads_bind, reads_pure]
  constructor
  · intro found
    obtain ⟨value, head, tail, reads, ⟨rfl, same⟩, rfl⟩ := found
    exact ⟨value, by simpa using reads, same⟩
  · intro found
    obtain ⟨value, reads, same⟩ := found
    exact ⟨value, chunk, [], reads, ⟨rfl, same⟩, by simp⟩

/-- Throw when a condition holds. -/
def reject (condition : Prop) [Decidable condition] (error : ε) : Reader ε Unit :=
  if condition then fail error else pure ()

@[simp] theorem reads_reject {condition : Prop} [Decidable condition] {error : ε}
    {chunk : List UInt8} {done : Unit} :
    (reject condition error).Reads chunk done ↔ chunk = [] ∧ ¬condition := by
  by_cases stop : condition <;> simp [reject, stop]

/-! Reading bytes. -/

/-- The bytes from a position on, one access after the other. -/
def fetch (data : List UInt8) : Nat → Nat → Except (Fault ε) (List UInt8)
  | _, 0 => .ok []
  | position, count + 1 =>
    match data[position]? with
    | none => .error .outOfBounds
    | some byte => (fetch data (position + 1) count).map (byte :: ·)

theorem fetch_append (before chunk after : List UInt8) :
    (fetch (before ++ chunk ++ after) before.length chunk.length : Except (Fault ε) _) =
      .ok chunk := by
  induction chunk generalizing before with
  | nil => rfl
  | cons byte chunk ih =>
    have later := ih (before ++ [byte])
    simp only [List.append_assoc, List.cons_append, List.nil_append, List.length_append,
      List.length_cons, List.length_nil] at later
    simp [fetch, later, Except.map]

theorem fetch_eq {data chunk : List UInt8} {position count : Nat} (before after : List UInt8)
    (split : data = before ++ chunk ++ after) (start : before.length = position)
    (size : chunk.length = count) :
    (fetch data position count : Except (Fault ε) _) = .ok chunk := by
  subst split start size
  exact fetch_append before chunk after

/-- Test that enough bytes are left, then read them. -/
def takeRun (short : ε) (count : Nat) (data : List UInt8) (position : Nat) :
    Except (Fault ε) (List UInt8 × Nat) :=
  -- behind the end the difference of the test wraps around
  if position > data.length then .error .outOfBounds
  else if count > data.length - position then .error (.thrown short)
  else (fetch data position count).map (·, position + count)

theorem readsChunk_takeRun (short : ε) (chunk : List UInt8) :
    ReadsChunk (takeRun short chunk.length) chunk chunk := by
  intro before after
  rw [takeRun, if_neg (by simp), if_neg (by simp), fetch_append]
  rfl

/-- A successful take has found its chunk at the position. -/
theorem chunk_of_takeRun {short : ε} {count : Nat} {before rest value : List UInt8} {next : Nat}
    (ran : takeRun short count (before ++ rest) before.length = .ok (value, next)) :
    ∃ after, rest = value ++ after ∧ value.length = count ∧ next = before.length + count := by
  by_cases short' : count > (before ++ rest).length - before.length
  · rw [takeRun, if_neg (by simp), if_pos short'] at ran
    cases ran
  · obtain ⟨chunk, after, rfl, rfl⟩ := split_at rest count (by
      simp at short'
      omega)
    have ran' := readsChunk_takeRun short chunk before after
    rw [List.append_assoc, ran] at ran'
    cases ran'
    exact ⟨after, rfl, rfl, rfl⟩

def take (short : ε) (count : Nat) : Reader ε (List UInt8) where
  run := takeRun short count
  safe data position inside := by
    by_cases enough : count > data.length - position
    · simp [takeRun, enough, inside]
    · obtain ⟨before, rest, rfl, rfl⟩ := split_at data position inside
      obtain ⟨chunk, after, rfl, rfl⟩ := split_at rest count (by
        simp at enough
        omega)
      have ran := readsChunk_takeRun short chunk before after
      rw [List.append_assoc] at ran
      simp [ran]
  framed data position value next inside ran := by
    obtain ⟨before, rest, rfl, rfl⟩ := split_at data position inside
    obtain ⟨after, rfl, rfl, rfl⟩ := chunk_of_takeRun ran
    exact ⟨before, value, after, by simp, rfl, rfl, readsChunk_takeRun short value⟩

@[simp] theorem reads_take {short : ε} {count : Nat} {chunk value : List UInt8} :
    (take short count).Reads chunk value ↔ chunk = value ∧ value.length = count := by
  constructor
  · intro reads
    have ran : takeRun short count ([] ++ chunk ++ []) ([] : List UInt8).length =
        .ok (value, 0 + chunk.length) := reads [] []
    rw [List.append_nil] at ran
    obtain ⟨after, rfl, rfl, level⟩ := chunk_of_takeRun ran
    have none : after = [] := by simpa using level
    simp [none]
  · intro found
    obtain ⟨rfl, rfl⟩ := found
    exact readsChunk_takeRun short chunk

end Reader
end ByteStream

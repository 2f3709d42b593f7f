import NicResidency.Library.Loops

/-!
What a run of a reader can do: the positions it goes through stay inside the
buffer, and `Throws` says which exceptions it may end with.
-/

namespace ByteStream
namespace Reader

variable {ε α β σ κ : Type}

/-- A run that starts inside the buffer stops inside it. -/
theorem stop_le (reader : Reader ε α) {data : List UInt8} {position next : Nat} {value : α}
    (inside : position ≤ data.length) (ran : reader.run data position = .ok (value, next)) :
    next ≤ data.length := by
  obtain ⟨before, chunk, after, rfl, rfl, rfl, -⟩ := reader.framed _ _ _ _ inside ran
  simp only [List.length_append]
  omega

/-- The positions that a run goes through: where a reader starts and stops, and where
the readers of a sequence do. -/
inductive Visits : {α : Type} → Reader ε α → List UInt8 → Nat → Nat → Prop
  | start {α : Type} {reader : Reader ε α} {data : List UInt8} {position : Nat} :
      Visits reader data position position
  | stop {α : Type} {reader : Reader ε α} {data : List UInt8} {position next : Nat} {value : α}
      (ran : reader.run data position = .ok (value, next)) : Visits reader data position next
  | head {α β : Type} {first : Reader ε α} {second : α → Reader ε β} {data : List UInt8}
      {position reached : Nat} (visits : Visits first data position reached) :
      Visits (first >>= second) data position reached
  | tail {α β : Type} {first : Reader ε α} {second : α → Reader ε β} {data : List UInt8}
      {position next reached : Nat} {value : α} (ran : first.run data position = .ok (value, next))
      (visits : Visits (second value) data next reached) :
      Visits (first >>= second) data position reached

/-- The position never leaves the buffer. -/
theorem Visits.le {reader : Reader ε α} {data : List UInt8} {position reached : Nat}
    (visits : reader.Visits data position reached) (inside : position ≤ data.length) :
    reached ≤ data.length := by
  induction visits with
  | start => exact inside
  | stop ran => exact stop_le _ inside ran
  | head _ ih => exact ih inside
  | tail ran _ ih => exact ih (stop_le _ inside ran)

/-- A read that ends inside the buffer makes no access outside. -/
theorem fetch_inside {data : List UInt8} {position count : Nat}
    (inside : position + count ≤ data.length) :
    (fetch data position count : Except (Fault ε) _) = .ok ((data.drop position).take count) := by
  apply fetch_eq (data.take position) ((data.drop position).drop count)
  · rw [List.append_assoc, List.take_append_drop, List.take_append_drop]
  · rw [List.length_take]
    omega
  · rw [List.length_take, List.length_drop]
    omega

/-! The exceptions of a reader. -/

/-- Every exception of the reader is an allowed one. -/
def Throws (reader : Reader ε α) (allowed : ε → Prop) : Prop :=
  ∀ data position error, reader.run data position = .error (.thrown error) → allowed error

section
variable {allowed : ε → Prop}

theorem throws_pure {value : α} : (pure value : Reader ε α).Throws allowed := by
  intro data position error ran
  cases ran

theorem throws_fail {error : ε} (fine : allowed error) :
    (fail error : Reader ε α).Throws allowed := by
  intro data position thrown ran
  cases ran
  exact fine

theorem Throws.bind {first : Reader ε α} {second : α → Reader ε β} (throws : first.Throws allowed)
    (later : ∀ value, (second value).Throws allowed) : (first >>= second).Throws allowed := by
  intro data position error ran
  change bindRun first second data position = _ at ran
  unfold bindRun at ran
  split at ran
  next value next _ => exact later value data next error ran
  next fault stopped =>
    cases ran
    exact throws data position error stopped

theorem Throws.map {reader : Reader ε α} (throws : reader.Throws allowed) (change : α → β) :
    (change <$> reader).Throws allowed :=
  throws.bind fun _ => throws_pure

theorem throws_reject {condition : Prop} [Decidable condition] {error : ε} (fine : allowed error) :
    (reject condition error).Throws allowed := by
  unfold reject
  split
  next => exact throws_fail fine
  next => exact throws_pure

/-- The accesses of a read throw nothing. -/
theorem fetch_ne_thrown (data : List UInt8) (position count : Nat) (error : ε) :
    fetch data position count ≠ .error (.thrown error) := by
  induction count generalizing position with
  | zero => intro fetched; cases fetched
  | succ count ih =>
    intro fetched
    unfold fetch at fetched
    split at fetched
    next => cases fetched
    next byte _ =>
      cases later : (fetch data (position + 1) count : Except (Fault ε) _) with
      | ok bytes =>
        rw [later] at fetched
        cases fetched
      | error fault =>
        rw [later] at fetched
        cases fetched
        exact ih (position + 1) later

theorem throws_take {short : ε} (fine : allowed short) (count : Nat) :
    (take short count).Throws allowed := by
  intro data position error ran
  change takeRun short count data position = _ at ran
  unfold takeRun at ran
  split at ran
  next => cases ran
  next =>
    split at ran
    next =>
      cases ran
      exact fine
    next =>
      cases fetched : (fetch data position count : Except (Fault ε) _) with
      | ok bytes =>
        rw [fetched] at ran
        cases ran
      | error fault =>
        rw [fetched] at ran
        cases ran
        exact absurd fetched (fetch_ne_thrown data position count error)

theorem throws_u8 {short : ε} (fine : allowed short) : (u8 short).Throws allowed :=
  (throws_take fine 1).map _

theorem throws_word {short : ε} (fine : allowed short) (width : Nat) :
    (word short width).Throws allowed :=
  (throws_take fine width).map _

theorem throws_u32 {short : ε} (fine : allowed short) : (u32 short).Throws allowed :=
  (throws_word fine 4).map _

theorem throws_u64 {short : ε} (fine : allowed short) : (u64 short).Throws allowed :=
  (throws_word fine 8).map _

theorem throws_enumerated [DecidableEq α] [ByteEnum α] {invalid : ε} (fine : allowed invalid)
    (byte : UInt8) : (enumerated invalid byte : Reader ε α).Throws allowed := by
  unfold enumerated
  split
  next => exact throws_pure
  next => exact throws_fail fine

theorem Throws.checked {reader : Reader ε α} (throws : reader.Throws allowed) (bad : α → Prop)
    [DecidablePred bad] {error : ε} (fine : allowed error) :
    (reader.checked bad error).Throws allowed :=
  throws.bind fun _ => (throws_reject fine).bind fun _ => throws_pure

theorem Throws.distinct [DecidableEq κ] {reader : Reader ε α} (throws : reader.Throws allowed)
    (key : α → κ) (bad : α → Prop) [DecidablePred bad] {invalid duplicate : ε}
    (fine : allowed invalid) (fine' : allowed duplicate) (seen : List κ) :
    (reader.distinct key bad invalid duplicate seen).Throws allowed :=
  (throws.checked bad fine).checked _ fine'

theorem throws_loop {step : σ → Reader ε α} {update : σ → α → σ}
    (each : ∀ state, (step state).Throws allowed) (count : Nat) (state : σ) :
    (loop step update count state).Throws allowed := by
  induction count generalizing state with
  | zero => exact throws_pure
  | succ count ih => exact (each state).bind fun value => (ih _).bind fun _ => throws_pure

theorem throws_counted {short tooMany : ε} {limit : Nat} {step : σ → Reader ε α}
    {update : σ → α → σ} (fine : allowed short) (fine' : allowed tooMany)
    (each : ∀ state, (step state).Throws allowed) (start : σ) :
    (counted short tooMany limit step update start).Throws allowed :=
  (throws_u32 fine).bind fun _ => (throws_reject fine').bind fun _ => throws_loop each _ start

/-- Reading a whole buffer gives a value or throws an allowed exception. -/
theorem Throws.whole {reader : Reader ε α} (throws : reader.Throws allowed) {trailing : ε}
    (fine : allowed trailing) (data : List UInt8) :
    (∃ value, reader.whole trailing data = .ok value) ∨
      ∃ error, reader.whole trailing data = .error (.thrown error) ∧ allowed error := by
  have safe := whole_ne_outOfBounds reader trailing data
  unfold Reader.whole at safe ⊢
  split
  next value next ran =>
    by_cases reached : next = data.length
    · exact .inl ⟨value, if_pos reached⟩
    · exact .inr ⟨trailing, if_neg reached, fine⟩
  next fault ran =>
    rw [ran] at safe
    cases fault with
    | thrown error => exact .inr ⟨error, rfl, throws data 0 error ran⟩
    | outOfBounds => exact absurd rfl safe

end
end Reader
end ByteStream

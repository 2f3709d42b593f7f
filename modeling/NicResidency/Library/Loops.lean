import NicResidency.Library.Encoding

/-!
Loops of records. A record may be rejected because of the records before it, as in
a list of values with distinct keys. `Gives` says what holds of every value that a
reader gives, whatever the bytes are.
-/

namespace ByteStream
namespace Reader

variable {ε α β σ κ : Type}

/-- Every value that the reader gives has the property. -/
def Gives (reader : Reader ε α) (property : α → Prop) : Prop :=
  ∀ chunk value, reader.Reads chunk value → property value

theorem gives_pure {property : α → Prop} {value : α} (holds : property value) :
    (pure value : Reader ε α).Gives property := by
  intro chunk found reads
  obtain ⟨-, rfl⟩ := reads_pure.mp reads
  exact holds

theorem gives_any (reader : Reader ε α) : reader.Gives fun _ => True :=
  fun _ _ _ => trivial

theorem Gives.bind {property : β → Prop} {held : α → Prop} {first : Reader ε α}
    {second : α → Reader ε β} (gives : first.Gives held)
    (later : ∀ value, held value → (second value).Gives property) :
    (first >>= second).Gives property := by
  intro chunk found reads
  obtain ⟨value, head, tail, first, last, -⟩ := reads_bind.mp reads
  exact later value (gives head value first) tail found last

theorem gives_bind {property : β → Prop} {first : Reader ε α} {second : α → Reader ε β}
    (later : ∀ value, (second value).Gives property) : (first >>= second).Gives property :=
  (gives_any first).bind fun value _ => later value

/-- Read a number of values, each with a reader that may depend on the ones
before it. -/
def loop (step : σ → Reader ε α) (update : σ → α → σ) : Nat → σ → Reader ε (List α)
  | 0, _ => pure []
  | count + 1, state => do
    let value ← step state
    let rest ← loop step update count (update state value)
    pure (value :: rest)

/-- The condition of a loop: that of each value, after the values before it. -/
def LoopGood (update : σ → α → σ) (good : σ → α → Prop) : σ → List α → Prop
  | _, [] => True
  | state, value :: rest => good state value ∧ LoopGood update good (update state value) rest

theorem gives_loop {step : σ → Reader ε α} {update : σ → α → σ} {property : α → Prop}
    (each : ∀ state, (step state).Gives property) (count : Nat) (state : σ) :
    (loop step update count state).Gives fun values => ∀ value ∈ values, property value := by
  induction count generalizing state with
  | zero => exact gives_pure fun _ member => nomatch member
  | succ count ih =>
    exact (each state).bind fun value holds => (ih _).bind fun rest others =>
      gives_pure (List.forall_mem_cons.mpr ⟨holds, others⟩)

theorem loopGood_forall {update : σ → α → σ} {good : α → Prop} (state : σ) (values : List α) :
    LoopGood update (fun _ => good) state values ↔ ∀ value ∈ values, good value := by
  induction values generalizing state with
  | nil => simp [LoopGood]
  | cons value values ih => simp [LoopGood, ih]

/-- A count of at most the limit, and as many values. -/
def counted (short tooMany : ε) (limit : Nat) (step : σ → Reader ε α) (update : σ → α → σ)
    (start : σ) : Reader ε (List α) := do
  let count ← u32 short
  reject (count.toNat > limit) tooMany
  loop step update count.toNat start

theorem gives_counted {short tooMany : ε} {limit : Nat} {step : σ → Reader ε α}
    {update : σ → α → σ} {property : α → Prop} (each : ∀ state, (step state).Gives property)
    (start : σ) :
    (counted short tooMany limit step update start).Gives
      fun values => ∀ value ∈ values, property value :=
  gives_bind fun _ => gives_bind fun _ => gives_loop each _ start

/-! Loops over values with distinct keys. -/

/-- Read a value, and throw when it is bad or when its key has been seen. -/
def distinct [DecidableEq κ] (reader : Reader ε α) (key : α → κ) (bad : α → Prop)
    [DecidablePred bad] (invalid duplicate : ε) (seen : List κ) : Reader ε α :=
  (reader.checked bad invalid).checked (fun value => key value ∈ seen) duplicate

theorem reads_distinct [DecidableEq κ] {reader : Reader ε α} {key : α → κ} {bad : α → Prop}
    [DecidablePred bad] {invalid duplicate : ε} {seen : List κ} {chunk : List UInt8} {value : α} :
    (reader.distinct key bad invalid duplicate seen).Reads chunk value ↔
      (reader.Reads chunk value ∧ ¬bad value) ∧ key value ∉ seen := by
  simp [distinct]

theorem Gives.distinct [DecidableEq κ] {reader : Reader ε α} {property : α → Prop}
    (gives : reader.Gives property) (key : α → κ) (bad : α → Prop) [DecidablePred bad]
    (invalid duplicate : ε) (seen : List κ) :
    (reader.distinct key bad invalid duplicate seen).Gives property :=
  fun chunk value reads => gives chunk value (reads_distinct.mp reads).1.1

/-- A loop over distinct keys needs that every value is good and that no key is
repeated. -/
theorem loopGood_distinct {key : α → κ} {good : α → Prop} (seen : List κ) (values : List α) :
    LoopGood (fun seen value => seen ++ [key value])
        (fun seen value => good value ∧ key value ∉ seen) seen values ↔
      (∀ value ∈ values, good value) ∧ (values.map key).Nodup ∧
        ∀ value ∈ values, key value ∉ seen := by
  induction values generalizing seen with
  | nil => simp [LoopGood]
  | cons value values ih =>
    simp only [LoopGood, ih, List.forall_mem_cons, List.map_cons, List.nodup_cons, List.mem_append,
      List.mem_singleton, List.mem_map, not_or, not_exists, not_and]
    constructor
    · intro found
      obtain ⟨⟨fine, new⟩, fines, distinct, others⟩ := found
      exact ⟨⟨fine, fines⟩, ⟨fun other member => (others other member).2, distinct⟩, new,
        fun other member => (others other member).1⟩
    · intro found
      obtain ⟨⟨fine, fines⟩, ⟨different, distinct⟩, new, others⟩ := found
      exact ⟨⟨fine, new⟩, fines, distinct,
        fun other member => ⟨others other member, different other member⟩⟩

end Reader
end ByteStream

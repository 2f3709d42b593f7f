import NicResidency.Library.Loops

/-!
Formats as languages. A format assigns to every value the byte strings that spell
it; a reader is described by the language it accepts for each value and by the
values it gives at all.
-/

namespace ByteStream

variable {ε α σ κ : Type}

/-- The language of one byte string. -/
def exactly (bytes : List UInt8) : Language UInt8 := {bytes}

@[simp] theorem mem_exactly {bytes other : List UInt8} : other ∈ exactly bytes ↔ other = bytes := Iff.rfl

theorem mem_mul {first second : Language UInt8} {bytes : List UInt8} :
    bytes ∈ first * second ↔ ∃ head ∈ first, ∃ tail ∈ second, bytes = head ++ tail := by
  simp only [Language.mem_mul, eq_comm]

theorem mem_prod_cons {language : Language UInt8} {rest : List (Language UInt8)}
    {head tail : List UInt8} (first : head ∈ language) (others : tail ∈ rest.prod) :
    head ++ tail ∈ (language :: rest).prod := by
  rw [List.prod_cons]
  exact Language.append_mem_mul first others

theorem mem_prod_last {language : Language UInt8} {bytes : List UInt8} (last : bytes ∈ language) :
    bytes ∈ [language].prod := by
  rwa [List.prod_singleton]

/-- Spellings of the values, one after the other. -/
theorem flatten_mem_prod {spelling : α → Language UInt8} {values : List α}
    {encodings : List (List UInt8)}
    (each : List.Forall₂ (fun value encoding => encoding ∈ spelling value) values encodings) :
    encodings.flatten ∈ (values.map spelling).prod := by
  induction each with
  | nil => exact Language.nil_mem_one
  | cons first _ ih => exact mem_prod_cons first ih

/-- A list behind its length. -/
def listed (spelling : α → Language UInt8) (values : List α) : Language UInt8 :=
  exactly (leBytes 4 values.length) * (values.map spelling).prod

/-! Where a language ends in given bytes. -/

/-- At the start of a text of at most `bound` bytes, what the language spells ends where the
bytes end, and then the fact holds. -/
def Delimits (bound : Nat) (bytes : List UInt8) (language : Language UInt8) (fact : Prop) : Prop :=
  ∀ rest other tail, (bytes ++ rest).length ≤ bound → other ∈ language →
    bytes ++ rest = other ++ tail → fact ∧ rest = tail

section
variable {bound : Nat} {bytes head tail : List UInt8} {language : Language UInt8}
  {rest : List (Language UInt8)} {fact other : Prop}

theorem Delimits.imp (delimits : Delimits bound bytes language fact) (weaken : fact → other) :
    Delimits bound bytes language other := by
  intro rest text tail fits member same
  obtain ⟨holds, level⟩ := delimits rest text tail fits member same
  exact ⟨weaken holds, level⟩

/-- A language whose words have one length delimits words of that length. -/
theorem delimits_sized (sized : ∀ text ∈ language, text.length = bytes.length) :
    Delimits bound bytes language (bytes ∈ language) := by
  intro rest text tail _ member same
  obtain ⟨rfl, level⟩ := List.append_inj same (sized text member).symm
  exact ⟨member, level⟩

theorem delimits_exactly {expected : List UInt8} (sized : expected.length = bytes.length) :
    Delimits bound bytes (exactly expected) (bytes = expected) :=
  delimits_sized fun text member => by rw [mem_exactly.mp member, sized]

/-- The parts of a product end one after the other. -/
theorem Delimits.mul {second : Language UInt8} (first : Delimits bound head language fact)
    (last : Delimits bound tail second other) :
    Delimits bound (head ++ tail) (language * second) (fact ∧ other) := by
  intro rest text remainder fits member same
  obtain ⟨a, spelled, b, spelled', rfl⟩ := mem_mul.mp member
  rw [List.append_assoc, List.append_assoc] at same
  rw [List.append_assoc] at fits
  obtain ⟨holds, level⟩ := first (tail ++ rest) a (b ++ remainder) fits spelled same
  have shorter : (tail ++ rest).length ≤ bound := by
    rw [List.length_append] at fits
    omega
  obtain ⟨holds', level'⟩ := last rest b remainder shorter spelled' level
  exact ⟨⟨holds, holds'⟩, level'⟩

theorem Delimits.cons (first : Delimits bound head language fact)
    (others : Delimits bound tail rest.prod other) :
    Delimits bound (head ++ tail) (language :: rest).prod (fact ∧ other) := by
  rw [List.prod_cons]
  exact first.mul others

theorem Delimits.last (delimits : Delimits bound bytes language fact) :
    Delimits bound bytes [language].prod fact := by
  rwa [List.prod_singleton]

/-- Encodings that the spelling of every value delimits are delimited by as many values. -/
theorem delimits_flatten {β : Type} {spelling : α → Language UInt8} {encodes : β → List UInt8 → Prop}
    {agree : β → α → Prop} {records : List β} {encodings : List (List UInt8)} {values : List α}
    (encoded : List.Forall₂ encodes records encodings)
    (each : ∀ record encoding value, record ∈ records → value ∈ values → encodes record encoding →
      Delimits bound encoding (spelling value) (agree record value))
    (level : records.length = values.length) :
    Delimits bound encodings.flatten (values.map spelling).prod (List.Forall₂ agree records values) := by
  induction encoded generalizing values with
  | nil =>
    obtain rfl := List.length_eq_zero_iff.mp level.symm
    intro rest text tail _ member same
    obtain rfl : text = [] := Language.mem_one text |>.mp member
    exact ⟨.nil, same⟩
  | cons first _ ih =>
    cases values with
    | nil => cases level
    | cons value values =>
      have delimits := (each _ _ value (List.mem_cons_self ..) (List.mem_cons_self ..) first).cons
        (ih (fun record encoding other listed listed' => each record encoding other
          (List.mem_cons_of_mem _ listed) (List.mem_cons_of_mem _ listed')) (Nat.succ.inj level))
      exact delimits.imp fun facts => .cons facts.1 facts.2

/-- A counted list is delimited by its length, as long as the lengths fit into the count. -/
theorem delimits_listed {β : Type} {spelling : α → Language UInt8} {encodes : β → List UInt8 → Prop}
    {agree : β → α → Prop} {records : List β} {encodings : List (List UInt8)} {values : List α}
    (encoded : List.Forall₂ encodes records encodings)
    (each : ∀ record encoding value, record ∈ records → value ∈ values → encodes record encoding →
      Delimits bound encoding (spelling value) (agree record value))
    (small : records.length < 2 ^ 32) (few : values.length < 2 ^ 32) :
    Delimits bound (leBytes 4 records.length ++ encodings.flatten) (listed spelling values)
      (List.Forall₂ agree records values) := by
  intro rest text tail fits member same
  have level : records.length = values.length := by
    obtain ⟨count, counted, others, -, rfl⟩ := mem_mul.mp member
    obtain rfl := mem_exactly.mp counted
    rw [List.append_assoc, List.append_assoc] at same
    have heads := (List.append_inj same (by rw [length_leBytes, length_leBytes])).1
    have values := congrArg leValue heads
    rwa [leValue_leBytes small, leValue_leBytes few] at values
  have count : Delimits bound (leBytes 4 records.length) (exactly (leBytes 4 values.length))
      (leBytes 4 records.length = leBytes 4 values.length) :=
    delimits_exactly (by rw [length_leBytes, length_leBytes])
  obtain ⟨⟨-, agrees⟩, ends⟩ :=
    count.mul (delimits_flatten encoded each level) rest text tail fits member same
  exact ⟨agrees, ends⟩

end

namespace Reader

/-- A loop accepts the spellings of its values, one after the other. -/
theorem reads_loop_iff {step : σ → Reader ε α} {update : σ → α → σ} {spelling : α → Language UInt8}
    {good : σ → α → Prop}
    (each : ∀ state chunk value,
      (step state).Reads chunk value ↔ chunk ∈ spelling value ∧ good state value)
    {count : Nat} {state : σ} {chunk : List UInt8} {values : List α} :
    (loop step update count state).Reads chunk values ↔
      values.length = count ∧ chunk ∈ (values.map spelling).prod ∧
        LoopGood update good state values := by
  induction count generalizing state chunk values with
  | zero =>
    rw [loop, reads_pure, List.length_eq_zero_iff]
    constructor
    · intro found
      obtain ⟨rfl, rfl⟩ := found
      exact ⟨rfl, rfl, trivial⟩
    · intro found
      obtain ⟨rfl, empty, -⟩ := found
      exact ⟨empty, rfl⟩
  | succ count ih =>
    simp only [loop, reads_bind, reads_pure, each, ih]
    constructor
    · intro found
      obtain ⟨value, head, _, ⟨first, fine⟩, ⟨rest, tail, _, ⟨level, others, fines⟩, ⟨rfl, rfl⟩, rfl⟩,
        rfl⟩ := found
      rw [List.append_nil]
      exact ⟨by simp [level], Language.append_mem_mul first others, fine, fines⟩
    · intro found
      obtain ⟨level, spelled, goods⟩ := found
      cases values with
      | nil => cases level
      | cons value rest =>
        obtain ⟨head, first, tail, others, rfl⟩ := mem_mul.mp spelled
        obtain ⟨fine, fines⟩ := goods
        exact ⟨value, head, tail, ⟨first, fine⟩,
          ⟨rest, tail, [], ⟨by simpa using level, others, fines⟩, ⟨rfl, rfl⟩, by simp⟩, rfl⟩

theorem reads_counted_iff {short tooMany : ε} {limit : Nat} {step : σ → Reader ε α}
    {update : σ → α → σ} {spelling : α → Language UInt8} {good : σ → α → Prop}
    (each : ∀ state chunk value,
      (step state).Reads chunk value ↔ chunk ∈ spelling value ∧ good state value)
    (small : limit < 2 ^ 32) {start : σ} {chunk : List UInt8} {values : List α} :
    (counted short tooMany limit step update start).Reads chunk values ↔
      chunk ∈ listed spelling values ∧
        values.length ≤ limit ∧ LoopGood update good start values := by
  simp only [counted, reads_bind, reads_u32, reads_reject, reads_loop_iff each, listed, mem_mul,
    mem_exactly]
  constructor
  · intro found
    obtain ⟨count, _, _, rfl, ⟨_, _, tail, ⟨rfl, few⟩, ⟨level, spelled, goods⟩, rfl⟩, rfl⟩ := found
    rw [← level] at few ⊢
    exact ⟨⟨_, rfl, _, spelled, rfl⟩, not_lt.mp few, goods⟩
  · intro found
    obtain ⟨⟨head, leads, tail, spelled, rfl⟩, few, goods⟩ := found
    have count : (UInt32.ofNat values.length).toNat = values.length :=
      (UInt32.toNat_ofNat' ..).trans (Nat.mod_eq_of_lt (by omega))
    refine ⟨UInt32.ofNat values.length, head, tail, by rw [count, leads],
      ⟨(), [], tail, ⟨rfl, ?_⟩, ⟨count.symm, spelled, goods⟩, rfl⟩, rfl⟩
    rw [count]
    exact not_lt.mpr few

/-- A counted loop whose steps do not depend on each other. -/
theorem reads_counted_each_iff {short tooMany : ε} {limit : Nat} {reader : Reader ε α}
    {spelling : α → Language UInt8} {good : α → Prop}
    (each : ∀ chunk value, reader.Reads chunk value ↔ chunk ∈ spelling value ∧ good value)
    (small : limit < 2 ^ 32) {update : Unit → α → Unit} {chunk : List UInt8} {values : List α} :
    (counted short tooMany limit (fun _ => reader) update ()).Reads chunk values ↔
      chunk ∈ listed spelling values ∧
        values.length ≤ limit ∧ ∀ value ∈ values, good value := by
  rw [reads_counted_iff (fun _ => each) small, loopGood_forall]

/-- A counted loop over values with distinct keys. -/
theorem reads_counted_distinct_iff [DecidableEq κ] {short tooMany invalid duplicate : ε} {limit : Nat}
    {reader : Reader ε α} {spelling : α → Language UInt8} {good : α → Prop} {key : α → κ}
    {bad : α → Prop} [DecidablePred bad]
    (each : ∀ chunk value, reader.Reads chunk value ↔ chunk ∈ spelling value ∧ good value)
    (small : limit < 2 ^ 32) {chunk : List UInt8} {values : List α} :
    (counted short tooMany limit (reader.distinct key bad invalid duplicate)
        (fun seen value => seen ++ [key value]) []).Reads chunk values ↔
      chunk ∈ listed spelling values ∧
        values.length ≤ limit ∧ (∀ value ∈ values, good value ∧ ¬bad value) ∧
          (values.map key).Nodup := by
  have step : ∀ seen chunk value, (reader.distinct key bad invalid duplicate seen).Reads chunk value ↔
      chunk ∈ spelling value ∧ ((good value ∧ ¬bad value) ∧ key value ∉ seen) := by
    intro seen chunk value
    simp only [reads_distinct, each, and_assoc]
  simp only [reads_counted_iff step small, loopGood_distinct, List.not_mem_nil, not_false_iff,
    implies_true, and_true]

end Reader
end ByteStream

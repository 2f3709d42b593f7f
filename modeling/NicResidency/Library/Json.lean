import Mathlib
import NicResidency.Library.Utf8

/-!
JSON texts, as bytes. A value keeps the spelling of its numbers and of its strings, so the
escapes stay as they are. The grammar is read byte by byte, and the whole text is in UTF-8. What
a text spells is determined by the text.
-/

namespace Json

abbrev Text := List UInt8

/-- The bytes of ASCII characters. -/
def chars (s : String) : Text := s.toList.map fun c => UInt8.ofNat c.toNat

@[simp] theorem chars_append (s t : String) : chars (s ++ t) = chars s ++ chars t := by
  simp [chars]

inductive Value where
  | null
  | bool (b : Bool)
  | num (spelling : Text)
  | str (spelling : Text)
  | arr (items : List Value)
  | obj (members : List (Text × Value))

/-! Bytes. -/

def quote : UInt8 := 0x22

def backslash : UInt8 := 0x5C

def digit (b : UInt8) : Bool := 0x30 ≤ b && b ≤ 0x39

def hex (b : UInt8) : Bool := digit b || (0x41 ≤ b && b ≤ 0x46) || (0x61 ≤ b && b ≤ 0x66)

/-- The bytes that occur in a number. -/
def numeral (b : UInt8) : Bool := digit b || b == 0x2B || b == 0x2D || b == 0x2E || b == 0x45 || b == 0x65

/-- Space, tab, line feed and carriage return. -/
def blank (b : UInt8) : Bool := b == 0x20 || b == 0x09 || b == 0x0A || b == 0x0D

/-- An ASCII character that stands for itself in a string. -/
def plain (b : UInt8) : Bool := 0x20 ≤ b && b < 0x80 && b != quote && b != backslash

/-- A byte that stands for itself in a string, as a character or as a part of one. -/
def unescaped (b : UInt8) : Bool := plain b || 0x80 ≤ b

/-- The bytes behind a backslash. -/
def mark (b : UInt8) : Bool :=
  b == quote || b == backslash || b == 0x2F || b == 0x62 || b == 0x66 || b == 0x6E || b == 0x72 || b == 0x74

def Blank (gap : Text) : Prop := ∀ b ∈ gap, blank b

/-- What stands between the quotes of a string, byte by byte. -/
inductive Body : Text → Prop where
  | nil : Body []
  | plain {b : UInt8} {rest : Text} (itself : unescaped b) (more : Body rest) : Body (b :: rest)
  | escape {b : UInt8} {rest : Text} (marked : mark b) (more : Body rest) : Body (backslash :: b :: rest)
  | unicode {a b c d : UInt8} {rest : Text} (digits : hex a ∧ hex b ∧ hex c ∧ hex d)
      (more : Body rest) : Body (backslash :: 0x75 :: a :: b :: c :: d :: rest)

def Digits (ds : Text) : Prop := ds ≠ [] ∧ ∀ b ∈ ds, digit b

/-- A number without a sign, a fraction and an exponent has no leading zero. -/
def Whole (ds : Text) : Prop := Digits ds ∧ (ds.head? = some 0x30 → ds = [0x30])

def Fraction (text : Text) : Prop := text = [] ∨ ∃ ds, Digits ds ∧ text = 0x2E :: ds

def Exponent (text : Text) : Prop :=
  text = [] ∨ ∃ e sign ds, (e = 0x65 ∨ e = 0x45) ∧ (sign = [] ∨ sign = [0x2B] ∨ sign = [0x2D]) ∧
    Digits ds ∧ text = e :: (sign ++ ds)

def Number (text : Text) : Prop :=
  ∃ sign whole fraction exponent, (sign = [] ∨ sign = [0x2D]) ∧ Whole whole ∧ Fraction fraction ∧
    Exponent exponent ∧ text = sign ++ whole ++ fraction ++ exponent

/-! Texts. -/

/-- A value, or what stands behind an opening bracket. -/
inductive Phrase where
  | value (v : Value)
  | items (vs : List Value)
  | members (ms : List (Text × Value))

/-- At the start of a text stands the spelling of a phrase, and behind it the rest. -/
inductive Reads : Phrase → Text → Text → Prop where
  | null {text rest : Text} (spelled : text = chars "null" ++ rest) : Reads (.value .null) text rest
  | bool {b : Bool} {text rest : Text} (spelled : text = chars (if b then "true" else "false") ++ rest) :
      Reads (.value (.bool b)) text rest
  | num {raw text rest : Text} (number : Number raw) (ended : ∀ b ∈ rest.head?, numeral b = false)
      (spelled : text = raw ++ rest) : Reads (.value (.num raw)) text rest
  | str {body text rest : Text} (contents : Body body)
      (spelled : text = quote :: (body ++ quote :: rest)) : Reads (.value (.str body)) text rest
  | arr {vs : List Value} {text inner rest : Text} (spelled : text = 0x5B :: inner)
      (inside : Reads (.items vs) inner rest) : Reads (.value (.arr vs)) text rest
  | obj {ms : List (Text × Value)} {text inner rest : Text} (spelled : text = 0x7B :: inner)
      (inside : Reads (.members ms) inner rest) : Reads (.value (.obj ms)) text rest
  | noItems {gap text rest : Text} (blank : Blank gap) (spelled : text = gap ++ 0x5D :: rest) :
      Reads (.items []) text rest
  | lastItem {v : Value} {gap text inner after rest : Text} (before : Blank gap)
      (spelled : text = gap ++ inner) (item : Reads (.value v) inner (after ++ 0x5D :: rest))
      (behind : Blank after) : Reads (.items [v]) text rest
  | item {v : Value} {vs : List Value} {gap text inner after more rest : Text} (before : Blank gap)
      (spelled : text = gap ++ inner) (item : Reads (.value v) inner (after ++ 0x2C :: more))
      (behind : Blank after) (some : vs ≠ []) (others : Reads (.items vs) more rest) :
      Reads (.items (v :: vs)) text rest
  | noMembers {gap text rest : Text} (blank : Blank gap) (spelled : text = gap ++ 0x7D :: rest) :
      Reads (.members []) text rest
  | lastMember {key : Text} {v : Value} {gap text colon space inner after rest : Text}
      (before : Blank gap) (contents : Body key) (blanks : Blank colon ∧ Blank space)
      (spelled : text = gap ++ quote :: (key ++ quote :: (colon ++ 0x3A :: (space ++ inner))))
      (member : Reads (.value v) inner (after ++ 0x7D :: rest)) (behind : Blank after) :
      Reads (.members [(key, v)]) text rest
  | member {key : Text} {v : Value} {ms : List (Text × Value)}
      {gap text colon space inner after more rest : Text}
      (before : Blank gap) (contents : Body key) (blanks : Blank colon ∧ Blank space)
      (spelled : text = gap ++ quote :: (key ++ quote :: (colon ++ 0x3A :: (space ++ inner))))
      (member : Reads (.value v) inner (after ++ 0x2C :: more)) (behind : Blank after)
      (some : ms ≠ []) (others : Reads (.members ms) more rest) :
      Reads (.members ((key, v) :: ms)) text rest

/-- A whole text that is read as one value. The encoding of its characters is left open. -/
def Parses (v : Value) (text : Text) : Prop :=
  ∃ gap inner rest, Blank gap ∧ text = gap ++ inner ∧ Reads (.value v) inner rest ∧ Blank rest

/-- A text in UTF-8 that spells one value. -/
def Spells (v : Value) (text : Text) : Prop := Utf8.Encoded text ∧ Parses v text

/-- A JSON text. -/
def WellFormed (text : Text) : Prop := ∃ v, Spells v text

/-! Where strings, numbers and gaps end. -/

/-- Bytes of one kind end at the first byte of another one. -/
theorem span_inj {kind : UInt8 → Bool} {first second tail tail' : Text} {b b' : UInt8}
    (all : ∀ c ∈ first, kind c) (all' : ∀ c ∈ second, kind c) (ended : kind b = false)
    (ended' : kind b' = false) (same : first ++ b :: tail = second ++ b' :: tail') :
    first = second ∧ b = b' ∧ tail = tail' := by
  induction first generalizing second with
  | nil =>
    cases second with
    | nil => exact ⟨rfl, List.cons.inj same⟩
    | cons c second =>
      obtain ⟨rfl, -⟩ := List.cons.inj same
      exact absurd (all' b List.mem_cons_self) (by simp [ended])
  | cons c first ih =>
    cases second with
    | nil =>
      obtain ⟨rfl, -⟩ := List.cons.inj same
      exact absurd (all c List.mem_cons_self) (by simp [ended'])
    | cons c' second =>
      obtain ⟨rfl, tails⟩ := List.cons.inj same
      obtain ⟨rfl, rest⟩ := ih (fun b member => all b (List.mem_cons_of_mem _ member))
        (fun b member => all' b (List.mem_cons_of_mem _ member)) tails
      exact ⟨rfl, rest⟩

theorem blank_append_inj {gap gap' tail tail' : Text} {b b' : UInt8} (first : Blank gap)
    (second : Blank gap') (printed : blank b = false) (printed' : blank b' = false)
    (same : gap ++ b :: tail = gap' ++ b' :: tail') : gap = gap' ∧ b = b' ∧ tail = tail' :=
  span_inj first second printed printed' same

/-- A string ends at its quote. -/
theorem Body.append_inj {body body' rest rest' : Text} (first : Body body) (second : Body body')
    (same : body ++ quote :: rest = body' ++ quote :: rest') : body = body' ∧ rest = rest' := by
  induction first generalizing body' with
  | nil =>
    cases second with
    | nil => exact ⟨rfl, (List.cons.inj same).2⟩
    | plain itself =>
      obtain ⟨rfl, -⟩ := List.cons.inj same
      exact absurd itself (by decide)
    | escape | unicode => exact absurd (List.cons.inj same).1 (by decide)
  | plain itself more ih =>
    cases second with
    | nil =>
      obtain ⟨rfl, -⟩ := List.cons.inj same
      exact absurd itself (by decide)
    | plain itself' more' =>
      obtain ⟨rfl, tails⟩ := List.cons.inj same
      obtain ⟨rfl, rest⟩ := ih more' tails
      exact ⟨rfl, rest⟩
    | escape | unicode =>
      obtain ⟨rfl, -⟩ := List.cons.inj same
      exact absurd itself (by decide)
  | escape marked more ih =>
    cases second with
    | nil => exact absurd (List.cons.inj same).1 (by decide)
    | plain itself' more' =>
      obtain ⟨rfl, -⟩ := List.cons.inj same
      exact absurd itself' (by decide)
    | escape marked' more' =>
      obtain ⟨rfl, tails⟩ := List.cons.inj (List.cons.inj same).2
      obtain ⟨rfl, rest⟩ := ih more' tails
      exact ⟨rfl, rest⟩
    | unicode =>
      obtain ⟨rfl, -⟩ := List.cons.inj (List.cons.inj same).2
      exact absurd marked (by decide)
  | unicode digits more ih =>
    cases second with
    | nil => exact absurd (List.cons.inj same).1 (by decide)
    | plain itself' more' =>
      obtain ⟨rfl, -⟩ := List.cons.inj same
      exact absurd itself' (by decide)
    | escape marked' =>
      obtain ⟨rfl, -⟩ := List.cons.inj (List.cons.inj same).2
      exact absurd marked' (by decide)
    | unicode digits' more' =>
      simp only [List.cons_append, List.cons.injEq, true_and] at same
      obtain ⟨rfl, rfl, rfl, rfl, tails⟩ := same
      obtain ⟨rfl, rest⟩ := ih more' tails
      exact ⟨rfl, rest⟩

theorem Number.numerals {raw : Text} (number : Number raw) : ∀ b ∈ raw, numeral b := by
  have digits {ds : Text} (some : Digits ds) : ∀ b ∈ ds, numeral b := by
    intro b member
    simp [numeral, some.2 b member]
  obtain ⟨sign, whole, fraction, exponent, signed, wholes, fractions, exponents, rfl⟩ := number
  simp only [List.forall_mem_append]
  refine ⟨⟨⟨?_, digits wholes.1⟩, ?_⟩, ?_⟩
  · rcases signed with rfl | rfl <;> simp [numeral]
  · rcases fractions with rfl | ⟨ds, some, rfl⟩
    · simp
    · exact List.forall_mem_cons.mpr ⟨by decide, digits some⟩
  · rcases exponents with rfl | ⟨e, sign, ds, letter, signed, some, rfl⟩
    · simp
    · refine List.forall_mem_cons.mpr ⟨?_, List.forall_mem_append.mpr ⟨?_, digits some⟩⟩
      · rcases letter with rfl | rfl <;> decide
      · rcases signed with rfl | rfl | rfl <;> simp [numeral]

/-- A number starts with a sign or a digit. -/
theorem Number.lead {raw : Text} (number : Number raw) :
    ∃ b tail, raw = b :: tail ∧ (b == 0x2D || digit b) := by
  obtain ⟨sign, whole, fraction, exponent, signed, wholes, -, -, rfl⟩ := number
  rcases signed with rfl | rfl
  · cases whole with
    | nil => exact absurd rfl wholes.1.1
    | cons b ds => exact ⟨b, _, rfl, by simp [wholes.1.2 b List.mem_cons_self]⟩
  · exact ⟨0x2D, _, rfl, by decide⟩

/-- A number ends where no byte of a number follows. -/
theorem numerals_append_inj {raw raw' rest rest' : Text} (first : ∀ b ∈ raw, numeral b)
    (second : ∀ b ∈ raw', numeral b) (ended : ∀ b ∈ rest.head?, numeral b = false)
    (ended' : ∀ b ∈ rest'.head?, numeral b = false) (same : raw ++ rest = raw' ++ rest') :
    raw = raw' ∧ rest = rest' := by
  induction raw generalizing raw' with
  | nil =>
    cases raw' with
    | nil => exact ⟨rfl, same⟩
    | cons c raw' =>
      obtain rfl : rest = c :: raw' ++ rest' := same
      exact absurd (ended c rfl) (by simp [second c List.mem_cons_self])
  | cons c raw ih =>
    cases raw' with
    | nil =>
      obtain rfl : c :: raw ++ rest = rest' := same
      exact absurd (ended' c rfl) (by simp [first c List.mem_cons_self])
    | cons c' raw' =>
      obtain ⟨rfl, tails⟩ := List.cons.inj same
      obtain ⟨rfl, rest⟩ := ih (fun b member => first b (List.mem_cons_of_mem _ member))
        (fun b member => second b (List.mem_cons_of_mem _ member)) tails
      exact ⟨rfl, rest⟩

/-! The first byte tells the kind of a value. -/

def Value.leads : Value → UInt8 → Bool
  | .null, b => b == 0x6E
  | .bool truth, b => b == if truth then 0x74 else 0x66
  | .num _, b => b == 0x2D || digit b
  | .str _, b => b == quote
  | .arr _, b => b == 0x5B
  | .obj _, b => b == 0x7B

def Value.kind : Value → Nat
  | .null => 0
  | .bool _ => 1
  | .num _ => 2
  | .str _ => 3
  | .arr _ => 4
  | .obj _ => 5

/-- The kind of the values that start with a byte. -/
def kindOf (b : UInt8) : Nat :=
  if b == 0x6E then 0 else if b == 0x74 || b == 0x66 then 1 else if b == quote then 3
  else if b == 0x5B then 4 else if b == 0x7B then 5 else 2

theorem kind_of_leads {v : Value} {b : UInt8} (leads : v.leads b) : v.kind = kindOf b := by
  cases v with
  | null | str | arr | obj => rw [beq_iff_eq.mp leads]; rfl
  | bool truth => cases truth <;> (rw [beq_iff_eq.mp leads]; rfl)
  | num raw =>
    have other (c : UInt8) (outside : (c == 0x2D || digit c) = false) : (b == c) = false := by
      rw [beq_eq_false_iff_ne]
      rintro rfl
      exact absurd leads (by simp [Value.leads, outside])
    simp [kindOf, other 0x6E rfl, other 0x74 rfl, other 0x66 rfl, other quote rfl, other 0x5B rfl,
      other 0x7B rfl, Value.kind]

/-- No value starts with a blank or a closing bracket. -/
theorem closed_of_leads {v : Value} {b : UInt8} (leads : v.leads b) :
    blank b = false ∧ b ≠ 0x5D ∧ b ≠ 0x7D := by
  have other (c : UInt8) (outside : v.leads c = false) : b ≠ c := by
    rintro rfl
    exact absurd leads (by simp [outside])
  have silent : v.leads 0x20 = false ∧ v.leads 0x09 = false ∧ v.leads 0x0A = false ∧
      v.leads 0x0D = false ∧ v.leads 0x5D = false ∧ v.leads 0x7D = false := by
    cases v with
    | bool truth => cases truth <;> decide
    | _ => exact ⟨rfl, rfl, rfl, rfl, rfl, rfl⟩
  obtain ⟨space, tab, feed, carriage, bracket, brace⟩ := silent
  refine ⟨?_, other _ bracket, other _ brace⟩
  simp [blank, other _ space, other _ tab, other _ feed, other _ carriage]

theorem Reads.lead {v : Value} {text rest : Text} (reads : Reads (.value v) text rest) :
    ∃ b tail, text = b :: tail ∧ v.leads b := by
  cases reads with
  | null spelled => exact ⟨_, _, spelled, rfl⟩
  | @bool b _ _ spelled =>
    cases b with
    | false => exact ⟨_, _, spelled, rfl⟩
    | true => exact ⟨_, _, spelled, rfl⟩
  | num number ended spelled =>
    obtain ⟨b, tail, rfl, leads⟩ := number.lead
    exact ⟨b, tail ++ rest, spelled, leads⟩
  | str contents spelled => exact ⟨_, _, spelled, rfl⟩
  | arr spelled => exact ⟨_, _, spelled, rfl⟩
  | obj spelled => exact ⟨_, _, spelled, rfl⟩

/-! A text spells at most one value. -/

inductive Phrase.Alike : Phrase → Phrase → Prop where
  | value {v w : Value} : Alike (.value v) (.value w)
  | items {vs ws : List Value} : Alike (.items vs) (.items ws)
  | members {ms ns : List (Text × Value)} : Alike (.members ms) (.members ns)

/-- Behind a gap a value does not start where a closing bracket stands. -/
theorem Reads.not_closed {v : Value} {inner rest : Text} (reads : Reads (.value v) inner rest)
    {gap gap' tail : Text} {b : UInt8} (before : Blank gap) (before' : Blank gap')
    (bracket : b = 0x5D ∨ b = 0x7D) : gap ++ inner ≠ gap' ++ b :: tail := by
  obtain ⟨c, tail', rfl, leads⟩ := reads.lead
  obtain ⟨printed, notBracket, notBrace⟩ := closed_of_leads leads
  intro same
  have printed' : blank b = false := by rcases bracket with rfl | rfl <;> rfl
  obtain ⟨-, rfl, -⟩ := blank_append_inj before before' printed printed' same
  exact bracket.elim notBracket notBrace

/-- Behind a gap a value starts where it is read. -/
theorem Reads.gap_inj {v w : Value} {inner inner' rest rest' : Text}
    (reads : Reads (.value v) inner rest) (reads' : Reads (.value w) inner' rest') {gap gap' : Text}
    (before : Blank gap) (before' : Blank gap') (same : gap ++ inner = gap' ++ inner') :
    inner = inner' := by
  obtain ⟨c, tail, rfl, leads⟩ := reads.lead
  obtain ⟨c', tail', rfl, leads'⟩ := reads'.lead
  obtain ⟨-, rfl, rfl⟩ := blank_append_inj before before' (closed_of_leads leads).1
    (closed_of_leads leads').1 same
  rfl

/-- A member starts with its key. -/
theorem member_inj {v w : Value} {gap gap' key key' colon colon' space space' inner inner' rest rest' : Text}
    (before : Blank gap) (before' : Blank gap') (contents : Body key) (contents' : Body key')
    (blanks : Blank colon ∧ Blank space) (blanks' : Blank colon' ∧ Blank space')
    (reads : Reads (.value v) inner rest) (reads' : Reads (.value w) inner' rest')
    (same : gap ++ quote :: (key ++ quote :: (colon ++ 0x3A :: (space ++ inner))) =
      gap' ++ quote :: (key' ++ quote :: (colon' ++ 0x3A :: (space' ++ inner')))) :
    key = key' ∧ inner = inner' := by
  obtain ⟨-, -, inside⟩ := blank_append_inj before before' rfl rfl same
  obtain ⟨rfl, behind⟩ := contents.append_inj contents' inside
  obtain ⟨-, -, spaced⟩ := blank_append_inj blanks.1 blanks'.1 rfl rfl behind
  exact ⟨rfl, reads.gap_inj reads' blanks.2 blanks'.2 spaced⟩

theorem Reads.kind_eq {v w : Value} {text rest rest' : Text} (first : Reads (.value v) text rest)
    (second : Reads (.value w) text rest') : v.kind = w.kind := by
  obtain ⟨b, tail, rfl, leads⟩ := first.lead
  obtain ⟨b', tail', same, leads'⟩ := second.lead
  obtain ⟨rfl, -⟩ := List.cons.inj same
  rw [kind_of_leads leads, kind_of_leads leads']

theorem Reads.unique {p q : Phrase} {text rest rest' : Text} (first : Reads p text rest)
    (alike : p.Alike q) (second : Reads q text rest') : p = q ∧ rest = rest' := by
  induction first generalizing q rest' with
  | null spelled =>
    cases alike
    have level := (Reads.null spelled).kind_eq second
    cases second with
    | null spelled' => exact ⟨rfl, List.append_cancel_left (spelled.symm.trans spelled')⟩
    | _ => cases level
  | @bool b _ _ spelled =>
    cases alike
    have level := (Reads.bool spelled).kind_eq second
    cases second with
    | @bool c _ _ spelled' =>
      have same := spelled.symm.trans spelled'
      rcases b with _ | _ <;> rcases c with _ | _
      · exact ⟨rfl, List.append_cancel_left same⟩
      · exact absurd (List.cons.inj same).1 (by decide)
      · exact absurd (List.cons.inj same).1 (by decide)
      · exact ⟨rfl, List.append_cancel_left same⟩
    | _ => cases level
  | num number ended spelled =>
    cases alike
    have level := (Reads.num number ended spelled).kind_eq second
    cases second with
    | num number' ended' spelled' =>
      obtain ⟨rfl, rfl⟩ := numerals_append_inj number.numerals number'.numerals ended ended'
        (spelled.symm.trans spelled')
      exact ⟨rfl, rfl⟩
    | _ => cases level
  | str contents spelled =>
    cases alike
    have level := (Reads.str contents spelled).kind_eq second
    cases second with
    | str contents' spelled' =>
      obtain ⟨rfl, rfl⟩ := contents.append_inj contents' (List.cons.inj (spelled.symm.trans spelled')).2
      exact ⟨rfl, rfl⟩
    | _ => cases level
  | arr spelled inside ih =>
    cases alike
    have level := (Reads.arr spelled inside).kind_eq second
    cases second with
    | arr spelled' inside' =>
      obtain ⟨-, rfl⟩ := List.cons.inj (spelled.symm.trans spelled')
      obtain ⟨same, rfl⟩ := ih .items inside'
      cases same
      exact ⟨rfl, rfl⟩
    | _ => cases level
  | obj spelled inside ih =>
    cases alike
    have level := (Reads.obj spelled inside).kind_eq second
    cases second with
    | obj spelled' inside' =>
      obtain ⟨-, rfl⟩ := List.cons.inj (spelled.symm.trans spelled')
      obtain ⟨same, rfl⟩ := ih .members inside'
      cases same
      exact ⟨rfl, rfl⟩
    | _ => cases level
  | noItems empty spelled =>
    cases alike
    cases second with
    | noItems empty' spelled' =>
      obtain ⟨-, -, rfl⟩ := blank_append_inj empty empty' rfl rfl (spelled.symm.trans spelled')
      exact ⟨rfl, rfl⟩
    | lastItem before spelled' item _ | item before spelled' item =>
      exact absurd (spelled'.symm.trans spelled) (item.not_closed before empty (.inl rfl))
  | lastItem before spelled item behind ih =>
    cases alike
    cases second with
    | noItems empty spelled' =>
      exact absurd (spelled.symm.trans spelled') (item.not_closed before empty (.inl rfl))
    | lastItem before' spelled' item' behind' =>
      obtain rfl := item.gap_inj item' before before' (spelled.symm.trans spelled')
      obtain ⟨same, after⟩ := ih .value item'
      obtain ⟨-, -, rfl⟩ := blank_append_inj behind behind' rfl rfl after
      cases same
      exact ⟨rfl, rfl⟩
    | item before' spelled' item' behind' =>
      obtain rfl := item.gap_inj item' before before' (spelled.symm.trans spelled')
      obtain ⟨-, after⟩ := ih .value item'
      obtain ⟨-, differ, -⟩ := blank_append_inj behind behind' rfl rfl after
      exact absurd differ (by decide)
  | item before spelled item behind some others ih ihOthers =>
    cases alike
    cases second with
    | noItems empty spelled' =>
      exact absurd (spelled.symm.trans spelled') (item.not_closed before empty (.inl rfl))
    | lastItem before' spelled' item' behind' =>
      obtain rfl := item.gap_inj item' before before' (spelled.symm.trans spelled')
      obtain ⟨-, after⟩ := ih .value item'
      obtain ⟨-, differ, -⟩ := blank_append_inj behind behind' rfl rfl after
      exact absurd differ (by decide)
    | item before' spelled' item' behind' _ others' =>
      obtain rfl := item.gap_inj item' before before' (spelled.symm.trans spelled')
      obtain ⟨same, after⟩ := ih .value item'
      obtain ⟨-, -, rfl⟩ := blank_append_inj behind behind' rfl rfl after
      cases same
      obtain ⟨same, rfl⟩ := ihOthers .items others'
      cases same
      exact ⟨rfl, rfl⟩
  | noMembers empty spelled =>
    cases alike
    cases second with
    | noMembers empty' spelled' =>
      obtain ⟨-, -, rfl⟩ := blank_append_inj empty empty' rfl rfl (spelled.symm.trans spelled')
      exact ⟨rfl, rfl⟩
    | lastMember before _ _ spelled' | member before _ _ spelled' =>
      obtain ⟨-, differ, -⟩ := blank_append_inj empty before rfl rfl (spelled.symm.trans spelled')
      exact absurd differ (by decide)
  | lastMember before contents blanks spelled member behind ih =>
    cases alike
    cases second with
    | noMembers empty spelled' =>
      obtain ⟨-, differ, -⟩ := blank_append_inj before empty rfl rfl (spelled.symm.trans spelled')
      exact absurd differ (by decide)
    | lastMember before' contents' blanks' spelled' member' behind' =>
      obtain ⟨rfl, rfl⟩ := member_inj before before' contents contents' blanks blanks' member member'
        (spelled.symm.trans spelled')
      obtain ⟨same, after⟩ := ih .value member'
      obtain ⟨-, -, rfl⟩ := blank_append_inj behind behind' rfl rfl after
      cases same
      exact ⟨rfl, rfl⟩
    | member before' contents' blanks' spelled' member' behind' =>
      obtain ⟨rfl, rfl⟩ := member_inj before before' contents contents' blanks blanks' member member'
        (spelled.symm.trans spelled')
      obtain ⟨-, after⟩ := ih .value member'
      obtain ⟨-, differ, -⟩ := blank_append_inj behind behind' rfl rfl after
      exact absurd differ (by decide)
  | member before contents blanks spelled member behind some others ih ihOthers =>
    cases alike
    cases second with
    | noMembers empty spelled' =>
      obtain ⟨-, differ, -⟩ := blank_append_inj before empty rfl rfl (spelled.symm.trans spelled')
      exact absurd differ (by decide)
    | lastMember before' contents' blanks' spelled' member' behind' =>
      obtain ⟨rfl, rfl⟩ := member_inj before before' contents contents' blanks blanks' member member'
        (spelled.symm.trans spelled')
      obtain ⟨-, after⟩ := ih .value member'
      obtain ⟨-, differ, -⟩ := blank_append_inj behind behind' rfl rfl after
      exact absurd differ (by decide)
    | member before' contents' blanks' spelled' member' behind' _ others' =>
      obtain ⟨rfl, rfl⟩ := member_inj before before' contents contents' blanks blanks' member member'
        (spelled.symm.trans spelled')
      obtain ⟨same, after⟩ := ih .value member'
      obtain ⟨-, -, rfl⟩ := blank_append_inj behind behind' rfl rfl after
      cases same
      obtain ⟨same, rfl⟩ := ihOthers .members others'
      cases same
      exact ⟨rfl, rfl⟩

/-- A text is read as one value only. -/
theorem Parses.unique {v w : Value} {text : Text} (first : Parses v text) (second : Parses w text) :
    v = w := by
  obtain ⟨gap, inner, rest, before, spelled, reads, -⟩ := first
  obtain ⟨gap', inner', rest', before', spelled', reads', -⟩ := second
  obtain rfl := reads.gap_inj reads' before before' (spelled.symm.trans spelled')
  cases (reads.unique .value reads').1
  rfl

/-! A text is in UTF-8 if its strings are: the rest of it is ASCII. -/

/-- All strings of the phrase are in UTF-8, the keys included. -/
inductive Phrase.Encoded : Phrase → Prop where
  | null : Encoded (.value .null)
  | bool (b : Bool) : Encoded (.value (.bool b))
  | num (raw : Text) : Encoded (.value (.num raw))
  | str {body : Text} (contents : Utf8.Encoded body) : Encoded (.value (.str body))
  | arr {vs : List Value} (inside : Encoded (.items vs)) : Encoded (.value (.arr vs))
  | obj {ms : List (Text × Value)} (inside : Encoded (.members ms)) : Encoded (.value (.obj ms))
  | noItems : Encoded (.items [])
  | item {v : Value} {vs : List Value} (item : Encoded (.value v)) (others : Encoded (.items vs)) :
      Encoded (.items (v :: vs))
  | noMembers : Encoded (.members [])
  | member {key : Text} {v : Value} {ms : List (Text × Value)} (contents : Utf8.Encoded key)
      (member : Encoded (.value v)) (others : Encoded (.members ms)) : Encoded (.members ((key, v) :: ms))

def Value.Encoded (v : Value) : Prop := (Phrase.value v).Encoded

@[simp] theorem encoded_num {raw : Text} : (Value.num raw).Encoded := .num raw

@[simp] theorem encoded_str {body : Text} : (Value.str body).Encoded ↔ Utf8.Encoded body :=
  ⟨fun | .str contents => contents, .str⟩

theorem encoded_item {v : Value} {vs : List Value} :
    (Phrase.items (v :: vs)).Encoded ↔ v.Encoded ∧ (Phrase.items vs).Encoded :=
  ⟨fun | .item item others => ⟨item, others⟩, fun both => .item both.1 both.2⟩

theorem encoded_member {key : Text} {v : Value} {ms : List (Text × Value)} :
    (Phrase.members ((key, v) :: ms)).Encoded ↔
      (Utf8.Encoded key ∧ v.Encoded) ∧ (Phrase.members ms).Encoded :=
  ⟨fun | .member contents member others => ⟨⟨contents, member⟩, others⟩,
    fun both => .member both.1.1 both.1.2 both.2⟩

@[simp] theorem encoded_arr {vs : List Value} : (Value.arr vs).Encoded ↔ ∀ v ∈ vs, v.Encoded := by
  trans (Phrase.items vs).Encoded
  · exact ⟨fun | .arr inside => inside, .arr⟩
  · induction vs with
    | nil => exact iff_of_true .noItems (List.forall_mem_nil _)
    | cons v vs ih => rw [encoded_item, ih, List.forall_mem_cons]

@[simp] theorem encoded_obj {ms : List (Text × Value)} :
    (Value.obj ms).Encoded ↔ ∀ m ∈ ms, Utf8.Encoded m.1 ∧ m.2.Encoded := by
  trans (Phrase.members ms).Encoded
  · exact ⟨fun | .obj inside => inside, .obj⟩
  · induction ms with
    | nil => exact iff_of_true .noMembers (List.forall_mem_nil _)
    | cons m ms ih => rw [encoded_member, ih, List.forall_mem_cons]

theorem Blank.ascii {gap : Text} (blank : Blank gap) : Utf8.Ascii gap := by
  intro b member
  have is := blank b member
  simp only [Json.blank, Bool.or_eq_true, beq_iff_eq] at is
  rcases is with ((rfl | rfl) | rfl) | rfl <;> rfl

theorem Number.ascii {raw : Text} (number : Number raw) : Utf8.Ascii raw := by
  intro b member
  have is := number.numerals b member
  simp only [numeral, digit, Bool.or_eq_true, Bool.and_eq_true, decide_eq_true_eq, beq_iff_eq] at is
  rcases is with ((((⟨-, high⟩ | rfl) | rfl) | rfl) | rfl) | rfl
  · exact decide_eq_true (UInt8.lt_of_le_of_lt high (by decide))
  all_goals rfl

theorem Blank.encoded_cons_iff {gap rest : Text} {b : UInt8} (blank : Blank gap) (is : Utf8.ascii b) :
    Utf8.Encoded (gap ++ b :: rest) ↔ Utf8.Encoded rest := by
  rw [Utf8.encoded_ascii_append_iff blank.ascii, Utf8.encoded_cons_iff is]

/-- A key and what stands around it. -/
theorem encoded_key_iff {gap key colon space inner : Text} (before : Blank gap)
    (blanks : Blank colon ∧ Blank space) :
    Utf8.Encoded (gap ++ quote :: (key ++ quote :: (colon ++ 0x3A :: (space ++ inner)))) ↔
      Utf8.Encoded key ∧ Utf8.Encoded inner := by
  rw [before.encoded_cons_iff rfl, Utf8.encoded_append_cons_iff rfl, blanks.1.encoded_cons_iff rfl,
    Utf8.encoded_ascii_append_iff blanks.2.ascii]

theorem Reads.encoded_iff {p : Phrase} {text rest : Text} (reads : Reads p text rest) :
    Utf8.Encoded text ↔ p.Encoded ∧ Utf8.Encoded rest := by
  induction reads with
  | null spelled =>
    rw [spelled, Utf8.encoded_ascii_append_iff (List.all_eq_true.mp rfl), and_iff_right .null]
  | @bool b _ _ spelled =>
    have word : Utf8.Ascii (chars (if b then "true" else "false")) := by
      cases b <;> exact List.all_eq_true.mp rfl
    rw [spelled, Utf8.encoded_ascii_append_iff word, and_iff_right (.bool b)]
  | num number ended spelled =>
    rw [spelled, Utf8.encoded_ascii_append_iff number.ascii, and_iff_right (.num _)]
  | str contents spelled =>
    rw [spelled, Utf8.encoded_cons_iff rfl, Utf8.encoded_append_cons_iff rfl]
    exact and_congr_left' encoded_str.symm
  | arr spelled inside ih =>
    rw [spelled, Utf8.encoded_cons_iff rfl, ih]
    exact and_congr_left' ⟨.arr, fun | .arr inside => inside⟩
  | obj spelled inside ih =>
    rw [spelled, Utf8.encoded_cons_iff rfl, ih]
    exact and_congr_left' ⟨.obj, fun | .obj inside => inside⟩
  | noItems empty spelled =>
    rw [spelled, empty.encoded_cons_iff rfl, and_iff_right .noItems]
  | lastItem before spelled item behind ih =>
    rw [spelled, Utf8.encoded_ascii_append_iff before.ascii, ih, encoded_item, behind.encoded_cons_iff rfl]
    exact and_congr_left' (and_iff_left .noItems).symm
  | item before spelled item behind some others ih ihOthers =>
    rw [spelled, Utf8.encoded_ascii_append_iff before.ascii, ih, encoded_item,
      behind.encoded_cons_iff rfl, ihOthers, and_assoc]
    rfl
  | noMembers empty spelled =>
    rw [spelled, empty.encoded_cons_iff rfl, and_iff_right .noMembers]
  | lastMember before contents blanks spelled member behind ih =>
    rw [spelled, encoded_key_iff before blanks, ih, encoded_member, behind.encoded_cons_iff rfl,
      ← and_assoc]
    exact and_congr_left' (and_iff_left .noMembers).symm
  | member before contents blanks spelled member behind some others ih ihOthers =>
    rw [spelled, encoded_key_iff before blanks, ih, encoded_member, behind.encoded_cons_iff rfl,
      ihOthers, and_assoc, and_assoc]
    rfl

/-- The texts of a value are the ones that are read as it, if its strings are in UTF-8. -/
theorem spells_iff {v : Value} {text : Text} : Spells v text ↔ Parses v text ∧ v.Encoded := by
  rw [Spells, and_comm, and_congr_right_iff]
  rintro ⟨gap, inner, rest, before, rfl, reads, behind⟩
  rw [Utf8.encoded_ascii_append_iff before.ascii, reads.encoded_iff,
    and_iff_left (Utf8.encoded_of_ascii behind.ascii), Value.Encoded]

/-! Writing texts part by part. -/

/-- No number goes on in this text. -/
def Follows (rest : Text) : Prop := ∀ b ∈ rest.head?, numeral b = false

/-- The text spells the value wherever it stands, with blanks around it. -/
def Written (v : Value) (text : Text) : Prop :=
  ∀ rest, Follows rest → ∃ before inner after, Blank before ∧ text ++ rest = before ++ inner ∧
    Reads (.value v) inner (after ++ rest) ∧ Blank after

/-- The text spells the members up to the closing brace. -/
def Members (ms : List (Text × Value)) (text : Text) : Prop :=
  ms ≠ [] ∧ ∀ rest, Reads (.members ms) (text ++ 0x7D :: rest) rest

section
variable {v : Value} {text gap key : Text}

theorem blank_nil : Blank [] := nofun

theorem Written.parses (written : Written v text) : Parses v text := by
  obtain ⟨before, inner, after, gap, spelled, reads, behind⟩ := written [] nofun
  rw [List.append_nil] at spelled reads
  exact ⟨before, inner, after, gap, spelled, reads, behind⟩

theorem Written.spells_iff (written : Written v text) : Spells v text ↔ v.Encoded := by
  rw [Json.spells_iff, and_iff_right written.parses]

theorem Written.wellFormed_iff (written : Written v text) : WellFormed text ↔ v.Encoded := by
  refine ⟨fun ⟨w, spells⟩ => ?_, fun encoded => ⟨v, written.spells_iff.mpr encoded⟩⟩
  obtain rfl := spells.2.unique written.parses
  exact written.spells_iff.mp spells

theorem written_str {body : Text} (contents : Body body) :
    Written (.str body) (quote :: (body ++ [quote])) := by
  intro rest _
  refine ⟨[], _, [], blank_nil, rfl, .str contents ?_, blank_nil⟩
  simp

theorem written_num {raw : Text} (number : Number raw) : Written (.num raw) raw :=
  fun rest ended => ⟨[], raw ++ rest, [], blank_nil, rfl, .num number ended rfl, blank_nil⟩

theorem numeral_of_blank {b : UInt8} (is : blank b) : numeral b = false := by
  simp only [blank, Bool.or_eq_true, beq_iff_eq] at is
  rcases is with ((rfl | rfl) | rfl) | rfl <;> rfl

theorem Written.before (written : Written v text) (blank : Blank gap) : Written v (text ++ gap) := by
  intro rest follows
  have follows' : Follows (gap ++ rest) := by
    cases gap with
    | nil => exact follows
    | cons b gap =>
      intro c first
      obtain rfl : b = c := Option.some.inj first
      exact numeral_of_blank (blank b List.mem_cons_self)
  obtain ⟨before, inner, after, gap', spelled, reads, behind⟩ := written (gap ++ rest) follows'
  refine ⟨before, inner, after ++ gap, gap', ?_, ?_, ?_⟩
  · rw [List.append_assoc, spelled]
  · rwa [List.append_assoc]
  · exact List.forall_mem_append.mpr ⟨behind, blank⟩

theorem follows_comma (rest : Text) : Follows (0x2C :: rest) := by
  intro b first
  obtain rfl : 0x2C = b := Option.some.inj first
  rfl

theorem follows_bracket (rest : Text) : Follows (0x5D :: rest) := by
  intro b first
  obtain rfl : 0x5D = b := Option.some.inj first
  rfl

theorem follows_brace (rest : Text) : Follows (0x7D :: rest) := by
  intro b first
  obtain rfl : 0x7D = b := Option.some.inj first
  rfl

theorem Reads.items_behind {vs : List Value} {rest : Text} (reads : Reads (.items vs) text rest)
    (blank : Blank gap) : Reads (.items vs) (gap ++ text) rest := by
  cases reads with
  | noItems empty spelled =>
    exact .noItems (List.forall_mem_append.mpr ⟨blank, empty⟩) (by rw [spelled, List.append_assoc])
  | lastItem before spelled item behind =>
    exact .lastItem (List.forall_mem_append.mpr ⟨blank, before⟩)
      (by rw [spelled, List.append_assoc]) item behind
  | item before spelled item behind some others =>
    exact .item (List.forall_mem_append.mpr ⟨blank, before⟩)
      (by rw [spelled, List.append_assoc]) item behind some others

/-- Values with a comma and a gap between each two. -/
theorem reads_items {sep closed : Text} (blank : Blank sep) (last : Blank closed)
    {items : List (Value × Text)} (some : items ≠ [])
    (each : ∀ item ∈ items, Written item.1 item.2) (rest : Text) :
    Reads (.items (items.map Prod.fst))
      ((0x2C :: sep).intercalate (items.map Prod.snd) ++ (closed ++ 0x5D :: rest)) rest := by
  induction items with
  | nil => exact absurd rfl some
  | cons item others ih =>
    obtain ⟨first, later⟩ := List.forall_mem_cons.mp each
    cases others with
    | nil =>
      obtain ⟨before, inner, after, gap, spelled, reads, behind⟩ :=
        first.before last _ (follows_bracket rest)
      refine .lastItem gap ?_ reads behind
      simpa using spelled
    | cons next others =>
      have more := (ih (List.cons_ne_nil _ _) later).items_behind blank
      obtain ⟨before, inner, after, gap, spelled, reads, behind⟩ := first _ (follows_comma _)
      refine .item gap ?_ reads behind (by simp) more
      rw [← spelled]
      simp [List.intercalate]

/-- An array, also an empty one. -/
theorem written_arr {sep opened closed : Text} (blank : Blank sep) (first : Blank opened)
    (last : Blank closed) (items : List (Value × Text))
    (each : ∀ item ∈ items, Written item.1 item.2) :
    Written (.arr (items.map Prod.fst))
      (0x5B :: (opened ++ ((0x2C :: sep).intercalate (items.map Prod.snd) ++ (closed ++ [0x5D])))) := by
  intro rest _
  refine ⟨[], _, [], blank_nil, rfl, .arr rfl ?_, blank_nil⟩
  cases items with
  | nil =>
    refine .noItems (List.forall_mem_append.mpr ⟨first, last⟩) ?_
    simp [List.intercalate]
  | cons item others =>
    have reads := (reads_items blank last (List.cons_ne_nil item others) each rest).items_behind first
    simpa using reads

/-- One member. -/
theorem members_last (before : Blank gap) (contents : Body key) (written : Written v text) :
    Members [(key, v)] (gap ++ quote :: (key ++ quote :: 0x3A :: text)) := by
  refine ⟨List.cons_ne_nil _ _, fun rest => ?_⟩
  obtain ⟨space, inner, after, blank, spelled, reads, behind⟩ := written _ (follows_brace rest)
  refine .lastMember before contents ⟨blank_nil, blank⟩ ?_ reads behind
  simp [← spelled]

/-- A member and the ones behind it. -/
theorem Members.cons {ms : List (Text × Value)} {more : Text} (members : Members ms more)
    (before : Blank gap) (contents : Body key) (written : Written v text) :
    Members ((key, v) :: ms) (gap ++ quote :: (key ++ quote :: 0x3A :: (text ++ 0x2C :: more))) := by
  refine ⟨List.cons_ne_nil _ _, fun rest => ?_⟩
  obtain ⟨space, inner, after, blank, spelled, reads, behind⟩ := written _ (follows_comma _)
  refine .member before contents ⟨blank_nil, blank⟩ ?_ reads behind members.1 (members.2 rest)
  simp [← spelled]

theorem Members.written {ms : List (Text × Value)} (members : Members ms text) :
    Written (.obj ms) (0x7B :: (text ++ [0x7D])) := by
  intro rest _
  refine ⟨[], _, [], blank_nil, rfl, .obj rfl ?_, blank_nil⟩
  simpa using members.2 rest

end

/-! Strings without escapes, and numbers in decimal. -/

theorem body_of_unescaped {text : Text} (all : ∀ b ∈ text, unescaped b) : Body text := by
  induction text with
  | nil => exact .nil
  | cons b text ih =>
    obtain ⟨itself, more⟩ := List.forall_mem_cons.mp all
    exact .plain itself (ih more)

theorem isDigit_bounds {c : Char} (isDigit : c.isDigit) :
    48 ≤ c.toNat ∧ c.toNat ≤ 57 ∧ (UInt8.ofNat c.toNat).toNat = c.toNat := by
  have bounds : 48 ≤ c.toNat ∧ c.toNat ≤ 57 := by
    simp only [Char.isDigit, Bool.and_eq_true, decide_eq_true_eq] at isDigit
    exact isDigit
  exact ⟨bounds.1, bounds.2, (UInt8.toNat_ofNat' ..).trans (Nat.mod_eq_of_lt (by omega))⟩

theorem digit_of_isDigit {c : Char} (isDigit : c.isDigit) : digit (UInt8.ofNat c.toNat) := by
  obtain ⟨low, high, small⟩ := isDigit_bounds isDigit
  simp only [digit, Bool.and_eq_true, decide_eq_true_eq, UInt8.le_iff_toNat_le, small]
  exact ⟨low, high⟩

/-- Only the number zero starts with a zero. -/
theorem zero_of_lead {n : Nat} (lead : (Nat.toDigits 10 n).head? = some '0') : n = 0 := by
  induction n using Nat.strong_induction_on with
  | _ n ih =>
    by_cases small : n < 10
    · rw [Nat.toDigits_of_lt_base small] at lead
      interval_cases n <;> first | rfl | exact absurd lead (by decide)
    · rw [Nat.toDigits_of_base_le (by omega) (by omega),
        List.head?_append_of_ne_nil _ Nat.toDigits_ne_nil] at lead
      have smaller := ih (n / 10) (by omega) lead
      omega

theorem number_decimal (n : Nat) : Number (chars (toString n)) := by
  have spelled : chars (toString n) = (Nat.toDigits 10 n).map fun c => UInt8.ofNat c.toNat := by
    rw [chars, Nat.toString_eq_ofList_toDigits, String.toList_ofList]
  have digits : ∀ c ∈ Nat.toDigits 10 n, c.isDigit := fun c member =>
    Nat.isDigit_of_mem_toDigits (by omega) (by omega) member
  refine ⟨[], chars (toString n), [], [], .inl rfl, ⟨⟨?_, ?_⟩, ?_⟩, .inl rfl, .inl rfl, by simp⟩
  · rw [spelled]
    simp
  · rw [spelled, List.forall_mem_map]
    exact fun c member => digit_of_isDigit (digits c member)
  · intro lead
    rw [spelled, List.head?_map, Option.map_eq_some_iff] at lead
    obtain ⟨c, first, zero⟩ := lead
    obtain ⟨-, -, small⟩ := isDigit_bounds (digits c (List.mem_of_head? first))
    obtain rfl : c = '0' := by
      rw [← Char.toNat_inj, ← small, zero]
      rfl
    rw [zero_of_lead first]
    rfl

end Json

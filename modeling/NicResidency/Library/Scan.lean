import Mathlib

/-!
Formatted input in the manner of `scanf`: literal characters, blanks and unsigned numbers. What the
language leaves open is a parameter: which characters are blank, and what a number of more than 32
bits is stored as.
-/

namespace Scan

abbrev Text := List UInt16

def wide (s : String) : Text := s.toList.map fun c => UInt16.ofNat c.toNat

structure Runtime where
  space : UInt16 → Bool
  tooWide : Bool → Nat → UInt32

inductive Directive where
  | literal (c : UInt16)
  | blank
  | unsigned (base : Nat)
  deriving DecidableEq

/-- The directives of a format. -/
def directives : List Char → List Directive
  | '%' :: 'u' :: rest => .unsigned 10 :: directives rest
  | '%' :: 'x' :: rest => .unsigned 16 :: directives rest
  | ' ' :: rest => .blank :: directives rest
  | c :: rest => .literal (UInt16.ofNat c.toNat) :: directives rest
  | [] => []

/-! Numbers. -/

def digit (base : Nat) (c : UInt16) : Option Nat :=
  let value :=
    if 0x30 ≤ c ∧ c ≤ 0x39 then some (c.toNat - 0x30)
    else if 0x41 ≤ c ∧ c ≤ 0x46 then some (c.toNat - 0x41 + 10)
    else if 0x61 ≤ c ∧ c ≤ 0x66 then some (c.toNat - 0x61 + 10)
    else none
  value.filter (· < base)

/-- The digits at the start of a text, and what is behind them. -/
def digits (base : Nat) : Text → List Nat × Text
  | [] => ([], [])
  | c :: rest =>
    match digit base c with
    | some d => (d :: (digits base rest).1, (digits base rest).2)
    | none => ([], c :: rest)

def sign : Text → Bool × Text
  | 0x2D :: rest => (true, rest)
  | 0x2B :: rest => (false, rest)
  | text => (false, text)

/-- A hexadecimal number may be marked as one. -/
def unmarked (base : Nat) : Text → Text
  | 0x30 :: 0x78 :: rest => if base = 16 then rest else 0x30 :: 0x78 :: rest
  | 0x30 :: 0x58 :: rest => if base = 16 then rest else 0x30 :: 0x58 :: rest
  | text => text

def valueOf (base : Nat) (ds : List Nat) : Nat := ds.foldl (fun n d => n * base + d) 0

def number (rt : Runtime) (base : Nat) (text : Text) : Option (UInt32 × Text) :=
  let (negative, body) := sign text
  let (ds, rest) := digits base (unmarked base body)
  if ds = [] then none
  else
    let n := valueOf base ds
    let v := if n < 2 ^ 32 then UInt32.ofNat n else rt.tooWide negative n
    some (if negative then -v else v, rest)

/-- The stored numbers. The first directive that fails ends the input. -/
def scan (rt : Runtime) : List Directive → Text → List UInt32
  | [], _ => []
  | .literal _ :: _, [] => []
  | .literal c :: ds, b :: rest => if b = c then scan rt ds rest else []
  | .blank :: ds, text => scan rt ds (text.dropWhile rt.space)
  | .unsigned base :: ds, text =>
    match number rt base (text.dropWhile rt.space) with
    | some (v, rest) => v :: scan rt ds rest
    | none => []

/-! What is printed with a format is read back. -/

def print : List Directive → List Nat → Text
  | [], _ => []
  | .literal c :: ds, ns => c :: print ds ns
  | .blank :: ds, ns => 0x20 :: print ds ns
  | .unsigned _ :: _, [] => []
  | .unsigned _ :: ds, n :: ns => wide (toString n) ++ print ds ns

/-- What may follow a blank. -/
def Starts (rt : Runtime) : List Directive → Prop
  | .literal c :: _ => rt.space c = false
  | .unsigned _ :: _ => True
  | _ => False

/-- What may follow a number. -/
def Stops : List Directive → Prop
  | .literal c :: _ => digit 10 c = none
  | .unsigned _ :: _ => False
  | _ => True

def Readable (rt : Runtime) : List Directive → Prop
  | [] => True
  | .literal _ :: ds => Readable rt ds
  | .blank :: ds => Starts rt ds ∧ Readable rt ds
  | .unsigned base :: ds => base = 10 ∧ Stops ds ∧ Readable rt ds

/-- A blank is one, and a printed character is none. -/
structure Usual (rt : Runtime) : Prop where
  blank : rt.space 0x20
  printed : ∀ c, 0x21 ≤ c → c ≤ 0x7E → rt.space c = false

section
variable {rt : Runtime} {rest : Text}

theorem unmarked_decimal (text : Text) : unmarked 10 text = text := by
  unfold unmarked
  split <;> rfl

theorem digit_of_isDigit {c : Char} (isDigit : c.isDigit) :
    digit 10 (UInt16.ofNat c.toNat) = some (c.toNat - '0'.toNat) ∧
      0x30 ≤ UInt16.ofNat c.toNat ∧ UInt16.ofNat c.toNat ≤ 0x39 := by
  have bounds : 48 ≤ c.toNat ∧ c.toNat ≤ 57 := by
    simp only [Char.isDigit, Bool.and_eq_true, decide_eq_true_eq] at isDigit
    exact isDigit
  have small : (UInt16.ofNat c.toNat).toNat = c.toNat :=
    (UInt16.toNat_ofNat' ..).trans (Nat.mod_eq_of_lt (by omega))
  have range : 0x30 ≤ UInt16.ofNat c.toNat ∧ UInt16.ofNat c.toNat ≤ 0x39 := by
    rw [UInt16.le_iff_toNat_le, UInt16.le_iff_toNat_le, small]
    exact bounds
  refine ⟨?_, range⟩
  have below : c.toNat - 48 < 10 := by omega
  have zero : '0'.toNat = 48 := rfl
  simp [digit, range, small, zero, below]

/-- The digits of a number end where no digit follows. -/
theorem digits_append {ds : List Char} (all : ∀ c ∈ ds, c.isDigit)
    (ended : ∀ c ∈ rest.head?, digit 10 c = none) :
    digits 10 (ds.map (fun c => UInt16.ofNat c.toNat) ++ rest) =
      (ds.map fun c => c.toNat - '0'.toNat, rest) := by
  induction ds with
  | nil =>
    cases rest with
    | nil => rfl
    | cons c rest => simp [digits, ended c rfl]
  | cons c ds ih =>
    obtain ⟨isDigit, later⟩ := List.forall_mem_cons.mp all
    simp [digits, (digit_of_isDigit isDigit).1, ih later]

/-- A number is printed with digits only, and with one at least. -/
theorem wide_decimal (n : Nat) : ∃ ds : List Char, ds ≠ [] ∧ (∀ c ∈ ds, c.isDigit) ∧
    wide (toString n) = ds.map (fun c => UInt16.ofNat c.toNat) ∧
    valueOf 10 (ds.map fun c => c.toNat - '0'.toNat) = n := by
  refine ⟨Nat.toDigits 10 n, Nat.toDigits_ne_nil, fun c member =>
    Nat.isDigit_of_mem_toDigits (by omega) (by omega) member, ?_, ?_⟩
  · rw [wide, Nat.toString_eq_ofList_toDigits, String.toList_ofList]
  · rw [valueOf, List.foldl_map]
    have total := Nat.ofDigitChars_ten_toDigits (n := n)
    rw [Nat.ofDigitChars_eq_foldl] at total
    simpa only [Nat.mul_comm] using total

theorem wide_decimal_lead (n : Nat) :
    ∃ c tail, wide (toString n) = c :: tail ∧ 0x30 ≤ c ∧ c ≤ 0x39 := by
  obtain ⟨ds, more, all, spelled, -⟩ := wide_decimal n
  cases ds with
  | nil => exact absurd rfl more
  | cons c ds => exact ⟨_, _, spelled, (digit_of_isDigit (all c List.mem_cons_self)).2⟩

theorem sign_decimal (n : Nat) (rest : Text) :
    sign (wide (toString n) ++ rest) = (false, wide (toString n) ++ rest) := by
  obtain ⟨c, tail, spelled, low, -⟩ := wide_decimal_lead n
  rw [spelled, List.cons_append]
  unfold sign
  split
  next _ _ same =>
    obtain ⟨lead, -⟩ := List.cons.inj same
    exact absurd low (by rw [lead]; decide)
  next _ _ same =>
    obtain ⟨lead, -⟩ := List.cons.inj same
    exact absurd low (by rw [lead]; decide)
  next => rfl

theorem number_decimal {n : Nat} (small : n < 2 ^ 32)
    (ended : ∀ c ∈ rest.head?, digit 10 c = none) :
    number rt 10 (wide (toString n) ++ rest) = some (UInt32.ofNat n, rest) := by
  rw [number, sign_decimal]
  dsimp only
  obtain ⟨ds, more, all, spelled, value⟩ := wide_decimal n
  have read : ds.map (fun c => c.toNat - '0'.toNat) ≠ [] := by simpa using more
  rw [unmarked_decimal, spelled, digits_append all ended]
  simp only [read, ↓reduceIte, value, small, Bool.false_eq_true]

/-- The numbers that a format takes. -/
def count : List Directive → Nat
  | [] => 0
  | .unsigned _ :: ds => count ds + 1
  | _ :: ds => count ds

theorem dropWhile_print {ds : List Directive} {ns : List Nat} (usual : Usual rt)
    (enough : ns.length = count ds) (lead : Starts rt ds) : (print ds ns).dropWhile rt.space =
    print ds ns := by
  cases ds with
  | nil => exact lead.elim
  | cons d ds =>
    cases d with
    | literal c =>
      have printed : rt.space c = false := lead
      exact List.dropWhile_cons_of_neg (by simp [printed])
    | blank => exact lead.elim
    | unsigned base =>
      cases ns with
      | nil => exact absurd enough (by simp [count])
      | cons n ns =>
        obtain ⟨c, tail, spelled, low, high⟩ := wide_decimal_lead n
        rw [print, spelled]
        have printed := usual.printed c (UInt16.le_trans (by decide) low) (UInt16.le_trans high (by decide))
        exact List.dropWhile_cons_of_neg (by simp [printed])

/-- What is printed with a readable format is read back with it. -/
theorem scan_print (usual : Usual rt) {ds : List Directive} (readable : Readable rt ds) {ns : List Nat}
    (small : ∀ n ∈ ns, n < 2 ^ 32) (enough : ns.length = count ds) :
    scan rt ds (print ds ns) = ns.map UInt32.ofNat := by
  induction ds generalizing ns with
  | nil =>
    rw [List.length_eq_zero_iff.mp enough]
    rfl
  | cons d ds ih =>
    cases d with
    | literal c => exact (if_pos rfl).trans (ih readable small enough)
    | blank =>
      obtain ⟨lead, later⟩ := readable
      have counted : ns.length = count ds := enough
      rw [print, scan, List.dropWhile_cons_of_pos usual.blank, dropWhile_print usual counted lead]
      exact ih later small counted
    | unsigned base =>
      obtain ⟨rfl, behind, later⟩ := readable
      cases ns with
      | nil => exact absurd enough (by simp [count])
      | cons n ns =>
        obtain ⟨first, others⟩ := List.forall_mem_cons.mp small
        have ended : ∀ c ∈ (print ds ns).head?, digit 10 c = none := by
          cases ds with
          | nil => nofun
          | cons next ds =>
            cases next with
            | literal c =>
              intro c' lead
              obtain rfl : c = c' := Option.some.inj lead
              exact behind
            | blank =>
              intro c' lead
              obtain rfl : 0x20 = c' := Option.some.inj lead
              rfl
            | unsigned => exact behind.elim
        rw [scan, dropWhile_print usual enough trivial, print, number_decimal first ended]
        exact congrArg _ (ih later others (Nat.succ.inj enough))

end

end Scan

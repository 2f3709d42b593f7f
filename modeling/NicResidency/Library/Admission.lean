import Mathlib

/-!
Lists of records that are offered one after the other to a store. Where the store takes the first
record of a key, and a later one only if it agrees with that, the whole list is taken exactly if
each of its records agrees with what the store has in the end.
-/

namespace Admission

variable {σ α κ τ : Type*}

/-- The records are accepted one after the other. -/
def Run (accept : σ → α → σ → Prop) : σ → List α → σ → Prop
  | s, [], t => s = t
  | s, a :: rest, t => ∃ u, accept s a u ∧ Run accept u rest t

variable {accept : σ → α → σ → Prop} {s t : σ} {list : List α}

/-- What no accepted record changes. -/
theorem Run.keeps {part : σ → τ} (keeps : ∀ s a t, accept s a t → part t = part s)
    (run : Run accept s list t) : part t = part s := by
  induction list generalizing s with
  | nil => rw [show s = t from run]
  | cons a rest ih =>
    obtain ⟨u, accepted, later⟩ := run
    exact (ih later).trans (keeps s a u accepted)

section
variable {room : Nat → σ → Prop} {domain good : α → Prop}
  (spends : ∀ s a t n, domain a → room (n + 1) s → accept s a t → room n t)
include spends

/-- Where the store does not look at what it has, each record counts for itself. -/
theorem run_iff_forall (each : ∀ s a n, domain a → room (n + 1) s → ((∃ t, accept s a t) ↔ good a))
    (all : ∀ a ∈ list, domain a) (start : room list.length s) :
    (∃ t, Run accept s list t) ↔ ∀ a ∈ list, good a := by
  induction list generalizing s with
  | nil => exact ⟨fun _ => nofun, fun _ => ⟨s, rfl⟩⟩
  | cons a rest ih =>
    obtain ⟨first, others⟩ := List.forall_mem_cons.mp all
    rw [List.forall_mem_cons, ← each s a _ first start]
    constructor
    · rintro ⟨t, u, accepted, later⟩
      exact ⟨⟨u, accepted⟩, (ih others (spends s a u _ first start accepted)).mp ⟨t, later⟩⟩
    · rintro ⟨⟨u, accepted⟩, good⟩
      obtain ⟨t, later⟩ := (ih others (spends s a u _ first start accepted)).mpr good
      exact ⟨t, u, accepted, later⟩

end

/-- A store of slots in which the first record of a key stays. Room counts the records that it can
still take. -/
structure FirstWins [DecidableEq κ] (accept : σ → α → σ → Prop) (key : α → κ) (slot : σ → κ → Option α)
    (good : α → Prop) (agrees : α → α → Prop) (stored : α → α) (domain : α → Prop)
    (room : Nat → σ → Prop) : Prop where
  accepted_iff : ∀ s a n, domain a → room (n + 1) s →
    ((∃ t, accept s a t) ↔ good a ∧ ∀ old, slot s (key a) = some old → agrees a old)
  spends : ∀ s a t n, domain a → room (n + 1) s → accept s a t → room n t
  slot : ∀ s a t n, domain a → room (n + 1) s → accept s a t → ∀ k,
    slot t k = (slot s k).or (if key a = k then some (stored a) else none)
  refl : ∀ a, agrees a (stored a)

section
variable [DecidableEq κ] {key : α → κ} {slot : σ → κ → Option α} {good : α → Prop}
  {agrees : α → α → Prop} {stored : α → α} {domain : α → Prop} {room : Nat → σ → Prop}

/-- What a slot holds after a list: what it held, or the first record of the list. -/
def final (key : α → κ) (slot : σ → κ → Option α) (stored : α → α) (s : σ) (list : List α) (k : κ) :
    Option α :=
  (slot s k).or ((list.find? fun a => key a = k).map stored)

variable (store : FirstWins accept key slot good agrees stored domain room)
include store

theorem FirstWins.final_cons {u : σ} {a : α} {rest : List α} {n : Nat} (first : domain a)
    (start : room (n + 1) s) (accepted : accept s a u) (k : κ) :
    final key slot stored u rest k = final key slot stored s (a :: rest) k := by
  rw [final, final, store.slot s a u n first start accepted k, Option.or_assoc]
  by_cases same : key a = k
  · rw [if_pos same, List.find?_cons_of_pos (by simpa using same), Option.map_some, Option.some_or]
  · rw [if_neg same, List.find?_cons_of_neg (by simpa using same), Option.none_or]

theorem FirstWins.run_slot (all : ∀ a ∈ list, domain a) (start : room list.length s)
    (run : Run accept s list t) (k : κ) : slot t k = final key slot stored s list k := by
  induction list generalizing s with
  | nil =>
    rw [← show s = t from run]
    exact (Option.or_none).symm
  | cons a rest ih =>
    obtain ⟨first, others⟩ := List.forall_mem_cons.mp all
    obtain ⟨u, accepted, later⟩ := run
    rw [ih others (store.spends s a u _ first start accepted) later,
      store.final_cons first start accepted]

theorem FirstWins.run_iff (all : ∀ a ∈ list, domain a) (start : room list.length s) :
    (∃ t, Run accept s list t) ↔
      ∀ a ∈ list, good a ∧ ∀ old, final key slot stored s list (key a) = some old → agrees a old := by
  induction list generalizing s with
  | nil => exact ⟨fun _ => nofun, fun _ => ⟨s, rfl⟩⟩
  | cons a rest ih =>
    obtain ⟨first, others⟩ := List.forall_mem_cons.mp all
    -- the record itself is what a free slot takes
    have head : (∀ old, final key slot stored s (a :: rest) (key a) = some old → agrees a old) ↔
        ∀ old, slot s (key a) = some old → agrees a old := by
      rw [final, List.find?_cons_of_pos (by simp), Option.map_some]
      cases held : slot s (key a) with
      | none => simpa using store.refl a
      | some old => simp
    rw [List.forall_mem_cons, head, ← store.accepted_iff s a _ first start]
    constructor
    · rintro ⟨t, u, accepted, later⟩
      have tail := (ih others (store.spends s a u _ first start accepted)).mp ⟨t, later⟩
      simp only [store.final_cons first start accepted] at tail
      exact ⟨⟨u, accepted⟩, tail⟩
    · rintro ⟨⟨u, accepted⟩, tail⟩
      simp only [← store.final_cons first start accepted] at tail
      obtain ⟨t, later⟩ := (ih others (store.spends s a u _ first start accepted)).mpr tail
      exact ⟨t, u, accepted, later⟩

end

end Admission

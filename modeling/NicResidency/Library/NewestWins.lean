import Mathlib

/-!
Stores in which the newest record of a key wins. Offers commute when records of one
version are one record, so what a store holds after a list of offers does not depend on
their order.
-/

namespace NewestWins

variable {κ α γ : Type*} [LinearOrder γ] (version : α → γ)

/-- The slot takes a record that is newer than the one it holds. -/
def offer : Option α → α → Option α
  | none, new => some new
  | some old, new => if version old < version new then some new else some old

/-- What a slot holds after some offers: the newest of them and of what it held. -/
structure Newest (slot : Option α) (offers : List α) (final : Option α) : Prop where
  among : ∀ record, final = some record → slot = some record ∨ record ∈ offers
  held : ∀ old, slot = some old → ∃ record, final = some record ∧ version old ≤ version record
  offered : ∀ new ∈ offers, ∃ record, final = some record ∧ version new ≤ version record

variable {version}

theorem offer_comm {a b : α} (consistent : version a = version b → a = b) (slot : Option α) :
    offer version (offer version slot a) b = offer version (offer version slot b) a := by
  cases slot with
  | none =>
    rcases lt_trichotomy (version a) (version b) with older | level | newer
    · simp [offer, older, older.not_gt]
    · rw [consistent level]
    · simp [offer, newer, newer.not_gt]
  | some old =>
    by_cases first : version old < version a <;> by_cases second : version old < version b
    · rcases lt_trichotomy (version a) (version b) with older | level | newer
      · simp [offer, first, second, older, older.not_gt]
      · rw [consistent level]
      · simp [offer, first, second, newer, newer.not_gt]
    · have older : ¬version a < version b := fun less => second (first.trans less)
      simp [offer, first, second, older]
    · have older : ¬version b < version a := fun less => first (second.trans less)
      simp [offer, first, second, older]
    · simp [offer, first, second]

/-- An offer is kept, or outlived by what was there. -/
theorem newest_offer (slot : Option α) (new : α) : Newest version slot [new] (offer version slot new) := by
  cases slot with
  | none => exact ⟨by simp [offer], by simp, by simp [offer]⟩
  | some old =>
    by_cases newer : version old < version new
    · simp only [offer, if_pos newer]
      exact ⟨by simp, by simp [newer.le], by simp⟩
    · simp only [offer, if_neg newer]
      exact ⟨by simp, by simp, by simp [not_lt.mp newer]⟩

theorem Newest.append {slot middle final : Option α} {first second : List α}
    (before : Newest version slot first middle) (after : Newest version middle second final) :
    Newest version slot (first ++ second) final where
  among record stored := by
    rcases after.among record stored with earlier | offered
    · exact (before.among record earlier).imp_right (List.mem_append_left second)
    · exact .inr (List.mem_append_right first offered)
  held old stored := by
    obtain ⟨record, found, grown⟩ := before.held old stored
    obtain ⟨last, reached, further⟩ := after.held record found
    exact ⟨last, reached, grown.trans further⟩
  offered new member := by
    rcases List.mem_append.mp member with early | late
    · obtain ⟨record, found, grown⟩ := before.offered new early
      obtain ⟨last, reached, further⟩ := after.held record found
      exact ⟨last, reached, grown.trans further⟩
    · exact after.offered new late

theorem newest_foldl (slot : Option α) (offers : List α) :
    Newest version slot offers (offers.foldl (offer version) slot) := by
  induction offers generalizing slot with
  | nil => exact ⟨fun _ stored => .inl stored, fun old stored => ⟨old, stored, le_rfl⟩, by simp⟩
  | cons new rest ih => exact (newest_offer slot new).append (ih (offer version slot new))

/-! Stores of slots. -/

section
variable [Ord κ] [Std.TransOrd κ] (version)

/-- An offer to the slot of a key. -/
def offerAt (store : Std.ExtTreeMap κ α) (key : κ) (new : α) : Std.ExtTreeMap κ α :=
  store.alter key (fun slot => offer version slot new)

variable {version}

theorem getElem?_offerAt_self (store : Std.ExtTreeMap κ α) (key : κ) (new : α) :
    (offerAt version store key new)[key]? = offer version store[key]? new :=
  Std.ExtTreeMap.getElem?_alter_self

variable [Std.LawfulEqOrd κ]

theorem getElem?_offerAt_of_ne {key other : κ} (apart : key ≠ other) (store : Std.ExtTreeMap κ α)
    (new : α) : (offerAt version store key new)[other]? = store[other]? := by
  rw [offerAt, Std.ExtTreeMap.getElem?_alter,
    if_neg (fun same => apart (Std.LawfulEqOrd.eq_of_compare same))]

/-- An offer inserts its record or leaves the store as it is. -/
theorem offerAt_eq (store : Std.ExtTreeMap κ α) (key : κ) (new : α)
    [Decidable (∀ old, store[key]? = some old → version old < version new)] :
    offerAt version store key new =
      if ∀ old, store[key]? = some old → version old < version new then store.insert key new
      else store := by
  apply Std.ExtTreeMap.ext_getElem?
  intro slot
  by_cases here : key = slot
  · subst here
    rw [getElem?_offerAt_self]
    split
    next newer =>
      rw [Std.ExtTreeMap.getElem?_insert_self]
      cases held : store[key]? with
      | none => rfl
      | some old => rw [offer, if_pos (newer old held)]
    next kept =>
      cases held : store[key]? with
      | none => exact absurd (fun old stored => nomatch held.symm.trans stored) kept
      | some old =>
        refine if_neg (fun newer => kept (fun other stored => ?_))
        obtain rfl : old = other := Option.some.inj (held.symm.trans stored)
        exact newer
  · have apart : ¬compare key slot = .eq := fun same => here (Std.LawfulEqOrd.eq_of_compare same)
    rw [getElem?_offerAt_of_ne here]
    split
    · rw [Std.ExtTreeMap.getElem?_insert, if_neg apart]
    · rfl

theorem offerAt_comm {key other : κ} {a b : α}
    (consistent : key = other → version a = version b → a = b) (store : Std.ExtTreeMap κ α) :
    offerAt version (offerAt version store key a) other b =
      offerAt version (offerAt version store other b) key a := by
  apply Std.ExtTreeMap.ext_getElem?
  intro slot
  by_cases same : key = other
  · subst same
    by_cases here : key = slot
    · subst here
      simp only [getElem?_offerAt_self, offer_comm (consistent rfl)]
    · simp only [getElem?_offerAt_of_ne here]
  · by_cases here : key = slot
    · subst here
      simp only [getElem?_offerAt_self, getElem?_offerAt_of_ne (Ne.symm same)]
    · by_cases there : other = slot
      · subst there
        simp only [getElem?_offerAt_self, getElem?_offerAt_of_ne here]
      · simp only [getElem?_offerAt_of_ne here, getElem?_offerAt_of_ne there]

end

end NewestWins

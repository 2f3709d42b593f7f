import Mathlib

/-!
Stores whose records refer to each other and repeat what the records behind their
references say. A write keeps such a store coherent exactly when the new record agrees
with the records that it refers to and those that refer to it.
-/

namespace LinkedStore

variable {κ α : Type*} (refs : α → κ → Prop) (agree : α → κ → α → Prop)

/-- Every reference leads to a record, and the two records agree. -/
def Coherent (store : κ → Option α) : Prop :=
  ∀ key record, store key = some record → ∀ ref, refs record ref →
    ∃ target, store ref = some target ∧ agree record ref target

/-- The new record of a key agrees with the rest of the store. -/
structure Fits (store : κ → Option α) (key : κ) (new : α) : Prop where
  targets : ∀ ref, refs new ref → ∃ target, store ref = some target ∧ agree new ref target
  sources : ∀ other record, other ≠ key → store other = some record → refs record key →
    agree record key new

variable {refs agree}

theorem coherent_update_iff [DecidableEq κ] {store : κ → Option α} {key : κ} {new : α}
    (coherent : Coherent refs agree store) (loopless : ¬refs new key) :
    Coherent refs agree (Function.update store key (some new)) ↔ Fits refs agree store key new := by
  have elsewhere {other : κ} (apart : other ≠ key) :
      Function.update store key (some new) other = store other := Function.update_of_ne apart ..
  have here : Function.update store key (some new) key = some new := Function.update_self ..
  have notKey {ref : κ} (referred : refs new ref) : ref ≠ key := by
    intro same
    exact loopless (same ▸ referred)
  constructor
  · intro after
    refine ⟨?_, ?_⟩
    · intro ref referred
      obtain ⟨target, stored, agrees⟩ := after key new here ref referred
      rw [elsewhere (notKey referred)] at stored
      exact ⟨target, stored, agrees⟩
    · intro other record apart stored referred
      rw [← elsewhere apart] at stored
      obtain ⟨target, found, agrees⟩ := after other record stored key referred
      obtain rfl : new = target := Option.some.inj (here.symm.trans found)
      exact agrees
  · intro fits other record stored ref referred
    by_cases apart : other = key
    · subst apart
      obtain rfl : new = record := Option.some.inj (here.symm.trans stored)
      rw [elsewhere (notKey referred)]
      exact fits.targets ref referred
    · rw [elsewhere apart] at stored
      by_cases points : ref = key
      · subst points
        exact ⟨new, here, fits.sources other record apart stored referred⟩
      · rw [elsewhere points]
        exact coherent other record stored ref referred

end LinkedStore

import Mathlib

/-!
The slot of one key in a store of versioned records. A step may leave the slot,
fill it, replace its record by a written one that supersedes it, or touch the
record in place. What a slot can lose or regain follows from these four moves.
-/

namespace VersionedSlot

variable {α β γ : Type*}

/-- What one step may do to a slot. `wrote` says which record the step was asked
to write, `supersedes` when a written record may replace the stored one, and
`touched` what the store does to a record on its own. -/
inductive Change (wrote : α → Prop) (supersedes touched : α → α → Prop) :
    Option α → Option α → Prop where
  | kept (slot : Option α) : Change wrote supersedes touched slot slot
  | filled (new : α) (asked : wrote new) : Change wrote supersedes touched none (some new)
  | replaced (old new : α) (asked : wrote new) (newer : supersedes old new) :
      Change wrote supersedes touched (some old) (some new)
  | touched (old new : α) (inPlace : touched old new) :
      Change wrote supersedes touched (some old) (some new)

variable {wrote : α → Prop} {supersedes touched : α → α → Prop} {before after : Option α}

/-- A write into a slot that is empty or holds a record it supersedes. -/
theorem Change.write (slot : Option α) (new : α) (asked : wrote new)
    (newer : ∀ old, slot = some old → supersedes old new) :
    Change wrote supersedes touched slot (some new) := by
  cases slot with
  | none => exact .filled new asked
  | some old => exact .replaced old new asked (newer old rfl)

/-- No step empties a slot. -/
theorem Change.isSome (change : Change wrote supersedes touched before after)
    (present : before.isSome) : after.isSome := by
  cases change with
  | kept => exact present
  | filled | replaced | touched => rfl

/-- A slot that is never lowered by a replacement or a touch never goes down. -/
theorem Change.le_version [Preorder γ] (version : α → γ)
    (change : Change wrote supersedes touched before after)
    (replacing : ∀ old new, supersedes old new → version old ≤ version new)
    (touching : ∀ old new, before = some old → touched old new → version old ≤ version new) :
    ∀ old, before = some old → ∃ new, after = some new ∧ version old ≤ version new := by
  intro old stored
  cases change with
  | kept => exact ⟨old, stored, le_rfl⟩
  | filled => cases stored
  | replaced found new asked newer =>
    obtain rfl : found = old := Option.some.inj stored
    exact ⟨new, rfl, replacing _ _ newer⟩
  | touched found new inPlace =>
    obtain rfl : found = old := Option.some.inj stored
    exact ⟨new, rfl, touching _ _ rfl inPlace⟩

/-- A mark that touching keeps survives every step but a superseding write. -/
theorem Change.mark_kept (mark : α → Prop) (change : Change wrote supersedes touched before after)
    (touching : ∀ old new, before = some old → touched old new → mark old → mark new) :
    ∀ old, before = some old → mark old →
      ∃ new, after = some new ∧ (mark new ∨ wrote new ∧ supersedes old new) := by
  intro old stored marked
  cases change with
  | kept => exact ⟨old, stored, .inl marked⟩
  | filled => cases stored
  | replaced found new asked newer =>
    obtain rfl : found = old := Option.some.inj stored
    exact ⟨new, rfl, .inr ⟨asked, newer⟩⟩
  | touched found new inPlace =>
    obtain rfl : found = old := Option.some.inj stored
    exact ⟨new, rfl, .inl (touching _ _ rfl inPlace marked)⟩

/-- A property that touching cannot give a record is gained only by a write, and
then over a record that is superseded. -/
theorem Change.gained_by_write (good : α → Prop)
    (change : Change wrote supersedes touched before after)
    (touching : ∀ old new, touched old new → good new → good old)
    (bad : ∀ old, before = some old → ¬good old) :
    ∀ new, after = some new → good new →
      wrote new ∧ ∀ old, before = some old → supersedes old new := by
  intro new stored isGood
  cases change with
  | kept => exact absurd isGood (bad new stored)
  | filled found asked =>
    obtain rfl : found = new := Option.some.inj stored
    exact ⟨asked, by simp⟩
  | replaced old found asked newer =>
    obtain rfl : found = new := Option.some.inj stored
    exact ⟨asked, by simpa using newer⟩
  | touched old found inPlace =>
    obtain rfl : found = new := Option.some.inj stored
    exact absurd (touching _ _ inPlace isGood) (bad old rfl)

/-- A property of the stored record holds after a step when the step keeps it,
touching keeps it and every written record has it. -/
theorem Change.holds_after (good : α → Prop)
    (change : Change wrote supersedes touched before after)
    (keeping : ∀ old, before = some old → good old)
    (writing : ∀ new, wrote new → good new)
    (touching : ∀ old new, touched old new → good old → good new) :
    ∀ new, after = some new → good new := by
  intro new stored
  cases change with
  | kept => exact keeping new stored
  | filled found asked | replaced _ found asked _ =>
    obtain rfl : found = new := Option.some.inj stored
    exact writing _ asked
  | touched old found inPlace =>
    obtain rfl : found = new := Option.some.inj stored
    exact touching _ _ inPlace (keeping old rfl)

/-- What touching leaves as it is changes by a write only. -/
theorem Change.view_cases (view : α → β) (change : Change wrote supersedes touched before after)
    (touching : ∀ old new, touched old new → view new = view old) :
    after.map view = before.map view ∨ ∃ new, wrote new ∧ after = some new := by
  cases change with
  | kept => exact .inl rfl
  | filled new asked | replaced _ new asked _ => exact .inr ⟨new, asked, rfl⟩
  | touched old new inPlace =>
    exact .inl (by rw [Option.map_some, Option.map_some, touching old new inPlace])

/-! Versions that determine their content. -/

/-- A record that the first slot holds is in the second one with a greater version, or
with its version and its content. -/
def Settled [Preorder γ] (version : α → γ) (content : α → β) (before after : Option α) : Prop :=
  ∀ old, before = some old → ∃ new, after = some new ∧
    (version old < version new ∨ version old = version new ∧ content old = content new)

section
variable [Preorder γ] {version : α → γ} {content : α → β} {slot : Option α}

theorem Settled.refl (slot : Option α) : Settled version content slot slot :=
  fun old stored => ⟨old, stored, .inr ⟨rfl, rfl⟩⟩

theorem Settled.trans (first : Settled version content before slot)
    (second : Settled version content slot after) : Settled version content before after := by
  intro old stored
  obtain ⟨middle, found, first⟩ := first old stored
  obtain ⟨new, reached, second⟩ := second middle found
  refine ⟨new, reached, ?_⟩
  rcases first with grown | ⟨level, same⟩
  · rcases second with further | ⟨still, -⟩
    · exact .inl (grown.trans further)
    · exact .inl (grown.trans_eq still)
  · rcases second with grown | ⟨still, kept⟩
    · exact .inl (level.trans_lt grown)
    · exact .inr ⟨level.trans still, same.trans kept⟩

/-- Slots of one version have one content. -/
theorem Settled.content_eq (settled : Settled version content before after) {old new : α}
    (stored : before = some old) (reached : after = some new) (level : version old = version new) :
    content old = content new := by
  obtain ⟨found, same, grown | ⟨-, kept⟩⟩ := settled old stored
  · obtain rfl : found = new := Option.some.inj (same.symm.trans reached)
    exact absurd level grown.ne
  · obtain rfl : found = new := Option.some.inj (same.symm.trans reached)
    exact kept

/-- A slot settles its content when a replacement and a touch either raise the version or
keep the content. -/
theorem Change.settled (change : Change wrote supersedes touched before after)
    (replacing : ∀ old new, before = some old → wrote new → supersedes old new →
      version old < version new ∨ version old = version new ∧ content old = content new)
    (touching : ∀ old new, before = some old → touched old new →
      version old < version new ∨ version old = version new ∧ content old = content new) :
    Settled version content before after := by
  intro old stored
  cases change with
  | kept => exact ⟨old, stored, .inr ⟨rfl, rfl⟩⟩
  | filled => cases stored
  | replaced found new asked newer =>
    obtain rfl : found = old := Option.some.inj stored
    exact ⟨new, rfl, replacing _ _ rfl asked newer⟩
  | touched found new inPlace =>
    obtain rfl : found = old := Option.some.inj stored
    exact ⟨new, rfl, touching _ _ rfl inPlace⟩

end

/-! The slots of an ordered map under its three updates. -/

section
variable {κ : Type*} [Ord κ] [Std.TransOrd κ] [Std.LawfulEqOrd κ] (store : Std.ExtTreeMap κ α)

theorem Change.insert (key other : κ) (value : α) (asked : key = other → wrote value)
    (newer : ∀ old, store[key]? = some old → supersedes old value) :
    Change wrote supersedes touched store[other]? (store.insert key value)[other]? := by
  rw [Std.ExtTreeMap.getElem?_insert]
  split
  next same =>
    obtain rfl : key = other := Std.LawfulEqOrd.eq_of_compare same
    exact .write _ value (asked rfl) newer
  next => exact .kept _

theorem Change.modify (key other : κ) (change : α → α)
    (inPlace : key = other → ∀ old, store[key]? = some old → touched old (change old)) :
    Change wrote supersedes touched store[other]? (store.modify key change)[other]? := by
  rw [Std.ExtTreeMap.getElem?_modify]
  split
  next same =>
    obtain rfl : key = other := Std.LawfulEqOrd.eq_of_compare same
    cases stored : store[key]? with
    | none => exact .kept _
    | some old => exact .touched old _ (inPlace rfl old stored)
  next => exact .kept _

theorem Change.map (other : κ) (change : κ → α → α)
    (inPlace : ∀ old, store[other]? = some old →
      change other old = old ∨ touched old (change other old)) :
    Change wrote supersedes touched store[other]? (store.map change)[other]? := by
  rw [Std.ExtTreeMap.getElem?_map]
  cases stored : store[other]? with
  | none => exact .kept _
  | some old =>
    rcases inPlace old stored with same | moved
    · simpa [same] using Change.kept (some old)
    · exact .touched old _ moved

end

/-! The positions of a list, as slots, under an append and in-place changes. -/

section
variable (log : List α)

theorem Change.append (entry : α) (position : Nat)
    (asked : position = log.length → wrote entry) :
    Change wrote supersedes touched log[position]? (log ++ [entry])[position]? := by
  rcases lt_trichotomy position log.length with inside | rfl | beyond
  · rw [List.getElem?_append_left inside]
    exact .kept _
  · rw [List.getElem?_concat_length, List.getElem?_eq_none le_rfl]
    exact .filled entry (asked rfl)
  · rw [List.getElem?_eq_none (by omega), List.getElem?_eq_none (by simp; omega)]
    exact .kept _

theorem Change.listMap (position : Nat) (change : α → α)
    (inPlace : ∀ old, log[position]? = some old → change old = old ∨ touched old (change old)) :
    Change wrote supersedes touched log[position]? (log.map change)[position]? := by
  rw [List.getElem?_map]
  cases stored : log[position]? with
  | none => exact .kept _
  | some old =>
    rcases inPlace old stored with same | moved
    · simpa [same] using Change.kept (some old)
    · exact .touched old _ moved

theorem Change.listModify (position at_ : Nat) (change : α → α)
    (inPlace : at_ = position → ∀ old, log[at_]? = some old → touched old (change old)) :
    Change wrote supersedes touched log[position]? (log.modify at_ change)[position]? := by
  rw [List.getElem?_modify]
  cases stored : log[position]? with
  | none => exact .kept _
  | some old =>
    by_cases same : at_ = position
    · subst same
      simpa using Change.touched old _ (inPlace rfl old stored)
    · simpa [same] using Change.kept (some old)

end

end VersionedSlot

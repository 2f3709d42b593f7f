import Mathlib

/-!
Ordered maps beyond their single updates. Storing a stored value again changes nothing. The
values come in the order of their keys, so the first match is the match with the least
key. An entry that is erased from among the first ones lets one entry in.
-/

namespace OrderedMap

variable {κ α : Type*} [Ord κ] [Std.TransOrd κ] {map : Std.ExtTreeMap κ α} {a : α}
  {property : α → Bool}

theorem size_insert_new {key : κ} (new : key ∉ map) : (map.insert key a).size = map.size + 1 := by
  rw [Std.ExtTreeMap.size_insert, if_neg (Std.ExtTreeMap.contains_iff_mem.not.mpr new)]

theorem mem_of_stored {key : κ} (stored : map[key]? = some a) : key ∈ map := by
  rw [Std.ExtTreeMap.mem_iff_isSome_getElem?, stored]
  rfl

theorem values_eq (map : Std.ExtTreeMap κ α) : map.values = map.toList.map Prod.snd := by
  obtain ⟨map⟩ := map
  induction map using Std.ExtDTreeMap.inductionOn with
  | _ map =>
    show map.inner.values = (Std.DTreeMap.Internal.Impl.Const.toList map.inner).map Prod.snd
    rw [Std.DTreeMap.Internal.Impl.values_eq_map_snd,
      Std.DTreeMap.Internal.Impl.Const.toList_eq_toListModel_map, List.map_map]
    rfl

/-- A match with no match before it. -/
def FirstMatch (map : Std.ExtTreeMap κ α) (property : α → Bool) (key : κ) (a : α) : Prop :=
  map[key]? = some a ∧ property a = true ∧
    ∀ key' b, map[key']? = some b → property b = true → (compare key key').isLE = true

/-! Storing the entries of a list, each under its key. -/

def storeAll (key : α → κ) (map : Std.ExtTreeMap κ α) (entries : List α) : Std.ExtTreeMap κ α :=
  entries.foldl (fun map entry => map.insert (key entry) entry) map

theorem storeAll_cons (key : α → κ) (map : Std.ExtTreeMap κ α) (entry : α) (rest : List α) :
    storeAll key map (entry :: rest) = storeAll key (map.insert (key entry) entry) rest := rfl

/-- A slot afterwards is the slot before, or it comes from the list alone. -/
theorem storeAll_cases (key : α → κ) (entries : List α) (other : κ) :
    (∀ map : Std.ExtTreeMap κ α, (storeAll key map entries)[other]? = map[other]?) ∨
      ∃ entry, ∀ map : Std.ExtTreeMap κ α, (storeAll key map entries)[other]? = some entry := by
  induction entries using List.reverseRecOn with
  | nil => exact .inl fun _ => rfl
  | append_singleton entries last ih =>
    have stored (map : Std.ExtTreeMap κ α) : (storeAll key map (entries ++ [last]))[other]? =
        if compare (key last) other = .eq then some last else (storeAll key map entries)[other]? := by
      simp only [storeAll, List.foldl_append, List.foldl_cons, List.foldl_nil,
        Std.ExtTreeMap.getElem?_insert]
    simp only [stored]
    by_cases same : compare (key last) other = .eq
    · exact .inr ⟨last, fun _ => if_pos same⟩
    · simpa only [if_neg same] using ih

variable [Std.LawfulEqOrd κ]

/-- Storing what is stored already changes nothing. -/
theorem insert_of_stored {key : κ} (stored : map[key]? = some a) : map.insert key a = map := by
  apply Std.ExtTreeMap.ext_getElem?
  intro other
  rw [Std.ExtTreeMap.getElem?_insert]
  split
  next same =>
    obtain rfl : key = other := Std.LawfulEqOrd.eq_of_compare same
    exact stored.symm
  next => rfl

/-- Storing a value twice is storing it once. -/
theorem insert_insert_same (key : κ) : (map.insert key a).insert key a = map.insert key a :=
  insert_of_stored Std.ExtTreeMap.getElem?_insert_self

/-- Storing a list twice is storing it once. -/
theorem storeAll_storeAll (key : α → κ) (map : Std.ExtTreeMap κ α) (entries : List α) :
    storeAll key (storeAll key map entries) entries = storeAll key map entries := by
  apply Std.ExtTreeMap.ext_getElem?
  intro other
  rcases storeAll_cases key entries other with kept | ⟨entry, stored⟩
  · exact kept _
  · rw [stored, stored]

/-- The last value stored under a key counts. -/
theorem insert_insert (key : κ) (b : α) : (map.insert key b).insert key a = map.insert key a := by
  apply Std.ExtTreeMap.ext_getElem?
  intro other
  rw [Std.ExtTreeMap.getElem?_insert, Std.ExtTreeMap.getElem?_insert, Std.ExtTreeMap.getElem?_insert]
  split <;> rfl

theorem toList_single (key : κ) :
    ((∅ : Std.ExtTreeMap κ α).insert key a).toList = [(key, a)] := by
  have listed : (key, a) ∈ ((∅ : Std.ExtTreeMap κ α).insert key a).toList :=
    Std.ExtTreeMap.mem_toList_iff_getElem?_eq_some.mpr Std.ExtTreeMap.getElem?_insert_self
  have one : ((∅ : Std.ExtTreeMap κ α).insert key a).toList.length = 1 := by
    rw [Std.ExtTreeMap.length_toList, size_insert_new Std.ExtTreeMap.not_mem_empty,
      Std.ExtTreeMap.size_empty]
  obtain ⟨entry, only⟩ := List.length_eq_one_iff.mp one
  rw [only, List.mem_singleton] at listed
  rw [only, listed]

/-- A map with more keys has more entries. -/
theorem size_le_of_keys {other : Std.ExtTreeMap κ α} (kept : ∀ key ∈ map, key ∈ other) :
    map.size ≤ other.size := by
  rw [← Std.ExtTreeMap.length_keys, ← Std.ExtTreeMap.length_keys]
  refine (List.Nodup.subperm ?_ ?_).length_le
  · exact Std.ExtTreeMap.nodup_keys
  · intro key listed
    exact Std.ExtTreeMap.mem_keys.mpr (kept key (Std.ExtTreeMap.mem_keys.mp listed))

theorem FirstMatch.unique {key key' : κ} {b : α} (first : FirstMatch map property key a)
    (second : FirstMatch map property key' b) : key = key' ∧ a = b := by
  obtain ⟨stored, holds, least⟩ := first
  obtain ⟨stored', holds', least'⟩ := second
  have same : key = key' := Std.LawfulEqOrd.compare_eq_iff_eq.mp
    (Std.OrientedCmp.isLE_antisymm (least key' b stored' holds') (least' key a stored holds))
  subst same
  exact ⟨rfl, Option.some.inj (stored.symm.trans stored')⟩

/-- The search through the values gives the first match. -/
theorem find?_values_eq_some_iff :
    map.values.find? property = some a ↔ ∃ key, FirstMatch map property key a := by
  have found {a : α} (search : map.values.find? property = some a) :
      ∃ key, FirstMatch map property key a := by
    rw [values_eq, List.find?_map, Option.map_eq_some_iff] at search
    obtain ⟨⟨key, b⟩, search, rfl⟩ := search
    obtain ⟨holds, before, after, listed, none⟩ := List.find?_eq_some_iff_append.mp search
    have ordered := Std.ExtTreeMap.ordered_keys_toList (t := map)
    rw [listed, List.pairwise_append, List.pairwise_cons] at ordered
    refine ⟨key, ?_, holds, fun key' b' stored holds' => ?_⟩
    · rw [← Std.ExtTreeMap.mem_toList_iff_getElem?_eq_some, listed]
      simp
    · rw [← Std.ExtTreeMap.mem_toList_iff_getElem?_eq_some, listed] at stored
      rcases List.mem_append.mp stored with earlier | later
      · simpa [holds'] using none _ earlier
      · rcases List.mem_cons.mp later with same | later
        · rw [(Prod.mk.inj same).1]
          simp
        · simp [ordered.2.1.1 _ later]
  constructor
  · exact found
  · rintro ⟨key, first⟩
    have member : a ∈ map.values := by
      rw [values_eq]
      exact List.mem_map.mpr ⟨(key, a), Std.ExtTreeMap.mem_toList_iff_getElem?_eq_some.mpr first.1, rfl⟩
    obtain ⟨b, search⟩ := Option.isSome_iff_exists.mp (List.find?_isSome.mpr ⟨a, member, first.2.1⟩)
    obtain ⟨key', first'⟩ := found search
    rw [search, (first.unique first').2]

/-- The search fails when nothing matches. -/
theorem find?_values_eq_none_iff : map.values.find? property = none ↔
    ∀ (key : κ) (b : α), map[key]? = some b → property b = false := by
  rw [List.find?_eq_none, values_eq]
  simp only [List.mem_map, Prod.exists, Std.ExtTreeMap.mem_toList_iff_getElem?_eq_some,
    Bool.not_eq_true]
  constructor
  · intro none key b stored
    exact none b ⟨key, b, stored, rfl⟩
  · rintro none b ⟨key, b, stored, rfl⟩
    exact none key b stored

/-! The first entries. -/

theorem nodup_toList (map : Std.ExtTreeMap κ α) : map.toList.Nodup := by
  refine Std.ExtTreeMap.ordered_keys_toList.imp fun {x y} less same => ?_
  rw [same] at less
  exact Ordering.noConfusion (Std.ReflCmp.compare_self.symm.trans less)

theorem toList_erase [DecidableEq κ] [DecidableEq α] {key : κ} (stored : map[key]? = some a) :
    (map.erase key).toList = map.toList.erase (key, a) := by
  have filtered : map.erase key = map.filter fun key' _ => key' != key := by
    apply Std.ExtTreeMap.ext_getElem?
    intro key'
    rw [Std.ExtTreeMap.getElem?_erase, Std.ExtTreeMap.getElem?_filter']
    by_cases same : key' = key
    · subst same
      simp
    · have apart : compare key key' ≠ .eq := fun equal =>
        same (Std.LawfulEqOrd.compare_eq_iff_eq.mp equal).symm
      have kept : (key' != key) = true := bne_iff_ne.mpr same
      rw [if_neg apart, kept]
      cases map[key']? <;> rfl
  rw [filtered, Std.ExtTreeMap.toList_filter, (nodup_toList map).erase_eq_filter]
  apply List.filter_congr
  rintro ⟨key', b⟩ listed
  rw [Std.ExtTreeMap.mem_toList_iff_getElem?_eq_some] at listed
  rw [Bool.eq_iff_iff, bne_iff_ne, bne_iff_ne, ne_eq, ne_eq, not_iff_not, Prod.mk.injEq]
  constructor
  · rintro rfl
    exact ⟨rfl, Option.some.inj (listed.symm.trans stored)⟩
  · exact And.left

section
variable {xs : List α} {x y : α} {n : Nat} [BEq α] [LawfulBEq α]

theorem take_erase_of_notMem (outside : x ∉ xs.take n) : (xs.erase x).take n = xs.take n := by
  induction xs generalizing n with
  | nil => rfl
  | cons first rest ih =>
    cases n with
    | zero => rfl
    | succ n =>
      rw [List.take_succ_cons, List.mem_cons, not_or] at outside
      rw [List.erase_cons_tail (by simpa using Ne.symm outside.1), List.take_succ_cons,
        List.take_succ_cons, ih outside.2]

/-- Without one of the first members, the next member is among them. -/
theorem mem_take_erase (nodup : xs.Nodup) (inside : x ∈ xs.take n) :
    y ∈ (xs.erase x).take n ↔ (y ∈ xs.take n ∧ y ≠ x) ∨ xs[n]? = some y := by
  induction xs generalizing n with
  | nil => simp at inside
  | cons first rest ih =>
    cases n with
    | zero => simp at inside
    | succ n =>
      rw [List.nodup_cons] at nodup
      rw [List.take_succ_cons, List.mem_cons] at inside
      rw [List.getElem?_cons_succ, List.take_succ_cons, List.mem_cons]
      by_cases same : first = x
      · subst same
        have other : y ∈ rest.take n → y ≠ first := fun member equal =>
          nodup.1 (equal ▸ List.mem_of_mem_take member)
        rw [List.erase_cons_head, List.take_add_one, List.mem_append, Option.mem_toList]
        grind
      · have later : x ∈ rest.take n := inside.resolve_left (Ne.symm same)
        rw [List.erase_cons_tail (by simpa using same), List.take_succ_cons, List.mem_cons,
          ih nodup.2 later]
        grind

end

end OrderedMap

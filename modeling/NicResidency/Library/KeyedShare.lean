import Mathlib

/-!
The share of one party in a map or a list whose entries are divided up by a home. An
update of a party's own entry is an update of its share, and an update of a foreign
entry leaves the share alone.
-/

namespace KeyedShare

section
variable {κ α δ : Type*} [Ord κ] [Std.TransOrd κ] [Std.LawfulEqOrd κ] [DecidableEq δ]
  {home : κ → δ} {party : δ} {map : Std.ExtTreeMap κ α}

/-- The entries at home in the party. -/
def share (home : κ → δ) (party : δ) (map : Std.ExtTreeMap κ α) : Std.ExtTreeMap κ α :=
  map.filter fun key _ => home key = party

theorem getElem?_share (key : κ) :
    (share home party map)[key]? = if home key = party then map[key]? else none := by
  rw [share, Std.ExtTreeMap.getElem?_filter']
  cases map[key]? with
  | none => simp
  | some a => by_cases own : home key = party <;> simp [own]

theorem getElem?_share_own {key : κ} (own : home key = party) :
    (share home party map)[key]? = map[key]? := by
  rw [getElem?_share, if_pos own]

theorem mem_share_own {key : κ} (own : home key = party) : key ∈ share home party map ↔ key ∈ map := by
  rw [Std.ExtTreeMap.mem_iff_isSome_getElem?, getElem?_share_own own,
    Std.ExtTreeMap.mem_iff_isSome_getElem?]

omit [Std.LawfulEqOrd κ] in
theorem size_share_le : (share home party map).size ≤ map.size :=
  Std.ExtTreeMap.size_filter_le_size

/-- Maps that agree wherever the party is at home have one share. -/
theorem share_congr {other : Std.ExtTreeMap κ α}
    (agree : ∀ key, home key = party → map[key]? = other[key]?) :
    share home party map = share home party other := by
  apply Std.ExtTreeMap.ext_getElem?
  intro key
  rw [getElem?_share, getElem?_share]
  split
  next own => exact agree key own
  next => rfl

/-- Maps with the same shares are the same. -/
theorem eq_of_shares {other : Std.ExtTreeMap κ α}
    (same : ∀ party, share home party map = share home party other) : map = other := by
  apply Std.ExtTreeMap.ext_getElem?
  intro key
  calc map[key]? = (share home (home key) map)[key]? := (getElem?_share_own rfl).symm
    _ = (share home (home key) other)[key]? := by rw [same]
    _ = other[key]? := getElem?_share_own rfl

theorem share_insert_own {key : κ} (own : home key = party) (a : α) :
    share home party (map.insert key a) = (share home party map).insert key a := by
  apply Std.ExtTreeMap.ext_getElem?
  intro other
  rw [getElem?_share, Std.ExtTreeMap.getElem?_insert, Std.ExtTreeMap.getElem?_insert, getElem?_share]
  by_cases here : compare key other = .eq
  · obtain rfl : key = other := Std.LawfulEqOrd.eq_of_compare here
    simp [own]
  · simp [here]

theorem share_insert_foreign {key : κ} (foreign : home key ≠ party) (a : α) :
    share home party (map.insert key a) = share home party map := by
  refine share_congr (fun other own => ?_)
  rw [Std.ExtTreeMap.getElem?_insert, if_neg]
  intro here
  obtain rfl : key = other := Std.LawfulEqOrd.eq_of_compare here
  exact foreign own

theorem share_modify_own {key : κ} (own : home key = party) (change : α → α) :
    share home party (map.modify key change) = (share home party map).modify key change := by
  apply Std.ExtTreeMap.ext_getElem?
  intro other
  rw [getElem?_share, Std.ExtTreeMap.getElem?_modify, Std.ExtTreeMap.getElem?_modify, getElem?_share]
  by_cases here : compare key other = .eq
  · obtain rfl : key = other := Std.LawfulEqOrd.eq_of_compare here
    simp [own]
  · simp [here, getElem?_share]

theorem share_modify_foreign {key : κ} (foreign : home key ≠ party) (change : α → α) :
    share home party (map.modify key change) = share home party map := by
  refine share_congr (fun other own => ?_)
  rw [Std.ExtTreeMap.getElem?_modify, if_neg]
  intro here
  obtain rfl : key = other := Std.LawfulEqOrd.eq_of_compare here
  exact foreign own

theorem share_map {change change' : κ → α → α}
    (agree : ∀ key a, home key = party → map[key]? = some a → change key a = change' key a) :
    share home party (map.map change) = (share home party map).map change' := by
  apply Std.ExtTreeMap.ext_getElem?
  intro key
  rw [getElem?_share, Std.ExtTreeMap.getElem?_map, Std.ExtTreeMap.getElem?_map, getElem?_share]
  by_cases own : home key = party
  · rw [if_pos own, if_pos own]
    cases stored : map[key]? with
    | none => rfl
    | some a => rw [Option.map_some, Option.map_some, agree key a own stored]
  · rw [if_neg own, if_neg own, Option.map_none]

/-- A change of all entries that leaves those of the party as they are. -/
theorem share_map_foreign {change : κ → α → α}
    (still : ∀ key a, home key = party → map[key]? = some a → change key a = a) :
    share home party (map.map change) = share home party map := by
  refine share_congr (fun key own => ?_)
  rw [Std.ExtTreeMap.getElem?_map]
  cases stored : map[key]? with
  | none => rfl
  | some a => rw [Option.map_some, still key a own stored]

end

/-! Lists. -/

section
variable {α δ : Type*} [DecidableEq δ] {home : α → δ} {party : δ} {list : List α}

/-- The entries of the list at home in the party, in their order. -/
def shareOf (home : α → δ) (party : δ) (list : List α) : List α :=
  list.filter fun a => home a = party

theorem mem_shareOf {a : α} : a ∈ shareOf home party list ↔ a ∈ list ∧ home a = party := by
  simp [shareOf]

theorem length_shareOf_le : (shareOf home party list).length ≤ list.length :=
  List.length_filter_le _ _

theorem shareOf_append_own {a : α} (own : home a = party) :
    shareOf home party (list ++ [a]) = shareOf home party list ++ [a] := by
  simp [shareOf, own]

theorem shareOf_append_foreign {a : α} (foreign : home a ≠ party) :
    shareOf home party (list ++ [a]) = shareOf home party list := by
  simp [shareOf, foreign]

theorem shareOf_map {change change' : α → α} (stays : ∀ a, home (change a) = home a)
    (agree : ∀ a ∈ list, home a = party → change a = change' a) :
    shareOf home party (list.map change) = (shareOf home party list).map change' := by
  induction list with
  | nil => rfl
  | cons a rest ih =>
    rw [List.forall_mem_cons] at agree
    simp only [shareOf, List.map_cons, List.filter_cons, stays] at ih ⊢
    split
    next own =>
      rw [List.map_cons, agree.1 (by simpa using own), ih agree.2]
    next => exact ih agree.2

theorem shareOf_map_foreign {change : α → α} (stays : ∀ a, home (change a) = home a)
    (still : ∀ a ∈ list, home a = party → change a = a) :
    shareOf home party (list.map change) = shareOf home party list := by
  calc shareOf home party (list.map change) = (shareOf home party list).map id :=
        shareOf_map stays still
    _ = shareOf home party list := List.map_id _

/-- A test that only own entries pass finds something in the share if it finds something. -/
theorem findIdx?_shareOf_eq_none {test : α → Bool} (own : ∀ a, test a = true → home a = party) :
    (shareOf home party list).findIdx? test = none ↔ list.findIdx? test = none := by
  simp only [List.findIdx?_eq_none_iff, mem_shareOf]
  constructor
  · intro missing a member
    by_contra hit
    have passed : test a = true := by simpa using hit
    exact hit (missing a ⟨member, own a passed⟩)
  · intro missing a found
    exact missing a found.1

/-- The first own entry of the list is the first entry of the share, so a change of the
one is a change of the other. -/
theorem shareOf_modify_first {test : α → Bool} {change : α → α}
    (stays : ∀ a, home (change a) = home a) (own : ∀ a, test a = true → home a = party)
    {i j : Nat} (found : list.findIdx? test = some i)
    (found' : (shareOf home party list).findIdx? test = some j) :
    shareOf home party (list.modify i change) = (shareOf home party list).modify j change := by
  induction list generalizing i j with
  | nil => simp at found
  | cons a rest ih =>
    by_cases hit : test a = true
    · have mine : home a = party := own a hit
      obtain rfl : 0 = i := by simpa [List.findIdx?_cons, hit] using found
      obtain rfl : 0 = j := by simpa [shareOf, mine, List.findIdx?_cons, hit] using found'
      simp [shareOf, mine, stays]
    · obtain ⟨i, within, rfl⟩ : ∃ i', rest.findIdx? test = some i' ∧ i' + 1 = i := by
        simpa [List.findIdx?_cons, hit] using found
      by_cases mine : home a = party
      · obtain ⟨j, within', rfl⟩ : ∃ j', (shareOf home party rest).findIdx? test = some j' ∧
            j' + 1 = j := by
          simpa [shareOf, mine, List.findIdx?_cons, hit] using found'
        have later := ih within within'
        simp only [shareOf] at later
        simp [shareOf, mine, List.modify_succ_cons, later]
      · have later := ih within (by simpa [shareOf, mine] using found')
        simp only [shareOf] at later
        simp [shareOf, mine, List.modify_succ_cons, later]

theorem shareOf_modify_foreign {change : α → α} (stays : ∀ a, home (change a) = home a) {i : Nat}
    (foreign : ∀ a, list[i]? = some a → home a ≠ party) :
    shareOf home party (list.modify i change) = shareOf home party list := by
  induction list generalizing i with
  | nil => rw [List.modify_nil]
  | cons a rest ih =>
    cases i with
    | zero => simp [shareOf, stays, foreign a rfl]
    | succ i =>
      have later := @ih i (fun b stored => foreign b (by simpa using stored))
      simp only [shareOf, List.modify_succ_cons, List.filter_cons] at later ⊢
      rw [later]

/-- Lists with the same shares are the same up to the order of entries of different homes. -/
theorem perm_of_shares {other : List α}
    (same : ∀ party, shareOf home party list = shareOf home party other) : list.Perm other := by
  classical
  rw [List.perm_iff_count]
  intro a
  have counted (entries : List α) : entries.count a = (shareOf home (home a) entries).count a := by
    rw [shareOf, List.count_filter (by simp)]
  rw [counted, counted other, same]

end

end KeyedShare

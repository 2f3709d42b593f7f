import NicResidency.Library.NewestWins
import NicResidency.Policy
import NicResidency.RegistryRuns

/-!
Publications of NICs in any order. Which calls are accepted depends on the order, but the
registry ends with the newest record of every id, and it puts every caller on record.
-/

namespace NicResidency.PublicationOrder
open StateMachine Throwing NicRegistry NewestWins

/-- A NIC record and the authority that publishes it. -/
structure Publication where
  auth : Authority
  nic : NicRecord

def Publication.call (p : Publication) : Call := .mutate p.auth (.registerNic p.nic)

/-- The record passes the checks of its id and its generation. -/
def wellFormed (rec : NicRecord) : Bool := rec.id.valid && rec.generation.valid

/-- The record as the registry stores it. -/
def stored (rec : NicRecord) : NicRecord := { rec with freshness := 0 }

def offerNic (nics : Std.ExtTreeMap NicId NicRecord) (rec : NicRecord) : Std.ExtTreeMap NicId NicRecord :=
  if wellFormed rec then offerAt NicRecord.generation nics rec.id (stored rec) else nics

def note (table : Std.ExtTreeMap WorkerId (Finset NicId)) (worker : WorkerId) (id : NicId) :
    Std.ExtTreeMap WorkerId (Finset NicId) :=
  table.insert worker (insert id (table[worker]?.getD ∅))

/-- What a publication leaves, whether it is accepted or not. -/
def publish (s : NicRegistry) (p : Publication) : NicRegistry :=
  { s with
    nics := offerNic s.nics p.nic
    workerNics := note s.workerNics p.auth.worker p.nic.id }

/-- The publications of an id that could be accepted, as they would be stored. -/
def offersOf (id : NicId) (publications : List Publication) : List NicRecord :=
  ((publications.map (·.nic)).filter fun rec => wellFormed rec && rec.id == id).map stored

section
variable {α : Type} {tag : Tag} {slot : Option α} {new : α} {generation : α → Generation tag}
  {same : α → α → Bool} {invalid conflict stale : ResidencyError}
  {write : NicRegistry → NicRegistry} {s : NicRegistry}

/-- A versioned publication is written exactly if it is newer than what is stored. -/
theorem perform_storeVersioned :
    (perform (storeVersioned slot new generation same invalid conflict stale write) s).2 =
      if (slot = none → (generation new).valid = true) ∧
        ∀ old, slot = some old → generation old < generation new then write s else s := by
  cases slot with
  | none =>
    rw [storeVersioned, perform_reject_bind]
    by_cases valid : (generation new).valid = true
    · rw [if_neg (not_not.mpr valid), if_pos ⟨fun _ => valid, by simp⟩]
      rfl
    · rw [if_pos valid, if_neg (fun found => valid (found.1 rfl))]
  | some old =>
    have newer_iff : ((some old = none → (generation new).valid = true) ∧
        ∀ other, some old = some other → generation other < generation new) ↔
          generation old < generation new := by simp
    simp only [newer_iff]
    rw [storeVersioned, perform_ite]
    rcases lt_trichotomy (generation old) (generation new) with newer | level | older
    · rw [if_neg newer.ne', perform_reject_bind, if_neg newer.not_gt, if_pos newer]
      rfl
    · rw [if_pos level.symm, perform_reject_bind, if_neg (c := generation old < _) level.not_lt]
      split <;> rfl
    · rw [if_neg older.ne, perform_reject_bind, if_pos older, if_neg older.not_gt]

end

/-- A record of generation zero is newer than none. -/
theorem generation_valid_of_lt {tag : Tag} {old new : Generation tag} (newer : old < new) :
    new.valid = true := by
  have positive : 0 < new.value.toNat := (Nat.zero_le _).trans_lt newer
  rw [Generation.valid, bne_iff_ne]
  intro zero
  rw [zero] at positive
  cases positive

/-- An offered record is inserted exactly if it is newer than what is stored. -/
theorem offerNic_eq (nics : Std.ExtTreeMap NicId NicRecord) (rec : NicRecord)
    (valid : rec.id.valid = true) : offerNic nics rec =
      if (nics[rec.id]? = none → rec.generation.valid = true) ∧
        ∀ old : NicRecord, nics[rec.id]? = some old → old.generation < rec.generation
      then nics.insert rec.id (stored rec) else nics := by
  by_cases nonzero : rec.generation.valid = true
  · rw [offerNic, if_pos (by simp [wellFormed, valid, nonzero]), offerAt_eq]
    simp only [nonzero, implies_true, true_and]
    rfl
  · rw [offerNic, if_neg (by simp [wellFormed, nonzero]), if_neg]
    intro passed
    obtain ⟨first, newer⟩ := passed
    cases held : nics[rec.id]? with
    | none => exact nonzero (first held)
    | some old => exact nonzero (generation_valid_of_lt (newer old held))

theorem step_publication {s : NicRegistry} {p : Publication} (current : s.Authorised p.auth)
    (room : s.nics.size < kMaxNics) : (s.step p.call).2 = publish s p := by
  change (perform (Reply.nic <$> registerNic p.nic p.auth) s).2 = _
  rw [perform_map, registerNic, perform_bind, perform_ensureAuthority, if_pos current]
  simp only [perform_modify_bind, perform_reject_bind, perform_get_bind]
  by_cases valid : p.nic.id.valid = true
  · have nics : (notePublisher p.auth.worker p.nic.id s).nics = s.nics := rfl
    rw [if_neg (not_not.mpr valid), nics, if_neg (not_le.mpr room), perform_storeVersioned, publish,
      offerNic_eq _ _ valid]
    split <;> rfl
  · rw [if_pos valid, publish, offerNic, if_neg (by simp [wellFormed, valid])]
    rfl

/-! Publications commute. -/

theorem offerNic_comm {a b : NicRecord} (consistent : a.id = b.id → a.generation = b.generation → a = b)
    (nics : Std.ExtTreeMap NicId NicRecord) :
    offerNic (offerNic nics a) b = offerNic (offerNic nics b) a := by
  unfold offerNic
  have same : a.id = b.id → (stored a).generation = (stored b).generation → stored a = stored b :=
    fun sameId level => congrArg stored (consistent sameId level)
  split_ifs <;> first | rfl | exact offerAt_comm same nics

theorem getElem?_note (table : Std.ExtTreeMap WorkerId (Finset NicId)) (worker slot : WorkerId)
    (id : NicId) : (note table worker id)[slot]? =
      if worker = slot then some (insert id (table[slot]?.getD ∅)) else table[slot]? := by
  rw [note, Std.ExtTreeMap.getElem?_insert]
  by_cases here : worker = slot
  · subst here
    simp
  · simp [here]

theorem note_comm (table : Std.ExtTreeMap WorkerId (Finset NicId)) (worker other : WorkerId)
    (id otherId : NicId) :
    note (note table worker id) other otherId = note (note table other otherId) worker id := by
  apply Std.ExtTreeMap.ext_getElem?
  intro slot
  simp only [getElem?_note]
  split_ifs <;> simp only [Option.getD_some, Finset.insert_comm id otherId]

theorem publish_comm {p q : Publication}
    (consistent : p.nic.id = q.nic.id → p.nic.generation = q.nic.generation → p.nic = q.nic)
    (s : NicRegistry) : publish (publish s p) q = publish (publish s q) p := by
  simp only [publish, offerNic_comm consistent, note_comm]

/-! Runs of publications. -/

theorem size_le_of_subset {nics : Std.ExtTreeMap NicId NicRecord} {ids : Finset NicId}
    (within : ∀ id ∈ nics, id ∈ ids) : nics.size ≤ ids.card := by
  have subset : nics.keys.toFinset ⊆ ids := fun id member =>
    within id (Std.ExtTreeMap.mem_keys.mp (List.mem_toFinset.mp member))
  rw [← Std.ExtTreeMap.length_keys, ← List.toFinset_card_of_nodup Std.ExtTreeMap.nodup_keys]
  exact Finset.card_le_card subset

theorem mem_offerNic {nics : Std.ExtTreeMap NicId NicRecord} {rec : NicRecord} {id : NicId}
    (member : id ∈ offerNic nics rec) : id ∈ nics ∨ id = rec.id := by
  by_cases here : rec.id = id
  · exact .inr here.symm
  · left
    unfold offerNic at member
    split at member
    · rw [Std.ExtTreeMap.mem_iff_isSome_getElem?, getElem?_offerAt_of_ne here] at member
      exact Std.ExtTreeMap.mem_iff_isSome_getElem?.mpr member
    · exact member

/-- While there is room for all ids, a run of publications is a fold. -/
theorem after_publications {ids : Finset NicId} (room : ids.card < kMaxNics)
    (publications : List Publication) {s : NicRegistry} (within : ∀ id ∈ s.nics, id ∈ ids)
    (named : ∀ p ∈ publications, p.nic.id ∈ ids) (live : ∀ p ∈ publications, s.Authorised p.auth) :
    s.after (publications.map Publication.call) = publications.foldl publish s := by
  induction publications generalizing s with
  | nil => rfl
  | cons p rest ih =>
    rw [List.forall_mem_cons] at named live
    obtain ⟨namedHead, namedRest⟩ := named
    obtain ⟨current, liveRest⟩ := live
    rw [List.map_cons, NicRegistry.after, exec_cons,
      step_publication current ((size_le_of_subset within).trans_lt room), List.foldl_cons]
    refine ih ?_ namedRest liveRest
    intro id member
    rcases mem_offerNic member with before | rfl
    · exact within id before
    · exact namedHead

theorem nics_foldl (publications : List Publication) (s : NicRegistry) (id : NicId) :
    (publications.foldl publish s).nics[id]? =
      (offersOf id publications).foldl (offer NicRecord.generation) s.nics[id]? := by
  induction publications generalizing s with
  | nil => rfl
  | cons p rest ih =>
    rw [List.foldl_cons, ih]
    by_cases fits : wellFormed p.nic = true
    · by_cases here : p.nic.id = id
      · subst here
        have offers : offersOf p.nic.id (p :: rest) = stored p.nic :: offersOf p.nic.id rest := by
          simp [offersOf, fits]
        rw [offers, List.foldl_cons, publish, offerNic, if_pos fits, getElem?_offerAt_self]
      · have offers : offersOf id (p :: rest) = offersOf id rest := by simp [offersOf, here]
        rw [offers, publish, offerNic, if_pos fits, getElem?_offerAt_of_ne here]
    · have offers : offersOf id (p :: rest) = offersOf id rest := by simp [offersOf, fits]
      rw [offers, publish, offerNic, if_neg fits]

/-- Publications by live workers, of which those of one id and one generation carry the
same record, lead to the same registry and the same decisions in any order: for every id
to the newest of the stored and the offered records. -/
theorem publication_order_irrelevant (s : NicRegistry) (publications others : List Publication)
    (reordered : publications.Perm others) (live : ∀ p ∈ publications, s.Authorised p.auth)
    (consistent : ∀ p ∈ publications, ∀ q ∈ publications, p.nic.id = q.nic.id →
      p.nic.generation = q.nic.generation → p.nic = q.nic)
    (room : (s.nics.keys.toFinset ∪ (publications.map (·.nic.id)).toFinset).card < kMaxNics) :
    s.after (others.map Publication.call) = s.after (publications.map Publication.call) ∧
    (∀ (policy : ResidencyPolicy) gpu numa endpoint workload,
      policy.decide (s.after (others.map Publication.call)).snapshot gpu numa endpoint workload =
        policy.decide (s.after (publications.map Publication.call)).snapshot gpu numa endpoint
          workload) ∧
    ∀ id : NicId, Newest NicRecord.generation s.nics[id]? (offersOf id publications)
      (s.after (publications.map Publication.call)).nics[id]? := by
  have within (id : NicId) (member : id ∈ s.nics) :
      id ∈ s.nics.keys.toFinset ∪ (publications.map (·.nic.id)).toFinset :=
    Finset.mem_union_left _ (List.mem_toFinset.mpr (Std.ExtTreeMap.mem_keys.mpr member))
  have named (p : Publication) (member : p ∈ publications) :
      p.nic.id ∈ s.nics.keys.toFinset ∪ (publications.map (·.nic.id)).toFinset :=
    Finset.mem_union_right _ (List.mem_toFinset.mpr (List.mem_map_of_mem member))
  have folded := after_publications room publications within named live
  have foldedOthers := after_publications room others within
    (fun p member => named p (reordered.mem_iff.mpr member))
    (fun p member => live p (reordered.mem_iff.mpr member))
  have same : s.after (others.map Publication.call) = s.after (publications.map Publication.call) := by
    rw [folded, foldedOthers]
    exact (reordered.foldl_eq' (fun p first q second s =>
      publish_comm (consistent p first q second) s) s).symm
  refine ⟨same, fun policy gpu numa endpoint workload => by rw [same], fun id => ?_⟩
  rw [folded, nics_foldl]
  exact newest_foldl s.nics[id]? (offersOf id publications)

/-- Two generations of a NIC from two workers: one order advances the record, the other
rejects the second call as stale. -/
theorem publication_order_irrelevant_two :
    let s : NicRegistry := NicRegistry.after { epoch := ⟨1⟩ }
      [.registerWorker ⟨7⟩ ⟨1⟩, .registerWorker ⟨8⟩ ⟨1⟩]
    let first : Publication := ⟨⟨⟨1⟩, ⟨7⟩, ⟨1⟩⟩, { id := ⟨10⟩, generation := ⟨1⟩ }⟩
    let second : Publication := ⟨⟨⟨1⟩, ⟨8⟩, ⟨1⟩⟩, { id := ⟨10⟩, generation := ⟨2⟩ }⟩
    s.after [second.call, first.call] = s.after [first.call, second.call] := by
  intro s first second
  have live : ∀ p ∈ [first, second], s.Authorised p.auth := by decide +kernel
  have apart : first.nic.generation ≠ second.nic.generation := by decide
  have room : (s.nics.keys.toFinset ∪ ([first, second].map (·.nic.id)).toFinset).card < kMaxNics := by
    decide +kernel
  have consistent : ∀ p ∈ [first, second], ∀ q ∈ [first, second], p.nic.id = q.nic.id →
      p.nic.generation = q.nic.generation → p.nic = q.nic := by
    simp [apart, apart.symm]
  exact (publication_order_irrelevant s [first, second] [second, first] (List.Perm.swap _ _ _)
    live consistent room).1

end NicResidency.PublicationOrder

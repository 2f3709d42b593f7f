import NicResidency.Topology

/-!
Locality from one address to another and back. What the topology derives does not
depend on the direction; the cost between addresses that it does not know is a signed
difference of bus and segment numbers.
-/

namespace NicResidency.LocalitySymmetry
open TopologySnapshot

variable (t : TopologySnapshot) (a b : PciAddress)

theorem equal_comm : a.equal b = b.equal a := Bool.beq_comm

/-- Two ids that are the same valid one. -/
theorem valid_and_same_comm {tag : Tag} (x y : Id tag) : (x.valid && x == y) = (y.valid && y == x) := by
  by_cases same : x = y
  · rw [same]
  · rw [beq_false_of_ne same, beq_false_of_ne (Ne.symm same), Bool.and_false, Bool.and_false]

theorem sameRootComplex_comm : t.sameRootComplex a b = t.sameRootComplex b a := by
  unfold sameRootComplex
  cases t.nodeForPci a <;> cases t.nodeForPci b <;> first | rfl | exact valid_and_same_comm ..

theorem samePcieSwitch_comm : t.samePcieSwitch a b = t.samePcieSwitch b a := by
  unfold samePcieSwitch
  cases t.nodeForPci a <;> cases t.nodeForPci b <;> first | rfl | exact valid_and_same_comm ..

theorem sameNumaNode_comm : t.sameNumaNode a b = t.sameNumaNode b a := by
  unfold TopologySnapshot.sameNumaNode
  cases t.nodeForPci a <;> cases t.nodeForPci b <;> first | rfl | exact valid_and_same_comm ..

/-- The address is that of a node. -/
def Resolved (t : TopologySnapshot) (pci : PciAddress) : Prop := (t.nodeForPci pci).isSome = true

instance : Decidable (Resolved t a) := inferInstanceAs (Decidable (_ = _))

/-- What a statement says beside its cost. -/
def flags (f : LocalityFactors) : LocalityFactors := { f with cost := 0 }

theorem pairFactors_resolved (first : Resolved t a) (second : Resolved t b) :
    t.pairFactors a b = t.pairFactors b a := by
  obtain ⟨na, foundA⟩ := Option.isSome_iff_exists.mp first
  obtain ⟨nb, foundB⟩ := Option.isSome_iff_exists.mp second
  simp only [pairFactors, foundA, foundB]
  rw [sameRootComplex_comm, samePcieSwitch_comm, sameNumaNode_comm]

theorem pairFactors_unresolved (unresolved : ¬(Resolved t a ∧ Resolved t b)) :
    t.pairFactors a b = { cost := fastCost a b } := by
  unfold pairFactors Resolved at *
  cases foundA : t.nodeForPci a with
  | none => rfl
  | some na =>
    cases foundB : t.nodeForPci b with
    | none => rfl
    | some nb => simp [foundA, foundB] at unresolved

theorem flags_pairFactors : flags (t.pairFactors a b) = flags (t.pairFactors b a) := by
  by_cases resolved : Resolved t a ∧ Resolved t b
  · rw [pairFactors_resolved t a b resolved.1 resolved.2]
  · rw [pairFactors_unresolved t a b resolved,
      pairFactors_unresolved t b a fun resolved' => resolved resolved'.symm]
    rfl

/-- The relationship is read from the flags, the addresses and the NUMA nodes, and not
from the cost. -/
theorem classify_comm (na nb : Option TopologyNode) {f f' : LocalityFactors} (same : flags f = flags f') :
    classify na nb a b f = classify nb na b a f' := by
  have kept {β : Type} (read : LocalityFactors → β) : read (flags f) = read (flags f') :=
    congrArg read same
  have switch : f.pcieSwitchSame = f'.pcieSwitchSame := kept (·.pcieSwitchSame)
  have root : f.rootComplexSame = f'.rootComplexSame := kept (·.rootComplexSame)
  have numa : f.numaSame = f'.numaSame := kept (·.numaSame)
  have remote (x y : NumaNodeId) : (x.valid = true ∧ y.valid = true ∧ x ≠ y) ↔
      (y.valid = true ∧ x.valid = true ∧ y ≠ x) := by
    rw [ne_comm, and_left_comm]
  unfold classify
  rw [equal_comm, switch, root, numa]
  cases na <;> cases nb <;> simp only [remote]

theorem flags_localityBetween :
    flags (t.localityBetween a b).factors = flags (t.localityBetween b a).factors := by
  have same := flags_pairFactors t a b
  simp only [localityBetween]
  rw [equal_comm b a]
  split
  · exact congrArg (fun f => { f with directPciNeighbor := true }) same
  · exact same

theorem relationship_comm :
    (t.localityBetween a b).relationship = (t.localityBetween b a).relationship :=
  classify_comm a b _ _ (flags_localityBetween t a b)

/-- The other direction has the opposite difference. -/
theorem fastCost_comm_iff : fastCost a b = fastCost b a ↔ a.segment = b.segment ∧ a.bus = b.bus := by
  have busA := a.bus.toNat_lt
  have busB := b.bus.toNat_lt
  rw [← UInt16.toNat_inj, ← UInt8.toNat_inj]
  simp only [fastCost, PciAddress.distanceTo]
  omega

/-- For every topology and every two addresses, both directions have the same
relationship and the same flags, and both queries the same cost. The costs of the two
directions are the same exactly when the topology knows both addresses, or these
share segment and bus. -/
theorem locality_symmetric_iff :
    ((t.localityBetween a b).relationship = (t.localityBetween b a).relationship ∧
        flags (t.localityBetween a b).factors = flags (t.localityBetween b a).factors ∧
        (t.localityBetween a b).factors.cost = (t.localityBetween b a).factors.cost ∧
        t.costBetween a b = (t.localityBetween a b).factors.cost) ↔
      (Resolved t a ∧ Resolved t b) ∨ (a.segment = b.segment ∧ a.bus = b.bus) := by
  rw [and_iff_right (relationship_comm t a b), and_iff_right (flags_localityBetween t a b),
    localityBetween_cost, localityBetween_cost, and_iff_left rfl]
  unfold costBetween
  by_cases resolved : Resolved t a ∧ Resolved t b
  · rw [pairFactors_resolved t a b resolved.1 resolved.2]
    exact iff_of_true rfl (.inl resolved)
  · rw [or_iff_right resolved, pairFactors_unresolved t a b resolved,
      pairFactors_unresolved t b a fun resolved' => resolved resolved'.symm]
    exact fastCost_comm_iff a b

/-- Two addresses on different buses that the topology does not know. -/
theorem unknown_asymmetric :
    ((({} : TopologySnapshot).localityBetween { bus := 1 } { bus := 2 }).factors.cost = -1) ∧
      (({} : TopologySnapshot).localityBetween { bus := 2 } { bus := 1 }).factors.cost = 1 := by
  decide

end NicResidency.LocalitySymmetry

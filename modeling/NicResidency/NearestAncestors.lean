import NicResidency.TopologyBuilder

/-!
The root complex and the switch that a built topology records for a node, against the
nearest ones above it. A walk keeps what it meets last, so nested nodes of one kind
hide the nearer ones.
-/

namespace NicResidency.NearestAncestors
open Ancestry Relation TopologySnapshot TopologyBuilder

variable {nodes : Std.ExtTreeMap PciNodeId TopologyNode} {kind : TopologyNodeKind} {id : PciNodeId}
  {b : TopologyBuilder} {t : TopologySnapshot} {fuel : Nat} {generation : TopologyGeneration}

/-- The first node of the kind on the parent chain that starts at a node, or the null
id when there is none. The null id names no node. -/
def NearestOfKind (nodes : Std.ExtTreeMap PciNodeId TopologyNode) (kind : TopologyNodeKind)
    (id above : PciNodeId) : Prop :=
  Nearest (parentLink nodes) (kindAt nodes kind) {} id above

/-- At most one node of the kind is on the parent chain that starts at a node. -/
def AtMostOne (nodes : Std.ExtTreeMap PciNodeId TopologyNode) (kind : TopologyNodeKind)
    (id : PciNodeId) : Prop :=
  Unnested (parentLink nodes) (kindAt nodes kind) id

/-- The snapshot records the nearest root complex and the nearest switch of a node. -/
def RecordsNearest (t : TopologySnapshot) (id : PciNodeId) : Prop :=
  NearestOfKind t.nodes .rootComplex id (t.rootComplexOf id) ∧
    NearestOfKind t.nodes .switch id (t.switchOf id)

theorem recordsNearest_of_build_iff (built : b.build fuel generation = some t) (stored : id ∈ b.nodes) :
    RecordsNearest t id ↔ AtMostOne b.nodes .rootComplex id ∧ AtMostOne b.nodes .switch id := by
  obtain ⟨trail, trails, same⟩ := found_of_build built stored
  obtain ⟨rc, sw⟩ := Prod.mk.inj same
  rw [RecordsNearest, (recorded_of_build built).nodes, ← rc, ← sw]
  exact and_congr (nearest_latest_iff rfl trails) (nearest_latest_iff rfl trails)

/-- On every topology whose parent ids lead to no cycle, the records of a node are the
nearest ones exactly when neither kind is nested above it. -/
theorem recordsNearest_iff (acyclic : AcyclicParents b.nodes) (generation : TopologyGeneration) :
    ∃ t, b.build b.nodes.size generation = some t ∧ ∀ id ∈ b.nodes,
      (RecordsNearest t id ↔ AtMostOne b.nodes .rootComplex id ∧ AtMostOne b.nodes .switch id) := by
  obtain ⟨t, built⟩ := build_isSome_iff.mpr fun id _ => walk_ends_of_acyclic acyclic id
  exact ⟨t, built, fun id stored => recordsNearest_of_build_iff built stored⟩

/-- A device below two cascaded switches. -/
def cascaded : List Staging :=
  [.addNode { id := ⟨1⟩, kind := .switch }, .addNode { id := ⟨2⟩, kind := .switch, parent := ⟨1⟩ },
    .addNode { id := ⟨3⟩, pci := { bus := 1 }, kind := .device, parent := ⟨2⟩ }]

theorem cascaded_records :
    ∃ b, stage cascaded = .ok b ∧ ∃ t, b.build b.nodes.size ⟨1⟩ = some t ∧ ∀ id ∈ b.nodes,
      (RecordsNearest t id ↔ AtMostOne b.nodes .rootComplex id ∧ AtMostOne b.nodes .switch id) := by
  refine ⟨_, rfl, recordsNearest_iff ?_ ⟨1⟩⟩
  decide

theorem cascaded_switches (staged : stage cascaded = .ok b) :
    Ahead (parentLink b.nodes) (kindAt b.nodes .switch) ⟨3⟩ ⟨2⟩ ∧
      Ahead (parentLink b.nodes) (kindAt b.nodes .switch) ⟨3⟩ ⟨1⟩ := by
  have lower : Link (parentLink b.nodes) ⟨3⟩ ⟨2⟩ := by
    obtain rfl := Except.ok.inj staged
    decide
  have upper : Link (parentLink b.nodes) ⟨2⟩ ⟨1⟩ := by
    obtain rfl := Except.ok.inj staged
    decide
  obtain rfl := Except.ok.inj staged
  exact ⟨⟨.single lower, by decide, by decide⟩, ⟨.tail (.single lower) upper, by decide, by decide⟩⟩

/-- The device is recorded under the upper switch, and the lower one is nearer. -/
theorem cascaded_farthest :
    ∃ b t, stage cascaded = .ok b ∧ AcyclicParents b.nodes ∧ b.build b.nodes.size ⟨1⟩ = some t ∧
      ⟨3⟩ ∈ b.nodes ∧ t.switchOf ⟨3⟩ = ⟨1⟩ ∧ NearestOfKind b.nodes .switch ⟨3⟩ ⟨2⟩ ∧
      ¬RecordsNearest t ⟨3⟩ := by
  obtain ⟨b, staged, t, built, facts⟩ : ∃ b, stage cascaded = .ok b ∧ ∃ t,
      b.build b.nodes.size ⟨1⟩ = some t ∧ AcyclicParents b.nodes ∧ ⟨3⟩ ∈ b.nodes ∧
        t.switchOf ⟨3⟩ = ⟨1⟩ ∧ NearestOfKind b.nodes .switch ⟨3⟩ ⟨2⟩ := by
    refine ⟨_, rfl, _, rfl, by decide, by decide, by decide, ?_⟩
    apply (nearest_step_iff (b := ⟨2⟩) (by decide) (by decide)).mpr
    exact nearest_self (by decide) (by decide)
  obtain ⟨acyclic, stored, recorded, nearest⟩ := facts
  refine ⟨b, t, staged, acyclic, built, stored, recorded, nearest, fun records => ?_⟩
  obtain ⟨-, lone⟩ := (recordsNearest_of_build_iff built stored).mp records
  obtain ⟨lower, upper⟩ := cascaded_switches staged
  have same := lone ⟨2⟩ ⟨1⟩ lower upper
  cases same

end NicResidency.NearestAncestors

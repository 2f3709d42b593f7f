import NicResidency.Library.OrderedMap
import NicResidency.TopologyBuilder

/-!
What the two hierarchy queries say about a built topology. Each compares one cached
node of either side, and that is the same as asking for any shared ancestor of the
kind.
-/

namespace NicResidency.SharedAncestors
open Ancestry Relation OrderedMap TopologySnapshot TopologyBuilder

/-- The node is the other or lies above it along the parent ids. The null id names no
node. -/
def AncestorOrSelf (nodes : Std.ExtTreeMap PciNodeId TopologyNode) (id above : PciNodeId) : Prop :=
  ReflTransGen (Link (parentLink nodes)) id above ∧ above.valid = true

/-- Some node of the kind is an ancestor of both, or one of them. -/
def Shares (nodes : Std.ExtTreeMap PciNodeId TopologyNode) (kind : TopologyNodeKind)
    (x y : PciNodeId) : Prop :=
  ∃ (above : PciNodeId) (node : TopologyNode), nodes[above]? = some node ∧ node.kind = kind ∧
    AncestorOrSelf nodes x above ∧ AncestorOrSelf nodes y above

variable {nodes : Std.ExtTreeMap PciNodeId TopologyNode} {kind : TopologyNodeKind}
  {x y : PciNodeId} {trail other : List PciNodeId} {b : TopologyBuilder} {t : TopologySnapshot}
  {fuel : Nat} {generation : TopologyGeneration} {calls : List Staging} {pci : PciAddress}
  {node : TopologyNode}

theorem parentLink_isSome_iff :
    (parentLink nodes x).isSome = true ↔ x.valid = true ∧ ∃ node, nodes[x]? = some node := by
  unfold parentLink
  by_cases named : x.valid = true
  · rw [if_pos named, Option.isSome_map, Option.isSome_iff_exists]
    exact (and_iff_right named).symm
  · rw [if_neg named]
    simp [named]

/-- The nodes of a trail are the stored ancestors of its first node. -/
theorem mem_trail_iff (trails : Trail (parentLink nodes) x trail) :
    y ∈ trail ↔ AncestorOrSelf nodes x y ∧ ∃ node, nodes[y]? = some node := by
  rw [trails.mem_iff, parentLink_isSome_iff, AncestorOrSelf, and_assoc]

theorem kindAt_iff : kindAt nodes kind x = true ↔ ∃ node, nodes[x]? = some node ∧ node.kind = kind := by
  unfold kindAt
  cases nodes[x]? <;> simp

/-- The cached nodes of two trails are the same node exactly when the trails share
one. -/
theorem latest_shares (first : Trail (parentLink nodes) x trail)
    (second : Trail (parentLink nodes) y other) :
    (latest (kindAt nodes kind) {} trail).valid = true ∧
        latest (kindAt nodes kind) {} trail = latest (kindAt nodes kind) {} other ↔
      Shares nodes kind x y := by
  rw [Id.valid_iff_ne, latest_shared rfl first second]
  constructor
  · rintro ⟨above, member, member', holds⟩
    obtain ⟨node, stored, same⟩ := kindAt_iff.mp holds
    exact ⟨above, node, stored, same, ((mem_trail_iff first).mp member).1,
      ((mem_trail_iff second).mp member').1⟩
  · rintro ⟨above, node, stored, same, ancestor, ancestor'⟩
    exact ⟨above, (mem_trail_iff first).mpr ⟨ancestor, node, stored⟩,
      (mem_trail_iff second).mpr ⟨ancestor', node, stored⟩, kindAt_iff.mpr ⟨node, stored, same⟩⟩

theorem isLE_iff {tag : Tag} {a b : Id tag} : (compare a b).isLE = true ↔ a.value ≤ b.value := by
  show (compare a.value b.value).isLE = true ↔ _
  exact Std.isLE_compare

/-- A node that an address resolves to is stored under its id. -/
theorem stored_of_nodeForPci (staged : stage calls = .ok b)
    (built : b.build fuel generation = some t) (resolved : t.nodeForPci pci = some node) :
    b.nodes[node.id]? = some node := by
  obtain ⟨id, stored, -⟩ := find?_values_eq_some_iff.mp resolved
  rw [(recorded_of_build built).nodes] at stored
  rwa [staged_own staged id node stored]

section
variable (staged : stage calls = .ok b) (built : b.build fuel generation = some t)
include staged built

/-- Both queries ask for a shared ancestor, each of its own kind. -/
theorem same_iff_shares {a c : PciAddress} {na nc : TopologyNode}
    (first : t.nodeForPci a = some na) (second : t.nodeForPci c = some nc) :
    (t.samePcieSwitch a c = true ↔ Shares b.nodes .switch na.id nc.id) ∧
      (t.sameRootComplex a c = true ↔ Shares b.nodes .rootComplex na.id nc.id) := by
  obtain ⟨trail, trails, cached⟩ :=
    found_of_build built (mem_of_stored (stored_of_nodeForPci staged built first))
  obtain ⟨other, others, cached'⟩ :=
    found_of_build built (mem_of_stored (stored_of_nodeForPci staged built second))
  obtain ⟨rc, sw⟩ := Prod.mk.inj cached
  obtain ⟨rc', sw'⟩ := Prod.mk.inj cached'
  rw [← latest_shares trails others, ← latest_shares trails others]
  simp only [samePcieSwitch, sameRootComplex, first, second, ← rc, ← sw, ← rc', ← sw',
    Bool.and_eq_true, beq_iff_eq, and_self]

end

theorem same_of_unresolved {a c : PciAddress} (unresolved : t.nodeForPci a = none ∨ t.nodeForPci c = none) :
    t.samePcieSwitch a c = false ∧ t.sameRootComplex a c = false := by
  unfold samePcieSwitch sameRootComplex
  rcases unresolved with none | none <;> simp [none]

/-- On every topology that the builder accepts and whose parent ids lead to no cycle,
two resolved addresses are on the same switch, or on the same root complex, exactly
when a node of that kind is an ancestor of both or one of them. Unresolved addresses
are on neither. -/
theorem queries_iff_shares (staged : stage calls = .ok b) (acyclic : AcyclicParents b.nodes)
    (generation : TopologyGeneration) :
    ∃ t, b.build b.nodes.size generation = some t ∧ ∀ a c : PciAddress,
      (∀ na nc, t.nodeForPci a = some na → t.nodeForPci c = some nc →
        (t.samePcieSwitch a c = true ↔ Shares b.nodes .switch na.id nc.id) ∧
          (t.sameRootComplex a c = true ↔ Shares b.nodes .rootComplex na.id nc.id)) ∧
      (t.nodeForPci a = none ∨ t.nodeForPci c = none →
        t.samePcieSwitch a c = false ∧ t.sameRootComplex a c = false) := by
  obtain ⟨t, built⟩ := build_isSome_iff.mpr fun id _ => walk_ends_of_acyclic acyclic id
  refine ⟨t, built, fun a c => ⟨fun na nc first second => ?_, fun unresolved => ?_⟩⟩
  · exact same_iff_shares staged built first second
  · exact same_of_unresolved unresolved

/-- Two devices below a switch. -/
def underSwitch : List Staging :=
  [.addNode { id := ⟨1⟩, kind := .switch },
    .addNode { id := ⟨2⟩, pci := { bus := 1 }, kind := .device, parent := ⟨1⟩ },
    .addNode { id := ⟨3⟩, pci := { bus := 2 }, kind := .device, parent := ⟨1⟩ }]

theorem underSwitch_queries :
    ∃ b, stage underSwitch = .ok b ∧ ∃ t, b.build b.nodes.size ⟨1⟩ = some t ∧ ∀ a c : PciAddress,
      (∀ na nc, t.nodeForPci a = some na → t.nodeForPci c = some nc →
        (t.samePcieSwitch a c = true ↔ Shares b.nodes .switch na.id nc.id) ∧
          (t.sameRootComplex a c = true ↔ Shares b.nodes .rootComplex na.id nc.id)) ∧
      (t.nodeForPci a = none ∨ t.nodeForPci c = none →
        t.samePcieSwitch a c = false ∧ t.sameRootComplex a c = false) := by
  refine ⟨_, rfl, queries_iff_shares (show stage underSwitch = .ok _ from rfl) ?_ ⟨1⟩⟩
  decide

/-- A parent id between two stored nodes, whatever the ids are. -/
def ParentOf (nodes : Std.ExtTreeMap PciNodeId TopologyNode) (id parent : PciNodeId) : Prop :=
  ∃ node, nodes[id]? = some node ∧ node.parent = parent ∧ parent ∈ nodes

/-- Two devices below a switch whose own id is null. -/
def nullSwitch : List Staging :=
  [.addNode { id := ⟨0⟩, kind := .switch, parent := ⟨9⟩ },
    .addNode { id := ⟨1⟩, pci := { bus := 1 }, kind := .device, parent := ⟨0⟩ },
    .addNode { id := ⟨2⟩, pci := { bus := 2 }, kind := .device, parent := ⟨0⟩ }]

/-- The ids decrease along the parent ids. -/
theorem nullSwitch_descends {b : TopologyBuilder} (staged : stage nullSwitch = .ok b)
    {id above : PciNodeId} (ahead : TransGen (ParentOf b.nodes) id above) : above.value < id.value := by
  have stored : ∀ entry ∈ b.nodes.toList, entry.2.parent ∈ b.nodes →
      entry.2.parent.value < entry.1.value := by
    obtain rfl := Except.ok.inj staged
    decide
  have descends {id parent : PciNodeId} (link : ParentOf b.nodes id parent) :
      parent.value < id.value := by
    obtain ⟨node, found, rfl, present⟩ := link
    exact stored (id, node) (Std.ExtTreeMap.mem_toList_iff_getElem?_eq_some.mpr found) present
  induction ahead with
  | single link => exact descends link
  | tail _ link ih => exact UInt64.lt_trans (descends link) ih

/-- The builder accepts them. The switch is the stored parent of both devices, and the
walks stop short of it. -/
theorem nullSwitch_unseen :
    ∃ b t, stage nullSwitch = .ok b ∧ (∀ id, ¬TransGen (ParentOf b.nodes) id id) ∧
      b.build b.nodes.size ⟨1⟩ = some t ∧
      (t.nodeForPci { bus := 1 }).map (·.id) = some ⟨1⟩ ∧
      (t.nodeForPci { bus := 2 }).map (·.id) = some ⟨2⟩ ∧
      (∃ (above : PciNodeId) (node : TopologyNode), b.nodes[above]? = some node ∧ node.kind = .switch ∧
        ReflTransGen (ParentOf b.nodes) ⟨1⟩ above ∧ ReflTransGen (ParentOf b.nodes) ⟨2⟩ above) ∧
      t.samePcieSwitch { bus := 1 } { bus := 2 } = false := by
  refine ⟨_, _, rfl, fun id back => ?_, rfl, by decide, by decide, ⟨⟨0⟩, _, rfl, rfl, ?_, ?_⟩, by decide⟩
  · exact UInt64.lt_irrefl _ (nullSwitch_descends rfl back)
  · exact .single ⟨_, rfl, rfl, by decide⟩
  · exact .single ⟨_, rfl, rfl, by decide⟩

end NicResidency.SharedAncestors

import NicResidency.SharedAncestors

/-!
Renaming the nodes of a topology. The builder accepts the renamed topology, the walks
in it are the renamed walks, and the locality of two addresses stays the same as long
as the renaming keeps which node an address finds first.
-/

namespace NicResidency.TopologyRenaming
open Throwing Ancestry OrderedMap TopologySnapshot TopologyBuilder SharedAncestors

/-- An injective renaming of the node ids that keeps the null id. -/
structure Renaming where
  map : PciNodeId → PciNodeId
  injective : Function.Injective map
  null : map {} = {}

namespace Renaming

def node (ρ : Renaming) (node : TopologyNode) : TopologyNode :=
  { node with id := ρ.map node.id, parent := ρ.map node.parent }

/-- The call with the renamed ids. -/
def call (ρ : Renaming) : Staging → Staging
  | .addNode node => .addNode (ρ.node node)
  | .addEdge source target => .addEdge (ρ.map source) (ρ.map target)

theorem valid_map (ρ : Renaming) (id : PciNodeId) : (ρ.map id).valid = id.valid := by
  rw [Bool.eq_iff_iff, Id.valid_iff_ne, Id.valid_iff_ne, ne_eq, ne_eq, not_iff_not]
  constructor
  · intro same
    exact ρ.injective (same.trans ρ.null.symm)
  · rintro rfl
    exact ρ.null

end Renaming

variable {ρ : Renaming} {b b' next : TopologyBuilder} {t t' : TopologySnapshot} {calls : List Staging}
  {id : PciNodeId} {node : TopologyNode}

/-- The second builder holds the renamed nodes and edges of the first. -/
structure Renamed (ρ : Renaming) (b b' : TopologyBuilder) : Prop where
  nodes : ∀ id, b'.nodes[ρ.map id]? = (b.nodes[id]?).map ρ.node
  only : ∀ id ∈ b'.nodes, ∃ old, ρ.map old = id
  size : b'.nodes.size = b.nodes.size
  edges : b'.edges = b.edges.image (Prod.map ρ.map ρ.map)

theorem Renamed.mem_iff (renamed : Renamed ρ b b') : ρ.map id ∈ b'.nodes ↔ id ∈ b.nodes := by
  rw [Std.ExtTreeMap.mem_iff_isSome_getElem?, Std.ExtTreeMap.mem_iff_isSome_getElem?, renamed.nodes,
    Option.isSome_map]

/-- A renamed call is accepted when the call is, and leaves the renamed builder. -/
theorem renamed_call {c : Staging} (renamed : Renamed ρ b b') (accepted : b.call c = .ok next) :
    ∃ next', b'.call (ρ.call c) = .ok next' ∧ Renamed ρ next next' := by
  cases c with
  | addNode new =>
    obtain ⟨room, absent, rfl⟩ := addNode_ok_iff.mp accepted
    have absent' : ρ.map new.id ∉ b'.nodes := fun present => absent (renamed.mem_iff.mp present)
    refine ⟨_, addNode_ok_iff.mpr ⟨renamed.size ▸ room, absent', rfl⟩, ?_⟩
    · show Renamed ρ _ { b' with nodes := b'.nodes.insert (ρ.map new.id) (ρ.node new) }
      constructor
      · intro id
        rw [Std.ExtTreeMap.getElem?_insert, Std.ExtTreeMap.getElem?_insert]
        by_cases same : new.id = id
        · simp [same]
        · have other : ρ.map new.id ≠ ρ.map id := fun equal => same (ρ.injective equal)
          simp [same, other, renamed.nodes]
      · intro id present
        rcases Std.ExtTreeMap.mem_insert.mp present with same | old
        · exact ⟨new.id, Std.LawfulEqOrd.compare_eq_iff_eq.mp same⟩
        · exact renamed.only id old
      · show (b'.nodes.insert _ _).size = (b.nodes.insert _ _).size
        rw [size_insert_new absent, size_insert_new absent', renamed.size]
      · exact renamed.edges
  | addEdge source target =>
    obtain ⟨room, present, rfl⟩ := addEdge_ok_iff.mp accepted
    have card : b'.edges.card = b.edges.card := by
      rw [renamed.edges]
      exact Finset.card_image_of_injective _ (ρ.injective.prodMap ρ.injective)
    refine ⟨_, addEdge_ok_iff.mpr ⟨card ▸ room,
      ⟨renamed.mem_iff.mpr present.1, renamed.mem_iff.mpr present.2⟩, rfl⟩, ?_⟩
    refine ⟨renamed.nodes, renamed.only, renamed.size, ?_⟩
    simp [renamed.edges, Finset.image_insert]

theorem renamed_foldlM {start start' : TopologyBuilder} (renamed : Renamed ρ start start')
    (staged : calls.foldlM call start = .ok b) :
    ∃ b', (calls.map ρ.call).foldlM call start' = .ok b' ∧ Renamed ρ b b' := by
  induction calls generalizing start start' with
  | nil =>
    obtain rfl : start = b := Except.ok.inj staged
    exact ⟨start', rfl, renamed⟩
  | cons c rest ih =>
    rw [List.foldlM_cons] at staged
    obtain ⟨next, called, staged⟩ := ok_of_bind staged
    obtain ⟨next', called', renamed'⟩ := renamed_call renamed called
    rw [List.map_cons, List.foldlM_cons, called']
    exact ih renamed' staged

/-- The renamed calls are accepted, and stage the renamed topology. -/
theorem renamed_stage (ρ : Renaming) (staged : stage calls = .ok b) :
    ∃ b', stage (calls.map ρ.call) = .ok b' ∧ Renamed ρ b b' := by
  refine renamed_foldlM ⟨fun id => ?_, fun id present => ?_, rfl, rfl⟩ staged
  · simp
  · simp at present

/-! Walks and cached nodes. -/

section
variable (renamed : Renamed ρ b b')
include renamed

theorem parentLink_map (id : PciNodeId) :
    parentLink b'.nodes (ρ.map id) = (parentLink b.nodes id).map ρ.map := by
  unfold parentLink
  rw [ρ.valid_map, renamed.nodes]
  split
  · cases b.nodes[id]? <;> rfl
  · rfl

theorem kindAt_map (kind : TopologyNodeKind) (id : PciNodeId) :
    kindAt b'.nodes kind (ρ.map id) = kindAt b.nodes kind id := by
  unfold kindAt
  rw [renamed.nodes]
  cases b.nodes[id]? <;> rfl

theorem found_map (trail : List PciNodeId) :
    found b'.nodes (trail.map ρ.map) = Prod.map ρ.map ρ.map (found b.nodes trail) := by
  have same (kind : TopologyNodeKind) : latest (kindAt b'.nodes kind) {} (trail.map ρ.map) =
      ρ.map (latest (kindAt b.nodes kind) {} trail) := by
    rw [← latest_map (kindAt_map renamed kind), ρ.null]
  exact Prod.ext (same .rootComplex) (same .switch)

/-- The renamed topology is built with the same fuel, and caches the renamed nodes. -/
theorem renamed_build {fuel : Nat} {generation : TopologyGeneration}
    (built : b.build fuel generation = some t) :
    ∃ t', b'.build fuel generation = some t' ∧ ∀ id ∈ b.nodes,
      t'.rootComplexOf (ρ.map id) = ρ.map (t.rootComplexOf id) ∧
        t'.switchOf (ρ.map id) = ρ.map (t.switchOf id) := by
  have walks := build_isSome_iff.mp ⟨t, built⟩
  have walks' : ∀ id ∈ b'.nodes, (ancestorWalk b'.nodes fuel {} {} id).isSome = true := by
    intro id present
    obtain ⟨old, rfl⟩ := renamed.only id present
    obtain ⟨result, walked⟩ := Option.isSome_iff_exists.mp (walks old (renamed.mem_iff.mp present))
    obtain ⟨trail, trails, short, -⟩ := ancestorWalk_eq_some_iff.mp walked
    rw [ancestorWalk_eq_some_iff.mpr
      ⟨trail.map ρ.map, trails.map (parentLink_map renamed), by simpa using short, rfl⟩]
    rfl
  obtain ⟨t', built'⟩ : ∃ t', b'.build fuel generation = some t' := build_isSome_iff.mpr walks'
  refine ⟨t', built', fun id present => ?_⟩
  obtain ⟨trail, trails, cached⟩ := found_of_build built present
  obtain ⟨trail', trails', cached'⟩ := found_of_build built' (renamed.mem_iff.mpr present)
  obtain rfl := trails'.unique (trails.map (parentLink_map renamed))
  rw [found_map renamed, cached] at cached'
  obtain ⟨rc, sw⟩ := Prod.mk.inj cached'
  exact ⟨rc.symm, sw.symm⟩

end

/-! What the addresses find. -/

/-- The node that an address finds first is found first after the renaming. -/
def KeepsFirst (ρ : Renaming) (b : TopologyBuilder) (pci : PciAddress) : Prop :=
  ∀ (id id' : PciNodeId) (node node' : TopologyNode),
    FirstMatch b.nodes (fun node => node.pci.equal pci) id node →
      b.nodes[id']? = some node' → node'.pci.equal pci = true → (ρ.map id).value ≤ (ρ.map id').value

/-- An address that only one node has finds it under every numbering. -/
theorem keepsFirst_of_single {pci : PciAddress}
    (single : ∀ x ∈ b.nodes.toList, ∀ y ∈ b.nodes.toList,
      x.2.pci.equal pci = true → y.2.pci.equal pci = true → x.1 = y.1) :
    KeepsFirst ρ b pci := by
  intro id id' node node' first stored holds
  have same : id = id' := single (id, node) (Std.ExtTreeMap.mem_toList_iff_getElem?_eq_some.mpr first.1)
    (id', node') (Std.ExtTreeMap.mem_toList_iff_getElem?_eq_some.mpr stored) first.2.1 holds
  rw [same]
  exact UInt64.le_refl _

section
variable {fuel : Nat} {generation : TopologyGeneration} {a c : PciAddress}
  (staged : stage calls = .ok b) (renamed : Renamed ρ b b') (built : b.build fuel generation = some t)
  (built' : b'.build fuel generation = some t')
  (cached : ∀ id ∈ b.nodes, t'.rootComplexOf (ρ.map id) = ρ.map (t.rootComplexOf id) ∧
    t'.switchOf (ρ.map id) = ρ.map (t.switchOf id))

include renamed in
/-- Every renamed node is the renaming of a node. -/
theorem stored_of_renamed (stored : b'.nodes[id]? = some node) :
    ∃ old x, b.nodes[old]? = some x ∧ ρ.map old = id ∧ ρ.node x = node := by
  obtain ⟨old, rfl⟩ := renamed.only id (mem_of_stored stored)
  rw [renamed.nodes, Option.map_eq_some_iff] at stored
  obtain ⟨x, stored, rfl⟩ := stored
  exact ⟨old, x, stored, rfl, rfl⟩

include renamed built built' in
theorem nodeForPci_map (keeps : KeepsFirst ρ b a) :
    t'.nodeForPci a = (t.nodeForPci a).map ρ.node := by
  have nodes := (recorded_of_build built).nodes
  have nodes' := (recorded_of_build built').nodes
  cases resolved : t.nodeForPci a with
  | none =>
    unfold nodeForPci at *
    rw [find?_values_eq_none_iff, nodes] at resolved
    rw [Option.map_none, find?_values_eq_none_iff, nodes']
    intro id node stored
    obtain ⟨old, x, plain, rfl, rfl⟩ := stored_of_renamed renamed stored
    exact resolved old x plain
  | some x =>
    unfold nodeForPci at *
    obtain ⟨id, first⟩ := find?_values_eq_some_iff.mp resolved
    rw [nodes] at first
    rw [Option.map_some, find?_values_eq_some_iff, nodes']
    refine ⟨ρ.map id, ?_, first.2.1, fun id' node stored holds => ?_⟩
    · rw [renamed.nodes, first.1]
      rfl
    · obtain ⟨old, y, plain, rfl, rfl⟩ := stored_of_renamed renamed stored
      exact isLE_iff.mpr (keeps id old x y first plain holds)

/-- Two renamed ids are the same valid one exactly when the ids are. -/
theorem valid_and_same_map (ρ : Renaming) (x y : PciNodeId) :
    ((ρ.map x).valid && ρ.map x == ρ.map y) = (x.valid && x == y) := by
  rw [ρ.valid_map, ρ.injective.beq_eq]

include staged renamed built built' cached in
theorem pairFactors_map (keepsA : KeepsFirst ρ b a) (keepsC : KeepsFirst ρ b c) :
    t'.pairFactors a c = t.pairFactors a c := by
  have findA := nodeForPci_map renamed built built' keepsA
  have findC := nodeForPci_map renamed built built' keepsC
  unfold pairFactors sameRootComplex samePcieSwitch TopologySnapshot.sameNumaNode
  rw [findA, findC]
  cases resolvedA : t.nodeForPci a with
  | none => rfl
  | some na =>
    cases resolvedC : t.nodeForPci c with
    | none => rfl
    | some nc =>
      obtain ⟨rcA, swA⟩ := cached na.id (mem_of_stored (stored_of_nodeForPci staged built resolvedA))
      obtain ⟨rcC, swC⟩ := cached nc.id (mem_of_stored (stored_of_nodeForPci staged built resolvedC))
      simp only [Option.map_some, Renaming.node, rcA, swA, rcC, swC, valid_and_same_map]

include staged renamed built built' cached in
/-- What the two topologies say about two addresses is the same. -/
theorem localityBetween_map (keepsA : KeepsFirst ρ b a) (keepsC : KeepsFirst ρ b c) :
    t'.localityBetween a c = t.localityBetween a c := by
  have findA := nodeForPci_map renamed built built' keepsA
  have findC := nodeForPci_map renamed built built' keepsC
  have factors := pairFactors_map staged renamed built built' cached keepsA keepsC
  unfold localityBetween
  rw [findA, findC, factors]
  cases t.nodeForPci a <;> cases t.nodeForPci c <;> rfl

end

/-- The renamed topology is accepted and built like the original. For every two
addresses whose first nodes the renaming keeps, both say the same. -/
theorem localityBetween_renamed (ρ : Renaming) (staged : stage calls = .ok b)
    (generation : TopologyGeneration) :
    ∃ b', stage (calls.map ρ.call) = .ok b' ∧ ∀ fuel t, b.build fuel generation = some t →
      ∃ t', b'.build fuel generation = some t' ∧ ∀ a c, KeepsFirst ρ b a → KeepsFirst ρ b c →
        t'.localityBetween a c = t.localityBetween a c := by
  obtain ⟨b', staged', renamed⟩ := renamed_stage ρ staged
  refine ⟨b', staged', fun fuel t built => ?_⟩
  obtain ⟨t', built', cached⟩ := renamed_build renamed built
  exact ⟨t', built', fun a c keepsA keepsC =>
    localityBetween_map staged renamed built built' cached keepsA keepsC⟩

def swapFirst : Renaming where
  map := Equiv.swap ⟨1⟩ ⟨2⟩
  injective := (Equiv.swap _ _).injective
  null := Equiv.swap_apply_of_ne_of_ne (by decide) (by decide)

/-- A switch at function 0 of bus 1, with or without the address of its device. -/
def switchAndDevice (switchPci : PciAddress) : List Staging :=
  [.addNode { id := ⟨1⟩, pci := switchPci, kind := .switch },
    .addNode { id := ⟨2⟩, pci := { bus := 1 }, kind := .device, parent := ⟨1⟩, numaNode := ⟨7⟩ },
    .addNode { id := ⟨3⟩, pci := { bus := 2 }, kind := .device, numaNode := ⟨7⟩ },
    .addEdge ⟨1⟩ ⟨2⟩]

theorem switchAndDevice_renamed :
    ∃ b b', stage (switchAndDevice {}) = .ok b ∧
      stage ((switchAndDevice {}).map swapFirst.call) = .ok b' ∧
      KeepsFirst swapFirst b { bus := 1 } ∧ KeepsFirst swapFirst b { bus := 2 } ∧
      ∀ fuel t, b.build fuel ⟨1⟩ = some t →
        ∃ t', b'.build fuel ⟨1⟩ = some t' ∧ ∀ a c, KeepsFirst swapFirst b a → KeepsFirst swapFirst b c →
          t'.localityBetween a c = t.localityBetween a c := by
  obtain ⟨b', staged', same⟩ := localityBetween_renamed swapFirst
    (show stage (switchAndDevice {}) = .ok _ from rfl) ⟨1⟩
  exact ⟨_, b', rfl, staged', keepsFirst_of_single (by decide), keepsFirst_of_single (by decide), same⟩

/-- With the address of its device, the switch hides it. Swapping the two ids uncovers
the device, and with it the NUMA node. -/
theorem switchAndDevice_renumbered :
    ∃ b b' t t', stage (switchAndDevice { bus := 1 }) = .ok b ∧
      stage ((switchAndDevice { bus := 1 }).map swapFirst.call) = .ok b' ∧
      b.build b.nodes.size ⟨1⟩ = some t ∧ b'.build b'.nodes.size ⟨1⟩ = some t' ∧
      (t.localityBetween { bus := 1 } { bus := 2 }).relationship = .unknown ∧
      (t'.localityBetween { bus := 1 } { bus := 2 }).relationship = .sameNumaNode :=
  ⟨_, _, _, _, rfl, rfl, rfl, rfl, by decide, by decide⟩

end NicResidency.TopologyRenaming

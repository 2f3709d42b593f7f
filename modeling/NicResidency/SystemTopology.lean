import NicResidency.SystemBackend

/-!
What the locality queries say about the topology of the system backend: which of the
enumerated addresses are on one switch, and which on one root complex.
-/

namespace NicResidency.SystemBackend
open Ancestry OrderedMap TopologySnapshot TopologyBuilder SharedAncestors PciAddress

variable {g : Grouping} {addrs : List PciAddress} {t : TopologySnapshot} {fuel : Nat}
  {generation : TopologyGeneration} {id : PciNodeId} {node : TopologyNode} {a c : PciAddress}

section
variable (numbered : Numbered g) (grouped : Grouped addrs addrs addrs g)
include numbered

theorem parentLink_stored (stored : g.b.nodes[id]? = some node) :
    parentLink g.b.nodes id = some node.parent := by
  rw [parentLink, if_pos (numbered.below id node stored).2.1, stored]
  rfl

/-- A walk from a node without a parent passes this node only. -/
theorem trail_top (stored : g.b.nodes[id]? = some node) (top : node.parent = {}) :
    Trail (parentLink g.b.nodes) id [id] :=
  .step ((parentLink_stored numbered stored).trans (congrArg some top)) (.stop rfl)

include grouped

/-- A walk from a device passes the device and the switch of its bus. -/
theorem trail_device (stored : g.b.nodes[id]? = some node) (isDevice : IsDevice g addrs id node) :
    Trail (parentLink g.b.nodes) id [id, node.parent] ∧
      kindAt g.b.nodes .switch node.parent = true ∧ kindAt g.b.nodes .rootComplex node.parent = false := by
  obtain ⟨sw, -, owned, kind, -⟩ := grouped.switches _ _ isDevice.parent
  have top := (grouped.isSwitch owned kind).parent
  exact ⟨.step (parentLink_stored numbered stored) (trail_top numbered owned top),
    by simp [kindAt, owned, kind], by simp [kindAt, owned, kind]⟩

theorem acyclic_grouped : AcyclicParents g.b.nodes := by
  apply acyclic_of_walks_end
  intro id present
  obtain ⟨node, stored⟩ := Option.isSome_iff_exists.mp (Std.ExtTreeMap.mem_iff_isSome_getElem?.mp present)
  have trails : ∃ trail, Trail (parentLink g.b.nodes) id trail := by
    rcases grouped.nodes id node stored with isSwitch | isRoot | isDevice
    · exact ⟨_, trail_top numbered stored isSwitch.parent⟩
    · exact ⟨_, trail_top numbered stored isRoot.parent⟩
    · exact ⟨_, (trail_device numbered grouped stored isDevice).1⟩
  obtain ⟨trail, trails⟩ := trails
  refine ⟨trail.length, ?_⟩
  rw [ancestorWalk_eq_some_iff.mpr ⟨trail, trails, le_rfl, rfl⟩]
  rfl

variable (built : g.b.build fuel generation = some t)
include built

/-- The switch and the root complex that are cached for a node. -/
theorem cached (stored : g.b.nodes[id]? = some node) :
    (node.kind = .rootComplex ∧ t.rootComplexOf id = id ∧ t.switchOf id = {}) ∨
      (node.kind ≠ .rootComplex ∧ t.rootComplexOf id = {} ∧
        g.busSwitch[busOf node.pci]? = some (t.switchOf id)) := by
  obtain ⟨trail, trails, same⟩ := found_of_build built (mem_of_stored stored)
  obtain ⟨rc, sw⟩ := Prod.mk.inj same
  rw [← rc, ← sw]
  rcases grouped.nodes id node stored with isSwitch | isRoot | isDevice
  · obtain rfl := trails.unique (trail_top numbered stored isSwitch.parent)
    refine .inr ⟨by simp [isSwitch.kind], ?_, ?_⟩
    · simp [latest, kindAt, stored, isSwitch.kind]
    · simpa [latest, kindAt, stored, isSwitch.kind] using isSwitch.own
  · obtain rfl := trails.unique (trail_top numbered stored isRoot.parent)
    refine .inl ⟨isRoot.kind, ?_, ?_⟩
    · simp [latest, kindAt, stored, isRoot.kind]
    · simp [latest, kindAt, stored, isRoot.kind]
  · obtain ⟨trails', onSwitch, notRoot⟩ := trail_device numbered grouped stored isDevice
    obtain rfl := trails.unique trails'
    refine .inr ⟨by simp [isDevice.kind], ?_, ?_⟩
    · have notRoot' : kindAt g.b.nodes .rootComplex id = false := by simp [kindAt, stored, isDevice.kind]
      simp [latest, notRoot, notRoot']
    · simpa [latest, onSwitch] using isDevice.parent

end

section
variable (grouped : Grouped addrs addrs addrs g) (wellFormed : ∀ a ∈ addrs, a.WellFormed)
include grouped wellFormed

theorem node_wellFormed (stored : g.b.nodes[id]? = some node) : node.pci.WellFormed := by
  rcases grouped.nodes id node stored with isSwitch | isRoot | isDevice
  · rw [WellFormed, isSwitch.pci.1, isSwitch.pci.2]
    decide
  · rw [isRoot.pci]
    exact ⟨(by decide : (0 : UInt8) < 32), (by decide : (0 : UInt8) < 8)⟩
  · exact wellFormed _ isDevice.listed

variable (built : g.b.build fuel generation = some t)
include built

/-- An enumerated address resolves to the node with the least id that has it. -/
theorem resolves_iff (enumerated : a ∈ addrs) : t.nodeForPci a = some node ↔
    ∃ id : PciNodeId, g.b.nodes[id]? = some node ∧ node.pci = a ∧
      ∀ (id' : PciNodeId) (node' : TopologyNode), g.b.nodes[id']? = some node' → node'.pci = a →
        id.value ≤ id'.value := by
  have matches_iff {id : PciNodeId} {node : TopologyNode} (stored : g.b.nodes[id]? = some node) :
      node.pci.equal a = true ↔ node.pci = a :=
    equal_iff (node_wellFormed grouped wellFormed stored) (wellFormed a enumerated)
  unfold nodeForPci
  rw [find?_values_eq_some_iff, (recorded_of_build built).nodes]
  apply exists_congr
  intro id
  constructor
  · rintro ⟨stored, holds, least⟩
    refine ⟨stored, (matches_iff stored).mp holds, fun id' node' stored' same => ?_⟩
    exact isLE_iff.mp (least id' node' stored' ((matches_iff stored').mpr same))
  · rintro ⟨stored, same, least⟩
    refine ⟨stored, (matches_iff stored).mpr same, fun id' node' stored' holds => ?_⟩
    exact isLE_iff.mpr (least id' node' stored' ((matches_iff stored').mp holds))

variable (numbered : Numbered g)
include numbered

/-- Every enumerated address resolves. -/
theorem exists_resolved (enumerated : a ∈ addrs) :
    ∃ node, t.nodeForPci a = some node ∧ g.b.nodes[node.id]? = some node ∧ node.pci = a := by
  have found : t.nodeForPci a ≠ none := by
    intro none
    obtain ⟨id, node, stored, -, same⟩ := grouped.listed a enumerated
    unfold nodeForPci at none
    rw [find?_values_eq_none_iff, (recorded_of_build built).nodes] at none
    have differs := none id node stored
    rw [(equal_iff (node_wellFormed grouped wellFormed stored) (wellFormed a enumerated)).mpr same] at differs
    cases differs
  obtain ⟨node, resolved⟩ := Option.ne_none_iff_exists'.mp found
  obtain ⟨id, stored, same, -⟩ := (resolves_iff grouped wellFormed built enumerated).mp resolved
  refine ⟨node, resolved, ?_, same⟩
  rw [(numbered.below id node stored).1]
  exact stored

end

/-- The address resolves to the node of a root complex. -/
def AtRoot (t : TopologySnapshot) (a : PciAddress) : Prop :=
  ∃ node, t.nodeForPci a = some node ∧ node.kind = .rootComplex

theorem atRoot_iff (resolved : t.nodeForPci a = some node) : AtRoot t a ↔ node.kind = .rootComplex := by
  unfold AtRoot
  rw [resolved]
  simp

theorem pci_eq (bus : a.bus = 0) (device : a.device = 0) (function : a.function = 0) :
    a = { segment := a.segment } := by
  cases a
  simp_all

theorem busOf_inj (same : busOf a = busOf c) : a.bus = c.bus := by
  rw [← UInt8.toNat_inj]
  exact congrArg UInt32.toNat same

section
variable (numbered : Numbered g) (grouped : Grouped addrs addrs addrs g)
  (built : g.b.build fuel generation = some t) (wellFormed : ∀ a ∈ addrs, a.WellFormed)
include numbered grouped built wellFormed

/-- The answer to the switch query. -/
theorem samePcieSwitch_iff (first : a ∈ addrs) (second : c ∈ addrs) :
    t.samePcieSwitch a c = true ↔ ¬AtRoot t a ∧ ¬AtRoot t c ∧ a.bus = c.bus := by
  obtain ⟨na, resolved, stored, rfl⟩ := exists_resolved grouped wellFormed built numbered first
  obtain ⟨nc, resolved', stored', rfl⟩ := exists_resolved grouped wellFormed built numbered second
  have answer : t.samePcieSwitch na.pci nc.pci = true ↔
      (t.switchOf na.id).valid = true ∧ t.switchOf na.id = t.switchOf nc.id := by
    simp only [samePcieSwitch, resolved, resolved', Bool.and_eq_true, beq_iff_eq]
  rw [answer, atRoot_iff resolved, atRoot_iff resolved']
  rcases cached numbered grouped built stored with ⟨root, -, none⟩ | ⟨below, -, owner⟩
  · simp [root, none]
  · rcases cached numbered grouped built stored' with ⟨root, -, none⟩ | ⟨below', -, owner'⟩
    · simp only [root, none, not_true, false_and, and_false, iff_false, not_and]
      intro named same
      rw [same] at named
      cases named
    · obtain ⟨node, -, owned, -, same, -⟩ := grouped.switches _ _ owner
      obtain ⟨node', -, owned', -, same', -⟩ := grouped.switches _ _ owner'
      rw [and_iff_right (numbered.below _ _ owned).2.1, and_iff_right below, and_iff_right below']
      constructor
      · intro one
        rw [← one, owned, Option.some.injEq] at owned'
        rw [← owned', same] at same'
        exact busOf_inj same'
      · intro bus
        rw [show busOf nc.pci = busOf na.pci from congrArg UInt8.toUInt32 bus.symm, owner] at owner'
        exact Option.some.inj owner'

/-- An address that resolves to no root complex is on none. -/
theorem sameRootComplex_self (first : a ∈ addrs) (below : ¬AtRoot t a) :
    t.sameRootComplex a a = false := by
  obtain ⟨na, resolved, stored, rfl⟩ := exists_resolved grouped wellFormed built numbered first
  rw [atRoot_iff resolved] at below
  obtain ⟨-, none, -⟩ := (cached numbered grouped built stored).resolve_left fun root => below root.1
  simp [sameRootComplex, resolved, none]

end

section
variable (grouped : Grouped addrs addrs addrs g) (built : g.b.build fuel generation = some t)
  (wellFormed : ∀ a ∈ addrs, a.WellFormed)
include grouped built wellFormed

/-- An address of a root complex is on bus zero, and unless the switch of that bus was
staged for another segment, its segment began on another bus. -/
theorem pci_of_atRoot (enumerated : a ∈ addrs) (atRoot : AtRoot t a) :
    a = { segment := a.segment } ∧
      ∀ f b, firstOf PciAddress.segment addrs a.segment = some f → busOf f = 0 →
        firstOf busOf addrs 0 = some b → b.segment ≠ a.segment := by
  obtain ⟨node, resolved, kind⟩ := atRoot
  obtain ⟨id, stored, rfl, least⟩ := (resolves_iff grouped wellFormed built enumerated).mp resolved
  have isRoot := grouped.isRoot stored kind
  refine ⟨isRoot.pci, fun f b first zero firstBus same => ?_⟩
  obtain ⟨sw, owner, less⟩ := grouped.after _ _ _ isRoot.own first
  rw [zero] at owner
  obtain ⟨switch, b', owned, onSwitch, bus, firstBus', segment⟩ := grouped.switches _ _ owner
  obtain rfl := Option.some.inj (firstBus.symm.trans firstBus')
  have isSwitch := grouped.isSwitch owned onSwitch
  have sameAddress : switch.pci = node.pci := by
    rw [isRoot.pci, ← same, segment]
    exact pci_eq (busOf_inj (c := {}) bus) isSwitch.pci.1 isSwitch.pci.2
  exact absurd less (UInt64.not_lt.mpr (least sw switch owned sameAddress))

/-- An address of bus zero resolves to the root complex when its segment began on
another bus. -/
theorem atRoot_of_pci (enumerated : a ∈ addrs) (plain : a = { segment := a.segment })
    (sole : ∀ c ∈ addrs, busOf c = 0 → c.segment = a.segment)
    (other : ∀ f, firstOf PciAddress.segment addrs a.segment = some f → busOf f ≠ 0) : AtRoot t a := by
  obtain ⟨rc, root⟩ := grouped.rooted a enumerated
  obtain ⟨node, f, stored, kind, segment, first⟩ := grouped.roots _ _ root
  have isRoot := grouped.isRoot stored kind
  refine ⟨node, (resolves_iff grouped wellFormed built enumerated).mpr ⟨rc, stored, ?_, ?_⟩, kind⟩
  · rw [isRoot.pci, segment]
    exact plain.symm
  · intro id' node' stored' same
    rcases grouped.nodes id' node' stored' with isSwitch | isRoot' | isDevice
    · by_contra later
      have zero : busOf node'.pci = 0 := by
        rw [same, plain]
        rfl
      have own := isSwitch.own
      rw [zero] at own
      obtain ⟨c, member, onBus, firstly⟩ := grouped.before _ _ _ _ root own (UInt64.not_le.mp later)
      exact other c (firstly (sole c member onBus)) onBus
    · have own := isRoot'.own
      rw [same, root, Option.some.injEq] at own
      exact UInt64.le_of_eq (congrArg Id.value own)
    · obtain ⟨rc', root', older⟩ := isDevice.root
      rw [same, root, Option.some.injEq] at root'
      rw [root']
      exact UInt64.le_of_lt older

end

/-- Two addresses are told to be on one switch exactly when they share segment and bus. -/
def SwitchesTold (t : TopologySnapshot) (addrs : List PciAddress) : Prop :=
  ∀ a ∈ addrs, ∀ c ∈ addrs, t.samePcieSwitch a c = true ↔ a.segment = c.segment ∧ a.bus = c.bus

/-- Two addresses are told to be on one root complex exactly when they share the
segment. -/
def RootsTold (t : TopologySnapshot) (addrs : List PciAddress) : Prop :=
  ∀ a ∈ addrs, ∀ c ∈ addrs, t.sameRootComplex a c = true ↔ a.segment = c.segment

/-- No bus number is used in two segments. -/
def OneSegmentPerBus (addrs : List PciAddress) : Prop :=
  ∀ a ∈ addrs, ∀ c ∈ addrs, a.bus = c.bus → a.segment = c.segment

/-- A segment with a device at bus zero, device zero and function zero was first
enumerated on bus zero. -/
def RootBusFirst (addrs : List PciAddress) : Prop :=
  ∀ a ∈ addrs, a = { segment := a.segment } →
    ∀ f, firstOf PciAddress.segment addrs a.segment = some f → f.bus = 0

section
variable (grouped : Grouped addrs addrs addrs g) (built : g.b.build fuel generation = some t)
  (wellFormed : ∀ a ∈ addrs, a.WellFormed)
include grouped built wellFormed

/-- No address resolves to a root complex when the switches come first. -/
theorem not_atRoot (sole : OneSegmentPerBus addrs) (rootFirst : RootBusFirst addrs)
    (enumerated : a ∈ addrs) : ¬AtRoot t a := by
  intro atRoot
  obtain ⟨plain, between⟩ := pci_of_atRoot grouped built wellFormed enumerated atRoot
  obtain ⟨rc, root⟩ := grouped.rooted a enumerated
  obtain ⟨-, f, -, -, -, first⟩ := grouped.roots _ _ root
  have zero : busOf f = 0 := congrArg UInt8.toUInt32 (rootFirst a enumerated plain f first)
  obtain ⟨sw, owner⟩ := grouped.switched f (mem_of_firstOf first).1
  obtain ⟨-, b, -, -, -, firstBus, -⟩ := grouped.switches _ _ owner
  rw [zero] at firstBus
  obtain ⟨member, onBus⟩ := mem_of_firstOf firstBus
  have sameBus : b.bus = a.bus := by
    rw [plain]
    exact busOf_inj (c := {}) onBus
  exact between f b first zero firstBus (sole b member a enumerated sameBus)

end

section
variable (numbered : Numbered g) (grouped : Grouped addrs addrs addrs g)
  (built : g.b.build fuel generation = some t) (wellFormed : ∀ a ∈ addrs, a.WellFormed)
include numbered grouped built wellFormed

theorem switchesTold_iff : SwitchesTold t addrs ↔ OneSegmentPerBus addrs ∧ RootBusFirst addrs := by
  constructor
  · intro told
    have below (a : PciAddress) (enumerated : a ∈ addrs) : ¬AtRoot t a :=
      ((samePcieSwitch_iff numbered grouped built wellFormed enumerated enumerated).mp
        ((told a enumerated a enumerated).mpr ⟨rfl, rfl⟩)).1
    have sole : OneSegmentPerBus addrs := by
      intro a first c second sameBus
      have answer := (samePcieSwitch_iff numbered grouped built wellFormed first second).mpr
        ⟨below a first, below c second, sameBus⟩
      exact ((told a first c second).mp answer).1
    refine ⟨sole, fun a enumerated plain f first => ?_⟩
    by_contra other
    refine below a enumerated (atRoot_of_pci grouped built wellFormed enumerated plain ?_ ?_)
    · intro c member onBus
      apply sole c member a enumerated
      rw [plain]
      exact busOf_inj (c := {}) onBus
    · intro f' first' onBus
      obtain rfl := Option.some.inj (first.symm.trans first')
      exact other (busOf_inj (c := {}) onBus)
  · rintro ⟨sole, rootFirst⟩ a first c second
    have below {a : PciAddress} (enumerated : a ∈ addrs) : ¬AtRoot t a :=
      not_atRoot grouped built wellFormed sole rootFirst enumerated
    rw [samePcieSwitch_iff numbered grouped built wellFormed first second, and_iff_right (below first),
      and_iff_right (below second)]
    exact ⟨fun sameBus => ⟨sole a first c second sameBus, sameBus⟩, And.right⟩

/-- The first enumerated address is told to be on no root complex. -/
theorem rootsTold_iff : RootsTold t addrs ↔ addrs = [] := by
  constructor
  · intro told
    cases addrs with
    | nil => rfl
    | cons first rest =>
      have enumerated : first ∈ first :: rest := List.mem_cons_self ..
      have below : ¬AtRoot t first := by
        intro atRoot
        obtain ⟨plain, between⟩ := pci_of_atRoot grouped built wellFormed enumerated atRoot
        have zero : busOf first = 0 := by
          rw [plain]
          rfl
        exact between first first (by simp [firstOf]) zero (by simp [firstOf, zero]) rfl
      have answer := (told first enumerated first enumerated).mpr rfl
      rw [sameRootComplex_self numbered grouped built wellFormed enumerated below] at answer
      cases answer
  · rintro rfl a member
    cases member

end

/-- The topology of an enumeration within the limits is built. The root complexes are
never told right, and the switches are told right as long as no bus number is used
twice and no root complex hides a device. -/
theorem system_queries (wellFormed : ∀ a ∈ addrs, a.WellFormed) (within : group addrs = .ok g)
    (generation : TopologyGeneration) :
    ∃ t, buildTopology addrs g.b.nodes.size generation = .ok (some t) ∧
      (SwitchesTold t addrs ∧ RootsTold t addrs ↔ addrs = []) ∧
      (SwitchesTold t addrs ↔ OneSegmentPerBus addrs ∧ RootBusFirst addrs) := by
  obtain ⟨numbered, grouped⟩ := grouped_of_group within
  have acyclic := acyclic_grouped numbered grouped
  obtain ⟨t, built⟩ := build_isSome_iff.mpr fun id _ => walk_ends_of_acyclic acyclic id
  refine ⟨t, ?_, ?_, switchesTold_iff numbered grouped built wellFormed⟩
  · unfold buildTopology
    rw [within]
    exact congrArg Except.ok built
  · rw [rootsTold_iff numbered grouped built wellFormed]
    constructor
    · exact And.right
    · rintro rfl
      refine ⟨fun a member => ?_, rfl⟩
      cases member

/-- An accelerator and a network device of one segment, on two buses. -/
def validated : List PciAddress := [{ bus := 0x01 }, { bus := 0x0d }]

theorem validated_queries :
    ∃ g, group validated = .ok g ∧
      ∃ t, buildTopology validated g.b.nodes.size ⟨1⟩ = .ok (some t) ∧
        (SwitchesTold t validated ∧ RootsTold t validated ↔ validated = []) ∧
        (SwitchesTold t validated ↔ OneSegmentPerBus validated ∧ RootBusFirst validated) := by
  refine ⟨_, rfl, system_queries (by decide) rfl ⟨1⟩⟩

/-- They are told to be on different root complexes. -/
theorem validated_apart :
    ∃ t, buildTopology validated 8 ⟨1⟩ = .ok (some t) ∧
      t.sameRootComplex { bus := 0x01 } { bus := 0x0d } = false := by
  have answered : ((buildTopology validated 8 ⟨1⟩).toOption.bind id).map
      (fun t => t.sameRootComplex { bus := 0x01 } { bus := 0x0d }) = some false := by decide +kernel
  obtain ⟨t, returned, apart⟩ := Option.map_eq_some_iff.mp answered
  cases result : buildTopology validated 8 ⟨1⟩ with
  | error failure =>
    rw [result] at returned
    cases returned
  | ok built =>
    rw [result] at returned
    exact ⟨t, congrArg Except.ok returned, apart⟩

end NicResidency.SystemBackend

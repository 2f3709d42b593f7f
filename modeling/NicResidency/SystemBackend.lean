import NicResidency.SharedAncestors

/-!
The topology that the system backend builds from the enumerated PCI addresses. One
loop groups the devices by bus and by segment and stages a switch for each bus, a
root complex for each segment and a node for each device.
-/

namespace NicResidency.SystemBackend
open Throwing Ancestry OrderedMap TopologySnapshot TopologyBuilder SharedAncestors

/-- What the grouping loop keeps between two addresses. -/
structure Grouping where
  b : TopologyBuilder := {}
  /-- The switch of a bus, whatever the segment is. -/
  busSwitch : Std.ExtTreeMap UInt32 PciNodeId := ∅
  segRc : Std.ExtTreeMap UInt16 PciNodeId := ∅
  nc : UInt64 := 1

namespace Grouping

/-- Stage a node under the next id. -/
def place (g : Grouping) (pci : PciAddress) (kind : TopologyNodeKind) (parent : PciNodeId)
    (sources : List Source) : Except ResidencyError (PciNodeId × Grouping) := do
  let b ← g.b.addNode { id := ⟨g.nc⟩, pci, kind, parent, provenance := ⟨.real, sources⟩ }
  return (⟨g.nc⟩, { g with b, nc := g.nc + 1 })

/-- The switch of the bus. -/
def switchFor (g : Grouping) (pci : PciAddress) : Except ResidencyError (PciNodeId × Grouping) :=
  match g.busSwitch[pci.bus.toUInt32]? with
  | some sw => return (sw, g)
  | none => do
    let (sw, g) ← g.place { segment := pci.segment, bus := pci.bus } .switch {} [.pci, .derived]
    return (sw, { g with busSwitch := g.busSwitch.insert pci.bus.toUInt32 sw })

/-- The root complex of the segment. -/
def rootFor (g : Grouping) (pci : PciAddress) : Except ResidencyError (PciNodeId × Grouping) :=
  match g.segRc[pci.segment]? with
  | some rc => return (rc, g)
  | none => do
    let (rc, g) ← g.place { segment := pci.segment } .rootComplex {} [.pci, .derived]
    return (rc, { g with segRc := g.segRc.insert pci.segment rc })

def link (g : Grouping) (source target : PciNodeId) : Except ResidencyError Grouping := do
  let b ← g.b.addEdge source target
  return { g with b }

/-- One round of the grouping loop. -/
def add (g : Grouping) (pci : PciAddress) : Except ResidencyError Grouping := do
  let (sw, g) ← g.switchFor pci
  let (rc, g) ← g.rootFor pci
  let g ← g.link sw rc
  let (dev, g) ← g.place pci .device sw [.pci]
  g.link dev sw

end Grouping

def group (addrs : List PciAddress) : Except ResidencyError Grouping :=
  addrs.foldlM Grouping.add {}

def buildTopology (addrs : List PciAddress) (fuel : Nat) (generation : TopologyGeneration) :
    Except ResidencyError (Option TopologySnapshot) := do
  let g ← group addrs
  return g.b.build fuel generation

/-! The numbers of the nodes. -/

/-- The nodes are numbered from one on, below the counter. -/
structure Numbered (g : Grouping) : Prop where
  counter : g.nc.toNat = g.b.nodes.size + 1
  bounded : g.b.nodes.size ≤ kMaxNodes
  below : ∀ (id : PciNodeId) (node : TopologyNode), g.b.nodes[id]? = some node →
    node.id = id ∧ id.valid = true ∧ id.value < g.nc

variable {g g' : Grouping} {pci : PciAddress} {kind : TopologyNodeKind} {parent id : PciNodeId}
  {sources : List Source}

/-- A placed node has the next number, which no node had. -/
theorem place_ok (numbered : Numbered g)
    (placed : g.place pci kind parent sources = .ok (id, g')) :
    id = ⟨g.nc⟩ ∧ Numbered g' ∧ g'.busSwitch = g.busSwitch ∧ g'.segRc = g.segRc ∧
      ∀ (other : PciNodeId) (node : TopologyNode), g'.b.nodes[other]? = some node ↔
        g.b.nodes[other]? = some node ∨
          other = ⟨g.nc⟩ ∧ node = { id := ⟨g.nc⟩, pci, kind, parent, provenance := ⟨.real, sources⟩ } := by
  unfold Grouping.place at placed
  cases added : g.b.addNode { id := ⟨g.nc⟩, pci, kind, parent, provenance := ⟨.real, sources⟩ } with
  | error failure =>
    rw [added] at placed
    cases placed
  | ok b =>
    rw [added] at placed
    obtain ⟨rfl, rfl⟩ := Prod.mk.inj (Except.ok.inj placed)
    obtain ⟨room, new, rfl⟩ := addNode_ok_iff.mp added
    have counter := numbered.counter
    have small : g.b.nodes.size < 4096 := room
    have advanced : (g.nc + 1).toNat = g.nc.toNat + 1 := by
      show (g.nc.toNat + 1) % 2 ^ 64 = g.nc.toNat + 1
      exact Nat.mod_eq_of_lt (by omega)
    have next : g.nc < g.nc + 1 := by
      rw [UInt64.lt_iff_toNat_lt, advanced]
      exact Nat.lt_succ_self _
    have lookup (other : PciNodeId) (node : TopologyNode) :
        (g.b.nodes.insert ⟨g.nc⟩ { id := ⟨g.nc⟩, pci, kind, parent, provenance := ⟨.real, sources⟩ })[other]? =
            some node ↔ g.b.nodes[other]? = some node ∨
          other = ⟨g.nc⟩ ∧ node = { id := ⟨g.nc⟩, pci, kind, parent, provenance := ⟨.real, sources⟩ } := by
      rw [Std.ExtTreeMap.getElem?_insert]
      by_cases same : other = ⟨g.nc⟩
      · subst same
        have absent : g.b.nodes[(⟨g.nc⟩ : PciNodeId)]? = none := Std.ExtTreeMap.getElem?_eq_none new
        simp [absent, eq_comm]
      · simp [same, Ne.symm same]
    refine ⟨rfl, ⟨?_, ?_, fun other node stored => ?_⟩, rfl, rfl, lookup⟩
    · show (g.nc + 1).toNat = (g.b.nodes.insert _ _).size + 1
      rw [advanced, counter, size_insert_new new]
    · show (g.b.nodes.insert _ _).size ≤ kMaxNodes
      rw [size_insert_new new]
      exact room
    · rcases (lookup other node).mp stored with old | ⟨rfl, rfl⟩
      · obtain ⟨own, named, less⟩ := numbered.below other node old
        exact ⟨own, named, UInt64.lt_trans less next⟩
      · refine ⟨rfl, ?_, next⟩
        rw [Id.valid_iff]
        intro zero
        have none : g.nc.toNat = 0 := congrArg UInt64.toNat zero
        omega

/-! What the loop has built. The switch of an address is staged before its root
complex, and that before its device, so the invariant takes three lists of addresses:
those whose bus, whose segment and whose device has been handled. -/

def busOf (pci : PciAddress) : UInt32 := pci.bus.toUInt32

/-- The first address of a bus or of a segment. -/
def firstOf {κ : Type} [DecidableEq κ] (key : PciAddress → κ) (addrs : List PciAddress) (k : κ) :
    Option PciAddress :=
  addrs.find? fun a => key a = k

structure IsSwitch (g : Grouping) (id : PciNodeId) (node : TopologyNode) : Prop where
  kind : node.kind = .switch
  parent : node.parent = {}
  pci : node.pci.device = 0 ∧ node.pci.function = 0
  own : g.busSwitch[busOf node.pci]? = some id

structure IsRoot (g : Grouping) (id : PciNodeId) (node : TopologyNode) : Prop where
  kind : node.kind = .rootComplex
  parent : node.parent = {}
  pci : node.pci = { segment := node.pci.segment }
  own : g.segRc[node.pci.segment]? = some id

structure IsDevice (g : Grouping) (done : List PciAddress) (id : PciNodeId) (node : TopologyNode) :
    Prop where
  kind : node.kind = .device
  listed : node.pci ∈ done
  parent : g.busSwitch[busOf node.pci]? = some node.parent
  root : ∃ rc, g.segRc[node.pci.segment]? = some rc ∧ rc.value < id.value

structure Grouped (buses segs done : List PciAddress) (g : Grouping) : Prop where
  nodes : ∀ (id : PciNodeId) (node : TopologyNode), g.b.nodes[id]? = some node →
    IsSwitch g id node ∨ IsRoot g id node ∨ IsDevice g done id node
  switches : ∀ (bus : UInt32) (sw : PciNodeId), g.busSwitch[bus]? = some sw →
    ∃ node a, g.b.nodes[sw]? = some node ∧ node.kind = .switch ∧ busOf node.pci = bus ∧
      firstOf busOf buses bus = some a ∧ a.segment = node.pci.segment
  roots : ∀ (segment : UInt16) (rc : PciNodeId), g.segRc[segment]? = some rc →
    ∃ node a, g.b.nodes[rc]? = some node ∧ node.kind = .rootComplex ∧ node.pci.segment = segment ∧
      firstOf PciAddress.segment segs segment = some a
  switched : ∀ a ∈ buses, ∃ sw, g.busSwitch[busOf a]? = some sw
  rooted : ∀ a ∈ segs, ∃ rc, g.segRc[a.segment]? = some rc
  listed : ∀ a ∈ done, ∃ (id : PciNodeId) (node : TopologyNode),
    g.b.nodes[id]? = some node ∧ node.kind = .device ∧ node.pci = a
  /-- A root complex comes after the switch of the first address of its segment. -/
  after : ∀ (segment : UInt16) (rc : PciNodeId) (a : PciAddress), g.segRc[segment]? = some rc →
    firstOf PciAddress.segment segs segment = some a →
      ∃ sw, g.busSwitch[busOf a]? = some sw ∧ sw.value < rc.value
  /-- A switch before a root complex was staged for an address of another segment or
  for the first address of the segment. -/
  before : ∀ (segment : UInt16) (rc : PciNodeId) (bus : UInt32) (sw : PciNodeId),
    g.segRc[segment]? = some rc → g.busSwitch[bus]? = some sw → sw.value < rc.value →
      ∃ a ∈ buses, busOf a = bus ∧ (a.segment = segment → firstOf PciAddress.segment segs segment = some a)

section
variable {node : TopologyNode} {buses segs done : List PciAddress}

/-- The kind of a node tells what it was staged for. -/
theorem Grouped.isSwitch (grouped : Grouped buses segs done g) (stored : g.b.nodes[id]? = some node)
    (kind : node.kind = .switch) : IsSwitch g id node := by
  rcases grouped.nodes id node stored with isSwitch | isRoot | isDevice
  · exact isSwitch
  · exact nomatch isRoot.kind.symm.trans kind
  · exact nomatch isDevice.kind.symm.trans kind

theorem Grouped.isRoot (grouped : Grouped buses segs done g) (stored : g.b.nodes[id]? = some node)
    (kind : node.kind = .rootComplex) : IsRoot g id node := by
  rcases grouped.nodes id node stored with isSwitch | isRoot | isDevice
  · exact nomatch isSwitch.kind.symm.trans kind
  · exact isRoot
  · exact nomatch isDevice.kind.symm.trans kind

end

/-- Nothing that was built is lost. -/
structure Extends (g g' : Grouping) : Prop where
  buses : ∀ (bus : UInt32) (sw : PciNodeId), g.busSwitch[bus]? = some sw → g'.busSwitch[bus]? = some sw
  segs : ∀ (segment : UInt16) (rc : PciNodeId), g.segRc[segment]? = some rc → g'.segRc[segment]? = some rc
  nodes : ∀ (id : PciNodeId) (node : TopologyNode), g.b.nodes[id]? = some node → g'.b.nodes[id]? = some node

section
variable {node : TopologyNode} {done : List PciAddress} (extend : Extends g g')
include extend

theorem IsSwitch.mono (isSwitch : IsSwitch g id node) : IsSwitch g' id node :=
  { isSwitch with own := extend.buses _ _ isSwitch.own }

theorem IsRoot.mono (isRoot : IsRoot g id node) : IsRoot g' id node :=
  { isRoot with own := extend.segs _ _ isRoot.own }

theorem IsDevice.mono {more : List PciAddress} (sub : done ⊆ more) (isDevice : IsDevice g done id node) :
    IsDevice g' more id node := by
  obtain ⟨rc, root, older⟩ := isDevice.root
  exact { isDevice with
    listed := sub isDevice.listed
    parent := extend.buses _ _ isDevice.parent
    root := ⟨rc, extend.segs _ _ root, older⟩ }

/-- The nodes there were keep their places. -/
theorem kept_place {more : List PciAddress} (sub : done ⊆ more)
    (place : IsSwitch g id node ∨ IsRoot g id node ∨ IsDevice g done id node) :
    IsSwitch g' id node ∨ IsRoot g' id node ∨ IsDevice g' more id node :=
  place.imp (IsSwitch.mono extend) (Or.imp (IsRoot.mono extend) (IsDevice.mono extend sub))

variable {buses segs : List PciAddress} (grouped : Grouped buses segs done g)
include grouped

theorem kept_switch {bus : UInt32} {sw : PciNodeId} (owner : g.busSwitch[bus]? = some sw) :
    ∃ node a, g'.b.nodes[sw]? = some node ∧ node.kind = .switch ∧ busOf node.pci = bus ∧
      firstOf busOf buses bus = some a ∧ a.segment = node.pci.segment := by
  obtain ⟨node, a, stored, rest⟩ := grouped.switches bus sw owner
  exact ⟨node, a, extend.nodes _ _ stored, rest⟩

theorem kept_root {segment : UInt16} {rc : PciNodeId} (root : g.segRc[segment]? = some rc) :
    ∃ node a, g'.b.nodes[rc]? = some node ∧ node.kind = .rootComplex ∧ node.pci.segment = segment ∧
      firstOf PciAddress.segment segs segment = some a := by
  obtain ⟨node, a, stored, rest⟩ := grouped.roots segment rc root
  exact ⟨node, a, extend.nodes _ _ stored, rest⟩

theorem kept_listed {a : PciAddress} (member : a ∈ done) : ∃ (id : PciNodeId) (node : TopologyNode),
    g'.b.nodes[id]? = some node ∧ node.kind = .device ∧ node.pci = a := by
  obtain ⟨id, node, stored, rest⟩ := grouped.listed a member
  exact ⟨id, node, extend.nodes _ _ stored, rest⟩

end

section
variable {done : List PciAddress} {a : PciAddress} {sw rc : PciNodeId}

theorem mem_done_or_last {c : PciAddress} (member : c ∈ done ++ [a]) : c ∈ done ∨ c = a := by
  rwa [List.mem_append, List.mem_singleton] at member

theorem find_insert {κ : Type} [Ord κ] [Std.TransOrd κ] [Std.LawfulEqOrd κ] [DecidableEq κ]
    {map : Std.ExtTreeMap κ PciNodeId} {key other : κ} {new : PciNodeId} :
    (map.insert key new)[other]? = some id ↔ other = key ∧ id = new ∨ other ≠ key ∧ map[other]? = some id := by
  rw [Std.ExtTreeMap.getElem?_insert]
  by_cases same : other = key
  · simp [same, eq_comm]
  · simp [same, Ne.symm same]

/-- An entry at a new key leaves the others. -/
theorem kept_insert {κ : Type} [Ord κ] [Std.TransOrd κ] [Std.LawfulEqOrd κ] [DecidableEq κ]
    {map : Std.ExtTreeMap κ PciNodeId} {key other : κ} {new : PciNodeId} (absent : map[key]? = none)
    (stored : map[other]? = some id) : (map.insert key new)[other]? = some id := by
  refine find_insert.mpr (.inr ⟨?_, stored⟩)
  intro same
  rw [same, absent] at stored
  cases stored

section
variable {κ : Type} [DecidableEq κ] {key : PciAddress → κ} {k : κ} {c : PciAddress}

theorem firstOf_append_same (known : firstOf key done k = some c) :
    firstOf key (done ++ [a]) k = some c := by
  unfold firstOf at *
  rw [List.find?_append, known]
  rfl

theorem firstOf_append_other (other : key a ≠ k) : firstOf key (done ++ [a]) k = firstOf key done k := by
  simp [firstOf, List.find?_append, other]

theorem firstOf_append_new (new : ∀ c ∈ done, key c ≠ k) (same : key a = k) :
    firstOf key (done ++ [a]) k = some a := by
  have absent : done.find? (fun c => key c = k) = none := by simpa [List.find?_eq_none] using new
  unfold firstOf
  rw [List.find?_append, absent]
  simp [same]

theorem mem_of_firstOf (first : firstOf key done k = some c) : c ∈ done ∧ key c = k :=
  ⟨List.mem_of_find?_eq_some first, by simpa using List.find?_some first⟩

end

/-- A bus with a switch has it for one more address. -/
theorem knownSwitch_keeps (grouped : Grouped done done done g)
    (known : g.busSwitch[busOf a]? = some sw) : Grouped (done ++ [a]) done done g := by
  refine { grouped with
    switches := fun bus sw owner => ?_, switched := fun c member => ?_,
    before := fun segment rc bus sw root owner less => ?_ }
  · obtain ⟨node, c, stored, kind, same, first, segment⟩ := grouped.switches bus sw owner
    exact ⟨node, c, stored, kind, same, firstOf_append_same first, segment⟩
  · rcases mem_done_or_last member with old | rfl
    · exact grouped.switched c old
    · exact ⟨_, known⟩
  · obtain ⟨c, member, rest⟩ := grouped.before segment rc bus sw root owner less
    exact ⟨c, List.mem_append_left _ member, rest⟩

/-- A bus without a switch gets a new one. -/
theorem newSwitch_keeps (numbered : Numbered g) (grouped : Grouped done done done g)
    (unknown : g.busSwitch[busOf a]? = none)
    (placed : g.place { segment := a.segment, bus := a.bus } .switch {} [.pci, .derived] = .ok (sw, g')) :
    Numbered { g' with busSwitch := g'.busSwitch.insert (busOf a) sw } ∧
      Grouped (done ++ [a]) done done { g' with busSwitch := g'.busSwitch.insert (busOf a) sw } := by
  obtain ⟨rfl, numbered', buses, segs, lookup⟩ := place_ok numbered placed
  have new (c : PciAddress) (member : c ∈ done) : busOf c ≠ busOf a := by
    intro same
    obtain ⟨sw, owner⟩ := grouped.switched c member
    rw [same, unknown] at owner
    cases owner
  have extend : Extends g { g' with busSwitch := g'.busSwitch.insert (busOf a) ⟨g.nc⟩ } := by
    refine ⟨fun bus sw owner => ?_, fun segment rc root => ?_, fun id node stored => ?_⟩
    · rw [buses]
      exact kept_insert unknown owner
    · rw [segs]
      exact root
    · exact (lookup id node).mpr (.inl stored)
  have here : (g'.busSwitch.insert (busOf a) ⟨g.nc⟩)[busOf a]? = some ⟨g.nc⟩ := by simp
  refine ⟨⟨numbered'.counter, numbered'.bounded, numbered'.below⟩, ?_⟩
  constructor
  · intro id node stored
    rcases (lookup id node).mp stored with old | ⟨rfl, rfl⟩
    · exact kept_place extend (List.Subset.refl _) (grouped.nodes id node old)
    · exact .inl ⟨rfl, rfl, ⟨rfl, rfl⟩, here⟩
  · intro bus sw owner
    rcases find_insert.mp owner with ⟨rfl, rfl⟩ | ⟨-, old⟩
    · exact ⟨_, a, (lookup _ _).mpr (.inr ⟨rfl, rfl⟩), rfl, rfl, firstOf_append_new new rfl, rfl⟩
    · rw [buses] at old
      obtain ⟨node, c, stored, kind, same, first, segment⟩ := kept_switch extend grouped old
      exact ⟨node, c, stored, kind, same, firstOf_append_same first, segment⟩
  · intro segment rc root
    rw [segs] at root
    exact kept_root extend grouped root
  · intro c member
    rcases mem_done_or_last member with old | rfl
    · obtain ⟨sw, owner⟩ := grouped.switched c old
      exact ⟨sw, extend.buses _ _ owner⟩
    · exact ⟨_, here⟩
  · intro c member
    obtain ⟨rc, root⟩ := grouped.rooted c member
    exact ⟨rc, extend.segs _ _ root⟩
  · exact fun c member => kept_listed extend grouped member
  · intro segment rc c root first
    rw [segs] at root
    obtain ⟨sw, owner, less⟩ := grouped.after segment rc c root first
    exact ⟨sw, extend.buses _ _ owner, less⟩
  · intro segment rc bus sw root owner less
    rw [segs] at root
    rcases find_insert.mp owner with ⟨rfl, rfl⟩ | ⟨-, old⟩
    · -- the new switch comes last
      obtain ⟨node, -, stored, -⟩ := grouped.roots segment rc root
      exact absurd less (UInt64.not_lt.mpr (UInt64.le_of_lt (numbered.below _ _ stored).2.2))
    · rw [buses] at old
      obtain ⟨c, member, rest⟩ := grouped.before segment rc bus sw root old less
      exact ⟨c, List.mem_append_left _ member, rest⟩

/-- The switch of a bus is staged, or it was there. -/
theorem switchFor_keeps (numbered : Numbered g) (grouped : Grouped done done done g)
    (found : g.switchFor a = .ok (sw, g')) :
    Numbered g' ∧ Grouped (done ++ [a]) done done g' ∧ g'.busSwitch[busOf a]? = some sw := by
  have sameBus : a.bus.toUInt32 = busOf a := rfl
  unfold Grouping.switchFor at found
  rw [sameBus] at found
  cases known : g.busSwitch[busOf a]? with
  | some sw' =>
    rw [known] at found
    obtain ⟨rfl, rfl⟩ := Prod.mk.inj (Except.ok.inj found)
    exact ⟨numbered, knownSwitch_keeps grouped known, known⟩
  | none =>
    rw [known] at found
    cases placed : g.place { segment := a.segment, bus := a.bus } .switch {} [.pci, .derived] with
    | error failure =>
      simp only [placed] at found
      cases found
    | ok result =>
      simp only [placed] at found
      obtain ⟨rfl, rfl⟩ := Prod.mk.inj (Except.ok.inj found)
      obtain ⟨numbered', grouped'⟩ := newSwitch_keeps numbered grouped known placed
      exact ⟨numbered', grouped', by simp⟩

/-- A segment with a root complex has it for one more address. -/
theorem knownRoot_keeps (grouped : Grouped (done ++ [a]) done done g)
    (known : g.segRc[a.segment]? = some rc) : Grouped (done ++ [a]) (done ++ [a]) done g := by
  refine { grouped with
    roots := fun segment rc root => ?_, rooted := fun c member => ?_,
    after := fun segment rc c root first => ?_,
    before := fun segment rc bus sw root owner less => ?_ }
  · obtain ⟨node, c, stored, kind, same, first⟩ := grouped.roots segment rc root
    exact ⟨node, c, stored, kind, same, firstOf_append_same first⟩
  · rcases mem_done_or_last member with old | rfl
    · exact grouped.rooted c old
    · exact ⟨_, known⟩
  · obtain ⟨-, f, -, -, -, first'⟩ := grouped.roots segment rc root
    rw [firstOf_append_same first'] at first
    exact grouped.after segment rc c root (first'.trans first)
  · obtain ⟨c, member, same, rest⟩ := grouped.before segment rc bus sw root owner less
    exact ⟨c, member, same, fun segmentOf => firstOf_append_same (rest segmentOf)⟩

/-- A segment without a root complex gets a new one. -/
theorem newRoot_keeps (numbered : Numbered g) (grouped : Grouped (done ++ [a]) done done g)
    (unknown : g.segRc[a.segment]? = none)
    (placed : g.place { segment := a.segment } .rootComplex {} [.pci, .derived] = .ok (rc, g')) :
    Numbered { g' with segRc := g'.segRc.insert a.segment rc } ∧
      Grouped (done ++ [a]) (done ++ [a]) done { g' with segRc := g'.segRc.insert a.segment rc } ∧
        g'.busSwitch = g.busSwitch := by
  obtain ⟨rfl, numbered', buses, segs, lookup⟩ := place_ok numbered placed
  have new (c : PciAddress) (member : c ∈ done) : c.segment ≠ a.segment := by
    intro same
    obtain ⟨rc, root⟩ := grouped.rooted c member
    rw [same, unknown] at root
    cases root
  have extend : Extends g { g' with segRc := g'.segRc.insert a.segment ⟨g.nc⟩ } := by
    refine ⟨fun bus sw owner => ?_, fun segment rc root => ?_, fun id node stored => ?_⟩
    · rw [buses]
      exact owner
    · rw [segs]
      exact kept_insert unknown root
    · exact (lookup id node).mpr (.inl stored)
  have here : (g'.segRc.insert a.segment ⟨g.nc⟩)[a.segment]? = some ⟨g.nc⟩ := by simp
  have older (bus : UInt32) (sw : PciNodeId) (owner : g.busSwitch[bus]? = some sw) :
      sw.value < g.nc := by
    obtain ⟨node, -, stored, -⟩ := grouped.switches bus sw owner
    exact (numbered.below _ _ stored).2.2
  refine ⟨⟨numbered'.counter, numbered'.bounded, numbered'.below⟩, ?_, buses⟩
  constructor
  · intro id node stored
    rcases (lookup id node).mp stored with old | ⟨rfl, rfl⟩
    · exact kept_place extend (List.Subset.refl _) (grouped.nodes id node old)
    · exact .inr (.inl ⟨rfl, rfl, rfl, here⟩)
  · intro bus sw owner
    rw [buses] at owner
    exact kept_switch extend grouped owner
  · intro segment rc root
    rcases find_insert.mp root with ⟨rfl, rfl⟩ | ⟨-, old⟩
    · exact ⟨_, a, (lookup _ _).mpr (.inr ⟨rfl, rfl⟩), rfl, rfl, firstOf_append_new new rfl⟩
    · rw [segs] at old
      obtain ⟨node, c, stored, kind, same, first⟩ := kept_root extend grouped old
      exact ⟨node, c, stored, kind, same, firstOf_append_same first⟩
  · intro c member
    obtain ⟨sw, owner⟩ := grouped.switched c member
    exact ⟨sw, extend.buses _ _ owner⟩
  · intro c member
    rcases mem_done_or_last member with old | rfl
    · obtain ⟨rc, root⟩ := grouped.rooted c old
      exact ⟨rc, extend.segs _ _ root⟩
    · exact ⟨_, here⟩
  · exact fun c member => kept_listed extend grouped member
  · intro segment rc c root first
    rcases find_insert.mp root with ⟨rfl, rfl⟩ | ⟨other, old⟩
    · rw [firstOf_append_new new rfl] at first
      obtain rfl := Option.some.inj first
      obtain ⟨sw, owner⟩ := grouped.switched _ (List.mem_append_right _ (List.mem_singleton_self _))
      exact ⟨sw, extend.buses _ _ owner, older _ _ owner⟩
    · rw [segs] at old
      rw [firstOf_append_other (Ne.symm other)] at first
      obtain ⟨sw, owner, less⟩ := grouped.after segment rc c old first
      exact ⟨sw, extend.buses _ _ owner, less⟩
  · intro segment rc bus sw root owner less
    rw [buses] at owner
    rcases find_insert.mp root with ⟨rfl, rfl⟩ | ⟨other, old⟩
    · obtain ⟨-, c, -, -, -, first, -⟩ := grouped.switches bus sw owner
      obtain ⟨member, same⟩ := mem_of_firstOf first
      refine ⟨c, member, same, fun segmentOf => ?_⟩
      rcases mem_done_or_last member with earlier | rfl
      · exact absurd segmentOf (new c earlier)
      · exact firstOf_append_new new rfl
    · rw [segs] at old
      obtain ⟨c, member, same, rest⟩ := grouped.before segment rc bus sw old owner less
      exact ⟨c, member, same, fun segmentOf => firstOf_append_same (rest segmentOf)⟩

/-- The root complex of a segment is staged, or it was there. -/
theorem rootFor_keeps (numbered : Numbered g) (grouped : Grouped (done ++ [a]) done done g)
    (found : g.rootFor a = .ok (rc, g')) :
    Numbered g' ∧ Grouped (done ++ [a]) (done ++ [a]) done g' ∧ g'.segRc[a.segment]? = some rc ∧
      g'.busSwitch = g.busSwitch := by
  unfold Grouping.rootFor at found
  cases known : g.segRc[a.segment]? with
  | some rc' =>
    rw [known] at found
    obtain ⟨rfl, rfl⟩ := Prod.mk.inj (Except.ok.inj found)
    exact ⟨numbered, knownRoot_keeps grouped known, known, rfl⟩
  | none =>
    rw [known] at found
    cases placed : g.place { segment := a.segment } .rootComplex {} [.pci, .derived] with
    | error failure =>
      simp only [placed] at found
      cases found
    | ok result =>
      simp only [placed] at found
      obtain ⟨rfl, rfl⟩ := Prod.mk.inj (Except.ok.inj found)
      obtain ⟨numbered', grouped', buses⟩ := newRoot_keeps numbered grouped known placed
      exact ⟨numbered', grouped', by simp, buses⟩

/-- The device is staged under the switch of its bus. -/
theorem device_keeps {dev : PciNodeId} (numbered : Numbered g)
    (grouped : Grouped (done ++ [a]) (done ++ [a]) done g)
    (owner : g.busSwitch[busOf a]? = some sw) (root : g.segRc[a.segment]? = some rc)
    (placed : g.place a .device sw [.pci] = .ok (dev, g')) :
    Numbered g' ∧ Grouped (done ++ [a]) (done ++ [a]) (done ++ [a]) g' := by
  have more : done ⊆ done ++ [a] := List.subset_append_left ..
  obtain ⟨rfl, numbered', buses, segs, lookup⟩ := place_ok numbered placed
  have extend : Extends g g' :=
    ⟨fun bus sw owner => buses ▸ owner, fun segment rc root => segs ▸ root,
      fun id node stored => (lookup id node).mpr (.inl stored)⟩
  refine ⟨numbered', ?_⟩
  constructor
  · intro id node stored
    rcases (lookup id node).mp stored with old | ⟨rfl, rfl⟩
    · exact kept_place extend more (grouped.nodes id node old)
    · obtain ⟨node, -, stored, -⟩ := grouped.roots _ _ root
      exact .inr (.inr ⟨rfl, by simp, extend.buses _ _ owner,
        rc, extend.segs _ _ root, (numbered.below _ _ stored).2.2⟩)
  · intro bus sw owner
    rw [buses] at owner
    exact kept_switch extend grouped owner
  · intro segment rc root
    rw [segs] at root
    exact kept_root extend grouped root
  · rw [buses]
    exact grouped.switched
  · rw [segs]
    exact grouped.rooted
  · intro c member
    rcases mem_done_or_last member with old | rfl
    · exact kept_listed extend grouped old
    · exact ⟨_, _, (lookup _ _).mpr (.inr ⟨rfl, rfl⟩), rfl, rfl⟩
  · rw [buses, segs]
    exact grouped.after
  · rw [buses, segs]
    exact grouped.before

/-- An edge leaves the nodes and both maps. -/
theorem link_keeps {buses segs : List PciAddress} {source target : PciNodeId} (numbered : Numbered g)
    (grouped : Grouped buses segs done g) (linked : g.link source target = .ok g') :
    Numbered g' ∧ Grouped buses segs done g' ∧ g'.busSwitch = g.busSwitch ∧ g'.segRc = g.segRc := by
  unfold Grouping.link at linked
  cases added : g.b.addEdge source target with
  | error failure =>
    rw [added] at linked
    cases linked
  | ok b =>
    rw [added] at linked
    obtain rfl := Except.ok.inj linked
    obtain ⟨-, -, rfl⟩ := addEdge_ok_iff.mp added
    have extend : Extends g { g with b := { g.b with edges := insert (source, target) g.b.edges } } :=
      ⟨fun _ _ owner => owner, fun _ _ root => root, fun _ _ stored => stored⟩
    refine ⟨⟨numbered.counter, numbered.bounded, numbered.below⟩, ?_, rfl, rfl⟩
    exact ⟨fun id node stored => kept_place extend (List.Subset.refl _) (grouped.nodes id node stored),
      grouped.switches, grouped.roots, grouped.switched, grouped.rooted, grouped.listed, grouped.after,
      grouped.before⟩

/-- One round of the loop handles one address. -/
theorem add_keeps (numbered : Numbered g) (grouped : Grouped done done done g)
    (added : g.add a = .ok g') :
    Numbered g' ∧ Grouped (done ++ [a]) (done ++ [a]) (done ++ [a]) g' := by
  unfold Grouping.add at added
  obtain ⟨⟨sw, g₁⟩, switched, added⟩ := ok_of_bind added
  obtain ⟨⟨rc, g₂⟩, rooted, added⟩ := ok_of_bind added
  obtain ⟨g₃, linked, added⟩ := ok_of_bind added
  obtain ⟨⟨dev, g₄⟩, placed, linked'⟩ := ok_of_bind added
  obtain ⟨numbered₁, grouped₁, owner⟩ := switchFor_keeps numbered grouped switched
  obtain ⟨numbered₂, grouped₂, root, buses⟩ := rootFor_keeps numbered₁ grouped₁ rooted
  obtain ⟨numbered₃, grouped₃, buses', segs⟩ := link_keeps numbered₂ grouped₂ linked
  rw [← buses, ← buses'] at owner
  rw [← segs] at root
  obtain ⟨numbered₄, grouped₄⟩ := device_keeps numbered₃ grouped₃ owner root placed
  obtain ⟨numbered₅, grouped₅, -, -⟩ := link_keeps numbered₄ grouped₄ linked'
  exact ⟨numbered₅, grouped₅⟩

end

theorem numbered_empty : Numbered {} :=
  ⟨rfl, Nat.zero_le _, fun _ _ stored => by simp at stored⟩

theorem grouped_empty : Grouped [] [] [] {} where
  nodes _ _ stored := by simp at stored
  switches _ _ owner := by simp at owner
  roots _ _ root := by simp at root
  switched _ member := by simp at member
  rooted _ member := by simp at member
  listed _ member := by simp at member
  after _ _ _ root := by simp at root
  before _ _ _ _ root := by simp at root

theorem grouped_of_group {addrs : List PciAddress} (within : group addrs = .ok g) :
    Numbered g ∧ Grouped addrs addrs addrs g := by
  induction addrs using List.reverseRecOn generalizing g with
  | nil =>
    obtain rfl := Except.ok.inj within
    exact ⟨numbered_empty, grouped_empty⟩
  | append_singleton done a ih =>
    unfold group at within
    rw [List.foldlM_append] at within
    obtain ⟨g₀, before, last⟩ := ok_of_bind within
    obtain ⟨numbered, grouped⟩ := ih before
    rw [List.foldlM_cons] at last
    obtain ⟨g₁, added, done⟩ := ok_of_bind last
    obtain rfl := Except.ok.inj done
    exact add_keeps numbered grouped added

end NicResidency.SystemBackend

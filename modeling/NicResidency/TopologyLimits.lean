import NicResidency.SystemTopology

/-!
How many devices the topology of the system backend takes. The loop ends in an error exactly if its
switches, its root complexes and its devices are more nodes than the builder holds; the edges never
are too many.
-/

namespace NicResidency.SystemBackend
open Throwing OrderedMap TopologyBuilder

/-- The nodes for addresses whose bus, whose segment and whose device have been handled. -/
def stagedCount (buses segs done : List PciAddress) : Nat :=
  (buses.map busOf).toFinset.card + (segs.map PciAddress.segment).toFinset.card + done.length

/-- The nodes for a list of addresses. -/
def nodeCount (addrs : List PciAddress) : Nat := stagedCount addrs addrs addrs

section
variable {κ : Type} [DecidableEq κ] {key : PciAddress → κ} {done : List PciAddress} {a : PciAddress}

theorem card_known (known : key a ∈ done.map key) :
    ((done ++ [a]).map key).toFinset.card = (done.map key).toFinset.card := by
  rw [List.map_append, List.toFinset_append, Finset.union_eq_left.mpr]
  simpa using known

theorem card_new (new : key a ∉ done.map key) :
    ((done ++ [a]).map key).toFinset.card = (done.map key).toFinset.card + 1 := by
  rw [List.map_append, List.toFinset_append, Finset.card_union_of_disjoint]
  · rfl
  · simpa using new

end

variable {g g' : Grouping} {done : List PciAddress} {a pci : PciAddress} {kind : TopologyNodeKind}
  {parent id sw rc : PciNodeId} {sources : List Source}

/-! One node and one edge. -/

theorem place_total (numbered : Numbered g) (room : g.b.nodes.size < kMaxNodes) :
    ∃ g', g.place pci kind parent sources = .ok (⟨g.nc⟩, g') := by
  have new : (⟨g.nc⟩ : PciNodeId) ∉ g.b.nodes := by
    intro present
    obtain ⟨node, stored⟩ :=
      Option.isSome_iff_exists.mp (Std.ExtTreeMap.mem_iff_isSome_getElem?.mp present)
    exact absurd (numbered.below _ node stored).2.2 (UInt64.lt_irrefl _)
  unfold Grouping.place
  rw [addNode_ok_iff.mpr ⟨room, new, rfl⟩]
  exact ⟨_, rfl⟩

theorem place_size (placed : g.place pci kind parent sources = .ok (id, g')) :
    g'.b.nodes.size = g.b.nodes.size + 1 ∧ g'.b.edges = g.b.edges := by
  unfold Grouping.place at placed
  obtain ⟨b, added, placed⟩ := ok_of_bind placed
  obtain ⟨-, rfl⟩ := Prod.mk.inj (Except.ok.inj placed)
  obtain ⟨-, new, rfl⟩ := addNode_ok_iff.mp added
  exact ⟨size_insert_new new, rfl⟩

theorem link_total (room : g.b.edges.card < kMaxEdges) (source : sw ∈ g.b.nodes)
    (target : rc ∈ g.b.nodes) : ∃ g', g.link sw rc = .ok g' := by
  unfold Grouping.link
  rw [addEdge_ok_iff.mpr ⟨room, ⟨source, target⟩, rfl⟩]
  exact ⟨_, rfl⟩

theorem link_size (linked : g.link sw rc = .ok g') :
    g'.b.nodes = g.b.nodes ∧ g'.b.edges.card ≤ g.b.edges.card + 1 := by
  unfold Grouping.link at linked
  obtain ⟨b, added, linked⟩ := ok_of_bind linked
  obtain rfl := Except.ok.inj linked
  obtain ⟨-, -, rfl⟩ := addEdge_ok_iff.mp added
  exact ⟨rfl, Finset.card_insert_le _ _⟩

/-! One round. -/

/-- What is staged is what has been handled, and a round adds two edges at most. -/
structure Counted (buses segs done : List PciAddress) (rounds : Nat) (g : Grouping) : Prop where
  nodes : g.b.nodes.size = stagedCount buses segs done
  edges : g.b.edges.card ≤ 2 * rounds

theorem bus_known_iff (grouped : Grouped done done done g) :
    (∃ sw, g.busSwitch[busOf a]? = some sw) ↔ busOf a ∈ done.map busOf := by
  constructor
  · rintro ⟨sw, owner⟩
    obtain ⟨-, c, -, -, -, first, -⟩ := grouped.switches _ sw owner
    obtain ⟨member, same⟩ := mem_of_firstOf first
    exact List.mem_map.mpr ⟨c, member, same⟩
  · intro member
    obtain ⟨c, listed, same⟩ := List.mem_map.mp member
    exact same ▸ grouped.switched c listed

theorem segment_known_iff {buses : List PciAddress} (grouped : Grouped buses done done g) :
    (∃ rc, g.segRc[a.segment]? = some rc) ↔ a.segment ∈ done.map PciAddress.segment := by
  constructor
  · rintro ⟨rc, root⟩
    obtain ⟨-, c, -, -, -, first⟩ := grouped.roots _ rc root
    obtain ⟨member, same⟩ := mem_of_firstOf first
    exact List.mem_map.mpr ⟨c, member, same⟩
  · intro member
    obtain ⟨c, listed, same⟩ := List.mem_map.mp member
    exact same ▸ grouped.rooted c listed

theorem switchFor_counted {rounds : Nat} (grouped : Grouped done done done g)
    (counted : Counted done done done rounds g) (found : g.switchFor a = .ok (sw, g')) :
    Counted (done ++ [a]) done done rounds g' := by
  have known := bus_known_iff (a := a) grouped
  unfold Grouping.switchFor at found
  rw [show a.bus.toUInt32 = busOf a from rfl] at found
  cases owner : g.busSwitch[busOf a]? with
  | some sw' =>
    rw [owner] at found
    obtain ⟨-, rfl⟩ := Prod.mk.inj (Except.ok.inj found)
    refine ⟨?_, counted.edges⟩
    rw [counted.nodes, stagedCount, stagedCount, card_known (known.mp ⟨sw', owner⟩)]
  | none =>
    rw [owner] at found
    obtain ⟨⟨sw', g₁⟩, placed, found⟩ := ok_of_bind found
    obtain ⟨-, rfl⟩ := Prod.mk.inj (Except.ok.inj found)
    obtain ⟨size, edges⟩ := place_size placed
    have new : busOf a ∉ done.map busOf := fun member => by
      obtain ⟨sw, there⟩ := known.mpr member
      exact nomatch owner.symm.trans there
    refine ⟨?_, (congrArg Finset.card edges).trans_le counted.edges⟩
    rw [size, counted.nodes, stagedCount, stagedCount, card_new new]
    omega

theorem switchFor_total {rounds : Nat} (numbered : Numbered g) (grouped : Grouped done done done g)
    (counted : Counted done done done rounds g)
    (room : stagedCount (done ++ [a]) done done ≤ kMaxNodes) : ∃ sw g', g.switchFor a = .ok (sw, g') := by
  have known := bus_known_iff (a := a) grouped
  unfold Grouping.switchFor
  rw [show a.bus.toUInt32 = busOf a from rfl]
  cases owner : g.busSwitch[busOf a]? with
  | some sw => exact ⟨sw, g, rfl⟩
  | none =>
    have new : busOf a ∉ done.map busOf := fun member => by
      obtain ⟨sw, there⟩ := known.mpr member
      exact nomatch owner.symm.trans there
    rw [stagedCount, card_new new] at room
    have below : g.b.nodes.size < kMaxNodes := by
      rw [counted.nodes, stagedCount]
      omega
    obtain ⟨g', placed⟩ : ∃ g', g.place { segment := a.segment, bus := a.bus } .switch {}
        [.pci, .derived] = .ok (⟨g.nc⟩, g') := place_total numbered below
    simp only [placed]
    exact ⟨_, _, rfl⟩

theorem rootFor_counted {rounds : Nat} (grouped : Grouped (done ++ [a]) done done g)
    (counted : Counted (done ++ [a]) done done rounds g) (found : g.rootFor a = .ok (rc, g')) :
    Counted (done ++ [a]) (done ++ [a]) done rounds g' := by
  have known := segment_known_iff (a := a) grouped
  unfold Grouping.rootFor at found
  cases root : g.segRc[a.segment]? with
  | some rc' =>
    rw [root] at found
    obtain ⟨-, rfl⟩ := Prod.mk.inj (Except.ok.inj found)
    refine ⟨?_, counted.edges⟩
    rw [counted.nodes, stagedCount, stagedCount, card_known (known.mp ⟨rc', root⟩)]
  | none =>
    rw [root] at found
    obtain ⟨⟨rc', g₁⟩, placed, found⟩ := ok_of_bind found
    obtain ⟨-, rfl⟩ := Prod.mk.inj (Except.ok.inj found)
    obtain ⟨size, edges⟩ := place_size placed
    have new : a.segment ∉ done.map PciAddress.segment := fun member => by
      obtain ⟨rc, there⟩ := known.mpr member
      exact nomatch root.symm.trans there
    refine ⟨?_, (congrArg Finset.card edges).trans_le counted.edges⟩
    rw [size, counted.nodes, stagedCount, stagedCount, card_new new]
    omega

theorem rootFor_total {rounds : Nat} (numbered : Numbered g)
    (grouped : Grouped (done ++ [a]) done done g) (counted : Counted (done ++ [a]) done done rounds g)
    (room : stagedCount (done ++ [a]) (done ++ [a]) done ≤ kMaxNodes) :
    ∃ rc g', g.rootFor a = .ok (rc, g') := by
  have known := segment_known_iff (a := a) grouped
  unfold Grouping.rootFor
  cases root : g.segRc[a.segment]? with
  | some rc => exact ⟨rc, g, rfl⟩
  | none =>
    have new : a.segment ∉ done.map PciAddress.segment := fun member => by
      obtain ⟨rc, there⟩ := known.mpr member
      exact nomatch root.symm.trans there
    rw [stagedCount, card_new new] at room
    have below : g.b.nodes.size < kMaxNodes := by
      rw [counted.nodes, stagedCount]
      omega
    obtain ⟨g', placed⟩ : ∃ g', g.place { segment := a.segment } .rootComplex {}
        [.pci, .derived] = .ok (⟨g.nc⟩, g') := place_total numbered below
    simp only [placed]
    exact ⟨_, _, rfl⟩

theorem nodeCount_append : nodeCount (done ++ [a]) = stagedCount (done ++ [a]) (done ++ [a]) done + 1 := by
  rw [nodeCount, stagedCount, stagedCount, List.length_append, List.length_singleton]
  omega

/-- A round stages what the address needs. -/
theorem add_counted (numbered : Numbered g) (grouped : Grouped done done done g)
    (counted : Counted done done done done.length g) (added : g.add a = .ok g') :
    Counted (done ++ [a]) (done ++ [a]) (done ++ [a]) (done ++ [a]).length g' := by
  unfold Grouping.add at added
  obtain ⟨⟨sw, g₁⟩, switched, added⟩ := ok_of_bind added
  obtain ⟨⟨rc, g₂⟩, rooted, added⟩ := ok_of_bind added
  obtain ⟨g₃, linked, added⟩ := ok_of_bind added
  obtain ⟨⟨dev, g₄⟩, placed, linked'⟩ := ok_of_bind added
  have counted₁ := switchFor_counted grouped counted switched
  have counted₂ := rootFor_counted (switchFor_keeps numbered grouped switched).2.1 counted₁ rooted
  obtain ⟨size₃, edges₃⟩ := link_size linked
  obtain ⟨size₄, edges₄⟩ := place_size placed
  obtain ⟨size₅, edges₅⟩ := link_size linked'
  have edges := counted₂.edges
  refine ⟨?_, ?_⟩
  · rw [size₅, size₄, size₃, counted₂.nodes]
    exact nodeCount_append.symm
  · rw [edges₄] at edges₅
    rw [List.length_append, List.length_singleton]
    omega

/-- With room for its nodes a round ends. -/
theorem add_total (numbered : Numbered g) (grouped : Grouped done done done g)
    (counted : Counted done done done done.length g) (room : nodeCount (done ++ [a]) ≤ kMaxNodes) :
    ∃ g', g.add a = .ok g' := by
  rw [nodeCount_append] at room
  have rounds : done.length < kMaxNodes := by
    have least : done.length ≤ stagedCount (done ++ [a]) (done ++ [a]) done := Nat.le_add_left _ _
    omega
  have limits : 2 * kMaxNodes < kMaxEdges := by decide
  have segments : (done.map PciAddress.segment).toFinset.card ≤
      ((done ++ [a]).map PciAddress.segment).toFinset.card := by
    rw [List.map_append, List.toFinset_append]
    exact Finset.card_le_card Finset.subset_union_left
  have first : stagedCount (done ++ [a]) done done ≤ kMaxNodes := by
    unfold stagedCount at room ⊢
    omega
  obtain ⟨sw, g₁, switched⟩ := switchFor_total numbered grouped counted first
  obtain ⟨numbered₁, grouped₁, owner⟩ := switchFor_keeps numbered grouped switched
  have counted₁ := switchFor_counted grouped counted switched
  obtain ⟨rc, g₂, rooted⟩ := rootFor_total numbered₁ grouped₁ counted₁ (by omega)
  obtain ⟨numbered₂, grouped₂, root, buses⟩ := rootFor_keeps numbered₁ grouped₁ rooted
  have counted₂ := rootFor_counted grouped₁ counted₁ rooted
  have edges := counted₂.edges
  rw [← buses] at owner
  obtain ⟨_, -, swStored, -⟩ := grouped₂.switches _ sw owner
  obtain ⟨_, -, rcStored, -⟩ := grouped₂.roots _ rc root
  obtain ⟨g₃, linked⟩ := link_total (by omega) (mem_of_stored swStored) (mem_of_stored rcStored)
  obtain ⟨numbered₃, -, -, -⟩ := link_keeps numbered₂ grouped₂ linked
  obtain ⟨size₃, edges₃⟩ := link_size linked
  have below : g₃.b.nodes.size < kMaxNodes := by
    rw [size₃, counted₂.nodes]
    omega
  obtain ⟨g₄, placed⟩ : ∃ g₄, g₃.place a .device sw [.pci] = .ok (⟨g₃.nc⟩, g₄) :=
    place_total numbered₃ below
  obtain ⟨-, numbered₄, -, -, lookup⟩ := place_ok numbered₃ placed
  obtain ⟨-, edges₄⟩ := place_size placed
  rw [← size₃] at swStored
  have source := mem_of_stored ((lookup ⟨g₃.nc⟩ _).mpr (.inr ⟨rfl, rfl⟩))
  have target := mem_of_stored ((lookup sw _).mpr (.inl swStored))
  have few : g₄.b.edges.card < kMaxEdges := by
    rw [edges₄]
    omega
  obtain ⟨g₅, linked'⟩ := link_total few source target
  unfold Grouping.add
  simp only [switched, rooted, linked, placed, bind, Except.bind]
  exact ⟨g₅, linked'⟩

/-! The loop. -/

theorem counted_of_group {addrs : List PciAddress} (within : group addrs = .ok g) :
    Counted addrs addrs addrs addrs.length g := by
  induction addrs using List.reverseRecOn generalizing g with
  | nil =>
    obtain rfl := Except.ok.inj within
    exact ⟨rfl, le_rfl⟩
  | append_singleton done a ih =>
    unfold group at within
    rw [List.foldlM_append] at within
    obtain ⟨g₀, before, last⟩ := ok_of_bind within
    obtain ⟨numbered, grouped⟩ := grouped_of_group before
    rw [List.foldlM_cons] at last
    obtain ⟨g₁, added, ended⟩ := ok_of_bind last
    obtain rfl := Except.ok.inj ended
    exact add_counted numbered grouped (ih before) added

/-- The addresses are grouped exactly if their nodes fit into a builder. -/
theorem group_ok_iff {addrs : List PciAddress} :
    (∃ g, group addrs = .ok g) ↔ nodeCount addrs ≤ kMaxNodes := by
  constructor
  · rintro ⟨g, within⟩
    rw [nodeCount, ← (counted_of_group within).nodes]
    exact (grouped_of_group within).1.bounded
  · intro room
    induction addrs using List.reverseRecOn with
    | nil => exact ⟨_, rfl⟩
    | append_singleton done a ih =>
      have fewer : nodeCount done ≤ nodeCount (done ++ [a]) := by
        simp only [nodeCount, stagedCount, List.map_append, List.toFinset_append, List.length_append]
        have buses : (done.map busOf).toFinset.card ≤
            ((done.map busOf).toFinset ∪ ([a].map busOf).toFinset).card :=
          Finset.card_le_card Finset.subset_union_left
        have segments : (done.map PciAddress.segment).toFinset.card ≤
            ((done.map PciAddress.segment).toFinset ∪ ([a].map PciAddress.segment).toFinset).card :=
          Finset.card_le_card Finset.subset_union_left
        omega
      obtain ⟨g, within⟩ := ih (fewer.trans room)
      obtain ⟨numbered, grouped⟩ := grouped_of_group within
      obtain ⟨g', added⟩ := add_total numbered grouped (counted_of_group within) room
      refine ⟨g', ?_⟩
      unfold group at within ⊢
      rw [List.foldlM_append, within]
      show ([a].foldlM Grouping.add g : Except ResidencyError Grouping) = _
      rw [List.foldlM_cons, added]
      rfl

end NicResidency.SystemBackend

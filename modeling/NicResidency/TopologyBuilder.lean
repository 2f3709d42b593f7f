import NicResidency.Library.Ancestry
import NicResidency.Library.Throwing
import NicResidency.Topology

/-!
The topology builder. It stages nodes and edges within their limits and copies them
into a snapshot; the snapshot then records, for each node, the root complex and the
switch that a walk along its parent links meets last.
-/

namespace NicResidency
open Throwing Ancestry Relation

structure TopologyBuilder where
  nodes : Std.ExtTreeMap PciNodeId TopologyNode := ∅
  edges : Finset (PciNodeId × PciNodeId) := ∅

namespace TopologySnapshot

/-- One walk of `finalize`: the last root complex and the last switch on the way up
from a node. There is no result when the walk goes on beyond the fuel. -/
def ancestorWalk (nodes : Std.ExtTreeMap PciNodeId TopologyNode) (fuel : Nat) (rc sw cur : PciNodeId) :
    Option (PciNodeId × PciNodeId) :=
  if cur.valid then
    match nodes[cur]? with
    | none => some (rc, sw)
    | some node =>
      match fuel with
      | 0 => none
      | fuel + 1 =>
        ancestorWalk nodes fuel (if node.kind = .rootComplex then cur else rc)
          (if node.kind = .switch then cur else sw) node.parent
  else some (rc, sw)

/-- Record what the walk from one node found. -/
def recordAncestors (fuel : Nat) (snap : TopologySnapshot) (id : PciNodeId) :
    Option TopologySnapshot := do
  let (rc, sw) ← ancestorWalk snap.nodes fuel {} {} id
  return { snap with
    rootComplex := snap.rootComplex.insert id rc
    switch := snap.switch.insert id sw }

def finalize (fuel : Nat) (snap : TopologySnapshot) : Option TopologySnapshot :=
  snap.nodes.keys.foldlM (recordAncestors fuel) snap

end TopologySnapshot

namespace TopologyBuilder
open TopologySnapshot

def kMaxNodes : Nat := 4096

def kMaxEdges : Nat := 16384

def addNode (b : TopologyBuilder) (node : TopologyNode) : Except ResidencyError TopologyBuilder :=
  if b.nodes.size ≥ kMaxNodes then
    throw { code := .resourceLimit, message := "topology node limit exceeded" }
  else if node.id ∈ b.nodes then
    throw { code := .invalidTopology, message := "duplicate topology node", detail := node.id.str }
  else
    return { b with nodes := b.nodes.insert node.id node }

def addEdge (b : TopologyBuilder) (source target : PciNodeId) : Except ResidencyError TopologyBuilder :=
  if b.edges.card ≥ kMaxEdges then
    throw { code := .resourceLimit, message := "topology edge limit exceeded" }
  else if source ∉ b.nodes ∨ target ∉ b.nodes then
    throw { code := .invalidTopology, message := "topology edge references missing node" }
  else
    return { b with edges := insert (source, target) b.edges }

def build (b : TopologyBuilder) (fuel : Nat) (generation : TopologyGeneration) :
    Option TopologySnapshot :=
  finalize fuel { generation, nodes := b.nodes, edges := b.edges }

/-- A call that stages a part of the topology. -/
inductive Staging where
  | addNode (node : TopologyNode)
  | addEdge (source target : PciNodeId)

def call (b : TopologyBuilder) : Staging → Except ResidencyError TopologyBuilder
  | .addNode node => b.addNode node
  | .addEdge source target => b.addEdge source target

/-- The builder after a sequence of calls. The first call that throws ends it. -/
def stage (calls : List Staging) : Except ResidencyError TopologyBuilder :=
  calls.foldlM call {}

/-! What the builder accepts. -/

variable {b b' : TopologyBuilder} {calls : List Staging}

theorem addNode_ok_iff {node : TopologyNode} : b.addNode node = .ok b' ↔
    b.nodes.size < kMaxNodes ∧ node.id ∉ b.nodes ∧
      b' = { b with nodes := b.nodes.insert node.id node } := by
  unfold addNode
  by_cases full : b.nodes.size ≥ kMaxNodes
  · rw [if_pos full]
    exact iff_of_false (by intro returned; cases returned) fun ok => not_le.mpr ok.1 full
  · rw [if_neg full, and_iff_right (not_le.mp full)]
    by_cases present : node.id ∈ b.nodes
    · rw [if_pos present]
      exact iff_of_false (by intro returned; cases returned) fun ok => ok.1 present
    · rw [if_neg present, and_iff_right present]
      exact ⟨fun returned => (Except.ok.inj returned).symm, fun same => congrArg Except.ok same.symm⟩

theorem addEdge_ok_iff {source target : PciNodeId} : b.addEdge source target = .ok b' ↔
    b.edges.card < kMaxEdges ∧ (source ∈ b.nodes ∧ target ∈ b.nodes) ∧
      b' = { b with edges := insert (source, target) b.edges } := by
  unfold addEdge
  by_cases full : b.edges.card ≥ kMaxEdges
  · rw [if_pos full]
    exact iff_of_false (by intro returned; cases returned) fun ok => not_le.mpr ok.1 full
  · rw [if_neg full, and_iff_right (not_le.mp full)]
    by_cases missing : source ∉ b.nodes ∨ target ∉ b.nodes
    · rw [if_pos missing]
      refine iff_of_false (by intro returned; cases returned) fun ok => ?_
      exact missing.elim (fun absent => absent ok.1.1) fun absent => absent ok.1.2
    · rw [if_neg missing]
      rw [not_or, not_not, not_not] at missing
      rw [and_iff_right missing]
      exact ⟨fun returned => (Except.ok.inj returned).symm, fun same => congrArg Except.ok same.symm⟩

/-- What every accepted call keeps holds of every builder that was staged. -/
theorem staged_invariant (property : TopologyBuilder → Prop) (empty : property {})
    (keeps : ∀ b c b', property b → call b c = .ok b' → property b') (staged : stage calls = .ok b) :
    property b := by
  unfold stage at staged
  generalize ({} : TopologyBuilder) = start at empty staged
  induction calls generalizing start with
  | nil =>
    obtain rfl : start = b := Except.ok.inj staged
    exact empty
  | cons c rest ih =>
    rw [List.foldlM_cons] at staged
    obtain ⟨next, called, staged⟩ := ok_of_bind staged
    exact ih next (keeps start c next empty called) staged

/-- Every node is staged under its own id. -/
theorem staged_own (staged : stage calls = .ok b) (id : PciNodeId) (node : TopologyNode)
    (stored : b.nodes[id]? = some node) : node.id = id := by
  revert id node
  apply staged_invariant (fun b =>
    ∀ (id : PciNodeId) (node : TopologyNode), b.nodes[id]? = some node → node.id = id) _ _ staged
  · intro id node stored
    cases stored
  · intro b c b' own called id node stored
    cases c with
    | addNode new =>
      obtain ⟨-, -, rfl⟩ := addNode_ok_iff.mp called
      rw [Std.ExtTreeMap.getElem?_insert] at stored
      split at stored
      · obtain rfl := Option.some.inj stored
        exact Std.LawfulEqOrd.compare_eq_iff_eq.mp ‹_›
      · exact own id node stored
    | addEdge source target =>
      obtain ⟨-, -, rfl⟩ := addEdge_ok_iff.mp called
      exact own id node stored

theorem staged_size_le (staged : stage calls = .ok b) : b.nodes.size ≤ kMaxNodes := by
  apply staged_invariant (fun b => b.nodes.size ≤ kMaxNodes) _ _ staged
  · exact Nat.zero_le _
  · intro b c b' short called
    cases c with
    | addNode new =>
      obtain ⟨room, -, rfl⟩ := addNode_ok_iff.mp called
      calc (b.nodes.insert new.id new).size ≤ b.nodes.size + 1 := Std.ExtTreeMap.size_insert_le
        _ ≤ kMaxNodes := room
    | addEdge source target =>
      obtain ⟨-, -, rfl⟩ := addEdge_ok_iff.mp called
      exact short

end TopologyBuilder

/-! What a walk finds. -/

namespace TopologySnapshot
variable {nodes : Std.ExtTreeMap PciNodeId TopologyNode} {fuel : Nat} {snap t : TopologySnapshot}
  {id : PciNodeId} {trail : List PciNodeId}

/-- The parent id of a node. The null id names no node. -/
def parentLink (nodes : Std.ExtTreeMap PciNodeId TopologyNode) (id : PciNodeId) : Option PciNodeId :=
  if id.valid then (nodes[id]?).map (·.parent) else none

def kindAt (nodes : Std.ExtTreeMap PciNodeId TopologyNode) (kind : TopologyNodeKind) (id : PciNodeId) :
    Bool :=
  (nodes[id]?).any (·.kind == kind)

/-- The parent ids of the nodes lead to no cycle. -/
abbrev AcyclicParents (nodes : Std.ExtTreeMap PciNodeId TopologyNode) : Prop :=
  Acyclic (parentLink nodes)

theorem mem_of_parentLink (leads : (parentLink nodes id).isSome = true) : id ∈ nodes := by
  unfold parentLink at leads
  split at leads
  · rw [Option.isSome_map] at leads
    exact Std.ExtTreeMap.mem_iff_isSome_getElem?.mpr leads
  · cases leads

/-- The last root complex and the last switch of a trail. -/
def found (nodes : Std.ExtTreeMap PciNodeId TopologyNode) (trail : List PciNodeId) :
    PciNodeId × PciNodeId :=
  (latest (kindAt nodes .rootComplex) {} trail, latest (kindAt nodes .switch) {} trail)

/-- What a walk keeps of a node that it passes. -/
def visit (nodes : Std.ExtTreeMap PciNodeId TopologyNode) (kept : PciNodeId × PciNodeId)
    (id : PciNodeId) : PciNodeId × PciNodeId :=
  (if kindAt nodes .rootComplex id then id else kept.1, if kindAt nodes .switch id then id else kept.2)

theorem ancestorWalk_eq_chase (rc sw cur : PciNodeId) :
    ancestorWalk nodes fuel rc sw cur = chase (parentLink nodes) (visit nodes) fuel cur (rc, sw) := by
  induction fuel generalizing rc sw cur with
  | zero =>
    unfold ancestorWalk chase parentLink
    by_cases named : cur.valid = true
    · rw [if_pos named, if_pos named]
      cases nodes[cur]? <;> rfl
    · rw [if_neg named, if_neg named]
      rfl
  | succ fuel ih =>
    unfold ancestorWalk chase parentLink
    by_cases named : cur.valid = true
    · rw [if_pos named, if_pos named]
      cases stored : nodes[cur]? with
      | none => rfl
      | some node =>
        show ancestorWalk nodes fuel _ _ node.parent = chase (parentLink nodes) (visit nodes) fuel node.parent _
        rw [ih]
        simp [visit, kindAt, stored]
    · rw [if_neg named, if_neg named]

theorem foldl_visit (rc sw : PciNodeId) : trail.foldl (visit nodes) (rc, sw) =
    (latest (kindAt nodes .rootComplex) rc trail, latest (kindAt nodes .switch) sw trail) := by
  induction trail generalizing rc sw with
  | nil => rfl
  | cons id rest ih =>
    rw [List.foldl_cons, visit, ih]
    rfl

/-- A walk ends within the fuel when its trail is no longer. -/
theorem ancestorWalk_eq_some_iff {result : PciNodeId × PciNodeId} :
    ancestorWalk nodes fuel {} {} id = some result ↔
      ∃ trail, Trail (parentLink nodes) id trail ∧ trail.length ≤ fuel ∧ found nodes trail = result := by
  rw [ancestorWalk_eq_chase]
  constructor
  · intro ends
    obtain ⟨trail, trails, short⟩ := trail_of_chase ends
    rw [trails.chase_eq short, foldl_visit, Option.some.injEq] at ends
    exact ⟨trail, trails, short, ends⟩
  · intro ends
    obtain ⟨trail, trails, short, rfl⟩ := ends
    rw [trails.chase_eq short, foldl_visit]
    rfl

/-- Without a cycle every walk ends after as many nodes as there are. -/
theorem walk_ends_of_acyclic (acyclic : AcyclicParents nodes) (id : PciNodeId) :
    (ancestorWalk nodes nodes.size {} {} id).isSome = true := by
  have all (c : PciNodeId) (leads : (parentLink nodes c).isSome = true) : c ∈ nodes.keys.toFinset :=
    List.mem_toFinset.mpr (Std.ExtTreeMap.mem_keys.mpr (mem_of_parentLink leads))
  obtain ⟨trail, trails⟩ := acyclic.exists_trail nodes.keys.toFinset all id
  have short : trail.length ≤ nodes.size :=
    calc trail.length ≤ nodes.keys.toFinset.card := trails.length_le _ all
      _ ≤ nodes.keys.length := List.toFinset_card_le _
      _ = nodes.size := Std.ExtTreeMap.length_keys
  rw [Option.isSome_iff_exists]
  exact ⟨_, ancestorWalk_eq_some_iff.mpr ⟨trail, trails, short, rfl⟩⟩

/-- Walks that all end leave no cycle. -/
theorem acyclic_of_walks_end
    (ends : ∀ id ∈ nodes, ∃ fuel, (ancestorWalk nodes fuel {} {} id).isSome = true) :
    AcyclicParents nodes := by
  intro id back
  have leads : (parentLink nodes id).isSome = true := by
    rcases TransGen.head'_iff.mp back with ⟨c, leads, -⟩
    simp [show parentLink nodes id = some c from leads]
  obtain ⟨fuel, some⟩ := ends id (mem_of_parentLink leads)
  obtain ⟨result, walked⟩ := Option.isSome_iff_exists.mp some
  obtain ⟨trail, trails, -, -⟩ := ancestorWalk_eq_some_iff.mp walked
  exact trails.no_return back

theorem acyclic_iff_walks_end : AcyclicParents nodes ↔
    ∀ id ∈ nodes.keys, (ancestorWalk nodes nodes.size {} {} id).isSome = true := by
  constructor
  · intro acyclic id _
    exact walk_ends_of_acyclic acyclic id
  · intro ends
    exact acyclic_of_walks_end fun id stored => ⟨_, ends id (Std.ExtTreeMap.mem_keys.mpr stored)⟩

instance : Decidable (AcyclicParents nodes) := decidable_of_iff _ acyclic_iff_walks_end.symm

/-! What the snapshot records. -/

theorem recordAncestors_eq_some_iff : recordAncestors fuel snap id = some t ↔
    ∃ result, ancestorWalk snap.nodes fuel {} {} id = some result ∧
      t = { snap with
        rootComplex := snap.rootComplex.insert id result.1
        switch := snap.switch.insert id result.2 } := by
  unfold recordAncestors
  cases ancestorWalk snap.nodes fuel {} {} id with
  | none => simp
  | some result => simp [eq_comm]

/-- The records of a list of nodes stand beside those there were. -/
structure Recorded (fuel : Nat) (ids : List PciNodeId) (snap t : TopologySnapshot) : Prop where
  generation : t.generation = snap.generation
  nodes : t.nodes = snap.nodes
  edges : t.edges = snap.edges
  inside : ∀ id ∈ ids, ancestorWalk snap.nodes fuel {} {} id = some (t.rootComplexOf id, t.switchOf id)
  outside : ∀ id, id ∉ ids → t.rootComplexOf id = snap.rootComplexOf id ∧ t.switchOf id = snap.switchOf id

theorem recorded_of_foldlM (ids : List PciNodeId)
    (done : ids.foldlM (recordAncestors fuel) snap = some t) : Recorded fuel ids snap t := by
  induction ids generalizing snap with
  | nil =>
    obtain rfl : snap = t := Option.some.inj done
    exact ⟨rfl, rfl, rfl, fun _ member => (List.not_mem_nil member).elim, fun _ _ => ⟨rfl, rfl⟩⟩
  | cons first rest ih =>
    rw [List.foldlM_cons] at done
    obtain ⟨next, stepped, finished⟩ := Option.bind_eq_some_iff.mp done
    obtain ⟨result, walked, rfl⟩ := recordAncestors_eq_some_iff.mp stepped
    have later := ih finished
    refine ⟨later.generation, later.nodes, later.edges, fun id member => ?_, fun id absent => ?_⟩
    · by_cases again : id ∈ rest
      · exact later.inside id again
      · obtain rfl := (List.mem_cons.mp member).resolve_right again
        obtain ⟨rc, sw⟩ := later.outside id again
        rw [rc, sw, walked]
        simp [rootComplexOf, switchOf]
    · rw [List.mem_cons, not_or] at absent
      obtain ⟨rc, sw⟩ := later.outside id absent.2
      rw [rc, sw]
      simp [rootComplexOf, switchOf, Std.ExtTreeMap.getElem?_insert, Ne.symm absent.1]

theorem foldlM_record_isSome (ids : List PciNodeId)
    (ends : ∀ id ∈ ids, (ancestorWalk snap.nodes fuel {} {} id).isSome = true) :
    ∃ t, ids.foldlM (recordAncestors fuel) snap = some t := by
  induction ids generalizing snap with
  | nil => exact ⟨snap, rfl⟩
  | cons first rest ih =>
    obtain ⟨walk, walks⟩ := List.forall_mem_cons.mp ends
    obtain ⟨result, walked⟩ := Option.isSome_iff_exists.mp walk
    rw [List.foldlM_cons, recordAncestors_eq_some_iff.mpr ⟨result, walked, rfl⟩]
    exact ih walks

end TopologySnapshot

namespace TopologyBuilder
open TopologySnapshot
variable {b : TopologyBuilder} {fuel : Nat} {generation : TopologyGeneration} {t : TopologySnapshot}

/-- A built snapshot copies the builder and records every node. -/
theorem recorded_of_build (built : b.build fuel generation = some t) :
    Recorded fuel b.nodes.keys { generation, nodes := b.nodes, edges := b.edges } t :=
  recorded_of_foldlM _ built

theorem found_of_build (built : b.build fuel generation = some t) {id : PciNodeId}
    (stored : id ∈ b.nodes) :
    ∃ trail, Trail (parentLink b.nodes) id trail ∧
      found b.nodes trail = (t.rootComplexOf id, t.switchOf id) := by
  have walked := (recorded_of_build built).inside id (Std.ExtTreeMap.mem_keys.mpr stored)
  obtain ⟨trail, trails, -, same⟩ := ancestorWalk_eq_some_iff.mp walked
  exact ⟨trail, trails, same⟩

theorem build_isSome_iff : (∃ t, b.build fuel generation = some t) ↔
    ∀ id ∈ b.nodes, (ancestorWalk b.nodes fuel {} {} id).isSome = true := by
  constructor
  · intro built id stored
    obtain ⟨t, built⟩ := built
    rw [(recorded_of_build built).inside id (Std.ExtTreeMap.mem_keys.mpr stored)]
    rfl
  · intro ends
    apply foldlM_record_isSome
    intro id member
    exact ends id (Std.ExtTreeMap.mem_keys.mp member)

/-- The builder bounds the nodes, and the parent ids decide whether a build ends: on
an accepted topology every walk ends after at most as many nodes as there are, and
the build with them, exactly when no parent ids lead back to a node. -/
theorem walks_end_iff_acyclic {calls : List Staging} (staged : stage calls = .ok b)
    (generation : TopologyGeneration) :
    b.nodes.size ≤ kMaxNodes ∧
    ((∀ id ∈ b.nodes, (ancestorWalk b.nodes b.nodes.size {} {} id).isSome = true) ↔
      AcyclicParents b.nodes) ∧
    ((∃ fuel t, b.build fuel generation = some t) ↔ AcyclicParents b.nodes) := by
  refine ⟨staged_size_le staged, ?_, ?_⟩
  · rw [acyclic_iff_walks_end]
    simp only [Std.ExtTreeMap.mem_keys]
  · constructor
    · rintro ⟨fuel, built⟩
      exact acyclic_of_walks_end fun id stored => ⟨fuel, build_isSome_iff.mp built id stored⟩
    · intro acyclic
      exact ⟨b.nodes.size, build_isSome_iff.mpr fun id _ => walk_ends_of_acyclic acyclic id⟩

/-- A root complex and a device below it. -/
def rooted : List Staging :=
  [.addNode { id := ⟨1⟩, kind := .rootComplex }, .addNode { id := ⟨2⟩, kind := .device, parent := ⟨1⟩ },
    .addEdge ⟨2⟩ ⟨1⟩]

theorem rooted_walks_end :
    ∃ b, stage rooted = .ok b ∧
      b.nodes.size ≤ kMaxNodes ∧
      ((∀ id ∈ b.nodes, (ancestorWalk b.nodes b.nodes.size {} {} id).isSome = true) ↔
        AcyclicParents b.nodes) ∧
      ((∃ fuel t, b.build fuel ⟨1⟩ = some t) ↔ AcyclicParents b.nodes) :=
  ⟨_, rfl, walks_end_iff_acyclic (show stage rooted = .ok _ from rfl) ⟨1⟩⟩

/-- Two nodes that are each other's parent. -/
def mutualParents : List Staging :=
  [.addNode { id := ⟨1⟩, kind := .switch, parent := ⟨2⟩ },
    .addNode { id := ⟨2⟩, kind := .switch, parent := ⟨1⟩ }]

/-- The builder accepts them, and the build never ends. -/
theorem mutualParents_never_build :
    ∃ b, stage mutualParents = .ok b ∧
      ¬(∀ id ∈ b.nodes, (ancestorWalk b.nodes b.nodes.size {} {} id).isSome = true) ∧
      ∀ fuel, b.build fuel ⟨1⟩ = none := by
  refine ⟨_, rfl, ?_, fun fuel => ?_⟩
  · intro ends
    have never := ends ⟨1⟩ (by decide)
    revert never
    decide
  · by_contra built
    obtain ⟨t, built⟩ := Option.ne_none_iff_exists'.mp built
    have acyclic := acyclic_of_walks_end fun id stored =>
      ⟨fuel, build_isSome_iff.mp ⟨t, built⟩ id stored⟩
    refine acyclic ⟨1⟩ (TransGen.tail (b := ⟨2⟩) (.single ?_) ?_)
    · show parentLink _ ⟨1⟩ = some ⟨2⟩
      decide
    · show parentLink _ ⟨2⟩ = some ⟨1⟩
      decide

end TopologyBuilder

end NicResidency

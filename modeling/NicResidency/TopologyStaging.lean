import NicResidency.Library.OrderedMap
import NicResidency.TopologyBuilder

/-!
The sequences of calls that a topology builder accepts. An accepted sequence may be reordered: what
is staged depends on the nodes and the edges only, and the nodes may always come first.
-/

namespace NicResidency.TopologyStaging
open Throwing OrderedMap TopologySnapshot TopologyBuilder

def nodeOf : Staging → Option TopologyNode
  | .addNode node => some node
  | .addEdge _ _ => none

def edgeOf : Staging → Option (PciNodeId × PciNodeId)
  | .addNode _ => none
  | .addEdge source target => some (source, target)

def nodesOf (calls : List Staging) : List TopologyNode := calls.filterMap nodeOf

def edgesOf (calls : List Staging) : List (PciNodeId × PciNodeId) := calls.filterMap edgeOf

def idsOf (calls : List Staging) : List PciNodeId := (nodesOf calls).map TopologyNode.id

/-- What the builder asks of a call behind the ones before it. -/
def Fits (before : List Staging) : Staging → Prop
  | .addNode node => (nodesOf before).length < kMaxNodes ∧ node.id ∉ idsOf before
  | .addEdge source target =>
    (edgesOf before).toFinset.card < kMaxEdges ∧ source ∈ idsOf before ∧ target ∈ idsOf before

/-- Every call fits behind the ones before it. -/
def AllFit (calls : List Staging) : Prop :=
  ∀ before c after, calls = before ++ c :: after → Fits before c

/-- The builder holds the nodes and the edges of the calls. -/
structure Stages (calls : List Staging) (b : TopologyBuilder) : Prop where
  nodes : ∀ (id : PciNodeId) (node : TopologyNode),
    b.nodes[id]? = some node ↔ node ∈ nodesOf calls ∧ node.id = id
  size : b.nodes.size = (nodesOf calls).length
  edges : b.edges = (edgesOf calls).toFinset

variable {calls before : List Staging} {b b' : TopologyBuilder} {c : Staging}

/-! One call. -/

theorem Stages.mem_iff (stages : Stages calls b) {id : PciNodeId} : id ∈ b.nodes ↔ id ∈ idsOf calls := by
  rw [Std.ExtTreeMap.mem_iff_isSome_getElem?, Option.isSome_iff_exists, idsOf, List.mem_map]
  exact exists_congr fun node => stages.nodes id node

theorem Stages.unique (stages : Stages calls b) (stages' : Stages calls b') : b' = b := by
  have nodes : b'.nodes = b.nodes := by
    apply Std.ExtTreeMap.ext_getElem?
    intro id
    apply Option.ext
    intro node
    rw [stages'.nodes, stages.nodes]
  obtain ⟨nodes', edges'⟩ := b'
  obtain rfl := nodes
  obtain rfl : edges' = b.edges := stages'.edges.trans stages.edges.symm
  rfl

theorem stages_snoc (stages : Stages before b) (called : b.call c = .ok b') :
    Fits before c ∧ Stages (before ++ [c]) b' := by
  cases c with
  | addNode node =>
    obtain ⟨room, new, rfl⟩ := addNode_ok_iff.mp called
    have fresh : node.id ∉ idsOf before := stages.mem_iff.not.mp new
    have nodes : nodesOf (before ++ [.addNode node]) = nodesOf before ++ [node] := by
      simp [nodesOf, nodeOf]
    refine ⟨⟨stages.size ▸ room, fresh⟩, ⟨fun id other => ?_, ?_, ?_⟩⟩
    · show (b.nodes.insert node.id node)[id]? = some other ↔ _
      rw [Std.ExtTreeMap.getElem?_insert, nodes, List.mem_append, List.mem_singleton, or_and_right,
        ← stages.nodes]
      by_cases same : node.id = id
      · subst same
        have absent : b.nodes[node.id]? = none := Std.ExtTreeMap.getElem?_eq_none new
        rw [absent]
        simp only [Std.ReflCmp.compare_self, ↓reduceIte, Option.some.injEq, reduceCtorEq, false_or]
        constructor
        · rintro rfl
          exact ⟨rfl, rfl⟩
        · rintro ⟨rfl, -⟩
          rfl
      · rw [if_neg (Std.LawfulEqOrd.compare_eq_iff_eq.not.mpr same)]
        refine ⟨.inl, fun held => held.resolve_right ?_⟩
        rintro ⟨rfl, there⟩
        exact same there
    · rw [nodes, List.length_append, List.length_singleton, ← stages.size]
      exact size_insert_new new
    · have edges : edgesOf (before ++ [.addNode node]) = edgesOf before := by simp [edgesOf, edgeOf]
      rw [edges]
      exact stages.edges
  | addEdge source target =>
    obtain ⟨room, ⟨known, known'⟩, rfl⟩ := addEdge_ok_iff.mp called
    have nodes : nodesOf (before ++ [.addEdge source target]) = nodesOf before := by
      simp [nodesOf, nodeOf]
    have edges : edgesOf (before ++ [.addEdge source target]) = edgesOf before ++ [(source, target)] := by
      simp [edgesOf, edgeOf]
    refine ⟨⟨stages.edges ▸ room, stages.mem_iff.mp known, stages.mem_iff.mp known'⟩, ?_, ?_, ?_⟩
    · rw [nodes]
      exact stages.nodes
    · rw [nodes]
      exact stages.size
    · rw [edges, List.toFinset_append, ← stages.edges, Finset.union_comm]
      rfl

theorem call_of_fits (stages : Stages before b) (fits : Fits before c) : ∃ b', b.call c = .ok b' := by
  cases c with
  | addNode node =>
    exact ⟨_, addNode_ok_iff.mpr ⟨stages.size ▸ fits.1, stages.mem_iff.not.mpr fits.2, rfl⟩⟩
  | addEdge source target =>
    obtain ⟨room, known, known'⟩ := fits
    exact ⟨_, addEdge_ok_iff.mpr
      ⟨stages.edges ▸ room, ⟨stages.mem_iff.mpr known, stages.mem_iff.mpr known'⟩, rfl⟩⟩

/-! Sequences of calls. -/

theorem allFit_snoc : AllFit (before ++ [c]) ↔ AllFit before ∧ Fits before c := by
  constructor
  · intro all
    refine ⟨fun earlier d after split => all earlier d (after ++ [c]) ?_, all before c [] rfl⟩
    rw [split, List.append_assoc, List.cons_append]
  · rintro ⟨all, fits⟩ earlier d after split
    rcases List.eq_nil_or_concat' after with rfl | ⟨after, last, rfl⟩
    · obtain ⟨rfl, same⟩ := List.append_inj' split rfl
      obtain rfl := List.singleton_inj.mp same
      exact fits
    · rw [← List.cons_append, ← List.append_assoc] at split
      exact all earlier d after (List.append_inj' split rfl).1

theorem stage_snoc : stage (before ++ [c]) = (stage before).bind fun b => b.call c := by
  unfold stage
  rw [List.foldlM_append]
  exact congrArg _ (funext fun b => bind_pure (b.call c))

theorem stages_of_stage (staged : stage calls = .ok b) : AllFit calls ∧ Stages calls b := by
  induction calls using List.reverseRecOn generalizing b with
  | nil =>
    obtain rfl := Except.ok.inj staged
    refine ⟨fun before c after split => absurd split (by simp), fun id node => ?_, rfl, rfl⟩
    simp [nodesOf]
  | append_singleton before c ih =>
    rw [stage_snoc] at staged
    obtain ⟨b₀, earlier, called⟩ := ok_of_bind staged
    obtain ⟨all, stages⟩ := ih earlier
    obtain ⟨fits, stages'⟩ := stages_snoc stages called
    exact ⟨allFit_snoc.mpr ⟨all, fits⟩, stages'⟩

/-- A sequence is accepted exactly if every call fits. -/
theorem stage_ok_iff : (∃ b, stage calls = .ok b) ↔ AllFit calls := by
  constructor
  · rintro ⟨b, staged⟩
    exact (stages_of_stage staged).1
  · intro all
    induction calls using List.reverseRecOn with
    | nil => exact ⟨_, rfl⟩
    | append_singleton before c ih =>
      obtain ⟨earlier, fits⟩ := allFit_snoc.mp all
      obtain ⟨b, staged⟩ := ih earlier
      rw [stage_snoc, staged]
      exact call_of_fits (stages_of_stage staged).2 fits

/-! Reordered calls. -/

theorem distinct_of_allFit (all : AllFit calls) :
    (nodesOf calls).length ≤ kMaxNodes ∧ (idsOf calls).Nodup := by
  induction calls using List.reverseRecOn with
  | nil => exact ⟨Nat.zero_le _, List.nodup_nil⟩
  | append_singleton before c ih =>
    obtain ⟨earlier, fits⟩ := allFit_snoc.mp all
    obtain ⟨few, distinct⟩ := ih earlier
    cases c with
    | addNode node =>
      have nodes : nodesOf (before ++ [.addNode node]) = nodesOf before ++ [node] := by
        simp [nodesOf, nodeOf]
      rw [idsOf, nodes, List.length_append, List.map_append, List.nodup_append_comm]
      exact ⟨fits.1, List.nodup_cons.mpr ⟨fits.2, distinct⟩⟩
    | addEdge source target =>
      have nodes : nodesOf (before ++ [.addEdge source target]) = nodesOf before := by
        simp [nodesOf, nodeOf]
      rw [idsOf, nodes]
      exact ⟨few, distinct⟩

/-- The nodes, and the edges behind them. -/
def nodesFirst (nodes : List TopologyNode) (edges : List (PciNodeId × PciNodeId)) : List Staging :=
  nodes.map .addNode ++ edges.map fun edge => .addEdge edge.1 edge.2

variable {nodes : List TopologyNode} {edges : List (PciNodeId × PciNodeId)}

theorem nodesOf_nodesFirst : nodesOf (nodesFirst nodes edges) = nodes := by
  simp [nodesOf, nodesFirst, List.filterMap_append, List.filterMap_map, Function.comp_def, nodeOf]

theorem edgesOf_nodesFirst : edgesOf (nodesFirst nodes edges) = edges := by
  simp [edgesOf, nodesFirst, List.filterMap_append, List.filterMap_map, Function.comp_def, edgeOf]

theorem nodesFirst_fits (few : nodes.length ≤ kMaxNodes) (distinct : (nodes.map TopologyNode.id).Nodup)
    (linked : ∀ before edge after, edges = before ++ edge :: after →
      before.toFinset.card < kMaxEdges ∧ edge.1 ∈ nodes.map TopologyNode.id ∧
        edge.2 ∈ nodes.map TopologyNode.id) : AllFit (nodesFirst nodes edges) := by
  induction edges using List.reverseRecOn with
  | nil =>
    clear linked
    induction nodes using List.reverseRecOn with
    | nil => exact fun before c after split => absurd split (by simp [nodesFirst])
    | append_singleton before node ih =>
      rw [List.map_append, List.nodup_append_comm] at distinct
      obtain ⟨new, distinct⟩ := List.nodup_cons.mp distinct
      rw [List.length_append, List.length_singleton] at few
      have earlier := ih (Nat.le_of_succ_le few) distinct
      have split : nodesFirst (before ++ [node]) [] = nodesFirst before [] ++ [.addNode node] := by
        simp [nodesFirst]
      rw [split, allFit_snoc]
      refine ⟨earlier, ?_, ?_⟩
      · rw [nodesOf_nodesFirst]
        exact few
      · rw [idsOf, nodesOf_nodesFirst]
        exact new
  | append_singleton before edge ih =>
    have split : nodesFirst nodes (before ++ [edge]) =
        nodesFirst nodes before ++ [.addEdge edge.1 edge.2] := by
      simp [nodesFirst]
    rw [split, allFit_snoc]
    refine ⟨ih fun earlier e after divided => linked earlier e (after ++ [edge]) ?_, ?_⟩
    · rw [divided, List.append_assoc, List.cons_append]
    · rw [Fits, idsOf, nodesOf_nodesFirst, edgesOf_nodesFirst]
      exact linked before edge [] rfl

/-- The topology with these nodes and edges. -/
structure Built (nodes : List TopologyNode) (edges : List (PciNodeId × PciNodeId))
    (generation : TopologyGeneration) (t : TopologySnapshot) : Prop where
  generation : t.generation = generation
  nodes : ∀ (id : PciNodeId) (node : TopologyNode), t.nodes[id]? = some node ↔ node ∈ nodes ∧ node.id = id
  edges : t.edges = edges.toFinset

/-- Nodes with distinct numbers can be built if the number of a parent is always less. -/
theorem nodesFirst_builds (few : nodes.length ≤ kMaxNodes) (few' : edges.length ≤ kMaxEdges)
    (distinct : (nodes.map TopologyNode.id).Nodup)
    (above : ∀ node ∈ nodes, node.parent.value < node.id.value)
    (linked : ∀ edge ∈ edges, edge.1 ∈ nodes.map TopologyNode.id ∧ edge.2 ∈ nodes.map TopologyNode.id)
    (generation : TopologyGeneration) :
    ∃ b t, stage (nodesFirst nodes edges) = .ok b ∧ b.build b.nodes.size generation = some t ∧
      Built nodes edges generation t := by
  have all : AllFit (nodesFirst nodes edges) := by
    refine nodesFirst_fits few distinct ?_
    rintro before edge after rfl
    refine ⟨?_, linked edge (by simp)⟩
    have short := before.toFinset_card_le
    rw [List.length_append, List.length_cons] at few'
    omega
  obtain ⟨b, staged⟩ := stage_ok_iff.mpr all
  have stages := (stages_of_stage staged).2
  have acyclic : AcyclicParents b.nodes := by
    refine Ancestry.acyclic_of_decreasing (fun id => id.value.toNat) fun id parent leads => ?_
    unfold parentLink at leads
    split at leads
    · obtain ⟨node, stored, rfl⟩ := Option.map_eq_some_iff.mp leads
      obtain ⟨member, rfl⟩ := (stages.nodes id node).mp stored
      rw [nodesOf_nodesFirst] at member
      exact UInt64.lt_iff_toNat_lt.mp (above node member)
    · cases leads
  obtain ⟨t, built⟩ := build_isSome_iff.mpr fun id _ => walk_ends_of_acyclic acyclic id
  have recorded := recorded_of_build built
  refine ⟨b, t, staged, built, recorded.generation, fun id node => ?_, ?_⟩
  · rw [recorded.nodes, stages.nodes, nodesOf_nodesFirst]
  · rw [recorded.edges, stages.edges, edgesOf_nodesFirst]

/-- The nodes of an accepted sequence may be staged before its edges. -/
theorem nodesFirst_of_allFit (all : AllFit calls) : AllFit (nodesFirst (nodesOf calls) (edgesOf calls)) := by
  obtain ⟨few, distinct⟩ := distinct_of_allFit all
  refine nodesFirst_fits few distinct fun earlier edge later split => ?_
  obtain ⟨before, rest, rfl, rfl, found⟩ := List.filterMap_eq_append_iff.mp split
  obtain ⟨skipped, c, after, rfl, none, same, rfl⟩ := List.filterMap_eq_cons_iff.mp found
  cases c with
  | addNode node => cases same
  | addEdge source target =>
    obtain rfl := Option.some.inj same
    have fits := all (before ++ skipped) (.addEdge source target) after (by simp)
    have unchanged : edgesOf (before ++ skipped) = edgesOf before := by
      rw [edgesOf, List.filterMap_append, List.filterMap_eq_nil_iff.mpr none, List.append_nil]
      rfl
    have among {id : PciNodeId} (known : id ∈ idsOf (before ++ skipped)) :
        id ∈ idsOf (before ++ (skipped ++ .addEdge source target :: after)) := by
      rw [← List.append_assoc]
      simp only [idsOf, nodesOf, List.filterMap_append, List.map_append, List.mem_append] at known ⊢
      exact .inl known
    obtain ⟨room, known, known'⟩ := fits
    rw [unchanged] at room
    exact ⟨room, among known, among known'⟩

theorem stages_perm {calls' : List Staging} (same : calls.Perm calls') (stages : Stages calls b)
    (stages' : Stages calls' b') : b' = b := by
  have nodes : (nodesOf calls).Perm (nodesOf calls') := same.filterMap _
  have edges : (edgesOf calls).Perm (edgesOf calls') := same.filterMap _
  refine stages.unique ⟨fun id node => ?_, ?_, ?_⟩
  · rw [stages'.nodes, nodes.mem_iff]
  · rw [stages'.size, nodes.length_eq]
  · rw [stages'.edges, List.toFinset_eq_of_perm _ _ edges]

theorem perm_nodesFirst : calls.Perm (nodesFirst (nodesOf calls) (edgesOf calls)) := by
  induction calls with
  | nil => exact .nil
  | cons c rest ih =>
    cases c with
    | addNode node => exact ih.cons (.addNode node)
    | addEdge source target =>
      exact (ih.cons (.addEdge source target)).trans List.perm_middle.symm

/-- A sequence is accepted exactly if every call fits behind the ones before it. Then its nodes may
come first, and every accepted order of its calls builds the same topology. -/
theorem staging_order (calls : List Staging) (fuel : Nat) (generation : TopologyGeneration) :
    ((∃ b, stage calls = .ok b) ↔ AllFit calls) ∧
    ∀ b, stage calls = .ok b →
      stage (nodesFirst (nodesOf calls) (edgesOf calls)) = .ok b ∧
      ∀ calls' b', calls.Perm calls' → stage calls' = .ok b' →
        b'.build fuel generation = b.build fuel generation := by
  refine ⟨stage_ok_iff, fun b staged => ?_⟩
  obtain ⟨all, stages⟩ := stages_of_stage staged
  constructor
  · obtain ⟨b', staged'⟩ := stage_ok_iff.mpr (nodesFirst_of_allFit all)
    rw [staged', stages_perm perm_nodesFirst stages (stages_of_stage staged').2]
  · intro calls' b' same staged'
    rw [stages_perm same stages (stages_of_stage staged').2]

/-- A switch with two devices, each linked as soon as it is there. -/
def interleaved : List Staging :=
  [.addNode { id := ⟨1⟩, kind := .switch }, .addNode { id := ⟨2⟩, parent := ⟨1⟩ },
    .addEdge ⟨2⟩ ⟨1⟩, .addNode { id := ⟨3⟩, parent := ⟨1⟩ }, .addEdge ⟨3⟩ ⟨1⟩]

theorem interleaved_nodesFirst : ∃ b, stage interleaved = .ok b ∧
    stage (nodesFirst (nodesOf interleaved) (edgesOf interleaved)) = .ok b :=
  ⟨_, rfl, ((staging_order interleaved 3 ⟨1⟩).2 _ rfl).1⟩

end NicResidency.TopologyStaging

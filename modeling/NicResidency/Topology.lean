import NicResidency.Records

/-!
The topology snapshot: a graph of PCI and NUMA locality evidence, with the
nearest root complex and switch recorded for each node when it was built, and
the locality queries that read it.
-/

namespace NicResidency

inductive TopologyNodeKind where
  | rootComplex | switch | bridge | device | numaDomain | unknown
  deriving DecidableEq, Repr

structure TopologyNode where
  id : PciNodeId := {}
  pci : PciAddress := {}
  kind : TopologyNodeKind := .unknown
  parent : PciNodeId := {}
  numaNode : NumaNodeId := {}
  provenance : Provenance := {}
  deriving DecidableEq, Repr

structure TopologySnapshot where
  generation : TopologyGeneration := {}
  nodes : Std.ExtTreeMap PciNodeId TopologyNode := ∅
  edges : Finset (PciNodeId × PciNodeId) := ∅
  rootComplex : Std.ExtTreeMap PciNodeId PciNodeId := ∅
  switch : Std.ExtTreeMap PciNodeId PciNodeId := ∅

namespace TopologySnapshot

/-- The node for a PCI address: the first match in the order of node ids. -/
def nodeForPci (t : TopologySnapshot) (pci : PciAddress) : Option TopologyNode :=
  t.nodes.values.find? fun node => node.pci.equal pci

def rootComplexOf (t : TopologySnapshot) (n : PciNodeId) : PciNodeId :=
  t.rootComplex[n]?.getD {}

def switchOf (t : TopologySnapshot) (n : PciNodeId) : PciNodeId :=
  t.switch[n]?.getD {}

def sameRootComplex (t : TopologySnapshot) (a b : PciAddress) : Bool :=
  match t.nodeForPci a, t.nodeForPci b with
  | some na, some nb =>
    let ra := t.rootComplexOf na.id
    let rb := t.rootComplexOf nb.id
    ra.valid && ra == rb
  | _, _ => false

def samePcieSwitch (t : TopologySnapshot) (a b : PciAddress) : Bool :=
  match t.nodeForPci a, t.nodeForPci b with
  | some na, some nb =>
    let sa := t.switchOf na.id
    let sb := t.switchOf nb.id
    sa.valid && sa == sb
  | _, _ => false

def sameNumaNode (t : TopologySnapshot) (a b : PciAddress) : Bool :=
  match t.nodeForPci a, t.nodeForPci b with
  | some na, some nb => na.numaNode.valid && na.numaNode == nb.numaNode
  | _, _ => false

def fastCost (a b : PciAddress) : Int := a.distanceTo b

def derivableCost (f : LocalityFactors) : Int :=
  (if f.numaSame then 0 else 1000) + (if f.rootComplexSame then 0 else 200) -
    (if f.pcieSwitchSame then 10 else 0) - (if f.directPciNeighbor then 5 else 0)

def classify (na nb : Option TopologyNode) (a b : PciAddress) (f : LocalityFactors) :
    LocalityRelationship :=
  if a.equal b then .sameDevice
  else if f.pcieSwitchSame then .samePcieSwitch
  else if f.rootComplexSame then .sameRootComplex
  else if f.numaSame then .sameNumaNode
  else match na, nb with
    | some na, some nb =>
      if na.numaNode.valid ∧ nb.numaNode.valid ∧ na.numaNode ≠ nb.numaNode then .remoteNuma
      else .unknown
    | _, _ => .unknown

/-- The evidence label of a derived statement. -/
def derivedProvenance (na nb : Option TopologyNode) : Provenance :=
  match na, nb with
  | some na, some nb =>
    let bothReal := na.provenance.kind == .real && nb.provenance.kind == .real
    let bothSynth := na.provenance.kind == .synthetic && nb.provenance.kind == .synthetic
    { kind := if bothSynth then .synthetic else .real
      sources := [.pci, .numa] ++ if !bothReal && !bothSynth then [.derived] else [] }
  | _, _ => { kind := .real, sources := [.pci, .derived] }

/-- The three graph factors and their cost, before the neighbour flag is set. -/
def pairFactors (t : TopologySnapshot) (a b : PciAddress) : LocalityFactors :=
  match t.nodeForPci a, t.nodeForPci b with
  | some _, some _ =>
    let f : LocalityFactors :=
      { rootComplexSame := t.sameRootComplex a b
        pcieSwitchSame := t.samePcieSwitch a b
        numaSame := t.sameNumaNode a b }
    { f with cost := derivableCost f }
  | _, _ => { cost := fastCost a b }

/-- The full locality statement between two PCI addresses. -/
def localityBetween (t : TopologySnapshot) (a b : PciAddress) : Locality :=
  let na := t.nodeForPci a
  let nb := t.nodeForPci b
  let base := t.pairFactors a b
  let factors := if a.equal b then { base with directPciNeighbor := true } else base
  let numaA := (na.map (·.numaNode)).getD {}
  let numaB := (nb.map (·.numaNode)).getD {}
  { relationship := classify na nb a b factors
    numaNode := if numaA.valid then numaA else numaB
    pci := b
    provenance := derivedProvenance na nb
    factors := factors }

def costBetween (t : TopologySnapshot) (a b : PciAddress) : Int :=
  (t.pairFactors a b).cost

/-- The cost of a statement is the cost of its pair: the neighbour flag is set after
the cost is taken. -/
theorem localityBetween_cost (t : TopologySnapshot) (a b : PciAddress) :
    (t.localityBetween a b).factors.cost = t.costBetween a b := by
  simp only [localityBetween, costBetween]
  split <;> rfl

end TopologySnapshot

end NicResidency

import NicResidency.Selection

/-!
The evidence behind a locality. A policy sees seven bits of the locality of a NIC.
They come from the record of the target GPU and from the topology, and neither the
provenance of these nor an unobserved address is asked for on the way.
-/

namespace NicResidency.LocalityEvidence
open ResidencyPolicy Selection

/-! What a policy sees. -/

/-- The part of a locality that the hard checks and the ranking read. -/
@[ext] structure Seen where
  numaSame : Bool
  rootComplexSame : Bool
  pcieSwitchSame : Bool
  acceleratorAffine : Bool
  cpuLocal : Bool
  localMemory : Bool
  far : Bool
  deriving DecidableEq

def seen (loc : Locality) : Seen where
  numaSame := loc.factors.numaSame
  rootComplexSame := loc.factors.rootComplexSame
  pcieSwitchSame := loc.factors.pcieSwitchSame
  acceleratorAffine := loc.factors.acceleratorAffine
  cpuLocal := loc.factors.cpuLocal
  localMemory := loc.factors.localMemory
  far := degraded loc.relationship

/-- The locality of a NIC to the target, as a policy sees it. -/
def seenTo (reg : RegistrySnapshot) (gpu : GpuId) (numa : NumaNodeId) (nic : NicRecord) : Seen :=
  seen (localityOf reg nic (gpuRecord reg gpu) numa)

/-- The checks that come before those of the locality. -/
def standing (policy : ResidencyPolicy) (nic : NicRecord) : List Constraint :=
  (policy.constraints {} nic {} {}).take 15

section
variable {policy : ResidencyPolicy} {reg reg' : RegistrySnapshot} {gpu : GpuId} {numa : NumaNodeId}
  {nic : NicRecord}

theorem constraints_split : policy.constraints reg nic gpu numa =
    standing policy nic ++ (policy.constraints reg nic gpu numa).drop 15 :=
  (List.take_append_drop 15 _).symm

theorem hardCheck_congr (same : seenTo reg gpu numa nic = seenTo reg' gpu numa nic) :
    policy.hardCheck reg nic gpu numa = policy.hardCheck reg' nic gpu numa := by
  obtain ⟨numaSame, rootComplexSame, pcieSwitchSame, -, -, -, far⟩ := Seen.mk.inj same
  have constraints : policy.constraints reg nic gpu numa = policy.constraints reg' nic gpu numa := by
    simp only [constraints, numaSame, rootComplexSame, pcieSwitchSame]
  simp only [hardCheck, constraints, far]

theorem rank_congr (same : seenTo reg gpu numa nic = seenTo reg' gpu numa nic) :
    policy.rank reg nic gpu numa = policy.rank reg' nic gpu numa := by
  obtain ⟨numaSame, rootComplexSame, pcieSwitchSame, accelerator, cpu, memory, -⟩ := Seen.mk.inj same
  simp only [rank, numaSame, rootComplexSame, pcieSwitchSame, accelerator, cpu, memory]

/-- A broken check before those of the locality decides alone. -/
theorem hardCheck_standing {constraint : Constraint}
    (found : (standing policy nic).find? Constraint.broken = some constraint) :
    policy.hardCheck reg nic gpu numa = (constraint.eligibility, [constraint.reason]) := by
  unfold hardCheck
  rw [constraints_split, List.find?_append, found]
  rfl

/-- A NIC that passes them is allowed once nothing is required of the locality. -/
theorem contending_of_standing (strict : policy.allowSynthetic = false)
    (unbroken : (standing policy nic).find? Constraint.broken = none) :
    Admissible nic ∧ nic.provenance.kind = .real := by
  let relaxed : ResidencyPolicy :=
    { policy with requireSameNuma := false, requireSameRc := false, requireSameSwitch := false }
  have allowed : (relaxed.hardCheck {} nic {} {}).1.allowed = true := by
    rw [hardCheck_allowed_iff, constraints_split]
    intro constraint member
    rcases List.mem_append.mp member with early | located
    · simpa using List.find?_eq_none.mp unbroken constraint early
    · simp only [constraints, List.drop_succ_cons, List.drop_zero, List.mem_cons, List.not_mem_nil,
        or_false] at located
      rcases located with rfl | rfl | rfl <;> rfl
  exact ⟨admissible_of_allowed allowed, real_of_allowed allowed strict⟩

/-- What a decision reports about a NIC: its eligibility and its rank score. -/
def verdict (policy : ResidencyPolicy) (reg : RegistrySnapshot) (gpu : GpuId) (numa : NumaNodeId)
    (nic : NicRecord) : ResidencyEligibility × Int :=
  ((policy.evaluate reg gpu numa nic).eligibility, (policy.evaluate reg gpu numa nic).rankScore)

theorem verdict_congr (same : seenTo reg gpu numa nic = seenTo reg' gpu numa nic) :
    verdict policy reg gpu numa nic = verdict policy reg' gpu numa nic := by
  simp only [verdict, evaluate, hardCheck_congr same, rank_congr same]

/-- Without synthetic evidence, a NIC that is not admissible or not real is judged by
its own record. -/
theorem verdict_of_not_contending (strict : policy.allowSynthetic = false)
    (out : ¬(Admissible nic ∧ nic.provenance.kind = .real)) :
    verdict policy reg gpu numa nic = verdict policy reg' gpu numa nic := by
  cases found : (standing policy nic).find? Constraint.broken with
  | none => exact absurd (contending_of_standing strict found) out
  | some constraint =>
    have member : constraint ∈ policy.constraints {} nic {} {} :=
      List.mem_of_mem_take (List.mem_of_find?_eq_some found)
    simp only [verdict, evaluate, hardCheck_standing found, constraint_not_allowed member]
    rfl

/-! The selected NIC follows from the verdicts. -/

/-- Whether an id with its verdict comes before another one. -/
def VerdictNotAfter (a b : NicId × ResidencyEligibility × Int) : Prop :=
  a.2.2 < b.2.2 ∨ a.2.2 = b.2.2 ∧ a.1.value ≤ b.1.value

instance : DecidableRel VerdictNotAfter :=
  fun _ _ => inferInstanceAs (Decidable (_ ∨ _))

theorem contenders_verdicts :
    (contenders policy reg gpu numa).map (fun e => (e.nic, e.eligibility, e.rankScore)) =
      ((((policy.considered reg).map fun nic => (nic.id, verdict policy reg gpu numa nic)).filter
        (·.2.1.allowed)).insertionSort VerdictNotAfter) := by
  rw [contenders, List.map_insertionSort (r := CandidateResult.NotAfter) (s := VerdictNotAfter),
    List.filter_map, List.filter_map, List.map_map]
  · rfl
  · intro a _ b _
    rfl

theorem selected_congr {endpoint : EndpointId} {workload : WorkerId} (nics : reg.nics = reg'.nics)
    (same : ∀ nic ∈ policy.considered reg,
      verdict policy reg gpu numa nic = verdict policy reg' gpu numa nic) :
    (policy.decide reg gpu numa endpoint workload).selected =
      (policy.decide reg' gpu numa endpoint workload).selected := by
  have considered : policy.considered reg = policy.considered reg' := by
    rw [considered, considered, nics]
  have listed : (policy.considered reg).map (fun nic => (nic.id, verdict policy reg gpu numa nic)) =
      (policy.considered reg').map fun nic => (nic.id, verdict policy reg' gpu numa nic) := by
    rw [← considered]
    apply List.map_congr_left
    intro nic member
    rw [same nic member]
  have sorted : (contenders policy reg gpu numa).map _ = _ := contenders_verdicts
  rw [listed, ← contenders_verdicts] at sorted
  have firsts := congrArg (fun entries => (entries.head?).map Prod.fst) sorted
  simp only [List.head?_map, Option.map_map] at firsts
  rw [decide_selected, decide_selected]
  exact congrArg (fun first => first.getD {}) firsts

end

/-! Weights tell the bits of a locality apart. -/

/-- A policy without requirements that weighs the six factors as given. -/
def weighing (switch root numa accelerator cpu memory : Int) : ResidencyPolicy where
  wSameSwitch := switch
  wSameRoot := root
  wSameNuma := numa
  wAccel := accelerator
  wCpuLocal := cpu
  wLocalMem := memory

section
variable {reg reg' : RegistrySnapshot} {gpu : GpuId} {numa : NumaNodeId} {nic : NicRecord}
  (admissible : Admissible nic) (real : nic.provenance.kind = .real)

include admissible real in
theorem weighing_hardCheck (switch root near accelerator cpu memory : Int) :
    (weighing switch root near accelerator cpu memory).hardCheck reg nic gpu numa =
      if (seenTo reg gpu numa nic).far then (.residencyAllowedDegraded, [])
      else (.residencyAllowed, []) := by
  have taken : nic.provenance.synthetic = true → False := by
    simp [Provenance.synthetic, real]
  have allowed : ((weighing switch root near accelerator cpu memory).hardCheck reg nic gpu
      numa).1.allowed = true :=
    allowed_of_lenient ⟨rfl, rfl, rfl, rfl, rfl, rfl, rfl, rfl, rfl, rfl⟩ admissible
      (fun synthetic => (taken synthetic).elim) (by simp [weighing])
  exact hardCheck_of_allowed allowed

include admissible real in
theorem weighing_rankScore (switch root near accelerator cpu memory : Int) :
    (verdict (weighing switch root near accelerator cpu memory) reg gpu numa nic).2 =
      (weighing switch root near accelerator cpu memory).rank reg nic gpu numa := by
  simp only [verdict, evaluate, weighing_hardCheck admissible real]
  split <;> rfl

theorem bit_inj {a b : Bool} (same : (if a then (1 : Int) else 0) = if b then 1 else 0) : a = b := by
  cases a <;> cases b <;> simp at same ⊢

include admissible real in
/-- Two snapshots in which every strict policy judges the NIC alike look alike. -/
theorem seen_of_verdicts
    (same : ∀ policy : ResidencyPolicy, policy.allowSynthetic = false →
      verdict policy reg gpu numa nic = verdict policy reg' gpu numa nic) :
    seenTo reg gpu numa nic = seenTo reg' gpu numa nic := by
  have eligible := congrArg Prod.fst (same (weighing 0 0 0 0 0 0) rfl)
  simp only [verdict, evaluate, weighing_hardCheck admissible real] at eligible
  have ranks (switch root near accelerator cpu memory : Int) :=
    congrArg Prod.snd (same (weighing switch root near accelerator cpu memory) rfl)
  simp only [weighing_rankScore admissible real] at ranks
  simp only [rank, weighing] at ranks
  have switch := ranks 1 0 0 0 0 0
  have root := ranks 0 1 0 0 0 0
  have near := ranks 0 0 1 0 0 0
  have accelerator := ranks 0 0 0 1 0 0
  have cpu := ranks 0 0 0 0 1 0
  have memory := ranks 0 0 0 0 0 1
  simp only [ite_self, zero_add, add_zero, zero_mul] at switch root near accelerator cpu memory
  have far : (seenTo reg gpu numa nic).far = (seenTo reg' gpu numa nic).far := by
    cases here : (seenTo reg gpu numa nic).far <;> cases there : (seenTo reg' gpu numa nic).far <;>
      simp [here, there] at eligible ⊢
  exact Seen.ext (bit_inj near) (bit_inj root) (bit_inj switch) (bit_inj accelerator) (bit_inj cpu)
    (bit_inj memory) far

end

/-! Where the bits come from. -/

/-- The NUMA fields of the records put the NIC next to the GPU or to the target. -/
def recordNuma (gpu : GpuRecord) (numa : NumaNodeId) (nic : NicRecord) : Bool :=
  sameNumaNode gpu.numaNode nic.numaNode || sameNumaNode numa nic.numaNode

/-- The topology relates two addresses, or they are equal. -/
def related (t : TopologySnapshot) (a b : PciAddress) : Bool :=
  a.equal b || t.samePcieSwitch a b || t.sameRootComplex a b || t.sameNumaNode a b

section
variable (t : TopologySnapshot) (a b : PciAddress)

/-- The graph factors of a pair are the three queries, also when a node is missing. -/
theorem pairFactors_queries :
    (t.pairFactors a b).rootComplexSame = t.sameRootComplex a b ∧
      (t.pairFactors a b).pcieSwitchSame = t.samePcieSwitch a b ∧
      (t.pairFactors a b).numaSame = t.sameNumaNode a b := by
  unfold TopologySnapshot.pairFactors TopologySnapshot.sameRootComplex
    TopologySnapshot.samePcieSwitch TopologySnapshot.sameNumaNode
  cases t.nodeForPci a <;> cases t.nodeForPci b <;> exact ⟨rfl, rfl, rfl⟩

theorem degraded_classify (na nb : Option TopologyNode) (f : LocalityFactors) :
    degraded (TopologySnapshot.classify na nb a b f) =
      !(a.equal b || f.pcieSwitchSame || f.rootComplexSame || f.numaSame) := by
  unfold TopologySnapshot.classify
  split_ifs with same switch root near
  · simp [same, degraded]
  · simp [switch, degraded]
  · simp [root, degraded]
  · simp [near, degraded]
  · simp only [same, switch, root, near]
    cases na with
    | none => rfl
    | some na =>
      cases nb with
      | none => rfl
      | some nb =>
        simp only
        split_ifs <;> rfl

theorem degraded_promoted (relationship : LocalityRelationship) :
    degraded (if relationship = .unknown ∨ relationship = .remoteNuma ∨ relationship = .hostLocal then
      .sameNumaNode else relationship) = false := by
  cases relationship <;> rfl

theorem seen_localityBetween : seen (t.localityBetween a b) =
    { numaSame := t.sameNumaNode a b
      rootComplexSame := t.sameRootComplex a b
      pcieSwitchSame := t.samePcieSwitch a b
      acceleratorAffine := false
      cpuLocal := false
      localMemory := false
      far := !related t a b } := by
  obtain ⟨root, switch, near⟩ := pairFactors_queries t a b
  have others : (t.pairFactors a b).acceleratorAffine = false ∧
      (t.pairFactors a b).cpuLocal = false ∧ (t.pairFactors a b).localMemory = false := by
    unfold TopologySnapshot.pairFactors
    split <;> exact ⟨rfl, rfl, rfl⟩
  obtain ⟨accelerator, cpu, memory⟩ := others
  simp only [seen, TopologySnapshot.localityBetween, degraded_classify, related]
  split <;> simp only [root, switch, near, accelerator, cpu, memory]

end

section
variable {reg : RegistrySnapshot} {gpu : GpuId} {numa : NumaNodeId} {nic : NicRecord}
  {target : GpuRecord}

/-- Without a GPU record only the target NUMA node counts. -/
theorem seen_noGpu (missing : gpuRecord reg gpu = none) : seenTo reg gpu numa nic =
    { numaSame := sameNumaNode numa nic.numaNode
      rootComplexSame := false
      pcieSwitchSame := false
      acceleratorAffine := false
      cpuLocal := sameNumaNode numa nic.numaNode
      localMemory := false
      far := !sameNumaNode numa nic.numaNode } := by
  unfold seenTo
  rw [missing]
  cases near : sameNumaNode numa nic.numaNode <;> simp [localityOf, seen, near, degraded]

theorem seen_noTopology (found : gpuRecord reg gpu = some target) (bare : reg.topology = none) :
    seenTo reg gpu numa nic =
      { numaSame := recordNuma target numa nic
        rootComplexSame := false
        pcieSwitchSame := false
        acceleratorAffine := recordNuma target numa nic
        cpuLocal := recordNuma target numa nic
        localMemory := false
        far := !recordNuma target numa nic } := by
  unfold seenTo
  rw [found]
  cases byGpu : sameNumaNode target.numaNode nic.numaNode <;>
    cases byTarget : sameNumaNode numa nic.numaNode <;>
      simp [localityOf, localityToGpu, baseLocality, bare, seen, recordNuma, byGpu, byTarget, degraded]

theorem seen_topology {t : TopologySnapshot} (found : gpuRecord reg gpu = some target)
    (mapped : reg.topology = some t) :
    seenTo reg gpu numa nic =
      { numaSame := t.sameNumaNode nic.pci target.pci || recordNuma target numa nic
        rootComplexSame := t.sameRootComplex nic.pci target.pci
        pcieSwitchSame := t.samePcieSwitch nic.pci target.pci
        acceleratorAffine := recordNuma target numa nic
        cpuLocal := recordNuma target numa nic
        localMemory := false
        far := !(related t nic.pci target.pci || recordNuma target numa nic) } := by
  obtain ⟨near, root, switch, accelerator, cpu, memory, far⟩ :=
    Seen.mk.inj (seen_localityBetween t nic.pci target.pci)
  unfold seenTo
  rw [found]
  simp only [localityOf, localityToGpu, baseLocality, mapped, recordNuma]
  split
  next record =>
    simp only [record, Bool.or_true, Bool.not_true]
    simp only [seen, root, switch, memory, degraded_promoted]
  next record =>
    simp only [Bool.not_eq_true] at record
    simp only [seen, record, near, root, switch, accelerator, cpu, memory, far, Bool.or_false]

end

/-! Synthetic GPUs and topologies. -/

def allSynthetic (t : TopologySnapshot) : Bool :=
  t.nodes.values.all fun node => node.provenance.synthetic

/-- The snapshot without its synthetic GPU records, and without a topology of
synthetic nodes only. -/
def withoutSynthetic (reg : RegistrySnapshot) : RegistrySnapshot :=
  { reg with
    gpus := reg.gpus.filter fun _ gpu => !gpu.provenance.synthetic
    topology := reg.topology.filter fun t => !allSynthetic t }

/-- Synthetic GPU records and topologies have no influence on a decision that does
not allow synthetic evidence. -/
def Uninfluenced (reg : RegistrySnapshot) (gpu : GpuId) (numa : NumaNodeId) : Prop :=
  ∀ policy : ResidencyPolicy, policy.allowSynthetic = false →
    (∀ (id : NicId) (nic : NicRecord), reg.nics[id]? = some nic →
      verdict policy reg gpu numa nic = verdict policy (withoutSynthetic reg) gpu numa nic) ∧
    ∀ endpoint workload, (policy.decide reg gpu numa endpoint workload).selected =
      (policy.decide (withoutSynthetic reg) gpu numa endpoint workload).selected

/-- What the synthetic evidence says about a NIC makes no difference. A synthetic GPU
is related to it by neither the records nor the topology. A synthetic topology puts it
and the GPU on no common root complex or switch, and relates them otherwise only
where the records do. -/
def NoDifference (reg : RegistrySnapshot) (gpu : GpuId) (numa : NumaNodeId) (nic : NicRecord) : Prop :=
  ∀ target, gpuRecord reg gpu = some target →
    if target.provenance.synthetic then
      recordNuma target numa nic = false ∧
        ∀ t, reg.topology = some t → related t nic.pci target.pci = false
    else
      ∀ t, reg.topology = some t → allSynthetic t = true →
        t.sameRootComplex nic.pci target.pci = false ∧ t.samePcieSwitch nic.pci target.pci = false ∧
          (related t nic.pci target.pci = true → recordNuma target numa nic = true)

section
variable {reg : RegistrySnapshot} {gpu : GpuId} {numa : NumaNodeId} {nic : NicRecord}
  {target : GpuRecord}

theorem gpuRecord_withoutSynthetic : gpuRecord (withoutSynthetic reg) gpu =
    (gpuRecord reg gpu).filter fun target => !target.provenance.synthetic := by
  unfold gpuRecord
  split
  · exact Std.ExtTreeMap.getElem?_filter'
  · rfl

theorem seen_withoutSynthetic_iff :
    seenTo reg gpu numa nic = seenTo (withoutSynthetic reg) gpu numa nic ↔
      NoDifference reg gpu numa nic := by
  have kept : gpuRecord (withoutSynthetic reg) gpu = _ := gpuRecord_withoutSynthetic
  have topology : (withoutSynthetic reg).topology = reg.topology.filter fun t => !allSynthetic t := rfl
  unfold NoDifference
  cases found : gpuRecord reg gpu with
  | none =>
    rw [found, Option.filter_none] at kept
    rw [seen_noGpu found, seen_noGpu kept]
    simp only [reduceCtorEq, false_imp_iff, implies_true]
  | some target =>
    rw [found, Option.filter_some] at kept
    simp only [Option.some.injEq, forall_eq']
    cases synthetic : target.provenance.synthetic with
    | true =>
      -- the record is gone, and what is left is the target NUMA node
      simp only [synthetic, Bool.not_true, Bool.false_eq_true, if_false] at kept
      rw [seen_noGpu kept]
      cases mapped : reg.topology with
      | none =>
        rw [seen_noTopology found mapped]
        unfold recordNuma
        cases sameNumaNode target.numaNode nic.numaNode <;>
          cases sameNumaNode numa nic.numaNode <;> simp
      | some t =>
        rw [seen_topology found mapped]
        simp only [Option.some.injEq, forall_eq', related, recordNuma]
        cases sameNumaNode target.numaNode nic.numaNode <;>
          cases sameNumaNode numa nic.numaNode <;> grind
    | false =>
      simp only [synthetic, Bool.not_false, if_true] at kept
      cases mapped : reg.topology with
      | none =>
        rw [mapped, Option.filter_none] at topology
        rw [seen_noTopology found mapped, seen_noTopology kept topology]
        simp only [reduceCtorEq, false_imp_iff, implies_true, Bool.false_eq_true, if_false]
      | some t =>
        rw [mapped, Option.filter_some] at topology
        rw [seen_topology found mapped]
        simp only [Option.some.injEq, forall_eq', Bool.false_eq_true, if_false]
        cases fixture : allSynthetic t with
        | false =>
          simp only [fixture, Bool.not_false, if_true] at topology
          rw [seen_topology kept topology]
          simp only [Bool.false_eq_true, false_imp_iff]
        | true =>
          simp only [fixture, Bool.not_true, Bool.false_eq_true, if_false] at topology
          rw [seen_noTopology kept topology]
          simp only [related]
          cases recordNuma target numa nic <;> grind

/-- Synthetic evidence has no influence exactly when it makes no difference for any
real NIC that a policy can allow. -/
theorem uninfluenced_iff (reg : RegistrySnapshot) (gpu : GpuId) (numa : NumaNodeId) :
    Uninfluenced reg gpu numa ↔
      ∀ (id : NicId) (nic : NicRecord), reg.nics[id]? = some nic → Admissible nic →
        nic.provenance.kind = .real → NoDifference reg gpu numa nic := by
  constructor
  · intro uninfluenced id nic stored admissible real
    apply seen_withoutSynthetic_iff.mp
    apply seen_of_verdicts admissible real
    intro policy strict
    exact (uninfluenced policy strict).1 id nic stored
  · intro noDifference policy strict
    have verdicts (id : NicId) (nic : NicRecord) (stored : reg.nics[id]? = some nic) :
        verdict policy reg gpu numa nic = verdict policy (withoutSynthetic reg) gpu numa nic := by
      by_cases contending : Admissible nic ∧ nic.provenance.kind = .real
      · obtain ⟨admissible, real⟩ := contending
        exact verdict_congr (seen_withoutSynthetic_iff.mpr (noDifference id nic stored admissible real))
      · exact verdict_of_not_contending strict contending
    refine ⟨verdicts, ?_⟩
    intro endpoint workload
    have nics : reg.nics = (withoutSynthetic reg).nics := rfl
    apply selected_congr nics
    intro nic member
    obtain ⟨id, stored⟩ := mem_considered member
    exact verdicts id nic stored

end

/-- A real NIC and a synthetic GPU on one NUMA node. -/
def syntheticGpuRun : List Call :=
  let auth : Authority := ⟨⟨1⟩, ⟨7⟩, ⟨1⟩⟩
  [.registerWorker ⟨7⟩ ⟨1⟩,
    .mutate auth (.registerNic
      { id := ⟨10⟩, generation := ⟨1⟩, numaNode := ⟨1⟩, lifecycle := .available
        provenance := { kind := .real } }),
    .mutate auth (.registerGpu
      { id := ⟨30⟩, generation := ⟨1⟩, numaNode := ⟨1⟩, provenance := { kind := .synthetic } })]

theorem syntheticGpuRun_influenced :
    ¬Uninfluenced (NicRegistry.after { epoch := ⟨1⟩ } syntheticGpuRun).snapshot ⟨30⟩ {} := by
  intro uninfluenced
  let reg := (NicRegistry.after { epoch := ⟨1⟩ } syntheticGpuRun).snapshot
  obtain ⟨nic, stored⟩ : ∃ nic, reg.nics[(⟨10⟩ : NicId)]? = some nic :=
    Option.isSome_iff_exists.mp (by decide +kernel)
  have same := congrArg Prod.fst ((uninfluenced {} rfl).1 ⟨10⟩ nic stored)
  have before : (reg.nics[(⟨10⟩ : NicId)]?).map (fun nic => (verdict {} reg ⟨30⟩ {} nic).1) =
      some .residencyAllowed := by decide +kernel
  have after : (reg.nics[(⟨10⟩ : NicId)]?).map
      (fun nic => (verdict {} (withoutSynthetic reg) ⟨30⟩ {} nic).1) =
      some .residencyAllowedDegraded := by decide +kernel
  rw [stored, Option.map_some, Option.some.injEq] at before after
  rw [before, after] at same
  cases same

/-! A NIC without an observed address and without a NUMA node. -/

/-- Neither the PCI address nor the NUMA node of the NIC is known. -/
structure Unlocated (nic : NicRecord) : Prop where
  pci : nic.pci.valid = false
  numaNode : nic.numaNode.valid = false

/-- The topology relates the NIC to the GPU, in every way that the policy requires. -/
structure RelatedAsRequired (policy : ResidencyPolicy) (t : TopologySnapshot) (nic : NicRecord)
    (target : GpuRecord) : Prop where
  related : related t nic.pci target.pci = true
  numa : policy.requireSameNuma = true → t.sameNumaNode nic.pci target.pci = true
  rootComplex : policy.requireSameRc = true → t.sameRootComplex nic.pci target.pci = true
  switch : policy.requireSameSwitch = true → t.samePcieSwitch nic.pci target.pci = true

section
variable {policy : ResidencyPolicy} {reg : RegistrySnapshot} {gpu : GpuId} {numa : NumaNodeId}
  {nic : NicRecord}

/-- A NIC is allowed in full when it passes every check and is not far. -/
theorem allowed_iff : (policy.hardCheck reg nic gpu numa).1 = .residencyAllowed ↔
    (standing policy nic).find? Constraint.broken = none ∧
      ((policy.constraints reg nic gpu numa).drop 15).find? Constraint.broken = none ∧
        (seenTo reg gpu numa nic).far = false := by
  have split : (policy.constraints reg nic gpu numa).find? Constraint.broken = none ↔
      (standing policy nic).find? Constraint.broken = none ∧
        ((policy.constraints reg nic gpu numa).drop 15).find? Constraint.broken = none := by
    rw [← Option.or_eq_none_iff, ← List.find?_append, ← constraints_split]
  rw [← and_assoc, ← split]
  unfold hardCheck
  cases found : (policy.constraints reg nic gpu numa).find? Constraint.broken with
  | some constraint =>
    have refused := constraint_not_allowed (List.mem_of_find?_eq_some found)
    simp only [reduceCtorEq, false_and, iff_false]
    intro allowed
    rw [allowed] at refused
    cases refused
  | none =>
    change (if (seenTo reg gpu numa nic).far = true then (ResidencyEligibility.residencyAllowedDegraded,
      ([] : List RejectionReason)) else (.residencyAllowed, [])).1 = _ ↔ _
    cases (seenTo reg gpu numa nic).far <;> simp

theorem requirement_iff (required met : Bool) :
    ¬(required && !met) = true ↔ (required = true → met = true) := by
  cases required <;> cases met <;> decide

/-- The three checks of the locality. -/
theorem located_iff :
    ((policy.constraints reg nic gpu numa).drop 15).find? Constraint.broken = none ↔
      (policy.requireSameNuma = true →
        ((seenTo reg gpu numa nic).numaSame || sameNumaNode numa nic.numaNode) = true) ∧
      (policy.requireSameRc = true → (seenTo reg gpu numa nic).rootComplexSame = true) ∧
      (policy.requireSameSwitch = true → (seenTo reg gpu numa nic).pcieSwitchSame = true) := by
  rw [List.find?_eq_none]
  simp only [constraints, List.drop_succ_cons, List.drop_zero, List.forall_mem_cons, requirement_iff]
  simp only [List.not_mem_nil, false_imp_iff, implies_true, and_true, seenTo, seen]

theorem sameNumaNode_unlocated (unlocated : Unlocated nic) (node : NumaNodeId) :
    sameNumaNode node nic.numaNode = false := by
  simp only [sameNumaNode, unlocated.numaNode, Bool.and_false, Bool.false_and]

/-- A locality of an unlocated NIC that satisfies the policy comes from the topology. -/
theorem located_unlocated_iff (unlocated : Unlocated nic) :
    ((policy.constraints reg nic gpu numa).drop 15).find? Constraint.broken = none ∧
        (seenTo reg gpu numa nic).far = false ↔
      ∃ target t, gpuRecord reg gpu = some target ∧ reg.topology = some t ∧
        RelatedAsRequired policy t nic target := by
  rw [located_iff, sameNumaNode_unlocated unlocated, Bool.or_false]
  have record (target : GpuRecord) : recordNuma target numa nic = false := by
    simp only [recordNuma, sameNumaNode_unlocated unlocated, Bool.or_false]
  cases found : gpuRecord reg gpu with
  | none =>
    rw [seen_noGpu found, sameNumaNode_unlocated unlocated]
    simp
  | some target =>
    cases mapped : reg.topology with
    | none =>
      rw [seen_noTopology found mapped, record]
      simp
    | some t =>
      rw [seen_topology found mapped, record]
      simp only [Bool.or_false, Bool.not_eq_false', Option.some.injEq, exists_and_left,
        exists_eq_left']
      constructor
      · intro checked
        obtain ⟨⟨near, root, switch⟩, relates⟩ := checked
        exact ⟨relates, near, root, switch⟩
      · intro required
        exact ⟨⟨required.numa, required.rootComplex, required.switch⟩, required.related⟩

/-- An unlocated NIC is not allowed in full, exactly when it fails a check of its own or
no topology relates it to a GPU record as the policy requires. -/
theorem unlocated_not_allowed_iff (policy : ResidencyPolicy) (reg : RegistrySnapshot) (gpu : GpuId)
    (numa : NumaNodeId) (nic : NicRecord) (unlocated : Unlocated nic) :
    (policy.evaluate reg gpu numa nic).eligibility ≠ .residencyAllowed ↔
      (∃ constraint ∈ standing policy nic, constraint.broken = true) ∨
        ¬∃ target t, gpuRecord reg gpu = some target ∧ reg.topology = some t ∧
          RelatedAsRequired policy t nic target := by
  change (policy.hardCheck reg nic gpu numa).1 ≠ .residencyAllowed ↔ _
  rw [Ne, allowed_iff, located_unlocated_iff unlocated, not_and_or]
  apply or_congr_left
  simp only [List.find?_eq_none, not_forall, not_not, exists_prop]

end

def unlocatedNic : NicRecord :=
  { id := ⟨10⟩, generation := ⟨1⟩, lifecycle := .available, provenance := { kind := .real } }

/-- A real NIC and a GPU, both without an observed address, and a topology that has
nothing but a generation. -/
def unlocatedRun : List Call :=
  let auth : Authority := ⟨⟨1⟩, ⟨7⟩, ⟨1⟩⟩
  [.registerWorker ⟨7⟩ ⟨1⟩, .mutate auth (.registerNic unlocatedNic),
    .mutate auth (.registerGpu { id := ⟨30⟩, generation := ⟨1⟩, provenance := { kind := .real } }),
    .mutate auth (.setTopology { generation := ⟨1⟩ })]

theorem unlocatedRun_not_allowed_iff :
    let reg := (NicRegistry.after { epoch := ⟨1⟩ } unlocatedRun).snapshot
    (({} : ResidencyPolicy).evaluate reg ⟨30⟩ {} unlocatedNic).eligibility ≠ .residencyAllowed ↔
      (∃ constraint ∈ standing {} unlocatedNic, constraint.broken = true) ∨
        ¬∃ target t, gpuRecord reg ⟨30⟩ = some target ∧ reg.topology = some t ∧
          RelatedAsRequired {} t unlocatedNic target :=
  unlocated_not_allowed_iff {} _ ⟨30⟩ {} unlocatedNic ⟨rfl, rfl⟩

/-- Two unobserved addresses count as one device. -/
theorem unlocatedRun_allowed :
    ¬∀ (policy : ResidencyPolicy) (gpu : GpuId) (numa : NumaNodeId) (id : NicId) (nic : NicRecord),
      (NicRegistry.after { epoch := ⟨1⟩ } unlocatedRun).nics[id]? = some nic → Unlocated nic →
        (policy.evaluate (NicRegistry.after { epoch := ⟨1⟩ } unlocatedRun).snapshot gpu numa
          nic).eligibility ≠ .residencyAllowed := by
  intro never
  refine never {} ⟨30⟩ {} ⟨10⟩ unlocatedNic (by decide +kernel) ⟨rfl, rfl⟩ ?_
  decide +kernel

end NicResidency.LocalityEvidence

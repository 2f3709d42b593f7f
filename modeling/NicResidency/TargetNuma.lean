import NicResidency.LocalityEvidence

/-!
A target NUMA node beside a target GPU. The NUMA node asked for takes part in the
comparison of the records, so that a NIC on it counts as local to a GPU on another one.
-/

namespace NicResidency.TargetNuma
open ResidencyPolicy LocalityEvidence

/-- The records of the GPU and the NIC carry one known NUMA node. -/
def recordsAgree (target : GpuRecord) (nic : NicRecord) : Bool :=
  sameNumaNode target.numaNode nic.numaNode

/-- There is a topology, and it places the two on one known NUMA node. -/
def topologyAgrees (reg : RegistrySnapshot) (target : GpuRecord) (nic : NicRecord) : Bool :=
  reg.topology.any fun t => t.sameNumaNode nic.pci target.pci

/-- Some policy ranks the NIC differently for its weight of accelerator affinity. -/
def AffinityWeighed (reg : RegistrySnapshot) (gpu : GpuId) (numa : NumaNodeId) (nic : NicRecord) :
    Prop :=
  ∃ policy : ResidencyPolicy,
    policy.rank reg nic gpu numa ≠ { policy with wAccel := 0 }.rank reg nic gpu numa

/-- What locality to a registered target GPU has to rest on, whatever NUMA node is asked
for beside it. -/
structure RestsOnGpu (reg : RegistrySnapshot) (gpu : GpuId) (target : GpuRecord) (numa : NumaNodeId)
    (nic : NicRecord) : Prop where
  relationship : (localityOf reg nic (gpuRecord reg gpu) numa).relationship = .sameNumaNode →
    recordsAgree target nic = true ∨ topologyAgrees reg target nic = true
  affinity : AffinityWeighed reg gpu numa nic → recordsAgree target nic = true
  otherNode : numa ≠ target.numaNode → AffinityWeighed reg gpu numa nic →
    AffinityWeighed reg gpu {} nic

section
variable {reg : RegistrySnapshot} {gpu : GpuId} {numa : NumaNodeId} {nic : NicRecord}
  {target : GpuRecord}

/-- The part of the accelerator weight in a rank. -/
theorem rank_affinity (policy : ResidencyPolicy) :
    policy.rank reg nic gpu numa = { policy with wAccel := 0 }.rank reg nic gpu numa +
      if (seenTo reg gpu numa nic).acceleratorAffine then policy.wAccel else 0 := by
  by_cases affine : (seenTo reg gpu numa nic).acceleratorAffine = true
  · rw [if_pos affine]
    simp only [seenTo, seen] at affine
    simp only [rank, if_pos affine]
    ring
  · rw [if_neg affine]
    simp only [seenTo, seen] at affine
    simp only [rank, if_neg affine, add_zero]

theorem affinityWeighed_iff :
    AffinityWeighed reg gpu numa nic ↔ (seenTo reg gpu numa nic).acceleratorAffine = true := by
  constructor
  · intro weighed
    obtain ⟨policy, different⟩ := weighed
    by_contra distant
    rw [rank_affinity policy, if_neg distant, add_zero] at different
    exact different rfl
  · intro affine
    refine ⟨{}, ?_⟩
    rw [rank_affinity, if_pos affine]
    exact ne_of_lt (add_lt_of_neg_right _ (by decide))

/-- Accelerator affinity is equality of the NUMA fields, with those of the GPU or with the
node that is asked for. -/
theorem affine_eq (found : gpuRecord reg gpu = some target) :
    (seenTo reg gpu numa nic).acceleratorAffine = recordNuma target numa nic := by
  cases mapped : reg.topology with
  | none => rw [seen_noTopology found mapped]
  | some t => rw [seen_topology found mapped]

/-- A topology finds the same NUMA node only where it places both on it. -/
theorem sameNumaNode_of_classify {na nb : Option TopologyNode} {a b : PciAddress}
    {f : LocalityFactors} (near : TopologySnapshot.classify na nb a b f = .sameNumaNode) :
    f.numaSame = true := by
  unfold TopologySnapshot.classify at near
  split_ifs at near with _ _ _ same
  · exact same
  · split at near
    · split_ifs at near
    · cases near

theorem topologyAgrees_of_between {t : TopologySnapshot}
    (near : (t.localityBetween nic.pci target.pci).relationship = .sameNumaNode) :
    t.sameNumaNode nic.pci target.pci = true := by
  obtain ⟨-, -, queried⟩ := pairFactors_queries t nic.pci target.pci
  have same := sameNumaNode_of_classify near
  rw [← queried]
  split at same <;> exact same

/-- Where no record has the NUMA node of the NIC, only a topology can give it. -/
theorem relationship_apart (found : gpuRecord reg gpu = some target)
    (apart : recordNuma target numa nic = false)
    (near : (localityOf reg nic (gpuRecord reg gpu) numa).relationship = .sameNumaNode) :
    topologyAgrees reg target nic = true := by
  obtain ⟨byGpu, byNode⟩ := Bool.or_eq_false_iff.mp apart
  rw [found] at near
  simp only [localityOf, localityToGpu, byGpu, byNode, Bool.or_false, Bool.false_eq_true,
    if_false] at near
  unfold topologyAgrees
  cases mapped : reg.topology with
  | none =>
    simp only [baseLocality, mapped, byGpu, byNode, Bool.or_false, Bool.false_eq_true, if_false] at near
    cases near
  | some t =>
    simp only [baseLocality, mapped] at near
    exact topologyAgrees_of_between near

/-- Locality to the target GPU rests on the GPU exactly when the NUMA node asked for is
not that of the NIC, or is that of the GPU as well. -/
theorem rests_on_gpu_iff (reg : RegistrySnapshot) (gpu : GpuId) (target : GpuRecord)
    (numa : NumaNodeId) (nic : NicRecord) (found : gpuRecord reg gpu = some target) :
    RestsOnGpu reg gpu target numa nic ↔
      (sameNumaNode numa nic.numaNode = true → target.numaNode = numa) := by
  have agrees (asked : sameNumaNode numa nic.numaNode = true) :
      recordsAgree target nic = true ↔ target.numaNode = numa := by
    simp only [sameNumaNode, Bool.and_eq_true, beq_iff_eq] at asked
    obtain ⟨⟨known, -⟩, rfl⟩ := asked
    simp only [recordsAgree, sameNumaNode, Bool.and_eq_true, beq_iff_eq]
    constructor
    · intro same
      exact same.2
    · intro same
      rw [same]
      exact ⟨⟨known, known⟩, rfl⟩
  constructor
  · intro rests asked
    rw [← agrees asked]
    apply rests.affinity
    rw [affinityWeighed_iff, affine_eq found, recordNuma, asked, Bool.or_true]
  · intro together
    have record (shared : recordNuma target numa nic = true) : recordsAgree target nic = true := by
      rcases (Bool.or_eq_true _ _).mp shared with byGpu | byNode
      · exact byGpu
      · exact (agrees byNode).mpr (together byNode)
    exact {
      relationship := by
        intro near
        by_cases shared : recordNuma target numa nic = true
        · exact .inl (record shared)
        · exact .inr (relationship_apart found (Bool.eq_false_of_not_eq_true shared) near)
      affinity := by
        rw [affinityWeighed_iff, affine_eq found]
        exact record
      otherNode := by
        intro _
        rw [affinityWeighed_iff, affinityWeighed_iff, affine_eq found, affine_eq found]
        intro shared
        exact (Bool.or_eq_true _ _).mpr (.inl (record shared)) }

end

def twoNodesNic : NicRecord :=
  { id := ⟨10⟩, generation := ⟨1⟩, pci := { bus := 1 }, numaNode := ⟨2⟩, lifecycle := .available
    provenance := { kind := .real } }

def twoNodesGpu : GpuRecord :=
  { id := ⟨30⟩, generation := ⟨1⟩, pci := { bus := 2 }, numaNode := ⟨1⟩
    provenance := { kind := .real } }

def twoNodes : TopologySnapshot :=
  let bare : Std.ExtTreeMap PciNodeId TopologyNode := ∅
  { generation := ⟨1⟩
    nodes := (bare.insert ⟨1⟩ { id := ⟨1⟩, pci := { bus := 1 }, kind := .device, numaNode := ⟨2⟩ }).insert
      ⟨2⟩ { id := ⟨2⟩, pci := { bus := 2 }, kind := .device, numaNode := ⟨1⟩ } }

/-- A NIC and a GPU on different NUMA nodes, and a topology that says so. -/
def twoNodesRun : List Call :=
  let auth : Authority := ⟨⟨1⟩, ⟨7⟩, ⟨1⟩⟩
  [.registerWorker ⟨7⟩ ⟨1⟩, .mutate auth (.registerNic twoNodesNic),
    .mutate auth (.registerGpu twoNodesGpu), .mutate auth (.setTopology twoNodes)]

theorem twoNodesRun_rests_on_gpu_iff :
    let reg := (NicRegistry.after { epoch := ⟨1⟩ } twoNodesRun).snapshot
    RestsOnGpu reg ⟨30⟩ twoNodesGpu ⟨2⟩ twoNodesNic ↔
      (sameNumaNode ⟨2⟩ twoNodesNic.numaNode = true → twoNodesGpu.numaNode = ⟨2⟩) :=
  rests_on_gpu_iff _ ⟨30⟩ twoNodesGpu ⟨2⟩ twoNodesNic (by decide +kernel)

/-- With the NUMA node of the NIC asked for, the remote NIC is on the node of the GPU. -/
theorem twoNodesRun_rewritten :
    let reg := (NicRegistry.after { epoch := ⟨1⟩ } twoNodesRun).snapshot
    reg.nics[(⟨10⟩ : NicId)]? = some twoNodesNic ∧ gpuRecord reg ⟨30⟩ = some twoNodesGpu ∧
      (localityOf reg twoNodesNic (gpuRecord reg ⟨30⟩) {}).relationship = .remoteNuma ∧
      (localityOf reg twoNodesNic (gpuRecord reg ⟨30⟩) ⟨2⟩).relationship = .sameNumaNode ∧
      ¬RestsOnGpu reg ⟨30⟩ twoNodesGpu ⟨2⟩ twoNodesNic := by
  refine ⟨by decide +kernel, by decide +kernel, by decide +kernel, by decide +kernel, ?_⟩
  intro rests
  have agrees := rests.relationship (by decide +kernel)
  revert agrees
  decide +kernel

end NicResidency.TargetNuma

import NicResidency.LocalityEvidence
import NicResidency.Preference

/-!
Whether a NIC that is allowed in degraded form only is selected before one that is
allowed in full. Under the default weights every named factor that allows a NIC in
full improves its score. An address equal to that of the GPU allows it too, and
improves nothing.
-/

namespace NicResidency.DegradedSelection
open NicRegistry ResidencyPolicy Selection Decisions Preference LocalityEvidence

/-- The policy ranks with the weights it is constructed with. -/
structure DefaultWeights (policy : ResidencyPolicy) : Prop where
  wSameSwitch : policy.wSameSwitch = -40
  wSameRoot : policy.wSameRoot = -20
  wSameNuma : policy.wSameNuma = -10
  wAccel : policy.wAccel = -50
  wCpuLocal : policy.wCpuLocal = -5
  wLocalMem : policy.wLocalMem = -30
  wCap : policy.wCap = 0

/-- A switch, a root complex or a NUMA node places the NIC next to the GPU, wherever
a topology is asked for that. -/
def Placed (reg : RegistrySnapshot) (gpu : GpuId) (numa : NumaNodeId) (nic : NicRecord) : Prop :=
  ∀ target t, gpuRecord reg gpu = some target → reg.topology = some t →
    t.samePcieSwitch nic.pci target.pci = true ∨ t.sameRootComplex nic.pci target.pci = true ∨
      t.sameNumaNode nic.pci target.pci = true ∨ recordNuma target numa nic = true

/-- Whenever a NIC is allowed in full, each degraded one is preceded by such a NIC: one
with a lower id or one that is placed. -/
def EachPreceded (policy : ResidencyPolicy) (reg : RegistrySnapshot) (gpu : GpuId)
    (numa : NumaNodeId) : Prop :=
  (∃ nic ∈ policy.considered reg, (policy.hardCheck reg nic gpu numa).1 = .residencyAllowed) →
    ∀ other ∈ policy.considered reg,
      (policy.hardCheck reg other gpu numa).1 = .residencyAllowedDegraded →
        ∃ nic ∈ policy.considered reg, (policy.hardCheck reg nic gpu numa).1 = .residencyAllowed ∧
          (nic.id.value < other.id.value ∨ Placed reg gpu numa nic)

variable {policy : ResidencyPolicy} {reg : RegistrySnapshot} {gpu : GpuId} {numa : NumaNodeId}
  {endpoint : EndpointId} {workload : WorkerId} {nic : NicRecord} {top e : CandidateResult}
  {rest : List CandidateResult}

/-! The score of a locality. -/

def score (look : Seen) : Int :=
  (if look.pcieSwitchSame then -40 else 0) + (if look.rootComplexSame then -20 else 0) +
    (if look.numaSame then -10 else 0) + (if look.acceleratorAffine then -50 else 0) +
    (if look.cpuLocal then -5 else 0) + (if look.localMemory then -30 else 0)

theorem rank_default (weights : DefaultWeights policy) :
    policy.rank reg nic gpu numa = score (seenTo reg gpu numa nic) := by
  simp only [rank, weights.wSameSwitch, weights.wSameRoot, weights.wSameNuma, weights.wAccel,
    weights.wCpuLocal, weights.wLocalMem, weights.wCap, zero_mul, add_zero]
  rfl

theorem score_nonpos (look : Seen) : score look ≤ 0 := by
  unfold score
  split_ifs <;> omega

/-- A NIC that is far away scores nothing, and among the others exactly the placed ones
score. -/
theorem score_seenTo (reg : RegistrySnapshot) (gpu : GpuId) (numa : NumaNodeId) (nic : NicRecord) :
    ((seenTo reg gpu numa nic).far = true → score (seenTo reg gpu numa nic) = 0) ∧
      ((seenTo reg gpu numa nic).far = false →
        (score (seenTo reg gpu numa nic) < 0 ↔ Placed reg gpu numa nic)) := by
  cases found : gpuRecord reg gpu with
  | none =>
    have placed : Placed reg gpu numa nic := by simp [Placed, found]
    rw [seen_noGpu found, iff_true_right placed]
    cases sameNumaNode numa nic.numaNode <;> simp [score]
  | some target =>
    cases mapped : reg.topology with
    | none =>
      have placed : Placed reg gpu numa nic := by simp [Placed, mapped]
      rw [seen_noTopology found mapped, iff_true_right placed]
      cases recordNuma target numa nic <;> simp [score]
    | some t =>
      have placed : Placed reg gpu numa nic ↔ _ :=
        ⟨fun each => each target t found mapped, fun here target' t' found' mapped' => by
          cases found.symm.trans found'
          cases mapped.symm.trans mapped'
          exact here⟩
      rw [seen_topology found mapped, placed]
      simp only [related]
      cases t.samePcieSwitch nic.pci target.pci <;> cases t.sameRootComplex nic.pci target.pci <;>
        cases t.sameNumaNode nic.pci target.pci <;> cases recordNuma target numa nic <;> simp [score]

/-! The eligibility. -/

theorem check_of_allowed (allowed : (policy.hardCheck reg nic gpu numa).1.allowed = true) :
    (policy.hardCheck reg nic gpu numa).1 =
      if (seenTo reg gpu numa nic).far then .residencyAllowedDegraded else .residencyAllowed := by
  rw [hardCheck_of_allowed allowed]
  exact apply_ite Prod.fst _ _ _

theorem degraded_far (check : (policy.hardCheck reg nic gpu numa).1 = .residencyAllowedDegraded) :
    (seenTo reg gpu numa nic).far = true := by
  by_contra near
  have full := check_of_allowed (show (policy.hardCheck reg nic gpu numa).1.allowed = true by rw [check]; rfl)
  rw [check, if_neg near] at full
  cases full

theorem allowed_near (check : (policy.hardCheck reg nic gpu numa).1 = .residencyAllowed) :
    (seenTo reg gpu numa nic).far = false := by
  by_contra far
  have partly := check_of_allowed (show (policy.hardCheck reg nic gpu numa).1.allowed = true by rw [check]; rfl)
  rw [check, if_pos (Bool.of_not_eq_false far)] at partly
  cases partly

theorem rankScore_seenTo (weights : DefaultWeights policy)
    (allowed : (policy.hardCheck reg nic gpu numa).1.allowed = true) :
    (policy.evaluate reg gpu numa nic).rankScore = score (seenTo reg gpu numa nic) :=
  (rankScore_eq allowed).trans (rank_default weights)

/-- A full NIC comes before a degraded one by its id or by its place. -/
theorem precedes_degraded_iff (weights : DefaultWeights policy)
    (full : (policy.hardCheck reg nic gpu numa).1 = .residencyAllowed)
    (partly : (policy.hardCheck reg other gpu numa).1 = .residencyAllowedDegraded) :
    Precedes (policy.evaluate reg gpu numa nic) (policy.evaluate reg gpu numa other) ↔
      nic.id.value < other.id.value ∨ Placed reg gpu numa nic := by
  have allowed : (policy.hardCheck reg nic gpu numa).1.allowed = true := by rw [full]; rfl
  have allowed' : (policy.hardCheck reg other gpu numa).1.allowed = true := by rw [partly]; rfl
  have nothing := (score_seenTo reg gpu numa other).1 (degraded_far partly)
  have placed := (score_seenTo reg gpu numa nic).2 (allowed_near full)
  have bound := score_nonpos (seenTo reg gpu numa nic)
  rw [Precedes, rankScore_seenTo weights allowed, rankScore_seenTo weights allowed', nothing, ← placed]
  constructor
  · rintro (less | ⟨-, lower⟩)
    · exact .inr less
    · exact .inl lower
  · rintro (lower | less)
    · exact bound.lt_or_eq.imp_right fun tied => ⟨tied, lower⟩
    · exact .inl less

/-! The first contender. -/

section
variable (own : ∀ entry ∈ reg.nics.toList, entry.2.id = entry.1) (weights : DefaultWeights policy)
include own weights

/-- A full NIC that is first precedes every degraded one as the condition asks. -/
theorem first_preceding (sorted : contenders policy reg gpu numa = top :: rest)
    (full : top.eligibility = .residencyAllowed) : EachPreceded policy reg gpu numa := by
  intro _ other considered check
  obtain ⟨nic, member, allowed, rfl⟩ := mem_contenders.mp (head_mem sorted)
  have allowed' : (policy.hardCheck reg other gpu numa).1.allowed = true := by rw [check]; rfl
  refine ⟨nic, member, full, ?_⟩
  rcases head_precedes own sorted (mem_contenders.mpr ⟨other, considered, allowed', rfl⟩) with
    same | before
  · have equal : (policy.hardCheck reg other gpu numa).1 = (policy.hardCheck reg nic gpu numa).1 :=
      congrArg (·.eligibility) same
    exact absurd (check.symm.trans (equal.trans full)) (by decide)
  · exact (precedes_degraded_iff weights full check).mp before

/-- No degraded NIC is first where each is preceded. -/
theorem first_full (preceded : EachPreceded policy reg gpu numa)
    (sorted : contenders policy reg gpu numa = top :: rest)
    (some : ∃ nic ∈ policy.considered reg, (policy.hardCheck reg nic gpu numa).1 = .residencyAllowed) :
    top.eligibility = .residencyAllowed := by
  obtain ⟨other, considered, allowed, rfl⟩ := mem_contenders.mp (head_mem sorted)
  show (policy.hardCheck reg other gpu numa).1 = _
  by_contra partly
  have check : (policy.hardCheck reg other gpu numa).1 = .residencyAllowedDegraded := by
    unfold ResidencyEligibility.allowed at allowed
    simpa [partly] using allowed
  obtain ⟨nic, member, full, reason⟩ := preceded some other considered check
  have allowed' : (policy.hardCheck reg nic gpu numa).1.allowed = true := by rw [full]; rfl
  rcases head_precedes own sorted (mem_contenders.mpr ⟨nic, member, allowed', rfl⟩) with same | before
  · have equal : (policy.hardCheck reg nic gpu numa).1 = (policy.hardCheck reg other gpu numa).1 :=
      congrArg (·.eligibility) same
    exact partly (equal.symm.trans full)
  · have after := (precedes_degraded_iff weights full check).mpr reason
    exact irrefl _ (Trans.trans before after)

end

/-- On every reachable registry and under every policy with the default weights, the
overall result is a full allowance whenever an evaluated NIC has one, exactly when
each degraded NIC is then preceded by a NIC that is allowed in full. -/
theorem full_wins_iff (s : NicRegistry) (reachable : s.Reachable) (weights : DefaultWeights policy)
    (gpu : GpuId) (numa : NumaNodeId) (endpoint : EndpointId) (workload : WorkerId) :
    ((∃ e ∈ (policy.decide s.snapshot gpu numa endpoint workload).evaluated,
        e.eligibility = .residencyAllowed) →
      (policy.decide s.snapshot gpu numa endpoint workload).overall = .residencyAllowed) ↔
    EachPreceded policy s.snapshot gpu numa := by
  have own := own_of_reachable reachable
  have shown : (∃ e ∈ (policy.decide s.snapshot gpu numa endpoint workload).evaluated,
      e.eligibility = .residencyAllowed) ↔
      ∃ nic ∈ policy.considered s.snapshot,
        (policy.hardCheck s.snapshot nic gpu numa).1 = .residencyAllowed := by
    constructor
    · rintro ⟨e, member, full⟩
      obtain ⟨plain, listed, -, same, -⟩ := evaluation_of_evaluated own member
      obtain ⟨nic, considered, rfl⟩ := List.mem_map.mp listed
      exact ⟨nic, considered, same.symm.trans full⟩
    · rintro ⟨nic, considered, full⟩
      obtain ⟨e, member, -, same, -⟩ :=
        evaluated_keeps own endpoint workload (List.mem_map_of_mem considered)
      exact ⟨e, member, same.trans full⟩
  rw [shown]
  cases sorted : contenders policy s.snapshot gpu numa with
  | nil =>
    have noneFull : ¬∃ nic ∈ policy.considered s.snapshot,
        (policy.hardCheck s.snapshot nic gpu numa).1 = .residencyAllowed := by
      rintro ⟨nic, considered, full⟩
      have contends := mem_contenders.mpr ⟨nic, considered, by rw [full]; rfl, rfl⟩
      simp [sorted] at contends
    exact iff_of_true (fun some => absurd some noneFull) fun some => absurd some noneFull
  | cons top rest =>
    rw [(decide_top endpoint workload sorted).2.2.1]
    constructor
    · intro wins some
      exact first_preceding own weights sorted (wins some) some
    · exact fun preceded some => first_full own weights preceded sorted some

/-- A GPU whose card carries a NIC too, another NIC with a lower id, and a topology that
has nothing but a generation. -/
def sharedCardRun : List Call :=
  let auth : Authority := ⟨⟨1⟩, ⟨7⟩, ⟨1⟩⟩
  let nic (id : UInt64) (bus : UInt8) : NicRecord :=
    { id := ⟨id⟩, generation := ⟨1⟩, pci := { bus }, lifecycle := .available, provenance := { kind := .real } }
  [.registerWorker ⟨7⟩ ⟨1⟩, .mutate auth (.registerNic (nic 10 1)), .mutate auth (.registerNic (nic 11 65)),
    .mutate auth (.registerGpu
      { id := ⟨30⟩, generation := ⟨1⟩, pci := { bus := 65 }, provenance := { kind := .real } }),
    .mutate auth (.setTopology { generation := ⟨1⟩ })]

theorem sharedCardRun_full_wins_iff :
    let reg := (NicRegistry.after { epoch := ⟨1⟩ } sharedCardRun).snapshot
    ((∃ e ∈ (({} : ResidencyPolicy).decide reg ⟨30⟩ {} {} {}).evaluated,
        e.eligibility = .residencyAllowed) →
      (({} : ResidencyPolicy).decide reg ⟨30⟩ {} {} {}).overall = .residencyAllowed) ↔
    EachPreceded {} reg ⟨30⟩ {} :=
  full_wins_iff _ ⟨⟨1⟩, _, sharedCardRun, rfl, rfl⟩ ⟨rfl, rfl, rfl, rfl, rfl, rfl, rfl⟩ ⟨30⟩ {} {} {}

/-- The NIC on the card is allowed in full, and the other one is selected. -/
theorem sharedCardRun_degraded :
    let d := ({} : ResidencyPolicy).decide (NicRegistry.after { epoch := ⟨1⟩ } sharedCardRun).snapshot
      ⟨30⟩ {} {} {}
    (∃ e ∈ d.evaluated, e.nic = ⟨11⟩ ∧ e.eligibility = .residencyAllowed) ∧
      d.selected = ⟨10⟩ ∧ d.overall = .residencyAllowedDegraded := by
  decide +kernel

end NicResidency.DegradedSelection

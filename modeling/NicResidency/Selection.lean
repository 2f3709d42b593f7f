import NicResidency.Policy
import NicResidency.References

/-!
Which NICs a decision can select: those whose record passes the checks that no
policy can switch off, and every one of them under some policy.
-/

namespace NicResidency.Selection
open NicRegistry ResidencyPolicy

/-- The decision selects this NIC. -/
def Selects (d : ResidencyDecision) (n : NicId) : Prop := n.valid = true ∧ d.selected = n

/-- The lifecycle states in which a NIC may be selected. -/
def availableLifecycle : LifecycleState → Bool
  | .available | .reservedForAttachment | .attached | .resident | .draining => true
  | .discovered | .detached | .revalidationRequired | .failed | .retired => false

/-- What every policy asks of a NIC record. -/
structure Admissible (nic : NicRecord) : Prop where
  valid : nic.id.valid = true
  supported : nic.provenance.unsupported = false
  lifecycle : availableLifecycle nic.lifecycle = true

instance (nic : NicRecord) : Decidable (Admissible nic) :=
  decidable_of_iff (nic.id.valid = true ∧ nic.provenance.unsupported = false ∧
    availableLifecycle nic.lifecycle = true)
    ⟨fun ⟨valid, supported, lifecycle⟩ => ⟨valid, supported, lifecycle⟩,
      fun admissible => ⟨admissible.valid, admissible.supported, admissible.lifecycle⟩⟩

variable {policy : ResidencyPolicy} {reg : RegistrySnapshot} {nic : NicRecord} {gpu : GpuId}
  {numa : NumaNodeId} {endpoint : EndpointId} {workload : WorkerId}

/-- No constraint is broken by an allowed outcome. -/
theorem constraint_not_allowed {constraint : Constraint}
    (member : constraint ∈ policy.constraints reg nic gpu numa) :
    constraint.eligibility.allowed = false := by
  simp only [constraints, List.mem_cons, List.not_mem_nil, or_false] at member
  rcases member with rfl | rfl | rfl | rfl | rfl | rfl | rfl | rfl | rfl | rfl | rfl | rfl | rfl |
    rfl | rfl | rfl | rfl | rfl <;> rfl

/-- A NIC is allowed exactly when it breaks no constraint. -/
theorem hardCheck_allowed_iff :
    (policy.hardCheck reg nic gpu numa).1.allowed = true ↔
      ∀ constraint ∈ policy.constraints reg nic gpu numa, constraint.broken = false := by
  unfold hardCheck
  cases found : (policy.constraints reg nic gpu numa).find? Constraint.broken with
  | some constraint =>
    have member := List.mem_of_find?_eq_some found
    have broken := List.find?_some found
    simp only [constraint_not_allowed member, Bool.false_eq_true, false_iff, not_forall]
    exact ⟨constraint, member, by simp [broken]⟩
  | none =>
    rw [List.find?_eq_none] at found
    simp only [Bool.not_eq_true] at found
    refine iff_of_true ?_ found
    by_cases far : degraded (localityOf reg nic (gpuRecord reg gpu) numa).relationship = true
    · simp only [if_pos far]
      rfl
    · simp only [if_neg far]
      rfl

/-- The locality decides whether an allowed NIC is degraded. -/
theorem hardCheck_of_allowed (allowed : (policy.hardCheck reg nic gpu numa).1.allowed = true) :
    policy.hardCheck reg nic gpu numa =
      if degraded (localityOf reg nic (gpuRecord reg gpu) numa).relationship then
        (.residencyAllowedDegraded, [])
      else (.residencyAllowed, []) := by
  rw [hardCheck_allowed_iff] at allowed
  have unbroken : (policy.constraints reg nic gpu numa).find? Constraint.broken = none := by
    simpa [List.find?_eq_none] using allowed
  unfold hardCheck
  rw [unbroken]

theorem admissible_of_allowed (allowed : (policy.hardCheck reg nic gpu numa).1.allowed = true) :
    Admissible nic := by
  rw [hardCheck_allowed_iff] at allowed
  simp only [constraints, List.forall_mem_cons] at allowed
  obtain ⟨-, supported, -, valid, revalidation, failed, retired, discovered, -⟩ := allowed
  refine ⟨by simpa using valid, supported, ?_⟩
  cases lifecycle : nic.lifecycle <;> simp_all [availableLifecycle]

/-- A policy that refuses synthetic evidence allows real evidence only. -/
theorem real_of_allowed (allowed : (policy.hardCheck reg nic gpu numa).1.allowed = true)
    (strict : policy.allowSynthetic = false) : nic.provenance.kind = .real := by
  rw [hardCheck_allowed_iff] at allowed
  simp only [constraints, List.forall_mem_cons, strict] at allowed
  obtain ⟨notSynthetic, supported, -⟩ := allowed
  cases kind : nic.provenance.kind <;>
    simp_all [Provenance.synthetic, Provenance.unsupported]

/-- The policy requires nothing of a NIC beside its evidence. -/
structure Lenient (policy : ResidencyPolicy) : Prop where
  rdma : policy.requireRdma = false
  sriov : policy.requireSriov = false
  offload : policy.requireOffload = false
  localMemory : policy.requireLocalMemory = false
  sameNuma : policy.requireSameNuma = false
  sameRc : policy.requireSameRc = false
  sameSwitch : policy.requireSameSwitch = false
  ready : policy.requireReady = false
  linkUp : policy.requireLinkUp = false
  freshnessLimit : policy.freshnessLimit = 0xFFFFFFFFFFFFFFFF

theorem allowed_of_lenient (lenient : Lenient policy) (admissible : Admissible nic)
    (taken : nic.provenance.synthetic = true → policy.allowSynthetic = true)
    (included : nic.id ∉ policy.excluded) :
    (policy.hardCheck reg nic gpu numa).1.allowed = true := by
  rw [hardCheck_allowed_iff]
  obtain ⟨rdma, sriov, offload, localMemory, sameNuma, sameRc, sameSwitch, ready, linkUp, limit⟩ :=
    lenient
  obtain ⟨valid, supported, lifecycle⟩ := admissible
  have fresh : ¬policy.freshnessLimit < nic.freshness := by
    rw [limit]
    grind
  have evidence : (nic.provenance.synthetic && !policy.allowSynthetic) = false := by
    cases synthetic : nic.provenance.synthetic with
    | false => rfl
    | true => rw [taken synthetic]; rfl
  simp only [constraints, List.forall_mem_cons, decide_eq_false fresh, decide_eq_false included,
    evidence, supported, valid, rdma, sriov, offload, localMemory, sameNuma, sameRc, sameSwitch, ready,
    linkUp]
  cases state : nic.lifecycle <;> simp [state, availableLifecycle] at lifecycle ⊢

/-- The candidates in the order in which the decision prefers them. -/
def contenders (policy : ResidencyPolicy) (reg : RegistrySnapshot) (gpu : GpuId)
    (numa : NumaNodeId) : List CandidateResult :=
  (((policy.considered reg).map (policy.evaluate reg gpu numa)).filter
    (·.eligibility.allowed)).insertionSort CandidateResult.NotAfter

theorem mem_contenders {candidate : CandidateResult} :
    candidate ∈ contenders policy reg gpu numa ↔
      ∃ nic ∈ policy.considered reg, (policy.hardCheck reg nic gpu numa).1.allowed = true ∧
        candidate = policy.evaluate reg gpu numa nic := by
  simp only [contenders, List.mem_insertionSort, List.mem_filter, List.mem_map]
  constructor
  · intro found
    obtain ⟨⟨nic, member, rfl⟩, allowed⟩ := found
    exact ⟨nic, member, allowed, rfl⟩
  · intro found
    obtain ⟨nic, member, allowed, rfl⟩ := found
    exact ⟨⟨nic, member, rfl⟩, allowed⟩

@[simp] theorem select_selected (d : ResidencyDecision) (top : CandidateResult) :
    (d.select reg top).selected = top.nic := by
  unfold ResidencyDecision.select
  split <;> rfl

/-- The selected NIC is the first contender. -/
theorem decide_selected :
    (policy.decide reg gpu numa endpoint workload).selected =
      (((contenders policy reg gpu numa).head?).map (·.nic)).getD {} := by
  simp only [ResidencyPolicy.decide]
  cases sorted : contenders policy reg gpu numa with
  | nil => simp only [contenders] at sorted; rw [sorted]; rfl
  | cons top rest => simp only [contenders] at sorted; rw [sorted]; simp

theorem mem_considered (member : nic ∈ policy.considered reg) :
    ∃ id : NicId, reg.nics[id]? = some nic := by
  obtain ⟨⟨id, found⟩, stored, rfl⟩ := List.mem_map.mp (List.mem_of_mem_take member)
  exact ⟨id, Std.ExtTreeMap.mem_toList_iff_getElem?_eq_some.mp stored⟩

/-- A selected NIC is the id of a record of the snapshot that the policy allows. -/
theorem selects_allowed {n : NicId}
    (selects : Selects (policy.decide reg gpu numa endpoint workload) n) :
    ∃ (id : NicId) (nic : NicRecord), reg.nics[id]? = some nic ∧ nic.id = n ∧
      (policy.hardCheck reg nic gpu numa).1.allowed = true := by
  obtain ⟨valid, selected⟩ := selects
  rw [decide_selected] at selected
  cases sorted : contenders policy reg gpu numa with
  | nil =>
    rw [sorted] at selected
    rw [← selected] at valid
    cases valid
  | cons top rest =>
    rw [sorted] at selected
    have member : top ∈ contenders policy reg gpu numa := by simp [sorted]
    obtain ⟨nic, considered, allowed, rfl⟩ := mem_contenders.mp member
    obtain ⟨id, stored⟩ := mem_considered considered
    exact ⟨id, nic, stored, selected, allowed⟩

/-- The policy that excludes every NIC but one and allows it whatever it can. -/
def only (reg : RegistrySnapshot) (n : NicId) : ResidencyPolicy :=
  { allowSynthetic := true
    maxCandidates := reg.nics.size
    excluded := ((reg.nics.toList.map fun entry => entry.2.id).toFinset).erase n }

theorem only_considered (n : NicId) : (only reg n).considered reg = reg.nics.toList.map Prod.snd := by
  rw [considered, List.take_of_length_le]
  simp [only]

theorem only_allowed {n : NicId} (admissible : Admissible nic) (same : nic.id = n) :
    ((only reg n).hardCheck reg nic gpu numa).1.allowed = true :=
  allowed_of_lenient ⟨rfl, rfl, rfl, rfl, rfl, rfl, rfl, rfl, rfl, rfl⟩ admissible (fun _ => rfl)
    (by simp [only, same])

/-- Every admissible NIC that is stored under its id is selected by some policy. -/
theorem only_selects {n : NicId} (stored : reg.nics[n]? = some nic) (same : nic.id = n)
    (admissible : Admissible nic) : Selects ((only reg n).decide reg gpu numa endpoint workload) n := by
  have considered : nic ∈ (only reg n).considered reg := by
    rw [only_considered]
    exact List.mem_map.mpr ⟨(n, nic), Std.ExtTreeMap.mem_toList_iff_getElem?_eq_some.mpr stored, rfl⟩
  have contends : (only reg n).evaluate reg gpu numa nic ∈ contenders (only reg n) reg gpu numa :=
    mem_contenders.mpr ⟨nic, considered, only_allowed admissible same, rfl⟩
  refine ⟨same ▸ admissible.valid, ?_⟩
  rw [decide_selected]
  cases sorted : contenders (only reg n) reg gpu numa with
  | nil => simp [sorted] at contends
  | cons top rest =>
    have member : top ∈ contenders (only reg n) reg gpu numa := by simp [sorted]
    obtain ⟨other, considered, allowed, rfl⟩ := mem_contenders.mp member
    rw [hardCheck_allowed_iff] at allowed
    simp only [constraints, List.forall_mem_cons, only, Finset.mem_erase, decide_eq_false_iff_not]
      at allowed
    obtain ⟨-, -, notExcluded, -⟩ := allowed
    rw [only_considered] at considered
    obtain ⟨entry, listed, rfl⟩ := List.mem_map.mp considered
    by_contra different
    exact notExcluded ⟨different, List.mem_toFinset.mpr (List.mem_map.mpr ⟨entry, listed, rfl⟩)⟩

theorem admissible_selected {s : NicRegistry} (closed : References.ReferenceClosed s) {n : NicId}
    (stored : s.nics[n]? = some nic) (admissible : Admissible nic) :
    Selects ((only s.snapshot n).decide s.snapshot gpu numa endpoint workload) n :=
  only_selects stored (closed.nics n nic stored) admissible

/-- After a run from construction, a selected NIC is stored under its id, and the
policy allows its record. -/
theorem selects_stored_allowed {epoch : CoordinatorEpoch} {calls : List Call} {n : NicId}
    (selects : Selects (policy.decide (NicRegistry.after { epoch } calls).snapshot gpu numa endpoint
      workload) n) :
    ∃ nic, (NicRegistry.after { epoch } calls).nics[n]? = some nic ∧
      (policy.hardCheck (NicRegistry.after { epoch } calls).snapshot nic gpu numa).1.allowed = true := by
  obtain ⟨id, nic, stored, rfl, allowed⟩ := selects_allowed selects
  have closed := References.referenceClosed_after (References.referenceClosed_created epoch) calls
  obtain rfl := closed.nics id nic stored
  exact ⟨nic, stored, allowed⟩

theorem selects_stored {epoch : CoordinatorEpoch} {calls : List Call} {n : NicId}
    (selects : Selects (policy.decide (NicRegistry.after { epoch } calls).snapshot gpu numa endpoint
      workload) n) :
    ∃ nic, (NicRegistry.after { epoch } calls).nics[n]? = some nic ∧ Admissible nic := by
  obtain ⟨nic, stored, allowed⟩ := selects_stored_allowed selects
  exact ⟨nic, stored, admissible_of_allowed allowed⟩

end NicResidency.Selection

import NicResidency.Preference

/-!
Two policies on one snapshot, where one asks for everything that the other asks
for and ranks in the same way. Its contenders are those of the other policy that
it still allows, in the order they had.
-/

namespace NicResidency.PolicyTightening
open NicRegistry ResidencyPolicy Selection Decisions Preference

/-- Every constraint of the loose policy is a constraint of the strict one, and
both rank and bound the candidates in the same way. -/
structure Tighter (strict loose : ResidencyPolicy) : Prop where
  rdma : loose.requireRdma = true → strict.requireRdma = true
  sriov : loose.requireSriov = true → strict.requireSriov = true
  offload : loose.requireOffload = true → strict.requireOffload = true
  localMemory : loose.requireLocalMemory = true → strict.requireLocalMemory = true
  sameNuma : loose.requireSameNuma = true → strict.requireSameNuma = true
  sameRc : loose.requireSameRc = true → strict.requireSameRc = true
  sameSwitch : loose.requireSameSwitch = true → strict.requireSameSwitch = true
  ready : loose.requireReady = true → strict.requireReady = true
  linkUp : loose.requireLinkUp = true → strict.requireLinkUp = true
  freshness : strict.freshnessLimit ≤ loose.freshnessLimit
  synthetic : strict.allowSynthetic = true → loose.allowSynthetic = true
  excluded : loose.excluded ⊆ strict.excluded
  bound : strict.maxCandidates = loose.maxCandidates
  wSameSwitch : strict.wSameSwitch = loose.wSameSwitch
  wSameRoot : strict.wSameRoot = loose.wSameRoot
  wSameNuma : strict.wSameNuma = loose.wSameNuma
  wAccel : strict.wAccel = loose.wAccel
  wCpuLocal : strict.wCpuLocal = loose.wCpuLocal
  wLocalMem : strict.wLocalMem = loose.wLocalMem
  wCap : strict.wCap = loose.wCap

variable {strict loose : ResidencyPolicy} {reg : RegistrySnapshot} {nic : NicRecord} {gpu : GpuId}
  {numa : NumaNodeId} {endpoint : EndpointId} {workload : WorkerId}

/-- A requirement that the strict policy does not miss is not missed by the loose
policy. -/
theorem kept_requirement {required required' present : Bool}
    (stricter : required' = true → required = true)
    (met : (required && !present) = false) : (required' && !present) = false := by
  cases required' with
  | false => rfl
  | true => rwa [stricter rfl] at met

section
variable (tighter : Tighter strict loose)
include tighter

theorem allowed_of_strict (allowed : (strict.hardCheck reg nic gpu numa).1.allowed = true) :
    (loose.hardCheck reg nic gpu numa).1.allowed = true := by
  rw [hardCheck_allowed_iff] at allowed ⊢
  simp only [constraints, List.forall_mem_cons] at allowed ⊢
  obtain ⟨synthetic, supported, excluded, valid, stale, failed, retired, discovered, rdma, sriov,
    offload, localMemory, ready, linkUp, freshness, sameNuma, sameRc, sameSwitch, rest⟩ := allowed
  have included : nic.id ∉ loose.excluded := fun member =>
    of_decide_eq_false excluded (tighter.excluded member)
  have fresh : ¬loose.freshnessLimit < nic.freshness := fun late =>
    of_decide_eq_false freshness (UInt64.lt_of_le_of_lt tighter.freshness late)
  have admitted : (nic.provenance.synthetic && !loose.allowSynthetic) = false := by
    cases taken : strict.allowSynthetic with
    | true => simp [tighter.synthetic taken]
    | false =>
      rw [taken, Bool.not_false, Bool.and_true] at synthetic
      simp [synthetic]
  exact ⟨admitted, supported, decide_eq_false included, valid, stale, failed, retired, discovered,
    kept_requirement tighter.rdma rdma, kept_requirement tighter.sriov sriov,
    kept_requirement tighter.offload offload, kept_requirement tighter.localMemory localMemory,
    kept_requirement tighter.ready ready,
    kept_requirement tighter.linkUp linkUp,
    decide_eq_false fresh, kept_requirement tighter.sameNuma sameNuma,
    kept_requirement tighter.sameRc sameRc, kept_requirement tighter.sameSwitch sameSwitch, rest⟩

theorem same_rank : strict.rank reg nic gpu numa = loose.rank reg nic gpu numa := by
  simp only [rank, tighter.wSameSwitch, tighter.wSameRoot, tighter.wSameNuma, tighter.wAccel,
    tighter.wCpuLocal, tighter.wLocalMem, tighter.wCap]

theorem same_considered : strict.considered reg = loose.considered reg := by
  rw [considered, considered, tighter.bound]

/-- A NIC that the strict policy allows is evaluated alike by both. -/
theorem same_evaluation (allowed : (strict.hardCheck reg nic gpu numa).1.allowed = true) :
    strict.evaluate reg gpu numa nic = loose.evaluate reg gpu numa nic := by
  have checked : strict.hardCheck reg nic gpu numa = loose.hardCheck reg nic gpu numa := by
    rw [hardCheck_of_allowed allowed, hardCheck_of_allowed (allowed_of_strict tighter allowed)]
  simp only [evaluate, checked, same_rank tighter]

theorem contender_of_strict {e : CandidateResult} (contends : e ∈ contenders strict reg gpu numa) :
    e ∈ contenders loose reg gpu numa := by
  obtain ⟨nic, considered, allowed, rfl⟩ := mem_contenders.mp contends
  apply mem_contenders.mpr
  refine ⟨nic, ?_, allowed_of_strict tighter allowed, same_evaluation tighter allowed⟩
  rwa [← same_considered tighter]

/-- The strict policy filters the contenders of the loose one. -/
theorem contenders_strict (gpu : GpuId) (numa : NumaNodeId)
    (own : ∀ entry ∈ reg.nics.toList, entry.2.id = entry.1) :
    contenders strict reg gpu numa =
      (contenders loose reg gpu numa).filter fun e => e ∈ contenders strict reg gpu numa := by
  apply (contenders_ordered own strict gpu numa).eq_of_mem_iff
    ((contenders_ordered own loose gpu numa).filter _)
  intro e
  rw [List.mem_filter, decide_eq_true_iff]
  exact ⟨fun contends => ⟨contender_of_strict tighter contends, contends⟩, And.right⟩

/-- A first choice that the strict policy still allows is its first choice. -/
theorem selected_strict (own : ∀ entry ∈ reg.nics.toList, entry.2.id = entry.1)
    (survives : (loose.decide reg gpu numa endpoint workload).selected ∈
      (strict.decide reg gpu numa endpoint workload).candidates) :
    (strict.decide reg gpu numa endpoint workload).selected =
      (loose.decide reg gpu numa endpoint workload).selected := by
  obtain ⟨e, contends, same⟩ := mem_candidates.mp survives
  have contended := contender_of_strict tighter contends
  cases sorted : contenders loose reg gpu numa with
  | nil => simp [sorted] at contended
  | cons top rest =>
    rw [(decide_top endpoint workload sorted).2.1] at same ⊢
    obtain rfl : e = top := evaluation_unique own (mem_contenders_iff.mp contended).1
      (mem_contenders_iff.mp (head_mem sorted)).1 same
    have head := contenders_strict tighter gpu numa own
    rw [sorted, List.filter_cons_of_pos (by simpa using contends)] at head
    rw [(decide_top endpoint workload head).2.1]

end

/-- On every reachable registry, tightening a policy keeps the survivors: each is
evaluated as before, in the order it had, and the selected NIC stays selected as
long as it is a candidate. -/
theorem tightening_keeps_survivors (s : NicRegistry) (reachable : s.Reachable)
    (tighter : Tighter strict loose) (gpu : GpuId) (numa : NumaNodeId) (endpoint : EndpointId)
    (workload : WorkerId) :
    let before := loose.decide s.snapshot gpu numa endpoint workload
    let after := strict.decide s.snapshot gpu numa endpoint workload
    (∀ n ∈ after.candidates, n ∈ before.candidates ∧
      ∃ e ∈ after.evaluated, ∃ e' ∈ before.evaluated, e.nic = n ∧ e'.nic = n ∧
        e.eligibility = e'.eligibility ∧ e.rankScore = e'.rankScore) ∧
    (contenders strict s.snapshot gpu numa).Sublist (contenders loose s.snapshot gpu numa) ∧
    (before.selected ∈ after.candidates → after.selected = before.selected) := by
  have own := own_of_reachable reachable
  have filtered := contenders_strict tighter gpu numa own
  refine ⟨fun n candidate => ?_, ?_, fun survives => ?_⟩
  · obtain ⟨e, contends, rfl⟩ := mem_candidates.mp candidate
    have contended := contender_of_strict tighter contends
    obtain ⟨shown, listed, nic, eligibility, rank⟩ :=
      evaluated_keeps own endpoint workload (mem_contenders_iff.mp contends).1
    obtain ⟨shown', listed', nic', eligibility', rank'⟩ :=
      evaluated_keeps own endpoint workload (mem_contenders_iff.mp contended).1
    exact ⟨mem_candidates.mpr ⟨e, contended, rfl⟩, shown, listed, shown', listed', nic, nic',
      eligibility.trans eligibility'.symm, rank.trans rank'.symm⟩
  · rw [filtered]
    exact List.filter_sublist
  · exact selected_strict tighter own survives

/-- The default policy, tightened so that one of its two candidates is left. -/
def narrowed : ResidencyPolicy := { freshnessLimit := 5, excluded := {⟨12⟩} }

theorem narrowed_tighter : Tighter narrowed {} := by
  constructor <;> decide

theorem tiedRun_tightened :
    let s := NicRegistry.after { epoch := ⟨1⟩ } tiedRun
    let before := ResidencyPolicy.decide {} s.snapshot ⟨0⟩ ⟨0⟩ ⟨0⟩ ⟨0⟩
    let after := narrowed.decide s.snapshot ⟨0⟩ ⟨0⟩ ⟨0⟩ ⟨0⟩
    (∀ n ∈ after.candidates, n ∈ before.candidates ∧
      ∃ e ∈ after.evaluated, ∃ e' ∈ before.evaluated, e.nic = n ∧ e'.nic = n ∧
        e.eligibility = e'.eligibility ∧ e.rankScore = e'.rankScore) ∧
    (contenders narrowed s.snapshot ⟨0⟩ ⟨0⟩).Sublist (contenders {} s.snapshot ⟨0⟩ ⟨0⟩) ∧
    (before.selected ∈ after.candidates → after.selected = before.selected) :=
  tightening_keeps_survivors _ ⟨⟨1⟩, _, tiedRun, rfl, rfl⟩ narrowed_tighter ⟨0⟩ ⟨0⟩ ⟨0⟩ ⟨0⟩

end NicResidency.PolicyTightening

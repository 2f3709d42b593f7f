import NicResidency.Decisions
import NicResidency.Inspection
import NicResidency.SyntheticBackend

/-!
The answer of the inspection tool to a query. The query is about a fixture with two NICs and one
accelerator; the accelerator and the NUMA node that it asks for are arbitrary.
-/

namespace NicResidency.QueryAnswers
open Inspection FirstDiscovery NicRegistry Selection Decisions ResidencyPolicy
open SyntheticBackend (Fixture fixture makeNic makeGpu pciAt)

/-! Decisions between two NICs. -/

section
variable {policy : ResidencyPolicy} {reg : RegistrySnapshot} {gpu : GpuId} {numa : NumaNodeId}
  {first second : NicRecord}

/-- Of two allowed NICs the first one is selected unless the second one ranks before it. -/
theorem decide_two (considered : policy.considered reg = [first, second])
    (allowed : (policy.hardCheck reg first gpu numa).1.allowed = true)
    (allowed' : (policy.hardCheck reg second gpu numa).1.allowed = true)
    (endpoint : EndpointId) (workload : WorkerId) :
    let chosen :=
      if (policy.evaluate reg gpu numa first).NotAfter (policy.evaluate reg gpu numa second) then first
      else second
    (policy.decide reg gpu numa endpoint workload).selected = chosen.id ∧
      (policy.decide reg gpu numa endpoint workload).overall = (policy.hardCheck reg chosen gpu numa).1 := by
  have both : contenders policy reg gpu numa =
      if (policy.evaluate reg gpu numa first).NotAfter (policy.evaluate reg gpu numa second)
      then [policy.evaluate reg gpu numa first, policy.evaluate reg gpu numa second]
      else [policy.evaluate reg gpu numa second, policy.evaluate reg gpu numa first] := by
    have kept : (policy.evaluate reg gpu numa first).eligibility.allowed = true := allowed
    have kept' : (policy.evaluate reg gpu numa second).eligibility.allowed = true := allowed'
    rw [contenders, considered]
    simp [kept, kept', List.orderedInsert]
  dsimp only
  split at both
  next before =>
    rw [if_pos before]
    obtain ⟨-, selected, overall, -⟩ := decide_top endpoint workload both
    exact ⟨selected, overall⟩
  next after =>
    rw [if_neg after]
    obtain ⟨-, selected, overall, -⟩ := decide_top endpoint workload both
    exact ⟨selected, overall⟩
end

/-! The fixture of a query. -/

/-- The stored NICs of the fixture. -/
def nearNic : NicRecord :=
  { makeNic 20 "synth-nic-numa0" (pciAt 0x01 0 0) (SyntheticBackend.numa 0) {} true false with
    freshness := 0 }

def farNic : NicRecord :=
  { makeNic 21 "synth-nic-numa1" (pciAt 0x81 0 0) (SyntheticBackend.numa 1) {} true false with
    freshness := 0 }

def fixtureGpu : GpuRecord := makeGpu 101 (pciAt 0x01 0 1) (SyntheticBackend.numa 0) {}

variable {auth : Authority} {t : TopologySnapshot} {s : NicRegistry}

section
variable (holds : Holds auth ((fixture {} .twoNicsDifferentNuma).found (some t)) s)
include holds

theorem considered_fixture : queryPolicy.considered s.snapshot = [nearNic, farNic] := by
  have nics : s.nics = ((∅ : Std.ExtTreeMap NicId NicRecord).insert ⟨20⟩ nearNic).insert ⟨21⟩ farNic := by
    apply Std.ExtTreeMap.ext_getElem?
    intro id
    rw [holds.nics, Std.ExtTreeMap.getElem?_insert, Std.ExtTreeMap.getElem?_insert]
    simp only [Fixture.found, fixture, makeNic, List.find?_cons, List.find?_nil,
      Std.LawfulEqOrd.compare_eq_iff_eq, Std.ExtTreeMap.getElem?_empty]
    by_cases near : (⟨20⟩ : NicId) = id
    · subst near
      rfl
    · by_cases far : (⟨21⟩ : NicId) = id
      · subst far
        rfl
      · simp [near, far]
  rw [considered, show s.snapshot.nics = s.nics from rfl, nics]
  rfl

theorem gpuRecord_fixture (gpu : GpuId) :
    gpuRecord s.snapshot gpu = if gpu = ⟨101⟩ then some fixtureGpu else none := by
  unfold gpuRecord
  rw [show s.snapshot.gpus = s.gpus from rfl, holds.gpus]
  by_cases own : gpu = ⟨101⟩
  · subst own
    rfl
  · rw [if_neg own]
    have other : (⟨101⟩ : GpuId) ≠ gpu := Ne.symm own
    simp [Fixture.found, fixture, makeGpu, other]

end

/-! The answer. -/

/-- The NIC and the target are told to share a NUMA node. -/
def near (gpu : GpuId) (numa : NumaNodeId) (nic : NicRecord) : Bool :=
  sameNumaNode numa nic.numaNode || gpu == ⟨101⟩ && sameNumaNode fixtureGpu.numaNode nic.numaNode

section
variable (holds : Holds auth ((fixture {} .twoNicsDifferentNuma).found (some t)) s)
  (nodes : ∀ (id : PciNodeId) (node : TopologyNode), t.nodes[id]? = some node ↔
    node ∈ (fixture {} .twoNicsDifferentNuma).nodes ∧ node.id = id)

include nodes in
/-- The accelerator is at an address that no node of the topology has. -/
theorem nodeForPci_fixtureGpu : t.nodeForPci fixtureGpu.pci = none := by
  unfold TopologySnapshot.nodeForPci
  rw [OrderedMap.find?_values_eq_none_iff]
  intro id node stored
  have absent : ∀ node ∈ (fixture {} .twoNicsDifferentNuma).nodes, node.pci.equal fixtureGpu.pci = false := by
    decide
  exact absent node ((nodes id node).mp stored).1

include holds nodes in
theorem locality_fixture {nic : NicRecord} (apart : nic.pci.equal fixtureGpu.pci = false) (gpu : GpuId)
    (numa : NumaNodeId) :
    (localityOf s.snapshot nic (gpuRecord s.snapshot gpu) numa).relationship =
        (if near gpu numa nic then .sameNumaNode else .unknown) ∧
      ∃ cost, (localityOf s.snapshot nic (gpuRecord s.snapshot gpu) numa).factors =
        { numaSame := near gpu numa nic, cpuLocal := near gpu numa nic
          acceleratorAffine := gpu == ⟨101⟩ && near gpu numa nic, cost } := by
  rw [gpuRecord_fixture holds]
  by_cases own : gpu = ⟨101⟩
  · rw [if_pos own]
    have topology : s.snapshot.topology = some t := holds.topology
    have base : baseLocality s.snapshot nic fixtureGpu numa = t.localityBetween nic.pci fixtureGpu.pci := by
      unfold baseLocality
      rw [topology]
    have unknown : (t.localityBetween nic.pci fixtureGpu.pci).relationship = .unknown ∧
        (t.localityBetween nic.pci fixtureGpu.pci).factors =
          { cost := nic.pci.distanceTo fixtureGpu.pci } := by
      cases found : t.nodeForPci nic.pci <;>
      simp [TopologySnapshot.localityBetween, TopologySnapshot.pairFactors, TopologySnapshot.classify,
        nodeForPci_fixtureGpu nodes, apart, TopologySnapshot.fastCost, found]
    rw [localityOf, localityToGpu, base]
    have told : near gpu numa nic =
        (sameNumaNode fixtureGpu.numaNode nic.numaNode || sameNumaNode numa nic.numaNode) := by
      rw [near, own, Bool.or_comm]
      simp
    rw [told, own, unknown.1, unknown.2]
    cases sameNumaNode fixtureGpu.numaNode nic.numaNode || sameNumaNode numa nic.numaNode with
    | true => exact ⟨by simp, nic.pci.distanceTo fixtureGpu.pci, by simp⟩
    | false => simp
  · rw [if_neg own]
    have told : near gpu numa nic = sameNumaNode numa nic.numaNode := by simp [near, own]
    have other : (gpu == (⟨101⟩ : GpuId)) = false := by simpa using own
    rw [told, other]
    exact ⟨rfl, 0, rfl⟩

include holds nodes in
/-- A NIC of the fixture is allowed, and the score tells whether it is near. -/
theorem check_fixture {nic : NicRecord} (listed : nic ∈ [nearNic, farNic]) (gpu : GpuId)
    (numa : NumaNodeId) :
    (queryPolicy.hardCheck s.snapshot nic gpu numa).1 =
        (if near gpu numa nic then .residencyAllowed else .residencyAllowedDegraded) ∧
      (queryPolicy.evaluate s.snapshot gpu numa nic).rankScore =
        if near gpu numa nic then if gpu = ⟨101⟩ then -65 else -15 else 0 := by
  have apart : ∀ nic ∈ [nearNic, farNic], nic.pci.equal fixtureGpu.pci = false := by decide
  have admissible : ∀ nic ∈ [nearNic, farNic], Admissible nic := by decide
  have lenient : Lenient queryPolicy := ⟨rfl, rfl, rfl, rfl, rfl, rfl, rfl, rfl, rfl, rfl⟩
  have allowed : (queryPolicy.hardCheck s.snapshot nic gpu numa).1.allowed = true :=
    allowed_of_lenient lenient (admissible nic listed) (fun _ => rfl) (Finset.notMem_empty _)
  obtain ⟨relationship, cost, factors⟩ := locality_fixture holds nodes (apart nic listed) gpu numa
  constructor
  · rw [hardCheck_of_allowed allowed, relationship]
    cases near gpu numa nic <;> rfl
  · have scored : (queryPolicy.evaluate s.snapshot gpu numa nic).rankScore =
        queryPolicy.rank s.snapshot nic gpu numa := if_pos allowed
    rw [scored, rank, factors]
    cases near gpu numa nic with
    | false => simp [queryPolicy]
    | true => by_cases own : gpu = ⟨101⟩ <;> simp [queryPolicy, own]

theorem near_nearNic (gpu : GpuId) (numa : NumaNodeId) :
    near gpu numa nearNic = decide (numa = ⟨1⟩ ∨ gpu = ⟨101⟩) := by
  have told : sameNumaNode numa ⟨1⟩ = decide (numa = ⟨1⟩) := by
    by_cases same : numa = ⟨1⟩
    · rw [same]
      rfl
    · simp [sameNumaNode, same]
  have own : sameNumaNode fixtureGpu.numaNode ⟨1⟩ = true := rfl
  rw [near, show nearNic.numaNode = ⟨1⟩ from rfl, told, own, Bool.and_true, Bool.decide_or]
  rfl

theorem near_farNic (gpu : GpuId) (numa : NumaNodeId) : near gpu numa farNic = decide (numa = ⟨2⟩) := by
  have told : sameNumaNode numa ⟨2⟩ = decide (numa = ⟨2⟩) := by
    by_cases same : numa = ⟨2⟩
    · rw [same]
      rfl
    · simp [sameNumaNode, same]
  have other : sameNumaNode fixtureGpu.numaNode ⟨2⟩ = false := rfl
  rw [near, show farNic.numaNode = ⟨2⟩ from rfl, told, other, Bool.and_false, Bool.or_false]

include holds nodes in
/-- What a query answers for every accelerator and every NUMA node. Only a query for the second node
that is not about the accelerator of the fixture selects the second NIC. -/
theorem query_answer (gpu : GpuId) (numa : NumaNodeId) (endpoint : EndpointId) (workload : WorkerId) :
    (queryPolicy.decide s.snapshot gpu numa endpoint workload).selected =
        (if gpu ≠ ⟨101⟩ ∧ numa = ⟨2⟩ then ⟨21⟩ else ⟨20⟩) ∧
      (queryPolicy.decide s.snapshot gpu numa endpoint workload).overall =
        if gpu = ⟨101⟩ ∨ numa = ⟨1⟩ ∨ numa = ⟨2⟩ then .residencyAllowed else .residencyAllowedDegraded := by
  have listed : nearNic ∈ [nearNic, farNic] := List.mem_cons_self
  have listed' : farNic ∈ [nearNic, farNic] := List.mem_cons_of_mem _ List.mem_cons_self
  obtain ⟨check, score⟩ := check_fixture holds nodes listed gpu numa
  obtain ⟨check', score'⟩ := check_fixture holds nodes listed' gpu numa
  have allowed (b : Bool) : (if b then ResidencyEligibility.residencyAllowed
      else .residencyAllowedDegraded).allowed = true := by
    cases b <;> rfl
  have chosen := decide_two (considered_fixture holds) (check ▸ allowed _) (check' ▸ allowed _) endpoint
    workload
  have ids : (queryPolicy.evaluate s.snapshot gpu numa nearNic).nic.value ≤
      (queryPolicy.evaluate s.snapshot gpu numa farNic).nic.value := (by decide : (20 : UInt64) ≤ 21)
  simp only [near_nearNic, near_farNic, decide_eq_true_eq] at check score check' score'
  have order : (queryPolicy.evaluate s.snapshot gpu numa nearNic).NotAfter
      (queryPolicy.evaluate s.snapshot gpu numa farNic) ↔ ¬(gpu ≠ ⟨101⟩ ∧ numa = ⟨2⟩) := by
    simp only [CandidateResult.NotAfter, score, score', ids, and_true]
    have different : (⟨1⟩ : NumaNodeId) ≠ ⟨2⟩ := by decide
    by_cases own : gpu = ⟨101⟩
    · by_cases second : numa = ⟨2⟩ <;> simp [own, second]
    · by_cases first : numa = ⟨1⟩
      · simp [own, first, different]
      · by_cases second : numa = ⟨2⟩ <;> simp [own, first, second]
  by_cases far : gpu ≠ ⟨101⟩ ∧ numa = ⟨2⟩
  · rw [if_neg (order.not.mpr (not_not.mpr far))] at chosen
    rw [if_pos far, if_pos (.inr (.inr far.2)), chosen.1, chosen.2, check', if_pos far.2]
    exact ⟨rfl, rfl⟩
  · rw [if_pos (order.mpr far)] at chosen
    rw [if_neg far, chosen.1, chosen.2, check]
    refine ⟨rfl, if_congr ?_ rfl rfl⟩
    constructor
    · rintro (first | own)
      · exact .inr (.inl first)
      · exact .inl own
    · rintro (own | first | second)
      · exact .inr own
      · exact .inl first
      · exact .inr (by_contra fun other => far ⟨other, second⟩)

end

end NicResidency.QueryAnswers

import NicResidency.Library.OrderedMap
import NicResidency.Preference

/-!
What a NIC that cannot be used does to a decision. The bound on the candidates counts
every NIC that is looked at, so that such a NIC can keep the next one from being looked
at.
-/

namespace NicResidency.CandidateBound
open NicRegistry ResidencyPolicy Selection Decisions Preference OrderedMap

/-- The snapshot without one NIC. Whatever refers to the NIC may go with it. -/
structure Without (reg : RegistrySnapshot) (x : NicId) (reg' : RegistrySnapshot) : Prop where
  nics : reg'.nics = reg.nics.erase x
  gpus : reg'.gpus = reg.gpus
  topology : reg'.topology = reg.topology

/-- Once either decision selects a NIC, both select the same one with the same overall
result. -/
def SameChoice (d d' : ResidencyDecision) : Prop :=
  d.selected.valid = true ∨ d'.selected.valid = true →
    d.selected = d'.selected ∧ d.overall = d'.overall

/-- The first NIC that the bound leaves out. -/
def next (policy : ResidencyPolicy) (reg : RegistrySnapshot) : Option NicRecord :=
  (reg.nics.toList[policy.maxCandidates]?).map Prod.snd

/-- The NIC at the bound would be allowed, and would rank better than everything that is
allowed within the bound. -/
def NextWins (policy : ResidencyPolicy) (reg : RegistrySnapshot) (gpu : GpuId) (numa : NumaNodeId) :
    Prop :=
  ∃ nic, next policy reg = some nic ∧ (policy.hardCheck reg nic gpu numa).1.allowed = true ∧
    ∀ other ∈ policy.considered reg, (policy.hardCheck reg other gpu numa).1.allowed = true →
      policy.rank reg nic gpu numa < policy.rank reg other gpu numa

variable {policy : ResidencyPolicy} {reg reg' : RegistrySnapshot} {gpu : GpuId} {numa : NumaNodeId}
  {endpoint : EndpointId} {workload : WorkerId} {x : NicId} {nic other : NicRecord}
  {e : CandidateResult}

theorem considered_eq : policy.considered reg = (reg.nics.toList.take policy.maxCandidates).map Prod.snd :=
  List.map_take.symm

theorem valid_of_contender (contends : e ∈ contenders policy reg gpu numa) : e.nic.valid = true := by
  obtain ⟨nic, -, allowed, rfl⟩ := mem_contenders.mp contends
  exact (admissible_of_allowed allowed).valid

theorem sameChoice_of_contenders (same : contenders policy reg gpu numa = contenders policy reg' gpu numa) :
    SameChoice (policy.decide reg gpu numa endpoint workload)
      (policy.decide reg' gpu numa endpoint workload) := by
  intro some
  cases sorted : contenders policy reg gpu numa with
  | nil =>
    rw [(decide_none endpoint workload sorted).2.1,
      (decide_none endpoint workload (same.symm.trans sorted)).2.1] at some
    rcases some with valid | valid <;> cases valid
  | cons top rest =>
    obtain ⟨-, selected, overall, -⟩ := decide_top endpoint workload sorted
    obtain ⟨-, selected', overall', -⟩ := decide_top endpoint workload (same.symm.trans sorted)
    exact ⟨selected.trans selected'.symm, overall.trans overall'.symm⟩

/-! The considered NICs without one. -/

section
variable (without : Without reg x reg')
include without

theorem evaluate_without : policy.evaluate reg' gpu numa nic = policy.evaluate reg gpu numa nic := by
  have located : localityOf reg' nic (gpuRecord reg' gpu) numa =
      localityOf reg nic (gpuRecord reg gpu) numa := by
    unfold localityOf localityToGpu baseLocality gpuRecord
    rw [without.gpus, without.topology]
  have checked : policy.hardCheck reg' nic gpu numa = policy.hardCheck reg nic gpu numa := by
    unfold hardCheck constraints
    rw [located]
  simp only [evaluate, rank, checked, located]

section
variable (stored : reg.nics[x]? = some nic)
include stored

theorem considered_outside (outside : nic ∉ policy.considered reg) :
    policy.considered reg' = policy.considered reg := by
  have absent : (x, nic) ∉ reg.nics.toList.take policy.maxCandidates := fun member =>
    outside (by rw [considered_eq]; exact List.mem_map_of_mem member)
  rw [considered_eq, considered_eq, without.nics, toList_erase stored, take_erase_of_notMem absent]

variable (own : ∀ entry ∈ reg.nics.toList, entry.2.id = entry.1)
include own

theorem own_without : ∀ entry ∈ reg'.nics.toList, entry.2.id = entry.1 := by
  intro entry listed
  rw [without.nics, toList_erase stored] at listed
  exact own entry (List.mem_of_mem_erase listed)

/-- Without a considered NIC, the first one past the bound is considered. -/
theorem mem_considered_inside (inside : nic ∈ policy.considered reg) :
    other ∈ policy.considered reg' ↔
      (other ∈ policy.considered reg ∧ other ≠ nic) ∨ next policy reg = some other := by
  have keyed {entry : NicId × NicRecord} (listed : entry ∈ reg.nics.toList) (same : entry.2 = nic) :
      entry = (x, nic) := by
    have member : (x, nic) ∈ reg.nics.toList := Std.ExtTreeMap.mem_toList_iff_getElem?_eq_some.mpr stored
    exact Prod.ext ((own entry listed).symm.trans ((congrArg NicRecord.id same).trans (own _ member))) same
  have present : (x, nic) ∈ reg.nics.toList.take policy.maxCandidates := by
    rw [considered_eq] at inside
    obtain ⟨entry, listed, same⟩ := List.mem_map.mp inside
    rwa [keyed (List.mem_of_mem_take listed) same] at listed
  have taken (entry : NicId × NicRecord) := mem_take_erase (y := entry) (nodup_toList reg.nics) present
  rw [considered_eq, considered_eq, without.nics, toList_erase stored, next, Option.map_eq_some_iff]
  simp only [List.mem_map, taken]
  constructor
  · rintro ⟨entry, ⟨listed, different⟩ | found, rfl⟩
    · exact .inl ⟨⟨entry, listed, rfl⟩, fun same => different (keyed (List.mem_of_mem_take listed) same)⟩
    · exact .inr ⟨entry, found, rfl⟩
  · rintro (⟨⟨entry, listed, rfl⟩, different⟩ | ⟨entry, found, rfl⟩)
    · exact ⟨entry, .inl ⟨listed, fun same => different (congrArg Prod.snd same)⟩, rfl⟩
    · exact ⟨entry, .inr found, rfl⟩

/-- Without an unusable NIC, only the first one past the bound can join the contenders. -/
theorem mem_contenders_without (inside : nic ∈ policy.considered reg)
    (unusable : (policy.hardCheck reg nic gpu numa).1.allowed = false) :
    e ∈ contenders policy reg' gpu numa ↔ e ∈ contenders policy reg gpu numa ∨
      ∃ new, next policy reg = some new ∧ (policy.hardCheck reg new gpu numa).1.allowed = true ∧
        e = policy.evaluate reg gpu numa new := by
  have checked (nic : NicRecord) : (policy.hardCheck reg' nic gpu numa).1 =
      (policy.hardCheck reg nic gpu numa).1 := congrArg (·.eligibility) (evaluate_without without)
  rw [mem_contenders, mem_contenders]
  simp only [checked, evaluate_without without, mem_considered_inside without stored own inside]
  constructor
  · rintro ⟨other, ⟨considered, -⟩ | found, allowed, rfl⟩
    · exact .inl ⟨other, considered, allowed, rfl⟩
    · exact .inr ⟨other, found, allowed, rfl⟩
  · rintro (⟨other, considered, allowed, rfl⟩ | ⟨other, found, allowed, rfl⟩)
    · refine ⟨other, .inl ⟨considered, fun same => ?_⟩, allowed, rfl⟩
      rw [same, unusable] at allowed
      cases allowed
    · exact ⟨other, .inr found, allowed, rfl⟩

end

end

/-- The considered NICs have lower ids than the first one past the bound. -/
theorem considered_lower (own : ∀ entry ∈ reg.nics.toList, entry.2.id = entry.1)
    (found : next policy reg = some nic) (considered : other ∈ policy.considered reg) :
    other.id.value < nic.id.value := by
  have ascending : reg.nics.toList.Pairwise fun a b => a.1.value < b.1.value := ascending_keys
  rw [← List.take_append_drop policy.maxCandidates reg.nics.toList, List.pairwise_append] at ascending
  rw [considered_eq] at considered
  obtain ⟨entry, listed, rfl⟩ := List.mem_map.mp considered
  obtain ⟨entry', bound, rfl⟩ := Option.map_eq_some_iff.mp found
  have later : entry' ∈ reg.nics.toList.drop policy.maxCandidates := by
    rw [List.mem_iff_getElem?]
    exact ⟨0, by rw [List.getElem?_drop]; exact bound⟩
  have less := ascending.2.2 entry listed entry' later
  rwa [own entry (List.mem_of_mem_take listed), own entry' (List.mem_of_mem_drop later)]

section
variable (own : ∀ entry ∈ reg.nics.toList, entry.2.id = entry.1) (without : Without reg x reg')
  (stored : reg.nics[x]? = some nic) (inside : nic ∈ policy.considered reg)
  (unusable : (policy.hardCheck reg nic gpu numa).1.allowed = false)
include own without stored inside unusable

/-- Where the next NIC wins, it is selected once the unusable one is gone. -/
theorem changed_of_nextWins (wins : NextWins policy reg gpu numa) :
    ¬SameChoice (policy.decide reg gpu numa endpoint workload)
      (policy.decide reg' gpu numa endpoint workload) := by
  obtain ⟨new, found, allowed, better⟩ := wins
  have joins := (mem_contenders_without without stored own inside unusable).mpr
    (.inr ⟨new, found, allowed, rfl⟩)
  have first : ∃ rest, contenders policy reg' gpu numa = policy.evaluate reg gpu numa new :: rest := by
    rw [head_iff (own_without without stored own)]
    refine ⟨joins, fun e contends => ?_⟩
    rcases (mem_contenders_without without stored own inside unusable).mp contends with
      before | ⟨new', found', -, rfl⟩
    · obtain ⟨other, considered, allowed', rfl⟩ := mem_contenders.mp before
      refine .inr (.inl ?_)
      rw [rankScore_eq allowed, rankScore_eq allowed']
      exact better other considered allowed'
    · cases found.symm.trans found'
      exact .inl rfl
  obtain ⟨rest, sorted'⟩ := first
  have selected' := (decide_top endpoint workload sorted').2.1
  intro same
  have equal := (same (.inr (by rw [selected']; exact valid_of_contender joins))).1
  rw [selected'] at equal
  cases sorted : contenders policy reg gpu numa with
  | nil =>
    rw [(decide_none endpoint workload sorted).2.1] at equal
    have valid := valid_of_contender joins
    rw [← equal] at valid
    cases valid
  | cons top rest =>
    rw [(decide_top endpoint workload sorted).2.1] at equal
    obtain ⟨other, considered, -, rfl⟩ := mem_contenders.mp (head_mem sorted)
    have lower := considered_lower own found considered
    rw [show other.id = new.id from equal] at lower
    exact UInt64.lt_irrefl _ lower

/-- Otherwise the first contender stays, or there is none in either snapshot. -/
theorem same_of_not_nextWins (loses : ¬NextWins policy reg gpu numa) :
    SameChoice (policy.decide reg gpu numa endpoint workload)
      (policy.decide reg' gpu numa endpoint workload) := by
  have beaten (new : NicRecord) (found : next policy reg = some new)
      (allowed : (policy.hardCheck reg new gpu numa).1.allowed = true) :
      ∃ other ∈ policy.considered reg, (policy.hardCheck reg other gpu numa).1.allowed = true ∧
        policy.rank reg other gpu numa ≤ policy.rank reg new gpu numa := by
    by_contra unbeaten
    refine loses ⟨new, found, allowed, fun other considered allowed' => ?_⟩
    by_contra less
    exact unbeaten ⟨other, considered, allowed', not_lt.mp less⟩
  cases sorted : contenders policy reg gpu numa with
  | nil =>
    apply sameChoice_of_contenders
    rw [sorted, eq_comm, List.eq_nil_iff_forall_not_mem]
    intro e contends
    rcases (mem_contenders_without without stored own inside unusable).mp contends with
      before | ⟨new, found, allowed, -⟩
    · simp [sorted] at before
    · obtain ⟨other, considered, allowed', -⟩ := beaten new found allowed
      have contends := mem_contenders.mpr ⟨other, considered, allowed', rfl⟩
      simp [sorted] at contends
  | cons top rest =>
    have stays : ∃ rest', contenders policy reg' gpu numa = top :: rest' := by
      rw [head_iff (own_without without stored own)]
      refine ⟨(mem_contenders_without without stored own inside unusable).mpr
        (.inl (head_mem sorted)),
        fun e contends => ?_⟩
      rcases (mem_contenders_without without stored own inside unusable).mp contends with
        before | ⟨new, found, allowed, rfl⟩
      · exact head_precedes own sorted before
      · obtain ⟨other, considered, allowed', bound⟩ := beaten new found allowed
        have contends' := mem_contenders.mpr ⟨other, considered, allowed', rfl⟩
        have behind : Precedes (policy.evaluate reg gpu numa other) (policy.evaluate reg gpu numa new) := by
          rw [Precedes, rankScore_eq allowed, rankScore_eq allowed']
          exact bound.lt_or_eq.imp_right fun tied => ⟨tied, considered_lower own found considered⟩
        rcases head_precedes own sorted contends' with rfl | before
        · exact .inr behind
        · exact .inr (Trans.trans before behind)
    obtain ⟨rest', sorted'⟩ := stays
    obtain ⟨-, selected, overall, -⟩ := decide_top endpoint workload sorted
    obtain ⟨-, selected', overall', -⟩ := decide_top endpoint workload sorted'
    exact fun _ => ⟨selected.trans selected'.symm, overall.trans overall'.symm⟩

end

/-- On every reachable registry and under every bound, taking away a NIC that is not
allowed leaves the selected NIC and the overall result, once either decision selects one,
exactly when it was not among the considered ones or the next one does not win. -/
theorem unusable_neutral_iff (s : NicRegistry) (reachable : s.Reachable) (policy : ResidencyPolicy)
    (gpu : GpuId) (numa : NumaNodeId) (endpoint : EndpointId) (workload : WorkerId)
    (stored : s.nics[x]? = some nic)
    (unusable : (policy.hardCheck s.snapshot nic gpu numa).1.allowed = false)
    (without : Without s.snapshot x reg') :
    SameChoice (policy.decide s.snapshot gpu numa endpoint workload)
        (policy.decide reg' gpu numa endpoint workload) ↔
      nic ∉ policy.considered s.snapshot ∨ ¬NextWins policy s.snapshot gpu numa := by
  have own := own_of_reachable reachable
  by_cases inside : nic ∈ policy.considered s.snapshot
  · rw [or_iff_right (not_not.mpr inside)]
    constructor
    · intro same wins
      exact changed_of_nextWins own without stored inside unusable wins same
    · exact same_of_not_nextWins own without stored inside unusable
  · refine iff_of_true (sameChoice_of_contenders ?_) (.inl inside)
    have evaluated : policy.evaluate reg' gpu numa = policy.evaluate s.snapshot gpu numa :=
      funext fun _ => evaluate_without without
    rw [contenders, contenders, considered_outside without stored inside, evaluated]

/-- A bound of one NIC, which the failed NIC 10 of the tied run takes. -/
def onlyOne : ResidencyPolicy := { maxCandidates := 1 }

theorem tiedRun_neutral_iff :
    let s := NicRegistry.after { epoch := ⟨1⟩ } tiedRun
    SameChoice (onlyOne.decide s.snapshot {} {} {} {})
        (onlyOne.decide { s.snapshot with nics := s.snapshot.nics.erase ⟨10⟩ } {} {} {} {}) ↔
      { id := ⟨10⟩, generation := ⟨1⟩, lifecycle := .failed, provenance := ⟨.real, []⟩ } ∉
          onlyOne.considered s.snapshot ∨
        ¬NextWins onlyOne s.snapshot {} {} :=
  unusable_neutral_iff _ ⟨⟨1⟩, _, tiedRun, rfl, rfl⟩ onlyOne {} {} {} {} (by decide +kernel)
    (by decide +kernel) ⟨rfl, rfl, rfl⟩

/-- Without the failed NIC, the next one is looked at and selected. -/
theorem tiedRun_changed :
    let s := NicRegistry.after { epoch := ⟨1⟩ } tiedRun
    (∃ e ∈ (onlyOne.decide s.snapshot {} {} {} {}).evaluated, e.nic = ⟨10⟩ ∧ e.eligibility = .notReady) ∧
      (onlyOne.decide s.snapshot {} {} {} {}).selected = {} ∧
      (onlyOne.decide { s.snapshot with nics := s.snapshot.nics.erase ⟨10⟩ } {} {} {} {}).selected = ⟨11⟩ := by
  decide +kernel

end NicResidency.CandidateBound

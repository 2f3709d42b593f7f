import NicResidency.Selection

/-!
What a decision consists of. Its list of evaluated NICs, its candidates, its
selected NIC, the mark on that NIC and its overall outcome are computed by
separate loops; on every reachable registry they agree with each other and with
the records.
-/

namespace NicResidency.Decisions
open NicRegistry ResidencyPolicy Selection

/-- The order of preference: the rank, and then the id. -/
def Precedes (a b : CandidateResult) : Prop :=
  a.rankScore < b.rankScore ∨ a.rankScore = b.rankScore ∧ a.nic.value < b.nic.value

/-- The entry evaluates the NIC that is stored under this key. -/
structure Evaluates (policy : ResidencyPolicy) (reg : RegistrySnapshot) (gpu : GpuId)
    (numa : NumaNodeId) (stored : NicId × NicRecord) (e : CandidateResult) : Prop where
  nic : e.nic = stored.1
  eligibility : e.eligibility = (policy.hardCheck reg stored.2 gpu numa).1
  rank : e.eligibility.allowed = true → e.rankScore = policy.rank reg stored.2 gpu numa

/-- The decision selects this entry. -/
structure Chosen (reg : RegistrySnapshot) (d : ResidencyDecision) (top : CandidateResult) : Prop where
  member : top ∈ d.evaluated
  allowed : top.eligibility.allowed = true
  minimum : ∀ e ∈ d.evaluated, e.eligibility.allowed = true → e ≠ top → Precedes top e
  selected : d.selected = top.nic
  marked : ∀ e ∈ d.evaluated, e.selected = true ↔ e = top
  overall : d.overall = top.eligibility
  generation : ∃ nic, reg.nics[top.nic]? = some nic ∧ d.nicGeneration = nic.generation

/-- The decision selects nothing. -/
structure NoneChosen (reg : RegistrySnapshot) (d : ResidencyDecision) : Prop where
  selected : d.selected.valid = false
  marked : ∀ e ∈ d.evaluated, e.selected = false
  overall : d.overall.allowed = false
  empty : reg.nics.size = 0 → d.overall = .notFound
  worst : reg.nics.size ≠ 0 → (∃ e ∈ d.evaluated, d.overall = e.eligibility) ∧
    ∀ e ∈ d.evaluated, d.overall.severity ≤ e.eligibility.severity

/-- The decision is the one that the policy prescribes for the snapshot. -/
structure Decides (policy : ResidencyPolicy) (reg : RegistrySnapshot) (gpu : GpuId)
    (numa : NumaNodeId) (d : ResidencyDecision) : Prop where
  evaluated : List.Forall₂ (Evaluates policy reg gpu numa) reg.nics.toList d.evaluated
  ascending : d.evaluated.Pairwise fun a b => a.nic.value < b.nic.value
  candidates : d.candidates = (d.evaluated.filter (·.eligibility.allowed)).map (·.nic)
  chosen : (∃ e ∈ d.evaluated, e.eligibility.allowed = true) → ∃ top, Chosen reg d top
  none : (∀ e ∈ d.evaluated, e.eligibility.allowed = false) → NoneChosen reg d

/-! The order of the candidates. -/

instance : Std.Total CandidateResult.NotAfter where
  total a b := by
    have values := UInt64.le_total a.nic.value b.nic.value
    unfold CandidateResult.NotAfter
    rcases lt_trichotomy a.rankScore b.rankScore with less | equal | greater
    · exact .inl (.inl less)
    · exact values.imp (fun below => .inr ⟨equal, below⟩) (fun above => .inr ⟨equal.symm, above⟩)
    · exact .inr (.inl greater)

/-- A comparison of scores, and of ids where the scores are equal, is transitive when the
comparison of ids is. -/
theorem scored_trans {below : UInt64 → UInt64 → Prop} {i j k : Int} {x y z : UInt64}
    (through : below x y → below y z → below x z) (first : i < j ∨ i = j ∧ below x y)
    (second : j < k ∨ j = k ∧ below y z) : i < k ∨ i = k ∧ below x z := by
  rcases first with less | ⟨equal, before⟩
  · rcases second with less' | ⟨equal', -⟩ <;> omega
  · rcases second with less' | ⟨equal', before'⟩
    · omega
    · exact .inr ⟨equal.trans equal', through before before'⟩

instance : IsTrans CandidateResult CandidateResult.NotAfter where
  trans _ _ _ first second := scored_trans UInt64.le_trans first second

theorem precedes_of_notAfter {a b : CandidateResult} (notAfter : a.NotAfter b)
    (different : a.nic ≠ b.nic) : Precedes a b := by
  rcases notAfter with less | ⟨equal, below⟩
  · exact .inl less
  · refine .inr ⟨equal, UInt64.lt_of_le_of_ne below fun same => different ?_⟩
    exact Id.value_inj.mp same

/-- The first of the sorted candidates comes before all others. -/
theorem top_notAfter {candidates : List CandidateResult} {top : CandidateResult}
    {rest : List CandidateResult}
    (sorted : candidates.insertionSort CandidateResult.NotAfter = top :: rest) :
    top ∈ candidates ∧ ∀ e ∈ candidates, e = top ∨ top.NotAfter e := by
  have ordered := List.pairwise_insertionSort CandidateResult.NotAfter candidates
  rw [sorted, List.pairwise_cons] at ordered
  have listed (e : CandidateResult) : e ∈ candidates ↔ e = top ∨ e ∈ rest := by
    rw [← List.mem_insertionSort CandidateResult.NotAfter, sorted, List.mem_cons]
  refine ⟨(listed top).mpr (.inl rfl), fun e member => ?_⟩
  exact ((listed e).mp member).imp_right (ordered.1 e)

/-! The most severe outcome. -/

theorem worst_foldl (entries : List CandidateResult) (start : ResidencyEligibility) :
    let worst := entries.foldl
      (fun worst e => if e.eligibility.severity < worst.severity then e.eligibility else worst) start
    (worst = start ∨ ∃ e ∈ entries, worst = e.eligibility) ∧ worst.severity ≤ start.severity ∧
      ∀ e ∈ entries, worst.severity ≤ e.eligibility.severity := by
  induction entries generalizing start with
  | nil => exact ⟨.inl rfl, le_rfl, fun _ member => nomatch member⟩
  | cons first rest ih =>
    simp only [List.foldl_cons]
    by_cases lower : first.eligibility.severity < start.severity
    · rw [if_pos lower]
      obtain ⟨origin, bound, bounds⟩ := ih first.eligibility
      refine ⟨.inr ?_, bound.trans lower.le, List.forall_mem_cons.mpr ⟨bound, bounds⟩⟩
      rcases origin with same | ⟨e, member, same⟩
      · exact ⟨first, List.mem_cons_self .., same⟩
      · exact ⟨e, List.mem_cons_of_mem _ member, same⟩
    · rw [if_neg lower]
      obtain ⟨origin, bound, bounds⟩ := ih start
      refine ⟨origin.imp_right ?_, bound, List.forall_mem_cons.mpr
        ⟨bound.trans (not_lt.mp lower), bounds⟩⟩
      intro found
      obtain ⟨e, member, same⟩ := found
      exact ⟨e, List.mem_cons_of_mem _ member, same⟩

theorem worstEligibility_spec {entries : List CandidateResult} (some : entries ≠ []) :
    (∃ e ∈ entries, worstEligibility entries = e.eligibility) ∧
      ∀ e ∈ entries, (worstEligibility entries).severity ≤ e.eligibility.severity := by
  cases entries with
  | nil => exact absurd rfl some
  | cons first rest =>
    obtain ⟨origin, bound, bounds⟩ := worst_foldl rest first.eligibility
    refine ⟨?_, List.forall_mem_cons.mpr ⟨bound, bounds⟩⟩
    rcases origin with same | ⟨e, member, same⟩
    · exact ⟨first, List.mem_cons_self .., same⟩
    · exact ⟨e, List.mem_cons_of_mem _ member, same⟩

/-! The parts of a decision. -/

section
variable {policy : ResidencyPolicy} {reg : RegistrySnapshot} {gpu : GpuId} {numa : NumaNodeId}
  {endpoint : EndpointId} {workload : WorkerId} {top : CandidateResult} {rest : List CandidateResult}

/-- The entries before one of them is marked. -/
def evaluations (policy : ResidencyPolicy) (reg : RegistrySnapshot) (gpu : GpuId)
    (numa : NumaNodeId) : List CandidateResult :=
  (policy.considered reg).map (policy.evaluate reg gpu numa)

/-- What marking the selected entry does to an entry. -/
def mark (top e : CandidateResult) : CandidateResult :=
  if e.nic = top.nic then { e with selected := true, eligibility := top.eligibility } else e

theorem decide_candidates :
    (policy.decide reg gpu numa endpoint workload).candidates =
      ((evaluations policy reg gpu numa).filter (·.eligibility.allowed)).map (·.nic) := by
  simp only [ResidencyPolicy.decide, ResidencyDecision.select]
  split
  · split <;> rfl
  · rfl

/-- A decision with a first contender selects it. -/
theorem decide_top (endpoint : EndpointId) (workload : WorkerId)
    (sorted : contenders policy reg gpu numa = top :: rest) :
    (policy.decide reg gpu numa endpoint workload).evaluated =
        (evaluations policy reg gpu numa).map (mark top) ∧
      (policy.decide reg gpu numa endpoint workload).selected = top.nic ∧
      (policy.decide reg gpu numa endpoint workload).overall = top.eligibility ∧
      (policy.decide reg gpu numa endpoint workload).nicGeneration =
        ((reg.nics[top.nic]?).map (·.generation)).getD {} := by
  unfold contenders at sorted
  simp only [ResidencyPolicy.decide, ResidencyDecision.select, sorted]
  cases reg.nics[top.nic]? <;> exact ⟨rfl, rfl, rfl, rfl⟩

/-- A decision without contenders selects nothing. -/
theorem decide_none (endpoint : EndpointId) (workload : WorkerId)
    (sorted : contenders policy reg gpu numa = []) :
    (policy.decide reg gpu numa endpoint workload).evaluated = evaluations policy reg gpu numa ∧
      (policy.decide reg gpu numa endpoint workload).selected = {} ∧
      (policy.decide reg gpu numa endpoint workload).overall =
        worstEligibility (evaluations policy reg gpu numa) := by
  unfold contenders at sorted
  simp only [ResidencyPolicy.decide]
  rw [sorted]
  exact ⟨rfl, rfl, rfl⟩

/-! All NICs are considered. -/

theorem considered_all (few : reg.nics.size ≤ policy.maxCandidates) :
    policy.considered reg = reg.nics.toList.map Prod.snd := by
  rw [considered, List.take_of_length_le]
  rw [List.length_map, Std.ExtTreeMap.length_toList]
  exact few

/-- The keys of a snapshot are strictly ascending numbers. -/
theorem ascending_keys :
    reg.nics.toList.Pairwise fun a b => a.1.value < b.1.value := by
  refine Std.ExtTreeMap.ordered_keys_toList.imp fun {a b} less => ?_
  exact compareOfLessAndEq_eq_lt.mp less

theorem ascending_evaluations (policy : ResidencyPolicy) (gpu : GpuId) (numa : NumaNodeId)
    (own : ∀ entry ∈ reg.nics.toList, entry.2.id = entry.1) :
    (evaluations policy reg gpu numa).Pairwise fun a b => a.nic.value < b.nic.value := by
  have ascending : (reg.nics.toList.map Prod.snd).Pairwise fun a b => a.id.value < b.id.value := by
    rw [List.pairwise_map]
    refine ascending_keys.imp_of_mem fun {a b} first second less => ?_
    rwa [own a first, own b second]
  rw [evaluations, List.pairwise_map]
  exact ascending.sublist (List.take_sublist _ _)

theorem not_allowed {e : CandidateResult} (sorted : contenders policy reg gpu numa = [])
    (member : e ∈ evaluations policy reg gpu numa) : e.eligibility.allowed = false := by
  by_contra allowed
  have contends : e ∈ contenders policy reg gpu numa :=
    (List.mem_insertionSort _).mpr (List.mem_filter.mpr ⟨member, by simpa using allowed⟩)
  rw [sorted] at contends
  cases contends

theorem mark_self (top : CandidateResult) : mark top top = { top with selected := true } := if_pos rfl

theorem mark_other {top e : CandidateResult} (different : e.nic ≠ top.nic) : mark top e = e :=
  if_neg different

/-- Marking keeps the id, the eligibility and the rank of every entry. -/
theorem mark_keeps {top e : CandidateResult} (unique : e.nic = top.nic → e = top) :
    (mark top e).nic = e.nic ∧ (mark top e).eligibility = e.eligibility ∧
      (mark top e).rankScore = e.rankScore := by
  by_cases same : e.nic = top.nic
  · obtain rfl := unique same
    rw [mark_self]
    exact ⟨rfl, rfl, rfl⟩
  · rw [mark_other same]
    exact ⟨rfl, rfl, rfl⟩

theorem evaluate_evaluates {entry : NicId × NicRecord} (own : entry.2.id = entry.1) :
    Evaluates policy reg gpu numa entry (policy.evaluate reg gpu numa entry.2) where
  nic := own
  eligibility := rfl
  rank allowed := if_pos allowed

theorem unmarked {e : CandidateResult} (member : e ∈ evaluations policy reg gpu numa) :
    e.selected = false := by
  obtain ⟨nic, -, rfl⟩ := List.mem_map.mp member
  rfl

/-- Entries with ascending ids are told apart by their ids. -/
theorem unique_of_ascending {entries : List CandidateResult}
    (ascending : entries.Pairwise fun a b => a.nic.value < b.nic.value) :
    ∀ a ∈ entries, ∀ b ∈ entries, a.nic = b.nic → a = b := by
  have distinct : (entries.map (·.nic)).Nodup := by
    refine List.pairwise_map.mpr (ascending.imp fun {a b} less same => ?_)
    rw [same] at less
    exact UInt64.lt_irrefl _ less
  exact fun a first b second same => List.inj_on_of_nodup_map distinct first second same

section
variable (own : ∀ entry ∈ reg.nics.toList, entry.2.id = entry.1)
  (few : reg.nics.size ≤ policy.maxCandidates)
include own few

/-- Every NIC has one entry, whatever a further pass does to the entries as long as
it keeps what was evaluated. -/
theorem forall₂_evaluates (gpu : GpuId) (numa : NumaNodeId) (change : CandidateResult → CandidateResult)
    (keeps : ∀ e ∈ evaluations policy reg gpu numa, (change e).nic = e.nic ∧
      (change e).eligibility = e.eligibility ∧ (change e).rankScore = e.rankScore) :
    List.Forall₂ (Evaluates policy reg gpu numa) reg.nics.toList
      ((evaluations policy reg gpu numa).map change) := by
  have listed : (evaluations policy reg gpu numa).map change =
      reg.nics.toList.map fun entry => change (policy.evaluate reg gpu numa entry.2) := by
    rw [evaluations, considered_all few, List.map_map, List.map_map]
    rfl
  rw [listed, List.forall₂_map_right_iff, List.forall₂_same]
  intro entry stored
  have member : policy.evaluate reg gpu numa entry.2 ∈ evaluations policy reg gpu numa := by
    rw [evaluations, considered_all few]
    exact List.mem_map_of_mem (List.mem_map_of_mem stored)
  obtain ⟨nic, eligibility, rank⟩ := keeps _ member
  have plain : Evaluates policy reg gpu numa entry _ := evaluate_evaluates (own entry stored)
  exact {
    nic := nic.trans plain.nic
    eligibility := eligibility.trans plain.eligibility
    rank := fun allowed => rank.trans (plain.rank (eligibility ▸ allowed)) }

/-- An entry stands for a stored NIC. -/
theorem stored_of_evaluation {e : CandidateResult} (member : e ∈ evaluations policy reg gpu numa) :
    ∃ nic, reg.nics[e.nic]? = some nic := by
  obtain ⟨nic, considered, rfl⟩ := List.mem_map.mp member
  rw [considered_all few] at considered
  obtain ⟨entry, stored, rfl⟩ := List.mem_map.mp considered
  refine ⟨entry.2, ?_⟩
  change reg.nics[entry.2.id]? = some entry.2
  rw [own entry stored]
  exact Std.ExtTreeMap.mem_toList_iff_getElem?_eq_some.mp stored

theorem chosen_top (endpoint : EndpointId) (workload : WorkerId)
    (sorted : contenders policy reg gpu numa = top :: rest) :
    Chosen reg (policy.decide reg gpu numa endpoint workload) (mark top top) := by
  obtain ⟨evaluated, selected, overall, generation⟩ :=
    decide_top endpoint workload sorted
  obtain ⟨candidate, before⟩ := top_notAfter sorted
  obtain ⟨member, allowed⟩ := List.mem_filter.mp candidate
  have ascending := ascending_evaluations policy gpu numa own
  have only (e : CandidateResult) (found : e ∈ evaluations policy reg gpu numa)
      (same : e.nic = top.nic) : e = top := unique_of_ascending ascending e found top member same
  obtain ⟨nic, stored⟩ := stored_of_evaluation own few member
  have nicOfTop : (mark top top).nic = top.nic := by rw [mark_self]
  refine ⟨?_, ?_, ?_, selected.trans nicOfTop.symm, ?_, ?_, ⟨nic, ?_, ?_⟩⟩
  · rw [evaluated]
    exact List.mem_map_of_mem member
  · rw [mark_self]
    exact allowed
  · rw [evaluated]
    intro marked listed alsoAllowed different
    obtain ⟨e, found, rfl⟩ := List.mem_map.mp listed
    by_cases same : e.nic = top.nic
    · exact absurd (congrArg (mark top) (only e found same)) different
    · rw [mark_other same] at alsoAllowed ⊢
      have comes := (before e (List.mem_filter.mpr ⟨found, alsoAllowed⟩)).resolve_left
        fun equal => same (congrArg CandidateResult.nic equal)
      rw [mark_self]
      exact precedes_of_notAfter comes (Ne.symm same)
  · rw [evaluated]
    intro marked listed
    obtain ⟨e, found, rfl⟩ := List.mem_map.mp listed
    by_cases same : e.nic = top.nic
    · rw [only e found same, mark_self]
      exact iff_of_true rfl rfl
    · rw [mark_other same, unmarked found]
      refine iff_of_false Bool.false_ne_true fun equal => same ?_
      rw [equal, nicOfTop]
  · rw [overall, mark_self]
  · rw [nicOfTop, stored]
  · rw [generation, stored]
    rfl

end

theorem noneChosen (few : reg.nics.size ≤ policy.maxCandidates)
    (sorted : contenders policy reg gpu numa = []) :
    NoneChosen reg (policy.decide reg gpu numa endpoint workload) := by
  obtain ⟨evaluated, selected, overall⟩ := decide_none endpoint workload sorted
  have length : (evaluations policy reg gpu numa).length = reg.nics.size := by
    rw [evaluations, considered_all few, List.length_map, List.length_map,
      Std.ExtTreeMap.length_toList]
  refine ⟨by rw [selected]; rfl, ?_, ?_, ?_, ?_⟩
  · rw [evaluated]
    exact fun e member => unmarked member
  · rw [overall]
    by_cases empty : evaluations policy reg gpu numa = []
    · rw [empty]
      rfl
    · obtain ⟨⟨e, member, same⟩, -⟩ := worstEligibility_spec empty
      rw [same]
      exact not_allowed sorted member
  · intro none
    rw [overall, List.eq_nil_of_length_eq_zero (length.trans none)]
    rfl
  · intro some
    rw [evaluated, overall]
    apply worstEligibility_spec
    intro empty
    rw [empty] at length
    exact some length.symm

/-- On a snapshot whose NICs are stored under their own ids and are few enough to
be all considered, a decision is the one that the policy prescribes. -/
theorem decides_of_own (own : ∀ entry ∈ reg.nics.toList, entry.2.id = entry.1)
    (few : reg.nics.size ≤ policy.maxCandidates) :
    Decides policy reg gpu numa (policy.decide reg gpu numa endpoint workload) := by
  have ascending := ascending_evaluations policy gpu numa own
  cases sorted : contenders policy reg gpu numa with
  | nil =>
    obtain ⟨evaluated, -, -⟩ := decide_none endpoint workload sorted
    have entries := forall₂_evaluates own few gpu numa id
      fun _ _ => ⟨rfl, rfl, rfl⟩
    rw [List.map_id] at entries
    refine ⟨by rwa [evaluated], by rwa [evaluated], by rw [evaluated, decide_candidates], ?_, ?_⟩
    · intro found
      obtain ⟨e, member, allowed⟩ := found
      rw [evaluated] at member
      rw [not_allowed sorted member] at allowed
      cases allowed
    · exact fun _ => noneChosen few sorted
  | cons top rest =>
    have chosen := chosen_top own few endpoint workload sorted
    obtain ⟨evaluated, -, -, -⟩ := decide_top endpoint workload sorted
    have member := (List.mem_filter.mp (top_notAfter sorted).1).1
    have keeps (e : CandidateResult) (found : e ∈ evaluations policy reg gpu numa) :=
      mark_keeps (unique_of_ascending ascending e found top member)
    refine ⟨?_, ?_, ?_, ?_, ?_⟩
    · rw [evaluated]
      exact forall₂_evaluates own few gpu numa (mark top) keeps
    · rw [evaluated, List.pairwise_map]
      refine ascending.imp_of_mem fun {a b} first second less => ?_
      rwa [(keeps a first).1, (keeps b second).1]
    · have same : (evaluations policy reg gpu numa).filter ((·.eligibility.allowed) ∘ mark top) =
          (evaluations policy reg gpu numa).filter (·.eligibility.allowed) :=
        List.filter_congr fun e found => by rw [Function.comp, (keeps e found).2.1]
      rw [evaluated, decide_candidates, List.filter_map, List.map_map, same]
      exact List.map_congr_left fun e found => (keeps e (List.mem_of_mem_filter found)).1.symm
    · exact fun _ => ⟨_, chosen⟩
    · intro none
      have allowed := chosen.allowed
      rw [none _ chosen.member] at allowed
      cases allowed

end

/-- A reachable registry stores every NIC under its own id. -/
theorem own_of_reachable {s : NicRegistry} (reachable : s.Reachable) :
    ∀ entry ∈ s.snapshot.nics.toList, entry.2.id = entry.1 := by
  intro entry stored
  have closed := References.reachable_referenceClosed s reachable
  exact closed.nics _ _ (Std.ExtTreeMap.mem_toList_iff_getElem?_eq_some.mp stored)

/-- On every reachable registry whose NICs are all considered, a decision is the
one that the policy prescribes. -/
theorem decides_reachable (s : NicRegistry) (reachable : s.Reachable) (policy : ResidencyPolicy)
    (few : s.nics.size ≤ policy.maxCandidates) (gpu : GpuId) (numa : NumaNodeId)
    (endpoint : EndpointId) (workload : WorkerId) :
    Decides policy s.snapshot gpu numa (policy.decide s.snapshot gpu numa endpoint workload) :=
  decides_of_own (own_of_reachable reachable) few

/-- Two NICs of equal rank and one that is refused. -/
def tiedRun : List Call :=
  let nic (id : UInt64) (lifecycle : LifecycleState) : NicRecord :=
    { id := ⟨id⟩, generation := ⟨1⟩, lifecycle, provenance := ⟨.real, []⟩ }
  [.registerWorker ⟨7⟩ ⟨1⟩,
    .mutate ⟨⟨1⟩, ⟨7⟩, ⟨1⟩⟩ (.registerNic (nic 12 .available)),
    .mutate ⟨⟨1⟩, ⟨7⟩, ⟨1⟩⟩ (.registerNic (nic 10 .failed)),
    .mutate ⟨⟨1⟩, ⟨7⟩, ⟨1⟩⟩ (.registerNic (nic 11 .resident))]

theorem tiedRun_decides :
    Decides {} (NicRegistry.after { epoch := ⟨1⟩ } tiedRun).snapshot ⟨0⟩ ⟨0⟩
      (ResidencyPolicy.decide {} (NicRegistry.after { epoch := ⟨1⟩ } tiedRun).snapshot ⟨0⟩ ⟨0⟩ ⟨0⟩
        ⟨0⟩) :=
  decides_reachable (NicRegistry.after { epoch := ⟨1⟩ } tiedRun) ⟨⟨1⟩, _, tiedRun, rfl, rfl⟩ {}
    (by decide +kernel) ⟨0⟩ ⟨0⟩ ⟨0⟩ ⟨0⟩

end NicResidency.Decisions

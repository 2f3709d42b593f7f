import NicResidency.Decisions

/-!
The contenders of a decision as an ordered list. Its order is strict, so that the
list is known from its members, and its head is the selected NIC.
-/

namespace NicResidency.Preference
open ResidencyPolicy Selection Decisions

instance : IsStrictOrder CandidateResult Precedes where
  irrefl a before := by
    rcases before with less | ⟨-, less⟩
    · exact lt_irrefl _ less
    · exact UInt64.lt_irrefl _ less
  trans _ _ _ first second := scored_trans UInt64.lt_trans first second

variable {policy : ResidencyPolicy} {reg : RegistrySnapshot} {gpu : GpuId} {numa : NumaNodeId}
  {endpoint : EndpointId} {workload : WorkerId} {e top : CandidateResult} {rest : List CandidateResult}

theorem contenders_perm : (contenders policy reg gpu numa).Perm
    ((evaluations policy reg gpu numa).filter (·.eligibility.allowed)) :=
  List.perm_insertionSort _ _

theorem mem_contenders_iff : e ∈ contenders policy reg gpu numa ↔
    e ∈ evaluations policy reg gpu numa ∧ e.eligibility.allowed = true := by
  rw [contenders_perm.mem_iff, List.mem_filter]

theorem mem_candidates {n : NicId} :
    n ∈ (policy.decide reg gpu numa endpoint workload).candidates ↔
      ∃ e ∈ contenders policy reg gpu numa, e.nic = n := by
  rw [decide_candidates, List.mem_map]
  simp only [contenders_perm.mem_iff]

theorem head_mem (sorted : contenders policy reg gpu numa = top :: rest) :
    top ∈ contenders policy reg gpu numa := by
  rw [sorted]
  exact List.mem_cons_self ..

/-- Only an allowed NIC has a score. -/
theorem rankScore_eq {nic : NicRecord} (allowed : (policy.hardCheck reg nic gpu numa).1.allowed = true) :
    (policy.evaluate reg gpu numa nic).rankScore = policy.rank reg nic gpu numa :=
  if_pos allowed

section
variable (own : ∀ entry ∈ reg.nics.toList, entry.2.id = entry.1)
include own

/-- An entry is known by its id. -/
theorem evaluation_unique {a b : CandidateResult} (first : a ∈ evaluations policy reg gpu numa)
    (second : b ∈ evaluations policy reg gpu numa) (same : a.nic = b.nic) : a = b :=
  unique_of_ascending (ascending_evaluations policy gpu numa own) a first b second same

/-- Every contender comes strictly before the later ones. -/
theorem contenders_ordered (policy : ResidencyPolicy) (gpu : GpuId) (numa : NumaNodeId) :
    (contenders policy reg gpu numa).Pairwise Precedes := by
  have distinct : (contenders policy reg gpu numa).Pairwise fun a b => a.nic ≠ b.nic := by
    rw [contenders_perm.pairwise_iff fun different => Ne.symm different]
    refine (ascending_evaluations policy gpu numa own).filter _ |>.imp fun {a b} less same => ?_
    rw [same] at less
    exact UInt64.lt_irrefl _ less
  have sorted : (contenders policy reg gpu numa).Pairwise CandidateResult.NotAfter :=
    List.pairwise_insertionSort _ _
  exact (sorted.and distinct).imp fun {a b} both => precedes_of_notAfter both.1 both.2

/-- The head comes before every other contender. -/
theorem head_precedes (sorted : contenders policy reg gpu numa = top :: rest)
    (contends : e ∈ contenders policy reg gpu numa) : e = top ∨ Precedes top e := by
  have ordered := contenders_ordered own policy gpu numa
  rw [sorted, List.pairwise_cons] at ordered
  rw [sorted, List.mem_cons] at contends
  exact contends.imp_right (ordered.1 e)

/-- The head is the contender that comes before all others. -/
theorem head_iff : (∃ rest, contenders policy reg gpu numa = e :: rest) ↔
    e ∈ contenders policy reg gpu numa ∧
      ∀ other ∈ contenders policy reg gpu numa, other = e ∨ Precedes e other := by
  constructor
  · rintro ⟨rest, sorted⟩
    exact ⟨head_mem sorted, fun other => head_precedes own sorted⟩
  · rintro ⟨contends, before⟩
    cases sorted : contenders policy reg gpu numa with
    | nil => simp [sorted] at contends
    | cons top rest =>
      rcases head_precedes own sorted contends with rfl | after
      · exact ⟨rest, rfl⟩
      · have first := before top (head_mem sorted)
        rcases first with rfl | earlier
        · exact ⟨rest, rfl⟩
        · exact absurd (Trans.trans earlier after) (irrefl e)

/-- Marking the head leaves what was evaluated. -/
theorem evaluated_keeps (endpoint : EndpointId) (workload : WorkerId)
    (member : e ∈ evaluations policy reg gpu numa) :
    ∃ shown ∈ (policy.decide reg gpu numa endpoint workload).evaluated,
      shown.nic = e.nic ∧ shown.eligibility = e.eligibility ∧ shown.rankScore = e.rankScore := by
  cases sorted : contenders policy reg gpu numa with
  | nil =>
    rw [(decide_none endpoint workload sorted).1]
    exact ⟨e, member, rfl, rfl, rfl⟩
  | cons top rest =>
    rw [(decide_top endpoint workload sorted).1]
    exact ⟨mark top e, List.mem_map_of_mem member,
      mark_keeps (evaluation_unique own member (mem_contenders_iff.mp (head_mem sorted)).1)⟩

/-- What the decision shows of an entry is what was evaluated. -/
theorem evaluation_of_evaluated
    (member : e ∈ (policy.decide reg gpu numa endpoint workload).evaluated) :
    ∃ plain ∈ evaluations policy reg gpu numa,
      e.nic = plain.nic ∧ e.eligibility = plain.eligibility ∧ e.rankScore = plain.rankScore := by
  cases sorted : contenders policy reg gpu numa with
  | nil =>
    rw [(decide_none endpoint workload sorted).1] at member
    exact ⟨e, member, rfl, rfl, rfl⟩
  | cons top rest =>
    rw [(decide_top endpoint workload sorted).1] at member
    obtain ⟨plain, listed, rfl⟩ := List.mem_map.mp member
    exact ⟨plain, listed, mark_keeps (evaluation_unique own listed (mem_contenders_iff.mp (head_mem sorted)).1)⟩

end

end NicResidency.Preference

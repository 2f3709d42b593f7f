import NicResidency.Library.OrderedMap
import NicResidency.LocalityEvidence

/-!
The freshness limit of a policy. The registry stores every NIC with freshness zero, so the
check of the limit never finds one that is too old, whatever its publication said.
-/

namespace NicResidency.FreshnessLimit
open StateMachine VersionedSlot NicRegistry ResidencyPolicy Selection LocalityEvidence

/-- The event is an accepted publication of the NIC. -/
def publishesNic (n : NicId) (event : RegistryEvent) : Bool :=
  match event.input with
  | .mutate _ (.registerNic published) => accepted event && published.id == n
  | _ => false

/-- The record that an event publishes. -/
def publication (event : RegistryEvent) : Option NicRecord :=
  match event.input with
  | .mutate _ (.registerNic published) => some published
  | _ => none

/-- The last accepted publication of the NIC. -/
def lastPublished (n : NicId) (history : List RegistryEvent) : Option NicRecord :=
  (latest (publishesNic n) history).bind publication

/-- The checks that come before the one of the freshness. -/
def earlier (policy : ResidencyPolicy) (nic : NicRecord) : List Constraint :=
  (standing policy nic).take 14

def freshnessCheck (policy : ResidencyPolicy) (nic : NicRecord) : Constraint :=
  ⟨decide (policy.freshnessLimit < nic.freshness), .revalidationRequired,
    ⟨"STALE_FRESHNESS", "device evidence is too old"⟩⟩

/-- The NIC is evaluated as too old, or rejected by a check before. -/
def RefusedAsOld (policy : ResidencyPolicy) (reg : RegistrySnapshot) (gpu : GpuId) (numa : NumaNodeId)
    (nic : NicRecord) : Prop :=
  policy.hardCheck reg nic gpu numa =
      (.revalidationRequired, [⟨"STALE_FRESHNESS", "device evidence is too old"⟩]) ∨
    ∃ constraint ∈ earlier policy nic, constraint.broken = true ∧
      policy.hardCheck reg nic gpu numa = (constraint.eligibility, [constraint.reason])

/-- No NIC is selected whose last accepted publication was older than the limit. -/
def LimitEffective (epoch : CoordinatorEpoch) (calls : List Call) (policy : ResidencyPolicy)
    (gpu : GpuId) (numa : NumaNodeId) : Prop :=
  let reg := (NicRegistry.after { epoch } calls).snapshot
  ∀ n published, lastPublished n (NicRegistry.history { epoch } calls) = some published →
    policy.freshnessLimit < published.freshness →
      (∃ nic, reg.nics[n]? = some nic ∧ RefusedAsOld policy reg gpu numa nic) ∧
        ∀ endpoint workload, ¬Selects (policy.decide reg gpu numa endpoint workload) n

/-! The checks of one NIC. -/

section
variable {policy : ResidencyPolicy} {reg : RegistrySnapshot} {gpu : GpuId} {numa : NumaNodeId}
  {nic : NicRecord}

theorem standing_eq : standing policy nic = earlier policy nic ++ [freshnessCheck policy nic] := rfl

/-- A NIC that breaks an earlier check is rejected by one. -/
theorem refused_of_earlier (broken : ∃ constraint ∈ earlier policy nic, constraint.broken = true) :
    ∃ constraint ∈ earlier policy nic, constraint.broken = true ∧
      policy.hardCheck reg nic gpu numa = (constraint.eligibility, [constraint.reason]) := by
  cases found : (earlier policy nic).find? Constraint.broken with
  | none =>
    obtain ⟨constraint, member, broken⟩ := broken
    exact absurd broken (List.find?_eq_none.mp found constraint member)
  | some constraint =>
    refine ⟨constraint, List.mem_of_find?_eq_some found, List.find?_some found, ?_⟩
    apply hardCheck_standing
    rw [standing_eq, List.find?_append, found, Option.some_or]

/-- Once the earlier checks are passed, fresh evidence is not asked to be revalidated. -/
theorem eligibility_of_fresh (fresh : nic.freshness = 0)
    (passed : (earlier policy nic).find? Constraint.broken = none) :
    (policy.hardCheck reg nic gpu numa).1 ≠ .revalidationRequired := by
  have recent : (freshnessCheck policy nic).broken = false := by
    simp only [freshnessCheck, fresh, decide_eq_false_iff_not]
    exact UInt64.not_lt_zero
  unfold hardCheck
  rw [constraints_split, standing_eq, List.find?_append, List.find?_append, passed, Option.none_or,
    List.find?_singleton, recent, if_neg Bool.false_ne_true, Option.none_or]
  cases found : ((policy.constraints reg nic gpu numa).drop 15).find? Constraint.broken with
  | none =>
    simp only
    split <;> decide
  | some constraint =>
    have located := List.mem_of_find?_eq_some found
    simp only [constraints, List.drop_succ_cons, List.drop_zero, List.mem_cons, List.not_mem_nil,
      or_false] at located
    intro revalidation
    rcases located with rfl | rfl | rfl <;> cases revalidation

/-- Fresh evidence is refused as old only by the checks before. -/
theorem refusedAsOld_iff (fresh : nic.freshness = 0) : RefusedAsOld policy reg gpu numa nic ↔
    ∃ constraint ∈ earlier policy nic, constraint.broken = true := by
  constructor
  · intro refused
    rcases refused with tooOld | ⟨constraint, member, broken, -⟩
    · by_contra unbroken
      have passed : (earlier policy nic).find? Constraint.broken = none := by
        simpa [List.find?_eq_none] using unbroken
      have recent : (policy.hardCheck reg nic gpu numa).1 ≠ .revalidationRequired :=
        eligibility_of_fresh fresh passed
      exact recent (congrArg Prod.fst tooOld)
    · exact ⟨constraint, member, broken⟩
  · intro broken
    exact .inr (refused_of_earlier broken)

theorem not_allowed_of_refused (refused : RefusedAsOld policy reg gpu numa nic) :
    (policy.hardCheck reg nic gpu numa).1.allowed = false := by
  rcases refused with tooOld | ⟨constraint, member, -, rejected⟩
  · rw [tooOld]
    rfl
  · rw [rejected]
    have listed : constraint ∈ policy.constraints {} nic {} {} :=
      List.mem_of_mem_take (List.mem_of_mem_take member)
    exact constraint_not_allowed listed

end

/-! What the registry stores of a publication. -/

/-- The freshness of every stored NIC is zero. -/
def NicsFresh (s : NicRegistry) : Prop :=
  ∀ (id : NicId) nic, s.nics[id]? = some nic → nic.freshness = 0

theorem nicsFresh_step (s : NicRegistry) (c : Call) (fresh : NicsFresh s) : NicsFresh (s.step c).2 := by
  intro id
  apply (nic_change (at_transition s c) id).holds_after (fun nic => nic.freshness = 0) (fresh id)
  · intro _ wrote
    obtain ⟨rec, -, -, rfl⟩ := wrote
    rfl
  · intro old _ inPlace still
    rcases inPlace with rfl | ⟨-, rfl⟩
    · rfl
    · exact still

theorem nicsFresh_after (epoch : CoordinatorEpoch) (calls : List Call) :
    NicsFresh (NicRegistry.after { epoch } calls) :=
  invariant_exec NicsFresh (fun _ => True) (fun s c fresh _ => nicsFresh_step s c fresh)
    (by intro id nic stored; simp at stored) calls (fun _ _ => trivial)

/-- The limit is effective on exactly those runs in which every NIC that was published with
a freshness beyond it is rejected by another check that comes before. -/
theorem limit_effective_iff (epoch : CoordinatorEpoch) (calls : List Call) (policy : ResidencyPolicy)
    (gpu : GpuId) (numa : NumaNodeId) : LimitEffective epoch calls policy gpu numa ↔
      ∀ n published, lastPublished n (NicRegistry.history { epoch } calls) = some published →
        policy.freshnessLimit < published.freshness →
          ∃ nic, (NicRegistry.after { epoch } calls).nics[n]? = some nic ∧
            ∃ constraint ∈ earlier policy nic, constraint.broken = true := by
  constructor
  · intro effective n published last late
    obtain ⟨⟨nic, stored, refused⟩, -⟩ := effective n published last late
    exact ⟨nic, stored, (refusedAsOld_iff (nicsFresh_after epoch calls n nic stored)).mp refused⟩
  · intro checked n published last late
    obtain ⟨nic, stored, broken⟩ := checked n published last late
    have refused : RefusedAsOld policy (NicRegistry.after { epoch } calls).snapshot gpu numa nic :=
      (refusedAsOld_iff (nicsFresh_after epoch calls n nic stored)).mpr broken
    refine ⟨⟨nic, stored, refused⟩, ?_⟩
    intro endpoint workload selects
    obtain ⟨selected, found, allowed⟩ := selects_stored_allowed selects
    obtain rfl : nic = selected := Option.some.inj (stored.symm.trans found)
    rw [not_allowed_of_refused refused] at allowed
    cases allowed

/-- A NIC is published with evidence of freshness 1000. -/
def oldEvidenceRun : List Call :=
  [.registerWorker ⟨7⟩ ⟨1⟩,
    .mutate ⟨⟨1⟩, ⟨7⟩, ⟨1⟩⟩ (.registerNic
      { id := ⟨10⟩, generation := ⟨1⟩, lifecycle := .available, provenance := { kind := .real }
        freshness := 1000 })]

/-- A policy with the limit 10 selects it. -/
theorem oldEvidenceRun_selected :
    (({ freshnessLimit := 10 } : ResidencyPolicy).decide
        (NicRegistry.after { epoch := ⟨1⟩ } oldEvidenceRun).snapshot {} {} {} {}).selected = ⟨10⟩ ∧
      ¬LimitEffective ⟨1⟩ oldEvidenceRun { freshnessLimit := 10 } {} {} := by
  have selected : (({ freshnessLimit := 10 } : ResidencyPolicy).decide
      (NicRegistry.after { epoch := ⟨1⟩ } oldEvidenceRun).snapshot {} {} {} {}).selected = ⟨10⟩ := by
    decide +kernel
  refine ⟨selected, ?_⟩
  intro effective
  have last : (lastPublished ⟨10⟩ (NicRegistry.history { epoch := ⟨1⟩ } oldEvidenceRun)).isSome := by
    decide +kernel
  obtain ⟨published, last⟩ := Option.isSome_iff_exists.mp last
  have late : (lastPublished ⟨10⟩ (NicRegistry.history { epoch := ⟨1⟩ } oldEvidenceRun)).map
      (·.freshness) = some 1000 := by decide +kernel
  rw [last, Option.map_some, Option.some.injEq] at late
  exact (effective ⟨10⟩ published last (by rw [late]; decide)).2 {} {} ⟨rfl, selected⟩

end NicResidency.FreshnessLimit

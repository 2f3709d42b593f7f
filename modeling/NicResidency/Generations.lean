import NicResidency.RegistrySlots

/-!
Stored generations over a run. They only grow, except where an advance meets the
largest 64-bit value: the counter wraps to zero there.
-/

namespace NicResidency.Generations
open StateMachine VersionedSlot NicRegistry

/-- A resource whose generation the registry stores. -/
inductive ResourceRef where
  | nic (id : NicId)
  | function (id : FunctionId)
  | port (id : PortId)
  | queue (id : QueueId)
  | attachment (id : AttachmentId)
  | gpu (id : GpuId)
  | topology

/-- The stored 64-bit counter, as a number. -/
def generationOf (s : NicRegistry) : ResourceRef → Option Nat
  | .nic id => s.nics[id]?.map (·.generation.value.toNat)
  | .function id => s.functions[id]?.map (·.generation.value.toNat)
  | .port id => s.ports[id]?.map (·.generation.value.toNat)
  | .queue id => s.queues[id]?.map (·.generation.value.toNat)
  | .attachment id => s.attachments[id]?.map (·.generation.value.toNat)
  | .gpu id => s.gpus[id]?.map (·.generation.value.toNat)
  | .topology => s.topology.map (·.generation.value.toNat)

/-- The resource that a mutation advances. -/
def mutationAdvances : Mutation → Option ResourceRef
  | .advanceNicGeneration id => some (.nic id)
  | .advanceFunctionGeneration id => some (.function id)
  | .advanceQueueGeneration id => some (.queue id)
  | _ => none

def advances : Call → Option ResourceRef
  | .mutate _ mutation => mutationAdvances mutation
  | _ => none

/-- A successful advance of a resource. -/
def Advanced (event : RegistryEvent) (ref : ResourceRef) : Prop :=
  accepted event = true ∧ advances event.input = some ref

/-- The event advances nothing from the largest counter value. -/
def NoWrap (event : RegistryEvent) : Prop :=
  ∀ ref, Advanced event ref → generationOf event.pre ref ≠ some (2 ^ 64 - 1)

/-- Every resource of the first registry is in the second, at no smaller
generation. -/
def NotBelow (s t : NicRegistry) : Prop :=
  ∀ ref g, generationOf s ref = some g → ∃ g', generationOf t ref = some g' ∧ g ≤ g'

/-- The generation of every resource grows along a run, from any state of it to
any later one. -/
def NeverDecrease (s : NicRegistry) (calls : List Call) : Prop :=
  ∀ earlier later rest, calls = earlier ++ later ++ rest →
    NotBelow (s.after earlier) (s.after (earlier ++ later))

/-- Every successful advance of a run strictly increases the generation. -/
def AdvancesIncrease (s : NicRegistry) (calls : List Call) : Prop :=
  ∀ event ∈ s.history calls, ∀ ref, Advanced event ref →
    ∃ g g', generationOf event.pre ref = some g ∧ generationOf event.post ref = some g' ∧ g < g'

theorem generationOf_lt {s : NicRegistry} {ref : ResourceRef} {g : Nat}
    (stored : generationOf s ref = some g) : g < 2 ^ 64 := by
  cases ref <;>
    · obtain ⟨record, -, rfl⟩ := Option.map_eq_some_iff.mp stored
      exact UInt64.toNat_lt _

section
variable {s t : NicRegistry} {c : Call} {outcome : Except ResidencyError Reply}

/-- What one slot says about the generation of its resource. -/
theorem notBelow_slot {α : Type} {before after : Option α} {version : α → Nat}
    (grows : ∀ old, before = some old → ∃ new, after = some new ∧ version old ≤ version new) :
    ∀ g, before.map version = some g → ∃ g', after.map version = some g' ∧ g ≤ g' := by
  intro g stored
  obtain ⟨old, found, rfl⟩ := Option.map_eq_some_iff.mp stored
  obtain ⟨new, reached, grown⟩ := grows old found
  exact ⟨version new, by rw [reached, Option.map_some], grown⟩

theorem toNat_next {tag : Tag} (g : Generation tag) :
    g.next.value.toNat = (g.value.toNat + 1) % 2 ^ 64 := by
  rw [Generation.next_value, UInt64.toNat_add]
  rfl

theorem toNat_lt_next {tag : Tag} {g : Generation tag} (notLast : g.value.toNat ≠ 2 ^ 64 - 1) :
    g.value.toNat < g.next.value.toNat := by
  have bound := g.value.toNat_lt
  rw [toNat_next, Nat.mod_eq_of_lt (by omega)]
  omega

theorem toNat_le_next {tag : Tag} {g : Generation tag} (notLast : g.value.toNat ≠ 2 ^ 64 - 1) :
    g.value.toNat ≤ g.next.value.toNat := (toNat_lt_next notLast).le

/-! Under `NoWrap`, a record that an event advances is not at the largest value. -/

theorem noWrap_accepts (noWrap : NoWrap ⟨s, c, outcome, t⟩) {mutation : Mutation}
    {ref : ResourceRef} (advanced : Accepts ⟨s, c, outcome, t⟩ mutation)
    (named : mutationAdvances mutation = some ref) : generationOf s ref ≠ some (2 ^ 64 - 1) := by
  obtain ⟨auth, called, -, ok⟩ := advanced
  exact noWrap ref ⟨ok, by rw [called]; exact named⟩

theorem noWrap_nic (noWrap : NoWrap ⟨s, c, outcome, t⟩) {id : NicId} {old : NicRecord}
    (advanced : Accepts ⟨s, c, outcome, t⟩ (.advanceNicGeneration id))
    (stored : s.nics[id]? = some old) : old.generation.value.toNat ≠ 2 ^ 64 - 1 := by
  intro top
  refine noWrap_accepts noWrap advanced rfl ?_
  simp only [generationOf, stored, Option.map_some, top]

theorem noWrap_function (noWrap : NoWrap ⟨s, c, outcome, t⟩) {id : FunctionId}
    {old : FunctionRecord} (advanced : Accepts ⟨s, c, outcome, t⟩ (.advanceFunctionGeneration id))
    (stored : s.functions[id]? = some old) : old.generation.value.toNat ≠ 2 ^ 64 - 1 := by
  intro top
  refine noWrap_accepts noWrap advanced rfl ?_
  simp only [generationOf, stored, Option.map_some, top]

theorem noWrap_queue (noWrap : NoWrap ⟨s, c, outcome, t⟩) {id : QueueId} {old : QueueRecord}
    (advanced : Accepts ⟨s, c, outcome, t⟩ (.advanceQueueGeneration id))
    (stored : s.queues[id]? = some old) : old.generation.value.toNat ≠ 2 ^ 64 - 1 := by
  intro top
  refine noWrap_accepts noWrap advanced rfl ?_
  simp only [generationOf, stored, Option.map_some, top]

/-- One event lowers no generation, unless it wraps one. -/
theorem notBelow_transition (transition : Transition s c outcome t)
    (noWrap : NoWrap ⟨s, c, outcome, t⟩) : NotBelow s t := by
  intro ref
  cases ref with
  | nic id =>
    refine notBelow_slot ((nic_change transition id).le_version (·.generation.value.toNat)
      (fun _ _ newer => newer.le) ?_)
    intro old _ stored found
    obtain rfl | ⟨advanced, rfl⟩ := found
    · exact le_rfl
    · exact toNat_le_next (noWrap_nic noWrap advanced stored)
  | function id =>
    refine notBelow_slot ((function_change transition id).le_version (·.generation.value.toNat)
      (fun _ _ newer => newer.le) ?_)
    intro old _ stored found
    obtain rfl | ⟨epoch, rfl⟩ | ⟨advanced, rfl⟩ := found
    · exact le_rfl
    · exact le_rfl
    · exact toNat_le_next (noWrap_function noWrap advanced stored)
  | queue id =>
    refine notBelow_slot ((queue_change transition id).le_version (·.generation.value.toNat)
      (fun _ _ newer => newer.le) ?_)
    intro old _ stored found
    obtain rfl | ⟨advanced, rfl⟩ := found
    · exact le_rfl
    · exact toNat_le_next (noWrap_queue noWrap advanced stored)
  | port id =>
    exact notBelow_slot ((port_change transition id).le_version (·.generation.value.toNat)
      (fun _ _ newer => newer.le) (fun _ _ _ never => never.elim))
  | attachment id =>
    refine notBelow_slot ((attachment_change transition id).le_version (·.generation.value.toNat)
      (fun _ _ notOlder => not_lt.mp notOlder) ?_)
    intro old _ stored demoted
    cases demoted <;> exact le_rfl
  | gpu id =>
    exact notBelow_slot ((gpu_change transition id).le_version (·.generation.value.toNat)
      (fun _ _ notOlder => not_lt.mp notOlder) (fun _ _ _ never => never.elim))
  | topology =>
    exact notBelow_slot ((topology_change transition).le_version (·.generation.value.toNat)
      (fun _ _ notOlder => not_lt.mp notOlder) (fun _ _ _ never => never.elim))

/-- A successful advance is an increment modulo `2 ^ 64`. -/
theorem advanced_transition (transition : Transition s c outcome t) {ref : ResourceRef}
    (advanced : Advanced ⟨s, c, outcome, t⟩ ref) :
    ∃ g, generationOf s ref = some g ∧ generationOf t ref = some ((g + 1) % 2 ^ 64) := by
  obtain ⟨ok, named⟩ := advanced
  cases transition with
  | refused => cases ok
  | advancedNic auth id current old stored =>
    cases named
    refine ⟨old.generation.value.toNat, by simp [generationOf, stored], ?_⟩
    simp [generationOf, invalidateNicDependents, stored, NicRecord.advance]
  | advancedFunction auth id current old stored =>
    cases named
    refine ⟨old.generation.value.toNat, by simp [generationOf, stored], ?_⟩
    simp [generationOf, invalidateFunctionDependents, stored, FunctionRecord.advance]
  | advancedQueue auth id current old stored =>
    cases named
    refine ⟨old.generation.value.toNat, by simp [generationOf, stored], ?_⟩
    simp [generationOf, invalidateQueueDependents, stored, QueueRecord.advance]
  | _ => cases named

end

theorem NotBelow.trans {s t u : NicRegistry} (first : NotBelow s t) (second : NotBelow t u) :
    NotBelow s u := by
  intro ref g stored
  obtain ⟨g', reached, grown⟩ := first ref g stored
  obtain ⟨g'', final, grown'⟩ := second ref g' reached
  exact ⟨g'', final, grown.trans grown'⟩

theorem notBelow_run (s : NicRegistry) (calls : List Call)
    (met : ∀ event ∈ s.history calls, NoWrap event) : NotBelow s (s.after calls) :=
  relation_exec NotBelow (fun _ _ g stored => ⟨g, stored, le_rfl⟩) NotBelow.trans NoWrap
    (fun s c noWrap => notBelow_transition (at_transition s c) noWrap) s calls met

/-- Exactly the runs without a wrapping advance keep every generation from
decreasing and increase it with every advance. -/
theorem generations_monotone_iff (s : NicRegistry) (calls : List Call) :
    (NeverDecrease s calls ∧ AdvancesIncrease s calls) ↔
      ∀ event ∈ s.history calls, NoWrap event := by
  constructor
  · intro found event member ref advanced top
    obtain ⟨-, increase⟩ := found
    obtain ⟨g, g', before, after, greater⟩ := increase event member ref advanced
    rw [top, Option.some.injEq] at before
    have bound := generationOf_lt after
    omega
  · intro met
    refine ⟨?_, ?_⟩
    · intro earlier later rest split
      subst split
      rw [after_append]
      refine notBelow_run _ later (fun event member => met event ?_)
      simp only [events_append, List.mem_append, member, or_true, true_or]
    · intro event member ref advanced
      obtain ⟨before, input, after, -, rfl⟩ := (mem_events_iff step s calls event).mp member
      obtain ⟨g, stored, reached⟩ := advanced_transition (at_transition _ input) advanced
      have bound := generationOf_lt stored
      have notLast : g ≠ 2 ^ 64 - 1 := by
        intro same
        subst same
        exact met _ member ref advanced stored
      exact ⟨g, (g + 1) % 2 ^ 64, stored, reached, by omega⟩

theorem noWrap_of_no_advance (s : NicRegistry) (calls : List Call)
    (idle : ∀ c ∈ calls, (advances c).isNone = true) : ∀ event ∈ s.history calls, NoWrap event := by
  intro event member ref advanced
  obtain ⟨before, input, after, rfl, rfl⟩ := (mem_events_iff step s calls event).mp member
  have none := idle input (by simp)
  have named : advances input = some ref := advanced.2
  rw [Option.isNone_iff_eq_none.mp none] at named
  cases named

/-- A worker publishes a NIC at the largest generation and advances it. -/
def wrappingRun : List Call :=
  let auth : Authority := ⟨⟨1⟩, ⟨7⟩, ⟨1⟩⟩
  [.registerWorker ⟨7⟩ ⟨1⟩,
    .mutate auth (.registerNic { id := ⟨10⟩, generation := .last }),
    .mutate auth (.advanceNicGeneration ⟨10⟩)]

theorem wrappingRun_decreases :
    ¬NeverDecrease { epoch := ⟨1⟩ } wrappingRun ∧ ¬AdvancesIncrease { epoch := ⟨1⟩ } wrappingRun := by
  have before : generationOf (NicRegistry.after { epoch := ⟨1⟩ } (wrappingRun.take 2)) (.nic ⟨10⟩) =
      some (2 ^ 64 - 1) := by decide +kernel
  have wrapped : generationOf (NicRegistry.after { epoch := ⟨1⟩ } wrappingRun) (.nic ⟨10⟩) = some 0 := by
    decide +kernel
  constructor
  · intro never
    obtain ⟨g, reached, grown⟩ := never (wrappingRun.take 2) (wrappingRun.drop 2) [] rfl _ _ before
    rw [List.take_append_drop, wrapped] at reached
    cases reached
    omega
  · intro increase
    obtain ⟨g, g', -, reached, grown⟩ := increase
      (Event.at step (NicRegistry.after { epoch := ⟨1⟩ } (wrappingRun.take 2)) (wrappingRun[2]))
      (List.mem_of_getElem? (i := 2) rfl) (.nic ⟨10⟩) ⟨by decide +kernel, rfl⟩
    have reached : some 0 = some g' := wrapped.symm.trans reached
    cases reached
    omega

end NicResidency.Generations

import NicResidency.Contents
import NicResidency.References

/-!
The generations that publications carry, and what a run keeps in which no generation is
advanced.
-/

namespace NicResidency.CarriedGenerations
open StateMachine VersionedSlot NicRegistry Generations Contents References

/-- The resource that a publication names, with the generation it carries. -/
def carries : Call → Option (ResourceRef × Nat)
  | .mutate _ (.registerNic rec) => some (.nic rec.id, rec.generation.value.toNat)
  | .mutate _ (.registerFunction rec) => some (.function rec.id, rec.generation.value.toNat)
  | .mutate _ (.registerPort rec) => some (.port rec.id, rec.generation.value.toNat)
  | .mutate _ (.registerQueue rec) => some (.queue rec.id, rec.generation.value.toNat)
  | .mutate _ (.registerAttachment att) => some (.attachment att.id, att.generation.value.toNat)
  | .mutate _ (.registerGpu rec) => some (.gpu rec.id, rec.generation.value.toNat)
  | .mutate _ (.setTopology top) => some (.topology, top.generation.value.toNat)
  | _ => none

section
variable {s t : NicRegistry} {c : Call} {outcome : Except ResidencyError Reply} {reply : Reply}
  {ref : ResourceRef} {g : Nat}

/-- An accepted publication leaves its generation, and does not lower the stored one. -/
theorem generationOf_published (transition : Transition s c (.ok reply) t)
    (carried : carries c = some (ref, g)) :
    generationOf t ref = some g ∧ ∀ old, generationOf s ref = some old → old ≤ g := by
  cases transition with
  | duplicateNic _ _ _ _ _ _ stored level | duplicateFunction _ _ _ _ _ _ _ _ stored level
  | duplicatePort _ _ _ _ _ _ _ _ _ stored level
  | duplicateQueue _ _ _ _ _ _ _ _ _ _ stored level =>
    cases carried
    simp [generationOf, notePublisher, stored, level]
  | wroteNic _ _ _ _ _ newer | wroteFunction _ _ _ _ _ _ _ newer
  | wrotePort _ _ _ _ _ _ _ _ newer | wroteQueue _ _ _ _ _ _ _ _ _ newer =>
    cases carried
    refine ⟨by simp [generationOf], ?_⟩
    intro old known
    obtain ⟨record, stored, rfl⟩ := Option.map_eq_some_iff.mp known
    exact (newer record stored).le
  | wroteAttachment _ _ _ _ _ _ _ _ _ _ notOlder | wroteGpu _ _ _ _ _ notOlder
  | setTopology _ _ _ notOlder =>
    cases carried
    refine ⟨by simp [generationOf, invalidateTopologyDependents], ?_⟩
    intro old known
    obtain ⟨record, stored, rfl⟩ := Option.map_eq_some_iff.mp known
    exact not_lt.mp (notOlder record stored)
  | _ => cases carried

/-- A slot that no advance touches and that is written at its generation keeps it. -/
theorem generation_kept_slot {α : Type} {before after : Option α} {wrote : α → Prop}
    {supersedes touched : α → α → Prop} {version : α → Nat}
    (change : Change wrote supersedes touched before after)
    (touching : ∀ old new, touched old new → version new = version old)
    (writing : ∀ new, wrote new → version new = g) (stored : before.map version = some g) :
    after.map version = some g := by
  rcases change.view_cases version touching with kept | ⟨new, written, reached⟩
  · exact kept.trans stored
  · rw [reached, Option.map_some, writing new written]

theorem generationOf_kept (transition : Transition s c outcome t) (idle : advances c = none)
    (agrees : ∀ g', carries c = some (ref, g') → g' = g) (stored : generationOf s ref = some g) :
    generationOf t ref = some g := by
  have still {m : Mutation} {ref : ResourceRef} (accepts : Accepts ⟨s, c, outcome, t⟩ m)
      (named : mutationAdvances m = some ref) : False := by
    obtain ⟨auth, called, -⟩ := accepts
    obtain rfl : c = .mutate auth m := called
    exact nomatch named.symm.trans idle
  cases ref with
  | nic id =>
    refine generation_kept_slot (nic_change transition id) ?_ ?_ stored
    · intro old new found
      obtain rfl | ⟨advanced, -⟩ := found
      · rfl
      · exact (still advanced rfl).elim
    · intro new wrote
      obtain ⟨rec, ⟨auth, rfl, -⟩, rfl, rfl⟩ := wrote
      exact agrees _ rfl
  | function id =>
    refine generation_kept_slot (function_change transition id) ?_ ?_ stored
    · intro old new found
      obtain rfl | ⟨epoch, rfl⟩ | ⟨advanced, -⟩ := found
      · rfl
      · rfl
      · exact (still advanced rfl).elim
    · intro new wrote
      obtain ⟨⟨auth, rfl, -⟩, rfl⟩ := wrote
      exact agrees _ rfl
  | queue id =>
    refine generation_kept_slot (queue_change transition id) ?_ ?_ stored
    · intro old new found
      obtain rfl | ⟨advanced, -⟩ := found
      · rfl
      · exact (still advanced rfl).elim
    · intro new wrote
      obtain ⟨⟨auth, rfl, -⟩, rfl⟩ := wrote
      exact agrees _ rfl
  | port id =>
    refine generation_kept_slot (port_change transition id) (fun _ _ never => never.elim) ?_ stored
    intro new wrote
    obtain ⟨⟨auth, rfl, -⟩, rfl⟩ := wrote
    exact agrees _ rfl
  | attachment id =>
    refine generation_kept_slot (attachment_change transition id) ?_ ?_ stored
    · intro old new demoted
      cases demoted <;> rfl
    · intro new wrote
      obtain ⟨⟨auth, rfl, -⟩, rfl⟩ := wrote
      exact agrees _ rfl
  | gpu id =>
    refine generation_kept_slot (gpu_change transition id) (fun _ _ never => never.elim) ?_ stored
    intro new wrote
    obtain ⟨⟨auth, rfl, -⟩, rfl⟩ := wrote
    exact agrees _ rfl
  | topology =>
    refine generation_kept_slot (topology_change transition) (fun _ _ never => never.elim) ?_ stored
    intro new wrote
    obtain ⟨auth, rfl, -⟩ := wrote
    exact agrees _ rfl

end

/-! What a run without advances keeps. -/

section
variable {s : NicRegistry} {calls : List Call}

theorem kept_after (s : NicRegistry) (calls : List Call) : Kept s (s.after calls) :=
  relation_exec Kept (fun _ => ⟨fun _ => id, fun _ => id, fun _ => id, fun _ => id⟩)
    (fun first second => ⟨fun id => second.nics id ∘ first.nics id,
      fun id => second.functions id ∘ first.functions id, fun id => second.ports id ∘ first.ports id,
      fun id => second.queues id ∘ first.queues id⟩)
    (fun _ => True) (fun s c _ => kept (at_transition s c)) s calls (fun _ _ => trivial)

theorem noWrap_of_idle (s : NicRegistry) (idle : ∀ c ∈ calls, advances c = none) :
    ∀ event ∈ s.history calls, NoWrap event :=
  noWrap_of_no_advance s calls fun c member => by rw [idle c member]; rfl

theorem settled_after (idle : ∀ c ∈ calls, advances c = none) : ContentSettled s (s.after calls) :=
  relation_exec ContentSettled ContentSettled.refl ContentSettled.trans NoWrap
    (fun s c noWrap => contentSettled_transition (at_transition s c) noWrap) s calls
    (noWrap_of_idle s idle)

theorem notBelow_after (idle : ∀ c ∈ calls, advances c = none) : NotBelow s (s.after calls) :=
  notBelow_run s calls (noWrap_of_idle s idle)

theorem generation_after {ref : ResourceRef} {g : Nat} (idle : ∀ c ∈ calls, advances c = none)
    (agrees : ∀ c ∈ calls, ∀ g', carries c = some (ref, g') → g' = g)
    (stored : generationOf s ref = some g) : generationOf (s.after calls) ref = some g := by
  induction calls generalizing s with
  | nil => exact stored
  | cons c rest ih =>
    rw [List.forall_mem_cons] at idle agrees
    exact ih idle.2 agrees.2 (generationOf_kept (at_transition s c) idle.1 agrees.1 stored)

/-- A view of the registry that no call of the run changes. -/
theorem view_after {β : Type} (view : NicRegistry → β)
    (kept : ∀ c ∈ calls, ∀ s, view (s.step c).2 = view s) (s : NicRegistry) :
    view (s.after calls) = view s := by
  induction calls generalizing s with
  | nil => rfl
  | cons c rest ih =>
    rw [List.forall_mem_cons] at kept
    exact (ih kept.2 _).trans (kept.1 s)

end

/-- A record that is stored at the generation of a publication still is what it was. -/
theorem stored_since {α β : Type} {tag : Tag} (generation : α → Generation tag) {content : α → β}
    {before after : Option α} {rec old : α}
    (settled : Settled (fun r => (generation r).value.toNat) content before after)
    (stored : before = some old) (level : generation rec = generation old)
    (reached : after.map (fun r => (generation r).value.toNat) = some (generation rec).value.toNat) :
    ∃ new, after = some new ∧ generation rec = generation new ∧ content old = content new := by
  obtain ⟨new, held, same⟩ := Option.map_eq_some_iff.mp reached
  have known := settled.content_eq stored held (by rw [same, level])
  exact ⟨new, held, Generation.value_injective same.symm, known⟩

end NicResidency.CarriedGenerations

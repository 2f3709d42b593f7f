import NicResidency.Generations

/-!
Once a NIC, a function or a queue requires revalidation, only a registration at a
strictly greater generation by a current incarnation makes it current again.
-/

namespace NicResidency.Revalidation
open StateMachine VersionedSlot NicRegistry Generations

/-- A resource with a generation and a lifecycle of its own. -/
inductive LifecycleRef where
  | nic (id : NicId)
  | function (id : FunctionId)
  | queue (id : QueueId)

/-- The stored generation and lifecycle of a resource. -/
def status (s : NicRegistry) : LifecycleRef → Option (Nat × LifecycleState)
  | .nic id => s.nics[id]?.map fun n => (n.generation.value.toNat, n.lifecycle)
  | .function id => s.functions[id]?.map fun f => (f.generation.value.toNat, f.lifecycle)
  | .queue id => s.queues[id]?.map fun q => (q.generation.value.toNat, q.lifecycle)

/-- A register call for the resource was accepted at this generation, authorised
by the epoch and the boot id current at that time. -/
def Registers (event : RegistryEvent) (generation : Nat) : LifecycleRef → Prop
  | .nic id => ∃ rec, Accepts event (.registerNic rec) ∧ rec.id = id ∧
      rec.generation.value.toNat = generation
  | .function id => ∃ rec, Accepts event (.registerFunction rec) ∧ rec.id = id ∧
      rec.generation.value.toNat = generation
  | .queue id => ∃ rec, Accepts event (.registerQueue rec) ∧ rec.id = id ∧
      rec.generation.value.toNat = generation

/-- A slot requires revalidation at this generation or a greater one. -/
def FlaggedSlot (g : Nat) (slot : Option (Nat × LifecycleState)) : Prop :=
  ∃ generation, slot = some (generation, .revalidationRequired) ∧ g ≤ generation

def Flagged (g : Nat) (ref : LifecycleRef) (s : NicRegistry) : Prop := FlaggedSlot g (status s ref)

section
variable {α : Type} {before after : Option α} {wrote : α → Prop} {supersedes touched : α → α → Prop}

/-- The flag of one slot survives every move but a write of greater generation. -/
theorem flagged_slot (version : α → Nat) (lifecycle : α → LifecycleState) {g : Nat}
    (change : Change wrote supersedes touched before after)
    (newer : ∀ old new, supersedes old new → version old < version new)
    (touching : ∀ old new, before = some old → touched old new →
      lifecycle old = .revalidationRequired →
      lifecycle new = .revalidationRequired ∧ version old ≤ version new)
    (flagged : FlaggedSlot g (before.map fun r => (version r, lifecycle r))) :
    FlaggedSlot g (after.map fun r => (version r, lifecycle r)) ∨
      ∃ new, wrote new ∧ g < version new := by
  obtain ⟨generation, stored, bound⟩ := flagged
  obtain ⟨old, found, same⟩ := Option.map_eq_some_iff.mp stored
  obtain ⟨rfl, required⟩ := Prod.mk.inj same
  obtain ⟨new, reached, marked | ⟨asked, greater⟩⟩ :=
    change.mark_kept (fun r => lifecycle r = .revalidationRequired ∧ g ≤ version r)
      (fun old new held inPlace marked =>
        have ⟨still, grown⟩ := touching old new held inPlace marked.1
        ⟨still, marked.2.trans grown⟩)
      old found ⟨required, bound⟩
  · exact .inl ⟨version new, by rw [reached, Option.map_some, marked.1], marked.2⟩
  · exact .inr ⟨new, asked, bound.trans_lt (newer old new greater)⟩

end

/-- One event keeps the flag, or is a registration of greater generation. -/
theorem flagged_transition {s t : NicRegistry} {c : Call} {outcome : Except ResidencyError Reply}
    (transition : Transition s c outcome t) (noWrap : NoWrap ⟨s, c, outcome, t⟩) {g : Nat}
    {ref : LifecycleRef} (flagged : Flagged g ref s) :
    Flagged g ref t ∨ ∃ newer, Registers ⟨s, c, outcome, t⟩ newer ref ∧ g < newer := by
  cases ref with
  | nic id =>
    have moved := flagged_slot (fun n : NicRecord => n.generation.value.toNat) (·.lifecycle)
      (nic_change transition id) (fun _ _ newer => newer) (by
        intro old _ stored found required
        obtain rfl | ⟨advanced, rfl⟩ := found
        · exact ⟨rfl, le_rfl⟩
        · exact ⟨required, toNat_le_next (noWrap_nic noWrap advanced stored)⟩) flagged
    rcases moved with still | ⟨_, ⟨rec, accepts, same, rfl⟩, greater⟩
    · exact .inl still
    · exact .inr ⟨_, ⟨rec, accepts, same, rfl⟩, greater⟩
  | function id =>
    have moved := flagged_slot (fun f : FunctionRecord => f.generation.value.toNat) (·.lifecycle)
      (function_change transition id) (fun _ _ newer => newer) (by
        intro old _ stored found required
        obtain rfl | ⟨epoch, rfl⟩ | ⟨advanced, rfl⟩ := found
        · exact ⟨rfl, le_rfl⟩
        · exact ⟨required, le_rfl⟩
        · exact ⟨required, toNat_le_next (noWrap_function noWrap advanced stored)⟩) flagged
    rcases moved with still | ⟨rec, ⟨accepts, same⟩, greater⟩
    · exact .inl still
    · exact .inr ⟨_, ⟨rec, accepts, same, rfl⟩, greater⟩
  | queue id =>
    have moved := flagged_slot (fun q : QueueRecord => q.generation.value.toNat) (·.lifecycle)
      (queue_change transition id) (fun _ _ newer => newer) (by
        intro old _ stored found required
        obtain rfl | ⟨advanced, rfl⟩ := found
        · exact ⟨rfl, le_rfl⟩
        · exact ⟨required, toNat_le_next (noWrap_queue noWrap advanced stored)⟩) flagged
    rcases moved with still | ⟨rec, ⟨accepts, same⟩, greater⟩
    · exact .inl still
    · exact .inr ⟨_, ⟨rec, accepts, same, rfl⟩, greater⟩

/-- Between a state in which a resource requires revalidation and a later state
in which it does not, a registration of strictly greater generation was accepted. -/
theorem cleared_by_newer_registration (s : NicRegistry) (earlier later rest : List Call)
    (met : ∀ event ∈ s.history (earlier ++ later ++ rest), NoWrap event)
    (ref : LifecycleRef) (g g' : Nat) (lifecycle : LifecycleState)
    (flagged : status (s.after earlier) ref = some (g, .revalidationRequired))
    (reached : status (s.after (earlier ++ later)) ref = some (g', lifecycle))
    (different : lifecycle ≠ .revalidationRequired) :
    ∃ event ∈ (s.after earlier).history later, ∃ newer, Registers event newer ref ∧ g < newer := by
  have between : ∀ event ∈ (s.after earlier).history later, NoWrap event := by
    intro event member
    refine met event ?_
    simp only [events_append, List.mem_append, member, or_true, true_or]
  rcases latch (Flagged g ref) NoWrap (fun event => ∃ newer, Registers event newer ref ∧ g < newer)
    (fun s c held noWrap => flagged_transition (at_transition s c) noWrap held)
    ⟨g, flagged, le_rfl⟩ later between with ⟨generation, still, -⟩ | released
  · rw [← exec_append, reached] at still
    cases still
    exact absurd rfl different
  · exact released

/-- A NIC is published, its worker dies, and the next incarnation publishes it
again at the next generation. -/
def republishedRun : List Call :=
  let nic (generation : UInt64) : NicRecord :=
    { id := ⟨10⟩, generation := ⟨generation⟩, lifecycle := .available }
  [.registerWorker ⟨7⟩ ⟨1⟩,
    .mutate ⟨⟨1⟩, ⟨7⟩, ⟨1⟩⟩ (.registerNic (nic 1)),
    .workerRetired ⟨7⟩ ⟨1⟩,
    .registerWorker ⟨7⟩ ⟨2⟩,
    .mutate ⟨⟨1⟩, ⟨7⟩, ⟨2⟩⟩ (.registerNic (nic 2))]

theorem republishedRun_cleared :
    ∃ event ∈ (NicRegistry.after { epoch := ⟨1⟩ } (republishedRun.take 3)).history
        (republishedRun.drop 3),
      ∃ newer, Registers event newer (.nic ⟨10⟩) ∧ 1 < newer :=
  cleared_by_newer_registration { epoch := ⟨1⟩ } (republishedRun.take 3) (republishedRun.drop 3) []
    (noWrap_of_no_advance _ _ (by decide)) (.nic ⟨10⟩) 1 2 .available
    (by decide +kernel) (by decide +kernel) (by decide)

end NicResidency.Revalidation

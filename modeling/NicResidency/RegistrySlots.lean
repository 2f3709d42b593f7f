import NicResidency.RegistryRuns

/-!
What one call can do to one stored record. Each kind of record has its own
writes and its own in-place changes; every law about a stored record follows
from the move of its slot and not from the call.
-/

namespace NicResidency
open StateMachine VersionedSlot NicRegistry

/-- The call of an event is this mutation, made by a current authority and
accepted. -/
def Accepts (event : RegistryEvent) (mutation : Mutation) : Prop :=
  ∃ auth, event.input = .mutate auth mutation ∧ event.pre.Authorised auth ∧ accepted event = true

def NicChange (event : RegistryEvent) (id : NicId) : Prop :=
  Change
    (fun new => ∃ rec, Accepts event (.registerNic rec) ∧ rec.id = id ∧
      new = { rec with freshness := 0 })
    (fun old new => old.generation < new.generation)
    (fun old new => new = old.requireRevalidation ∨
      Accepts event (.advanceNicGeneration id) ∧ new = old.advance)
    event.pre.nics[id]? event.post.nics[id]?

def FunctionChange (event : RegistryEvent) (id : FunctionId) : Prop :=
  Change
    (fun new => Accepts event (.registerFunction new) ∧ new.id = id)
    (fun old new => old.generation < new.generation)
    (fun old new => new = old.requireRevalidation ∨ (∃ epoch, new = old.disown epoch) ∨
      Accepts event (.advanceFunctionGeneration id) ∧ new = old.advance)
    event.pre.functions[id]? event.post.functions[id]?

def PortChange (event : RegistryEvent) (id : PortId) : Prop :=
  Change
    (fun new => Accepts event (.registerPort new) ∧ new.id = id)
    (fun old new => old.generation < new.generation)
    (fun _ _ => False)
    event.pre.ports[id]? event.post.ports[id]?

def QueueChange (event : RegistryEvent) (id : QueueId) : Prop :=
  Change
    (fun new => Accepts event (.registerQueue new) ∧ new.id = id)
    (fun old new => old.generation < new.generation)
    (fun old new => new = old.requireRevalidation ∨
      Accepts event (.advanceQueueGeneration id) ∧ new = old.advance)
    event.pre.queues[id]? event.post.queues[id]?

/-- The in-place changes of an attachment. -/
inductive Attachment.Demoted (old : Attachment) : Attachment → Prop where
  | markStale : Demoted old old.markStale
  | disown : Demoted old old.disown
  | restart (epoch : CoordinatorEpoch) : Demoted old { old.disown with epoch := epoch }
  | revoke : Demoted old old.revoke

def AttachmentChange (event : RegistryEvent) (id : AttachmentId) : Prop :=
  Change
    (fun new => Accepts event (.registerAttachment new) ∧ new.id = id)
    (fun old new => ¬new.generation < old.generation)
    Attachment.Demoted
    event.pre.attachments[id]? event.post.attachments[id]?

def GpuChange (event : RegistryEvent) (id : GpuId) : Prop :=
  Change
    (fun new => Accepts event (.registerGpu new) ∧ new.id = id)
    (fun old new => ¬new.generation < old.generation)
    (fun _ _ => False)
    event.pre.gpus[id]? event.post.gpus[id]?

def TopologyChange (event : RegistryEvent) : Prop :=
  Change
    (fun new => Accepts event (.setTopology new))
    (fun old new => ¬new.generation < old.generation)
    (fun _ _ => False)
    event.pre.topology event.post.topology

/-- The in-place changes of a residency record. -/
inductive ResidencyRecord.Demoted (old : ResidencyRecord) : ResidencyRecord → Prop where
  | requireRevalidation : Demoted old old.requireRevalidation
  | disown : Demoted old old.disown
  | restart (epoch : CoordinatorEpoch) : Demoted old { old.disown with epoch := epoch }
  | retire : Demoted old old.retire

/-- The residency records form a log: a position is filled once and its record is
then only demoted. -/
def ResidencyChange (event : RegistryEvent) (position : Nat) : Prop :=
  Change
    (fun new => Accepts event (.publishResidency new) ∧
      position = event.pre.residencies.length ∧
      ∀ r ∈ event.pre.residencies, r.id = new.id → ¬new.generation < r.generation)
    (fun _ _ => False)
    ResidencyRecord.Demoted
    event.pre.residencies[position]? event.post.residencies[position]?

section
variable {s t : NicRegistry} {c : Call} {outcome : Except ResidencyError Reply}

theorem nic_change (transition : Transition s c outcome t) (id : NicId) :
    NicChange ⟨s, c, outcome, t⟩ id := by
  cases transition with
  | wroteNic auth rec current _ _ newer _ =>
    exact Change.insert s.nics rec.id id _
      (fun same => ⟨rec, ⟨auth, rfl, current, rfl⟩, same, rfl⟩) newer
  | advancedNic auth other current =>
    refine Change.modify s.nics other id _ (fun same _ _ => .inr ⟨?_, rfl⟩)
    exact ⟨auth, by rw [same], current, rfl⟩
  | retiredWorker =>
    refine Change.map s.nics id _ (fun old _ => ?_)
    split
    · exact .inr (.inl rfl)
    · exact .inl rfl
  | _ => exact .kept _

theorem function_change (transition : Transition s c outcome t) (id : FunctionId) :
    FunctionChange ⟨s, c, outcome, t⟩ id := by
  cases transition with
  | wroteFunction auth rec current _ _ _ _ newer _ =>
    exact Change.insert s.functions rec.id id _ (fun same => ⟨⟨auth, rfl, current, rfl⟩, same⟩) newer
  | advancedFunction auth other current =>
    refine Change.modify s.functions other id _ (fun same _ _ => .inr (.inr ⟨?_, rfl⟩))
    exact ⟨auth, by rw [same], current, rfl⟩
  | advancedNic =>
    refine Change.map s.functions id _ (fun old _ => ?_)
    split
    · exact .inr (.inl rfl)
    · exact .inl rfl
  | restarted newEpoch =>
    exact Change.map s.functions id _ (fun old _ => .inr (.inr (.inl ⟨newEpoch, rfl⟩)))
  | _ => exact .kept _

theorem port_change (transition : Transition s c outcome t) (id : PortId) :
    PortChange ⟨s, c, outcome, t⟩ id := by
  cases transition with
  | wrotePort auth rec current _ _ _ _ _ newer _ =>
    exact Change.insert s.ports rec.id id _ (fun same => ⟨⟨auth, rfl, current, rfl⟩, same⟩) newer
  | _ => exact .kept _

theorem queue_change (transition : Transition s c outcome t) (id : QueueId) :
    QueueChange ⟨s, c, outcome, t⟩ id := by
  cases transition with
  | wroteQueue auth rec current _ _ _ _ _ _ newer _ =>
    exact Change.insert s.queues rec.id id _ (fun same => ⟨⟨auth, rfl, current, rfl⟩, same⟩) newer
  | advancedQueue auth other current =>
    refine Change.modify s.queues other id _ (fun same _ _ => .inr ⟨?_, rfl⟩)
    exact ⟨auth, by rw [same], current, rfl⟩
  | advancedNic | advancedFunction =>
    refine Change.map s.queues id _ (fun old _ => ?_)
    split
    · exact .inr (.inl rfl)
    · exact .inl rfl
  | _ => exact .kept _

theorem attachment_change (transition : Transition s c outcome t) (id : AttachmentId) :
    AttachmentChange ⟨s, c, outcome, t⟩ id := by
  cases transition with
  | wroteAttachment auth att current _ _ _ _ _ _ _ notOlder _ =>
    exact Change.insert s.attachments att.id id _ (fun same => ⟨⟨auth, rfl, current, rfl⟩, same⟩)
      notOlder
  | retiredAttachment auth other =>
    exact Change.modify s.attachments other id _ (fun _ _ _ => .revoke)
  | advancedNic | advancedFunction =>
    refine Change.map s.attachments id _ (fun old _ => ?_)
    split
    · exact .inr .markStale
    · exact .inl rfl
  | setTopology =>
    exact Change.map s.attachments id _ (fun _ _ => .inr .markStale)
  | retiredWorker =>
    refine Change.map s.attachments id _ (fun old _ => ?_)
    split
    · exact .inr .disown
    · exact .inl rfl
  | restarted newEpoch =>
    exact Change.map s.attachments id _ (fun _ _ => .inr (.restart newEpoch))
  | _ => exact .kept _

theorem gpu_change (transition : Transition s c outcome t) (id : GpuId) :
    GpuChange ⟨s, c, outcome, t⟩ id := by
  cases transition with
  | wroteGpu auth rec current _ _ notOlder _ =>
    exact Change.insert s.gpus rec.id id _ (fun same => ⟨⟨auth, rfl, current, rfl⟩, same⟩) notOlder
  | _ => exact .kept _

theorem topology_change (transition : Transition s c outcome t) :
    TopologyChange ⟨s, c, outcome, t⟩ := by
  cases transition with
  | setTopology auth top current notOlder =>
    exact Change.write s.topology top ⟨auth, rfl, current, rfl⟩ notOlder
  | _ => exact .kept _

theorem residency_change (transition : Transition s c outcome t) (position : Nat) :
    ResidencyChange ⟨s, c, outcome, t⟩ position := by
  cases transition with
  | wroteResidency auth rec current _ _ _ _ _ _ _ notOlder =>
    exact Change.append s.residencies rec position
      (fun last => ⟨⟨auth, rfl, current, rfl⟩, last, notOlder⟩)
  | retiredResidency auth id current i =>
    exact Change.listModify s.residencies position i _ (fun _ _ _ => .retire)
  | advancedNic | advancedFunction | advancedQueue =>
    refine Change.listMap s.residencies position _ (fun old _ => ?_)
    split
    · exact .inr .requireRevalidation
    · exact .inl rfl
  | setTopology =>
    exact Change.listMap s.residencies position _ (fun _ _ => .inr .requireRevalidation)
  | retiredWorker =>
    refine Change.listMap s.residencies position _ (fun old _ => ?_)
    split
    · exact .inr .disown
    · exact .inl rfl
  | restarted newEpoch =>
    exact Change.listMap s.residencies position _ (fun _ _ => .inr (.restart newEpoch))
  | _ => exact .kept _

end

end NicResidency

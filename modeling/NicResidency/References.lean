import NicResidency.RegistrySlots

/-!
Referential integrity. Every reference in a stored record names a stored record,
and every record is stored under its own id, in every reachable registry.
-/

namespace NicResidency.References
open StateMachine VersionedSlot NicRegistry

/-- The links of an attachment or a residency record lead to stored records. -/
def Links (s : NicRegistry) (nic : NicId) (function : FunctionId) (port : PortId)
    (queue : QueueId) : Prop :=
  nic ∈ s.nics ∧ Optional function (· ∈ s.functions) ∧ Optional port (· ∈ s.ports) ∧
    Optional queue (· ∈ s.queues)

def FunctionLinks (s : NicRegistry) (f : FunctionRecord) : Prop := f.parentNic ∈ s.nics

def PortLinks (s : NicRegistry) (p : PortRecord) : Prop :=
  p.parentNic ∈ s.nics ∧ Optional p.parentFunction (· ∈ s.functions)

def QueueLinks (s : NicRegistry) (q : QueueRecord) : Prop :=
  q.parentFunction ∈ s.functions ∧ q.parentNic ∈ s.nics

def AttachmentLinks (s : NicRegistry) (a : Attachment) : Prop :=
  Links s a.nic a.function a.port a.queue

def ResidencyLinks (s : NicRegistry) (r : ResidencyRecord) : Prop :=
  Links s r.nic r.function r.port r.queue

structure ReferenceClosed (s : NicRegistry) : Prop where
  nics : ∀ (id : NicId) (n : NicRecord), s.nics[id]? = some n → n.id = id
  functions : ∀ (id : FunctionId) (f : FunctionRecord), s.functions[id]? = some f → f.id = id ∧ FunctionLinks s f
  ports : ∀ (id : PortId) (p : PortRecord), s.ports[id]? = some p → p.id = id ∧ PortLinks s p
  queues : ∀ (id : QueueId) (q : QueueRecord), s.queues[id]? = some q → q.id = id ∧ QueueLinks s q
  attachments : ∀ (id : AttachmentId) (a : Attachment), s.attachments[id]? = some a → a.id = id ∧ AttachmentLinks s a
  gpus : ∀ (id : GpuId) (g : GpuRecord), s.gpus[id]? = some g → g.id = id
  residencies : ∀ r ∈ s.residencies, ResidencyLinks s r

/-! Nothing that a reference names is ever removed. -/

/-- The stored ids of one registry are stored in the other. -/
structure Kept (s t : NicRegistry) : Prop where
  nics : ∀ id ∈ s.nics, id ∈ t.nics
  functions : ∀ id ∈ s.functions, id ∈ t.functions
  ports : ∀ id ∈ s.ports, id ∈ t.ports
  queues : ∀ id ∈ s.queues, id ∈ t.queues

section
variable {s t : NicRegistry} {c : Call} {outcome : Except ResidencyError Reply}

theorem kept (transition : Transition s c outcome t) : Kept s t where
  nics id := by
    simpa only [Std.ExtTreeMap.mem_iff_isSome_getElem?] using (nic_change transition id).isSome
  functions id := by
    simpa only [Std.ExtTreeMap.mem_iff_isSome_getElem?] using (function_change transition id).isSome
  ports id := by
    simpa only [Std.ExtTreeMap.mem_iff_isSome_getElem?] using (port_change transition id).isSome
  queues id := by
    simpa only [Std.ExtTreeMap.mem_iff_isSome_getElem?] using (queue_change transition id).isSome

theorem Optional.imp {tag : Tag} {id : Id tag} {Registered Registered' : Id tag → Prop}
    (linked : Optional id Registered) (weaken : Registered id → Registered' id) :
    Optional id Registered' := fun valid => weaken (linked valid)

variable {nic : NicId} {function : FunctionId} {port : PortId} {queue : QueueId}

theorem Links.mono (kept : Kept s t) (links : Links s nic function port queue) :
    Links t nic function port queue :=
  ⟨kept.nics _ links.1, Optional.imp links.2.1 (kept.functions _),
    Optional.imp links.2.2.1 (kept.ports _), Optional.imp links.2.2.2 (kept.queues _)⟩

theorem PortLinks.mono (kept : Kept s t) {p : PortRecord} (links : PortLinks s p) :
    PortLinks t p :=
  ⟨kept.nics _ links.1, Optional.imp links.2 (kept.functions _)⟩

theorem QueueLinks.mono (kept : Kept s t) {q : QueueRecord} (links : QueueLinks s q) :
    QueueLinks t q :=
  ⟨kept.functions _ links.1, kept.nics _ links.2⟩

/-! An accepted publication has passed the checks of its links. -/

theorem accepted_function (transition : Transition s c outcome t) {f : FunctionRecord}
    (accepts : Accepts ⟨s, c, outcome, t⟩ (.registerFunction f)) : FunctionLinks s f := by
  obtain ⟨auth, rfl, -, ok⟩ := accepts
  cases transition with
  | refused => cases ok
  | duplicateFunction _ _ _ _ _ _ parentKnown => exact parentKnown
  | wroteFunction _ _ _ _ _ parentKnown => exact parentKnown

theorem accepted_port (transition : Transition s c outcome t) {p : PortRecord}
    (accepts : Accepts ⟨s, c, outcome, t⟩ (.registerPort p)) : PortLinks s p := by
  obtain ⟨auth, rfl, -, ok⟩ := accepts
  cases transition with
  | refused => cases ok
  | duplicatePort _ _ _ _ _ _ parentKnown functionKnown => exact ⟨parentKnown, functionKnown⟩
  | wrotePort _ _ _ _ _ parentKnown functionKnown => exact ⟨parentKnown, functionKnown⟩

theorem accepted_queue (transition : Transition s c outcome t) {q : QueueRecord}
    (accepts : Accepts ⟨s, c, outcome, t⟩ (.registerQueue q)) : QueueLinks s q := by
  obtain ⟨auth, rfl, -, ok⟩ := accepts
  cases transition with
  | refused => cases ok
  | duplicateQueue _ _ _ _ _ _ _ functionKnown parentKnown => exact ⟨functionKnown, parentKnown⟩
  | wroteQueue _ _ _ _ _ _ functionKnown parentKnown => exact ⟨functionKnown, parentKnown⟩

theorem accepted_attachment (transition : Transition s c outcome t) {a : Attachment}
    (accepts : Accepts ⟨s, c, outcome, t⟩ (.registerAttachment a)) : AttachmentLinks s a := by
  obtain ⟨auth, rfl, -, ok⟩ := accepts
  cases transition with
  | refused => cases ok
  | wroteAttachment _ _ _ _ _ nicKnown functionKnown portKnown queueKnown =>
    exact ⟨nicKnown, functionKnown, portKnown, queueKnown⟩

theorem accepted_residency (transition : Transition s c outcome t) {r : ResidencyRecord}
    (accepts : Accepts ⟨s, c, outcome, t⟩ (.publishResidency r)) : ResidencyLinks s r := by
  obtain ⟨auth, rfl, -, ok⟩ := accepts
  cases transition with
  | refused => cases ok
  | wroteResidency _ _ _ _ _ nicKnown functionKnown portKnown queueKnown =>
    exact ⟨nicKnown, functionKnown, portKnown, queueKnown⟩

/-! In-place changes leave the id and the links of a record as they are. -/

theorem Attachment.Demoted.id {old new : Attachment} (demoted : old.Demoted new) :
    new.id = old.id := by
  cases demoted <;> rfl

theorem Attachment.Demoted.links {old new : Attachment} (demoted : old.Demoted new)
    (links : AttachmentLinks s old) : AttachmentLinks s new := by
  cases demoted <;> exact links

theorem ResidencyRecord.Demoted.links {old new : ResidencyRecord} (demoted : old.Demoted new)
    (links : ResidencyLinks s old) : ResidencyLinks s new := by
  cases demoted <;> exact links

/-- Every operation, accepted or refused, keeps the registry closed under
references. -/
theorem referenceClosed_transition (transition : Transition s c outcome t)
    (closed : ReferenceClosed s) : ReferenceClosed t where
  nics id := by
    refine (nic_change transition id).holds_after (fun n => n.id = id) (closed.nics id) ?_ ?_
    · intro _ found
      obtain ⟨rec, -, same, rfl⟩ := found
      exact same
    · intro old _ change same
      rcases change with rfl | ⟨-, rfl⟩ <;> exact same
  functions id := by
    refine (function_change transition id).holds_after (fun f => f.id = id ∧ FunctionLinks t f)
      (fun f stored => ?_) (fun f wrote => ?_) ?_
    · have ⟨same, links⟩ := closed.functions id f stored
      exact ⟨same, (kept transition).nics _ links⟩
    · exact ⟨wrote.2, (kept transition).nics _ (accepted_function transition wrote.1)⟩
    · intro old _ change good
      rcases change with rfl | ⟨epoch, rfl⟩ | ⟨-, rfl⟩ <;> exact good
  ports id := by
    refine (port_change transition id).holds_after (fun p => p.id = id ∧ PortLinks t p)
      (fun p stored => ?_) (fun p wrote => ?_) (fun _ _ never => never.elim)
    · have ⟨same, links⟩ := closed.ports id p stored
      exact ⟨same, links.mono (kept transition)⟩
    · exact ⟨wrote.2, (accepted_port transition wrote.1).mono (kept transition)⟩
  queues id := by
    refine (queue_change transition id).holds_after (fun q => q.id = id ∧ QueueLinks t q)
      (fun q stored => ?_) (fun q wrote => ?_) ?_
    · have ⟨same, links⟩ := closed.queues id q stored
      exact ⟨same, links.mono (kept transition)⟩
    · exact ⟨wrote.2, (accepted_queue transition wrote.1).mono (kept transition)⟩
    · intro old _ change good
      rcases change with rfl | ⟨-, rfl⟩ <;> exact good
  attachments id := by
    refine (attachment_change transition id).holds_after (fun a => a.id = id ∧ AttachmentLinks t a)
      (fun a stored => ?_) (fun a wrote => ?_) (fun old new demoted good => ?_)
    · have ⟨same, links⟩ := closed.attachments id a stored
      exact ⟨same, Links.mono (kept transition) links⟩
    · exact ⟨wrote.2, Links.mono (kept transition) (accepted_attachment transition wrote.1)⟩
    · exact ⟨(Attachment.Demoted.id demoted).trans good.1, Attachment.Demoted.links demoted good.2⟩
  gpus id := by
    exact (gpu_change transition id).holds_after (fun g => g.id = id) (closed.gpus id)
      (fun _ wrote => wrote.2) (fun _ _ never => never.elim)
  residencies r member := by
    obtain ⟨position, stored⟩ := List.mem_iff_getElem?.mp member
    refine (residency_change transition position).holds_after (fun r => ResidencyLinks t r)
      (fun r stored => ?_) (fun r wrote => ?_) (fun old new demoted => ?_) r stored
    · exact Links.mono (kept transition) (closed.residencies r (List.mem_of_getElem? stored))
    · exact Links.mono (kept transition) (accepted_residency transition wrote.1)
    · exact ResidencyRecord.Demoted.links demoted

end

theorem referenceClosed_created (epoch : CoordinatorEpoch) : ReferenceClosed { epoch } := by
  constructor <;> simp

theorem referenceClosed_after {s : NicRegistry} (closed : ReferenceClosed s) (calls : List Call) :
    ReferenceClosed (s.after calls) :=
  invariant_exec ReferenceClosed (fun _ => True)
    (fun s c closed _ => referenceClosed_transition (at_transition s c) closed)
    closed calls (fun _ _ => trivial)

/-- Referential integrity of every reachable registry. -/
theorem reachable_referenceClosed (s : NicRegistry) (reachable : s.Reachable) :
    ReferenceClosed s := by
  obtain ⟨epoch, created, calls, made, rfl⟩ := reachable
  rw [create_ok made]
  exact referenceClosed_after (referenceClosed_created epoch) calls

/-- One worker publishes one record of every kind, advances its NIC and dies. -/
def oneOfEachKind : List Call :=
  let auth : Authority := ⟨⟨1⟩, ⟨7⟩, ⟨1⟩⟩
  [.registerWorker ⟨7⟩ ⟨1⟩,
    .mutate auth (.registerNic { id := ⟨10⟩, generation := ⟨1⟩ }),
    .mutate auth (.registerFunction { id := ⟨20⟩, generation := ⟨1⟩, parentNic := ⟨10⟩ }),
    .mutate auth (.registerFunction { id := ⟨21⟩, generation := ⟨1⟩, parentNic := ⟨11⟩ }),
    .mutate auth (.registerPort
      { id := ⟨30⟩, generation := ⟨1⟩, parentNic := ⟨10⟩, parentFunction := ⟨20⟩ }),
    .mutate auth (.registerQueue
      { id := ⟨40⟩, generation := ⟨1⟩, parentFunction := ⟨20⟩, parentNic := ⟨10⟩ }),
    .mutate auth (.registerAttachment
      { id := ⟨50⟩, generation := ⟨1⟩, nic := ⟨10⟩, function := ⟨20⟩, queue := ⟨40⟩ }),
    .mutate auth (.publishResidency { id := ⟨60⟩, generation := ⟨1⟩, nic := ⟨10⟩, port := ⟨30⟩ }),
    .mutate auth (.advanceNicGeneration ⟨10⟩),
    .workerRetired ⟨7⟩ ⟨1⟩]

theorem oneOfEachKind_referenceClosed :
    ReferenceClosed (NicRegistry.after { epoch := ⟨1⟩ } oneOfEachKind) ∧
      (NicRegistry.after { epoch := ⟨1⟩ } oneOfEachKind).residencies.length = 1 :=
  ⟨reachable_referenceClosed _ ⟨⟨1⟩, _, oneOfEachKind, rfl, rfl⟩, by decide +kernel⟩

end NicResidency.References

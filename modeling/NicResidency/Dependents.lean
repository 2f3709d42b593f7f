import NicResidency.Generations
import NicResidency.Retirement

/-!
What hangs on a resource. An advance finds its dependents by direct matches of
their references, and does not look for attachments by their queue; a record that
reaches the resource through its queue is not found. A publication at a greater
generation, the other way to advance a resource, looks for no dependent at all.
-/

namespace NicResidency.Dependents
open StateMachine Throwing NicRegistry Generations Retirement Relation

deriving instance DecidableEq for Generations.ResourceRef

/-- A queue hangs on its parent function, and a function on its parent NIC. -/
inductive Parent (s : NicRegistry) : ResourceRef → ResourceRef → Prop where
  | queue (id : QueueId) (q : QueueRecord) (stored : s.queues[id]? = some q) :
      Parent s (.queue id) (.function q.parentFunction)
  | function (id : FunctionId) (f : FunctionRecord) (stored : s.functions[id]? = some f) :
      Parent s (.function id) (.nic f.parentNic)

/-- One of the references leads to the resource, directly or over its parents. -/
def DependsOn (s : NicRegistry) (references : List ResourceRef) (ref : ResourceRef) : Prop :=
  ∃ direct ∈ references, ReflTransGen (Parent s) direct ref

/-- One kind of dependent record: what it refers to, by which of its references an
advance finds it, and what an invalidation leaves of it. -/
structure Kind (α : Type) where
  references : α → List ResourceRef
  scanned : α → List ResourceRef
  demote : α → α
  marked : α → Bool
  notCurrent : α → Bool
  demote_eq_self_iff : ∀ r, demote r = r ↔ marked r = true
  references_demote : ∀ r, references (demote r) = references r
  notCurrent_demote : ∀ r, notCurrent (demote r) = true

def functionKind : Kind FunctionRecord where
  references f := [.nic f.parentNic]
  scanned f := [.nic f.parentNic]
  demote := FunctionRecord.requireRevalidation
  marked f := f.lifecycle == .revalidationRequired
  notCurrent f := functionNotCurrent f.lifecycle
  demote_eq_self_iff f := by
    cases f
    simp only [FunctionRecord.requireRevalidation, FunctionRecord.mk.injEq, beq_iff_eq, true_and,
      and_true]
    exact eq_comm
  references_demote _ := rfl
  notCurrent_demote _ := rfl

def queueKind : Kind QueueRecord where
  references q := [.function q.parentFunction, .nic q.parentNic]
  scanned q := [.function q.parentFunction, .nic q.parentNic]
  demote := QueueRecord.requireRevalidation
  marked q := q.lifecycle == .revalidationRequired
  notCurrent q := functionNotCurrent q.lifecycle
  demote_eq_self_iff q := by
    cases q
    simp only [QueueRecord.requireRevalidation, QueueRecord.mk.injEq, beq_iff_eq, true_and,
      and_true]
    exact eq_comm
  references_demote _ := rfl
  notCurrent_demote _ := rfl

/-- No advance looks at the queue of an attachment. -/
def attachmentKind : Kind Attachment where
  references a := [.nic a.nic, .function a.function, .queue a.queue]
  scanned a := [.nic a.nic, .function a.function]
  demote := Attachment.markStale
  marked a := a.state == .stale
  notCurrent a := attachmentNotCurrent a.state
  demote_eq_self_iff a := by
    cases a
    simp only [Attachment.markStale, Attachment.mk.injEq, beq_iff_eq, true_and, and_true]
    exact eq_comm
  references_demote _ := rfl
  notCurrent_demote _ := rfl

def residencyKind : Kind ResidencyRecord where
  references r := [.nic r.nic, .function r.function, .queue r.queue]
  scanned r := [.nic r.nic, .function r.function, .queue r.queue]
  demote := ResidencyRecord.requireRevalidation
  marked r := r.state == .revalidationRequired && r.lifecycle == .revalidationRequired
  notCurrent r := residencyNotCurrent r.state
  demote_eq_self_iff r := by
    cases r
    simp only [ResidencyRecord.requireRevalidation, ResidencyRecord.mk.injEq, Bool.and_eq_true,
      beq_iff_eq, true_and, and_true]
    exact and_congr eq_comm eq_comm
  references_demote _ := rfl
  notCurrent_demote _ := rfl

/-- A condition on every function, queue, attachment and residency record. -/
@[mk_iff] structure Everywhere (s : NicRegistry) (condition : ∀ {α : Type}, Kind α → α → Prop) : Prop where
  functions : ∀ id : FunctionId, ∀ f ∈ s.functions[id]?, condition functionKind f
  queues : ∀ id : QueueId, ∀ q ∈ s.queues[id]?, condition queueKind q
  attachments : ∀ id : AttachmentId, ∀ a ∈ s.attachments[id]?, condition attachmentKind a
  residencies : ∀ r ∈ s.residencies, condition residencyKind r

/-- Nothing that depends on the resource is current. -/
def NothingCurrent (s : NicRegistry) (ref : ResourceRef) : Prop :=
  Everywhere s fun kind r => DependsOn s (kind.references r) ref → kind.notCurrent r = true

/-- Every dependent of the resource that no scan would find is not current. -/
def UnscannedNotCurrent (s : NicRegistry) (ref : ResourceRef) : Prop :=
  Everywhere s fun kind r =>
    DependsOn s (kind.references r) ref → ref ∉ kind.scanned r → kind.notCurrent r = true

/-- Every record that the scan finds bears the mark of an invalidation. -/
def ScannedMarked (s : NicRegistry) (ref : ResourceRef) : Prop :=
  Everywhere s fun kind r => ref ∈ kind.scanned r → kind.marked r = true

/-! What an advance does to the records of each kind. -/

/-- The scan of an advance over one record. -/
def Kind.touch {α : Type} (kind : Kind α) (ref : ResourceRef) (r : α) : α :=
  if ref ∈ kind.scanned r then kind.demote r else r

section
variable {α : Type} (kind : Kind α) (ref : ResourceRef) (r : α)

theorem Kind.touch_fun :
    kind.touch ref = fun r => if ref ∈ kind.scanned r then kind.demote r else r := rfl

theorem Kind.references_touch : kind.references (kind.touch ref r) = kind.references r := by
  unfold Kind.touch
  split
  · exact kind.references_demote r
  · rfl

theorem Kind.notCurrent_touch :
    kind.notCurrent (kind.touch ref r) = true ↔ (ref ∉ kind.scanned r → kind.notCurrent r = true) := by
  unfold Kind.touch
  split
  next found => simp only [kind.notCurrent_demote, found, not_true_eq_false, false_imp_iff]
  next missed => simp only [missed, not_false_eq_true, true_imp_iff]

theorem Kind.touch_eq_self_iff :
    kind.touch ref r = r ↔ (ref ∈ kind.scanned r → kind.marked r = true) := by
  unfold Kind.touch
  split
  next found => simp only [kind.demote_eq_self_iff, found, true_imp_iff]
  next missed => simp only [missed, false_imp_iff]

end

/-- `modify` as a map over the one slot that it changes. -/
theorem getElem?_modify_map {tag : Tag} {α : Type} (records : Std.ExtTreeMap (Id tag) α) (id : Id tag)
    (change : α → α) (slot : Id tag) : (records.modify id change)[slot]? =
      records[slot]?.map fun r => if id = slot then change r else r := by
  rw [Std.ExtTreeMap.getElem?_modify]
  by_cases here : id = slot <;> simp [here]

def bumpFunction (ref : ResourceRef) (id : FunctionId) (f : FunctionRecord) : FunctionRecord :=
  if ref = .function id then f.advance else f

def bumpQueue (ref : ResourceRef) (id : QueueId) (q : QueueRecord) : QueueRecord :=
  if ref = .queue id then q.advance else q

/-- The second registry is the first one after an advance of the resource. -/
structure Cascade (ref : ResourceRef) (s t : NicRegistry) : Prop where
  functions : ∀ id : FunctionId, t.functions[id]? =
    s.functions[id]?.map fun f => functionKind.touch ref (bumpFunction ref id f)
  queues : ∀ id : QueueId, t.queues[id]? =
    s.queues[id]?.map fun q => queueKind.touch ref (bumpQueue ref id q)
  attachments : ∀ id : AttachmentId, t.attachments[id]? =
    s.attachments[id]?.map (attachmentKind.touch ref)
  residencies : t.residencies = s.residencies.map (residencyKind.touch ref)

section
variable {s t : NicRegistry} {c : Call} {outcome : Except ResidencyError Reply} {ref : ResourceRef}

theorem advance_cascade (transition : Transition s c outcome t)
    (advanced : Advanced ⟨s, c, outcome, t⟩ ref) : Cascade ref s t := by
  obtain ⟨ok, named⟩ := advanced
  cases transition with
  | refused => cases ok
  | advancedNic auth id current old stored =>
    cases named
    constructor <;>
      simp [invalidateNicDependents, Kind.touch_fun, functionKind, queueKind, attachmentKind,
        residencyKind, bumpFunction, bumpQueue, eq_comm]
  | advancedFunction auth id current old stored =>
    cases named
    constructor <;>
      simp [invalidateFunctionDependents, getElem?_modify_map, Kind.touch_fun, functionKind, queueKind, attachmentKind,
        residencyKind, bumpFunction, bumpQueue, eq_comm]
  | advancedQueue auth id current old stored =>
    cases named
    constructor <;>
      simp [invalidateQueueDependents, getElem?_modify_map, Kind.touch_fun, functionKind, queueKind, attachmentKind,
        residencyKind, bumpFunction, bumpQueue, eq_comm]
  | _ => cases named

theorem parentNic_touch (ref : ResourceRef) (id : FunctionId) (f : FunctionRecord) :
    (functionKind.touch ref (bumpFunction ref id f)).parentNic = f.parentNic := by
  unfold Kind.touch bumpFunction
  split_ifs <;> rfl

theorem parentFunction_touch (ref : ResourceRef) (id : QueueId) (q : QueueRecord) :
    (queueKind.touch ref (bumpQueue ref id q)).parentFunction = q.parentFunction := by
  unfold Kind.touch bumpQueue
  split_ifs <;> rfl

/-- An advance moves no record to another parent. -/
theorem Cascade.parent_iff (cascade : Cascade ref s t) (child parent : ResourceRef) :
    Parent t child parent ↔ Parent s child parent := by
  constructor
  · intro step
    cases step with
    | queue id q stored =>
      rw [cascade.queues] at stored
      obtain ⟨old, found, rfl⟩ := Option.map_eq_some_iff.mp stored
      rw [parentFunction_touch]
      exact .queue id old found
    | function id f stored =>
      rw [cascade.functions] at stored
      obtain ⟨old, found, rfl⟩ := Option.map_eq_some_iff.mp stored
      rw [parentNic_touch]
      exact .function id old found
  · intro step
    cases step with
    | queue id q stored =>
      rw [← parentFunction_touch ref id]
      exact .queue id _ (by rw [cascade.queues, stored, Option.map_some])
    | function id f stored =>
      rw [← parentNic_touch ref id]
      exact .function id _ (by rw [cascade.functions, stored, Option.map_some])

theorem Cascade.dependsOn (cascade : Cascade ref s t) (references : List ResourceRef) :
    DependsOn t references = DependsOn s references := by
  have same : Parent t = Parent s := by
    ext child parent
    exact cascade.parent_iff child parent
  unfold DependsOn
  rw [same]

/-- An advance leaves nothing current exactly when only dependents that its scan
finds were current. -/
theorem Cascade.nothingCurrent_iff (cascade : Cascade ref s t) :
    NothingCurrent t ref ↔ UnscannedNotCurrent s ref := by
  have touched {α : Type} (kind : Kind α) (r : α) :
      (DependsOn t (kind.references (kind.touch ref r)) ref →
          kind.notCurrent (kind.touch ref r) = true) ↔
        (DependsOn s (kind.references r) ref → ref ∉ kind.scanned r → kind.notCurrent r = true) := by
    rw [cascade.dependsOn, kind.references_touch, kind.notCurrent_touch]
  have functions (id : FunctionId) (f : FunctionRecord) :
      (DependsOn s (functionKind.references (bumpFunction ref id f)) ref →
          ref ∉ functionKind.scanned (bumpFunction ref id f) →
          functionKind.notCurrent (bumpFunction ref id f) = true) ↔
        (DependsOn s (functionKind.references f) ref → ref ∉ functionKind.scanned f →
          functionKind.notCurrent f = true) := by
    unfold bumpFunction
    split <;> rfl
  have queues (id : QueueId) (q : QueueRecord) :
      (DependsOn s (queueKind.references (bumpQueue ref id q)) ref →
          ref ∉ queueKind.scanned (bumpQueue ref id q) →
          queueKind.notCurrent (bumpQueue ref id q) = true) ↔
        (DependsOn s (queueKind.references q) ref → ref ∉ queueKind.scanned q →
          queueKind.notCurrent q = true) := by
    unfold bumpQueue
    split <;> rfl
  simp only [NothingCurrent, UnscannedNotCurrent, everywhere_iff, cascade.functions, cascade.queues,
    cascade.attachments, cascade.residencies, Option.forall_mem_map, List.forall_mem_map, touched,
    functions, queues]

end

/-- The accepted advances of a run leave nothing current exactly when each of them
meets only such current dependents as its scan finds. -/
theorem advances_leave_nothing_iff (s : NicRegistry) (calls : List Call) :
    (∀ event ∈ s.history calls, ∀ ref, Advanced event ref → NothingCurrent event.post ref) ↔
      ∀ event ∈ s.history calls, ∀ ref, Advanced event ref → UnscannedNotCurrent event.pre ref := by
  refine forall₂_congr fun event member => forall₂_congr fun ref advanced => ?_
  obtain ⟨before, input, after, -, rfl⟩ := (mem_events_iff step s calls event).mp member
  exact (advance_cascade (at_transition _ input) advanced).nothingCurrent_iff

/-- A queue with an attachment and a residency record that name it, but not the
function it belongs to. -/
def queueOnlyRun : List Call :=
  let auth : Authority := ⟨⟨1⟩, ⟨7⟩, ⟨1⟩⟩
  [.registerWorker ⟨7⟩ ⟨1⟩,
    .mutate auth (.registerNic { id := ⟨10⟩, generation := ⟨1⟩ }),
    .mutate auth (.registerFunction { id := ⟨20⟩, generation := ⟨1⟩, parentNic := ⟨10⟩ }),
    .mutate auth (.registerQueue
      { id := ⟨40⟩, generation := ⟨1⟩, parentFunction := ⟨20⟩, parentNic := ⟨10⟩ }),
    .mutate auth (.registerAttachment
      { id := ⟨50⟩, generation := ⟨1⟩, nic := ⟨10⟩, queue := ⟨40⟩, state := .committed }),
    .mutate auth (.publishResidency
      { id := ⟨60⟩, generation := ⟨1⟩, nic := ⟨10⟩, queue := ⟨40⟩, state := .resident }),
    .mutate auth (.advanceFunctionGeneration ⟨20⟩)]

theorem queueOnlyRun_left_current :
    ¬∀ event ∈ NicRegistry.history { epoch := ⟨1⟩ } queueOnlyRun, ∀ ref, Advanced event ref →
      NothingCurrent event.post ref := by
  intro invalidated
  let t := NicRegistry.after { epoch := ⟨1⟩ } queueOnlyRun
  have nothing : NothingCurrent t (.function ⟨20⟩) := invalidated
    (Event.at step (NicRegistry.after { epoch := ⟨1⟩ } (queueOnlyRun.take 6)) queueOnlyRun[6])
    (List.mem_of_getElem? (i := 6) rfl) (.function ⟨20⟩) ⟨by decide +kernel, rfl⟩
  obtain ⟨q, stored, parent⟩ : ∃ q, t.queues[(⟨40⟩ : QueueId)]? = some q ∧ q.parentFunction = ⟨20⟩ :=
    Option.map_eq_some_iff.mp (by decide +kernel)
  obtain ⟨a, attached, fields⟩ : ∃ a, t.attachments[(⟨50⟩ : AttachmentId)]? = some a ∧
      (a.queue, a.state) = (⟨40⟩, .committed) :=
    Option.map_eq_some_iff.mp (by decide +kernel)
  obtain ⟨queue, state⟩ := Prod.mk.inj fields
  have hangs : ReflTransGen (Parent t) (.queue a.queue) (.function ⟨20⟩) := by
    rw [queue, ← parent]
    exact .single (.queue ⟨40⟩ q stored)
  have notCurrent : attachmentNotCurrent a.state = true :=
    nothing.attachments ⟨50⟩ a attached ⟨.queue a.queue, by simp [attachmentKind], hangs⟩
  rw [state] at notCurrent
  cases notCurrent

/-! The two ways to raise a generation. -/

/-- The advance call for the resource that a publication writes. -/
def advanceFor : Mutation → Option Mutation
  | .registerNic rec => some (.advanceNicGeneration rec.id)
  | .registerFunction rec => some (.advanceFunctionGeneration rec.id)
  | .registerQueue rec => some (.advanceQueueGeneration rec.id)
  | _ => none

/-- The accepted publication of an event replaces the stored record of a resource by
one of greater generation. `advance` is the call that raises it otherwise. -/
structure Republishes (event : RegistryEvent) (auth : Authority) (advance : Mutation)
    (ref : ResourceRef) : Prop where
  published : ∃ publication, event.input = .mutate auth publication ∧
    advanceFor publication = some advance
  ok : accepted event = true
  named : mutationAdvances advance = some ref
  raised : ∃ g g', generationOf event.pre ref = some g ∧ generationOf event.post ref = some g' ∧ g < g'

/-- Two registries agree on all functions, queues, attachments and residency records
but the resource itself. -/
structure SameElsewhere (ref : ResourceRef) (s t : NicRegistry) : Prop where
  functions : ∀ id : FunctionId, ref ≠ .function id → s.functions[id]? = t.functions[id]?
  queues : ∀ id : QueueId, ref ≠ .queue id → s.queues[id]? = t.queues[id]?
  attachments : ∀ id : AttachmentId, s.attachments[id]? = t.attachments[id]?
  residencies : s.residencies = t.residencies

section
variable {s t u : NicRegistry} {c : Call} {outcome : Except ResidencyError Reply}
  {ref : ResourceRef} {auth : Authority} {advance : Mutation}

/-- A publication touches no record but its own. -/
theorem republication_keeps (transition : Transition s c outcome t)
    (republishes : Republishes ⟨s, c, outcome, t⟩ auth advance ref) :
    s.Authorised auth ∧ SameElsewhere ref t s := by
  obtain ⟨⟨publication, rfl, sibling⟩, ok, named, -⟩ := republishes
  cases publication with
  | registerNic rec =>
    cases transition with
    | refused | refusedNic => cases ok
    | duplicateNic _ _ _ current | wroteNic _ _ current =>
      exact ⟨current, fun _ _ => rfl, fun _ _ => rfl, fun _ => rfl, rfl⟩
  | registerFunction rec =>
    cases transition with
    | refused => cases ok
    | duplicateFunction _ _ _ current => exact ⟨current, fun _ _ => rfl, fun _ _ => rfl, fun _ => rfl, rfl⟩
    | wroteFunction _ _ current =>
      refine ⟨current, ?_, fun _ _ => rfl, fun _ => rfl, rfl⟩
      intro id other
      cases sibling
      cases named
      have elsewhere : rec.id ≠ id := fun same => other (congrArg ResourceRef.function same)
      simp [Std.ExtTreeMap.getElem?_insert, elsewhere]
  | registerQueue rec =>
    cases transition with
    | refused => cases ok
    | duplicateQueue _ _ _ current => exact ⟨current, fun _ _ => rfl, fun _ _ => rfl, fun _ => rfl, rfl⟩
    | wroteQueue _ _ current =>
      refine ⟨current, fun _ _ => rfl, ?_, fun _ => rfl, rfl⟩
      intro id other
      cases sibling
      cases named
      have elsewhere : rec.id ≠ id := fun same => other (congrArg ResourceRef.queue same)
      simp [Std.ExtTreeMap.getElem?_insert, elsewhere]
  | _ => cases sibling

/-- An advance of a stored resource is accepted. -/
theorem advance_accepted (current : s.Authorised auth) (named : mutationAdvances advance = some ref)
    (stored : ∃ g, generationOf s ref = some g) :
    Advanced (Event.at step s (.mutate auth advance)) ref := by
  refine ⟨?_, named⟩
  obtain ⟨g, stored⟩ := stored
  rw [accepted, Event.at_outcome, step, call]
  cases advance with
  | advanceNicGeneration id =>
    cases named
    obtain ⟨n, found, -⟩ := Option.map_eq_some_iff.mp stored
    rw [mutate, perform_map, advanceNicGeneration, perform_guarded current (by simp [found])]
    rfl
  | advanceFunctionGeneration id =>
    cases named
    obtain ⟨f, found, -⟩ := Option.map_eq_some_iff.mp stored
    rw [mutate, perform_map, advanceFunctionGeneration, perform_guarded current (by simp [found])]
    rfl
  | advanceQueueGeneration id =>
    cases named
    obtain ⟨q, found, -⟩ := Option.map_eq_some_iff.mp stored
    rw [mutate, perform_map, advanceQueueGeneration, perform_guarded current (by simp [found])]
    rfl
  | _ => cases named

theorem slot_map_eq_iff {α : Type} (slot : Option α) (change : α → α) :
    slot = slot.map change ↔ ∀ r ∈ slot, change r = r := by
  cases slot <;> simp [eq_comm]

theorem log_map_eq_iff {α : Type} (log : List α) (change : α → α) :
    log = log.map change ↔ ∀ r ∈ log, change r = r := by
  rw [eq_comm]
  simpa only [List.map_id, id_eq] using (List.map_inj_left : log.map change = log.map id ↔ _)

theorem Cascade.functions_same_iff (cascade : Cascade ref s u) {id : FunctionId}
    (other : ref ≠ .function id) : s.functions[id]? = u.functions[id]? ↔
      ∀ f ∈ s.functions[id]?, ref ∈ functionKind.scanned f → functionKind.marked f = true := by
  rw [cascade.functions]
  simp only [bumpFunction, if_neg other, slot_map_eq_iff, Kind.touch_eq_self_iff]

theorem Cascade.queues_same_iff (cascade : Cascade ref s u) {id : QueueId} (other : ref ≠ .queue id) :
    s.queues[id]? = u.queues[id]? ↔
      ∀ q ∈ s.queues[id]?, ref ∈ queueKind.scanned q → queueKind.marked q = true := by
  rw [cascade.queues]
  simp only [bumpQueue, if_neg other, slot_map_eq_iff, Kind.touch_eq_self_iff]

theorem Cascade.attachments_same_iff (cascade : Cascade ref s u) (id : AttachmentId) :
    s.attachments[id]? = u.attachments[id]? ↔
      ∀ a ∈ s.attachments[id]?, ref ∈ attachmentKind.scanned a → attachmentKind.marked a = true := by
  simp only [cascade.attachments, slot_map_eq_iff, Kind.touch_eq_self_iff]

theorem Cascade.residencies_same_iff (cascade : Cascade ref s u) :
    s.residencies = u.residencies ↔
      ∀ r ∈ s.residencies, ref ∈ residencyKind.scanned r → residencyKind.marked r = true := by
  simp only [cascade.residencies, log_map_eq_iff, Kind.touch_eq_self_iff]

/-- The publication and the advance leave the same dependents exactly when the scan of
the advance has nothing to mark. -/
theorem Cascade.sameElsewhere_iff (cascade : Cascade ref s u) (kept : SameElsewhere ref t s) :
    SameElsewhere ref t u ↔ ScannedMarked s ref := by
  constructor
  · intro same
    constructor
    · intro id f stored scanned
      have other : ref ≠ .function id := by
        intro itself
        subst itself
        simp [functionKind] at scanned
      exact (cascade.functions_same_iff other).mp
        ((kept.functions id other).symm.trans (same.functions id other)) f stored scanned
    · intro id q stored scanned
      have other : ref ≠ .queue id := by
        intro itself
        subst itself
        simp [queueKind] at scanned
      exact (cascade.queues_same_iff other).mp
        ((kept.queues id other).symm.trans (same.queues id other)) q stored scanned
    · intro id
      exact (cascade.attachments_same_iff id).mp
        ((kept.attachments id).symm.trans (same.attachments id))
    · exact cascade.residencies_same_iff.mp (kept.residencies.symm.trans same.residencies)
  · intro marked
    constructor
    · intro id other
      exact (kept.functions id other).trans
        ((cascade.functions_same_iff other).mpr (marked.functions id))
    · intro id other
      exact (kept.queues id other).trans ((cascade.queues_same_iff other).mpr (marked.queues id))
    · intro id
      exact (kept.attachments id).trans
        ((cascade.attachments_same_iff id).mpr (marked.attachments id))
    · exact kept.residencies.trans (cascade.residencies_same_iff.mpr marked.residencies)

end

/-- The accepted publications of a run that raise a generation treat the dependents as
the advance calls do, exactly when the scan of an advance would find marked records
only. -/
theorem republications_agree_iff (s : NicRegistry) (calls : List Call) :
    (∀ event ∈ s.history calls, ∀ auth advance ref, Republishes event auth advance ref →
        SameElsewhere ref event.post (event.pre.step (.mutate auth advance)).2) ↔
      ∀ event ∈ s.history calls, ∀ auth advance ref, Republishes event auth advance ref →
        ScannedMarked event.pre ref := by
  refine forall₂_congr fun event member => forall₃_congr fun auth advance ref =>
    forall_congr' fun republishes => ?_
  obtain ⟨before, input, after, -, rfl⟩ := (mem_events_iff step s calls event).mp member
  obtain ⟨current, kept⟩ := republication_keeps (at_transition _ input) republishes
  obtain ⟨g, -, stored, -⟩ := republishes.raised
  exact (advance_cascade (at_transition _ _)
    (advance_accepted current republishes.named ⟨g, stored⟩)).sameElsewhere_iff kept

/-- A function under a NIC that is published again at its second generation. -/
def republishedRun : List Call :=
  let auth : Authority := ⟨⟨1⟩, ⟨7⟩, ⟨1⟩⟩
  [.registerWorker ⟨7⟩ ⟨1⟩,
    .mutate auth (.registerNic { id := ⟨10⟩, generation := ⟨1⟩ }),
    .mutate auth (.registerFunction
      { id := ⟨20⟩, generation := ⟨1⟩, parentNic := ⟨10⟩, lifecycle := .available }),
    .mutate auth (.registerNic { id := ⟨10⟩, generation := ⟨2⟩ })]

theorem republishedRun_disagrees :
    ¬∀ event ∈ NicRegistry.history { epoch := ⟨1⟩ } republishedRun, ∀ auth advance ref,
      Republishes event auth advance ref →
        SameElsewhere ref event.post (event.pre.step (.mutate auth advance)).2 := by
  intro agree
  let s := NicRegistry.after { epoch := ⟨1⟩ } (republishedRun.take 3)
  let auth : Authority := ⟨⟨1⟩, ⟨7⟩, ⟨1⟩⟩
  have republishes : Republishes (Event.at step s republishedRun[3]) auth
      (.advanceNicGeneration ⟨10⟩) (.nic ⟨10⟩) :=
    ⟨⟨_, rfl, rfl⟩, by decide +kernel, rfl, 1, 2, by decide +kernel, by decide +kernel, by decide⟩
  have same := agree _ (List.mem_of_getElem? (i := 3) rfl) _ _ _ republishes
  have lifecycle := congrArg (Option.map (·.lifecycle)) (same.functions ⟨20⟩ (by decide))
  have left : ((s.step republishedRun[3]).2.functions[(⟨20⟩ : FunctionId)]?).map (·.lifecycle) =
      some .available := by decide +kernel
  have marked : ((s.step (.mutate auth (.advanceNicGeneration ⟨10⟩))).2.functions[
      (⟨20⟩ : FunctionId)]?).map (·.lifecycle) = some .revalidationRequired := by decide +kernel
  have equal := left.symm.trans (lifecycle.trans marked)
  cases equal

end NicResidency.Dependents

import NicResidency.RegistrySlots

/-!
Worker retirement beyond the NIC records. Functions are not touched by it, and
attachments and residency records are found by the owner fields which their
publisher filled in. So the evidence of a dead incarnation is withdrawn exactly
when it was no longer current already, or carried that incarnation as owner.
-/

namespace NicResidency.Retirement
open StateMachine Throwing NicRegistry

def functionNotCurrent (lifecycle : LifecycleState) : Bool :=
  lifecycle == .revalidationRequired || lifecycle == .failed || lifecycle == .retired

def attachmentNotCurrent (state : AttachmentState) : Bool :=
  state == .stale || state == .revoked || state == .failed

def residencyNotCurrent (state : ResidencyState) : Bool :=
  state == .revalidationRequired || state == .stale || state == .failed || state == .retired

/-! Where a stored record comes from. -/

/-- The worker incarnation that made the call of an event. -/
def caller (event : RegistryEvent) : Option (WorkerId × WorkerBootId) :=
  match event.input with
  | .mutate auth _ => some (auth.worker, auth.boot)
  | _ => none

/-- The call of the event inserted or replaced the record of the function. -/
def writesFunction (id : FunctionId) (event : RegistryEvent) : Bool :=
  match event.input with
  | .mutate _ (.registerFunction rec) => accepted event && rec.id == id &&
      (event.pre.functions[id]?).all fun old => old.generation != rec.generation
  | _ => false

def writesAttachment (id : AttachmentId) (event : RegistryEvent) : Bool :=
  match event.input with
  | .mutate _ (.registerAttachment att) => accepted event && att.id == id
  | _ => false

/-- The residency record that the event appends. -/
def publishes (event : RegistryEvent) : Option ResidencyRecord :=
  match event.input with
  | .mutate _ (.publishResidency rec) => if accepted event then some rec else none
  | _ => none

def FunctionFrom (history : List RegistryEvent) (worker : WorkerId) (boot : WorkerBootId)
    (id : FunctionId) : Prop :=
  (latest (writesFunction id) history).bind caller = some (worker, boot)

def AttachmentFrom (history : List RegistryEvent) (worker : WorkerId) (boot : WorkerBootId)
    (id : AttachmentId) : Prop :=
  (latest (writesAttachment id) history).bind caller = some (worker, boot)

/-- The record at a position of the log comes from the accepted publication with
the same number. -/
def ResidencyFrom (history : List RegistryEvent) (worker : WorkerId) (boot : WorkerBootId)
    (position : Nat) : Prop :=
  ((history.filter fun event => (publishes event).isSome)[position]?).bind caller =
    some (worker, boot)

/-- No evidence that was last accepted from the incarnation is current. -/
@[mk_iff] structure EvidenceWithdrawn (history : List RegistryEvent) (worker : WorkerId) (boot : WorkerBootId)
    (s : NicRegistry) : Prop where
  functions : ∀ id f, FunctionFrom history worker boot id → s.functions[id]? = some f →
    functionNotCurrent f.lifecycle = true
  attachments : ∀ id a, AttachmentFrom history worker boot id → s.attachments[id]? = some a →
    attachmentNotCurrent a.state = true
  residencies : ∀ position r, ResidencyFrom history worker boot position →
    s.residencies[position]? = some r → residencyNotCurrent r.state = true

/-- The functions of the incarnation are not current, and each of its
attachments and residency records is not current or names it as the owner. -/
structure RetirementReaches (history : List RegistryEvent) (worker : WorkerId) (boot : WorkerBootId)
    (s : NicRegistry) : Prop where
  functions : ∀ id f, FunctionFrom history worker boot id → s.functions[id]? = some f →
    functionNotCurrent f.lifecycle = true
  attachments : ∀ id a, AttachmentFrom history worker boot id → s.attachments[id]? = some a →
    (a.ownerWorker = worker ∧ a.ownerBoot = boot) ∨ attachmentNotCurrent a.state = true
  residencies : ∀ position r, ResidencyFrom history worker boot position →
    s.residencies[position]? = some r →
    (r.ownerWorker = worker ∧ r.ownerBoot = boot) ∨ residencyNotCurrent r.state = true

/-! The residency log has one record for each accepted publication, in order. -/

theorem ids_map (log : List ResidencyRecord) (change : ResidencyRecord → ResidencyRecord)
    (same : ∀ r, (change r).id = r.id) : (log.map change).map (·.id) = log.map (·.id) := by
  simp only [List.map_map, Function.comp_def, same]

theorem ids_modify (log : List ResidencyRecord) (position : Nat) :
    (log.modify position ResidencyRecord.retire).map (·.id) = log.map (·.id) := by
  apply List.ext_getElem?
  intro i
  rw [List.getElem?_map, List.getElem?_map, List.getElem?_modify]
  cases log[i]? with
  | none => rfl
  | some r => by_cases here : position = i <;> simp [here, ResidencyRecord.retire]

theorem ids_transition {s t : NicRegistry} {c : Call} {outcome : Except ResidencyError Reply}
    (transition : Transition s c outcome t) :
    t.residencies.map (·.id) = s.residencies.map (·.id) ++
      ((publishes ⟨s, c, outcome, t⟩).map (·.id)).toList := by
  cases transition with
  | refused c =>
    cases c with
    | mutate auth mutation => cases mutation <;> simp [publishes, accepted, Except.isOk, Except.toBool]
    | _ => simp [publishes]
  | wroteResidency => simp [publishes, accepted, Except.isOk, Except.toBool]
  | retiredResidency =>
    exact (ids_modify s.residencies _).trans (List.append_nil _).symm
  | advancedNic | advancedFunction | advancedQueue | retiredWorker =>
    exact (ids_map s.residencies _ (fun r => by split <;> rfl)).trans (List.append_nil _).symm
  | setTopology | restarted =>
    exact (ids_map s.residencies _ (by intro r; rfl)).trans (List.append_nil _).symm
  | _ => exact (List.append_nil _).symm

/-- The ids of the log are the ids of the accepted publications, in order. -/
theorem ids_after (epoch : CoordinatorEpoch) (calls : List Call) :
    (NicRegistry.after { epoch } calls).residencies.map (·.id) =
      ((NicRegistry.history { epoch } calls).filterMap publishes).map (·.id) := by
  refine history_invariant
    (fun history s => s.residencies.map (·.id) = (history.filterMap publishes).map (·.id))
    (fun _ => True) ?_ rfl calls (fun _ _ => trivial)
  intro history s c aligned _
  have appended := ids_transition (at_transition s c)
  rw [Event.at_post] at appended
  rw [appended, aligned, List.filterMap_append, List.map_append]
  congr 1
  change ((publishes (Event.at step s c)).map (·.id)).toList = _
  cases published : publishes (Event.at step s c) <;> simp [published]

/-! What a retirement does to the records of an incarnation. -/

section
variable {s t : NicRegistry} {worker : WorkerId} {boot : WorkerBootId}

theorem retirement_accepted (s : NicRegistry) (worker : WorkerId) (boot : WorkerBootId) :
    (s.step (.workerRetired worker boot)).1 = .ok .done := by
  obtain ⟨t, ran⟩ : ∃ t, perform (workerRetired worker boot) s = (.ok (), t) := by
    rw [workerRetired, perform_get_bind, perform_ite]
    split
    · exact ⟨s, rfl⟩
    · exact ⟨retireWorker worker boot s, rfl⟩
  rw [step, call, perform_map, ran]
  rfl

theorem retired_state {outcome : Except ResidencyError Reply}
    (transition : Transition s (.workerRetired worker boot) outcome t)
    (accepts : outcome = .ok .done)
    (registered : (s.workers[worker]?).map WorkerHandle.boot = some boot) :
    t = retireWorker worker boot s := by
  cases transition with
  | refused => cases accepts
  | ignoredRetirement _ _ handle found other =>
    rw [found] at registered
    exact absurd (Option.some.inj registered) other
  | retiredWorker => rfl

theorem retired_attachment (id : AttachmentId) :
    (retireWorker worker boot s).attachments[id]? = (s.attachments[id]?).map fun a =>
      if a.ownerWorker = worker ∧ a.ownerBoot = boot then a.disown else a :=
  Std.ExtTreeMap.getElem?_map

theorem retired_residency (position : Nat) :
    (retireWorker worker boot s).residencies[position]? = (s.residencies[position]?).map fun r =>
      if r.ownerWorker = worker ∧ r.ownerBoot = boot then r.disown else r :=
  List.getElem?_map ..

/-- The record of a slot is not current after the retirement exactly when it named
the incarnation as its owner or was not current before. -/
theorem withdrawn_slot_iff {α : Type} (owned : α → Prop) [DecidablePred owned] (disown : α → α)
    (notCurrent : α → Bool) (demotes : ∀ r, notCurrent (disown r) = true) (slot : Option α) :
    (∀ r, slot.map (fun r => if owned r then disown r else r) = some r → notCurrent r = true) ↔
      ∀ r, slot = some r → owned r ∨ notCurrent r = true := by
  cases slot with
  | none => simp
  | some r =>
    by_cases own : owned r
    · simp [own, demotes]
    · simp [own]

theorem evidenceWithdrawn_retireWorker (history : List RegistryEvent) :
    EvidenceWithdrawn history worker boot (retireWorker worker boot s) ↔
      RetirementReaches history worker boot s := by
  have attachments (id : AttachmentId) := withdrawn_slot_iff
    (fun a : Attachment => a.ownerWorker = worker ∧ a.ownerBoot = boot) Attachment.disown
    (fun a => attachmentNotCurrent a.state) (fun _ => rfl) s.attachments[id]?
  have residencies (position : Nat) := withdrawn_slot_iff
    (fun r : ResidencyRecord => r.ownerWorker = worker ∧ r.ownerBoot = boot) ResidencyRecord.disown
    (fun r => residencyNotCurrent r.state) (fun _ => rfl) s.residencies[position]?
  simp only [← retired_attachment] at attachments
  simp only [← retired_residency] at residencies
  constructor
  · intro withdrawn
    exact {
      functions := withdrawn.functions
      attachments := fun id a origin =>
        (attachments id).mp (fun a => withdrawn.attachments id a origin) a
      residencies := fun position r origin =>
        (residencies position).mp (fun r => withdrawn.residencies position r origin) r }
  · intro reaches
    exact {
      functions := reaches.functions
      attachments := fun id a origin =>
        (attachments id).mpr (fun a => reaches.attachments id a origin) a
      residencies := fun position r origin =>
        (residencies position).mpr (fun r => reaches.residencies position r origin) r }

end

/-- The retirement itself publishes nothing. -/
theorem evidenceWithdrawn_append_retirement {history : List RegistryEvent} {event : RegistryEvent}
    {worker : WorkerId} {boot : WorkerBootId} (called : event.input = .workerRetired worker boot)
    (s : NicRegistry) :
    EvidenceWithdrawn (history ++ [event]) worker boot s ↔ EvidenceWithdrawn history worker boot s := by
  have functions (id : FunctionId) : writesFunction id event = false := by
    simp only [writesFunction, called]
  have attachments (id : AttachmentId) : writesAttachment id event = false := by
    simp only [writesAttachment, called]
  have residencies : (publishes event).isSome = false := by
    simp only [publishes, called, Option.isSome_none]
  simp only [evidenceWithdrawn_iff, FunctionFrom, AttachmentFrom, ResidencyFrom,
    latest_append_singleton, functions, attachments, residencies, List.filter_append,
    List.filter_cons, List.filter_nil, List.append_nil, Bool.false_eq_true, if_false]

/-- After the retirement of a registered incarnation, none of the evidence last
accepted from it is current, exactly when the retirement reaches all of it. -/
theorem retirement_withdraws_iff (epoch : CoordinatorEpoch) (calls : List Call) (worker : WorkerId)
    (boot : WorkerBootId)
    (registered : ((NicRegistry.after { epoch } calls).workers[worker]?).map WorkerHandle.boot =
      some boot) :
    EvidenceWithdrawn (NicRegistry.history { epoch } (calls ++ [.workerRetired worker boot])) worker
        boot (NicRegistry.after { epoch } (calls ++ [.workerRetired worker boot])) ↔
      RetirementReaches (NicRegistry.history { epoch } calls) worker boot
        (NicRegistry.after { epoch } calls) := by
  have transition := at_transition (NicRegistry.after { epoch } calls) (.workerRetired worker boot)
  rw [NicRegistry.history, NicRegistry.after, events_append, exec_append, events_cons, events_nil,
    exec_cons, exec_nil, evidenceWithdrawn_append_retirement rfl]
  have state := retired_state transition (retirement_accepted _ worker boot) registered
  rw [Event.at_post] at state
  rw [state]
  exact evidenceWithdrawn_retireWorker _

/-- An incarnation publishes one function, one attachment and one residency
record. The owner fields of the last two are as given. -/
def publishingRun (owner : WorkerId) (ownerBoot : WorkerBootId) (lifecycle : LifecycleState) :
    List Call :=
  let auth : Authority := ⟨⟨1⟩, ⟨7⟩, ⟨1⟩⟩
  [.registerWorker ⟨7⟩ ⟨1⟩,
    .mutate auth (.registerNic { id := ⟨10⟩, generation := ⟨1⟩, lifecycle := .available }),
    .mutate auth (.registerFunction
      { id := ⟨20⟩, generation := ⟨1⟩, parentNic := ⟨10⟩, lifecycle := lifecycle }),
    .mutate auth (.registerAttachment
      { id := ⟨50⟩, generation := ⟨1⟩, nic := ⟨10⟩, state := .committed
        ownerWorker := owner, ownerBoot := ownerBoot }),
    .mutate auth (.publishResidency
      { id := ⟨60⟩, generation := ⟨1⟩, nic := ⟨10⟩, state := .resident
        ownerWorker := owner, ownerBoot := ownerBoot })]

theorem publishingRun_withdraws_iff :
    EvidenceWithdrawn
        (NicRegistry.history { epoch := ⟨1⟩ }
          (publishingRun ⟨7⟩ ⟨1⟩ .failed ++ [.workerRetired ⟨7⟩ ⟨1⟩])) ⟨7⟩ ⟨1⟩
        (NicRegistry.after { epoch := ⟨1⟩ }
          (publishingRun ⟨7⟩ ⟨1⟩ .failed ++ [.workerRetired ⟨7⟩ ⟨1⟩])) ↔
      RetirementReaches (NicRegistry.history { epoch := ⟨1⟩ } (publishingRun ⟨7⟩ ⟨1⟩ .failed)) ⟨7⟩ ⟨1⟩
        (NicRegistry.after { epoch := ⟨1⟩ } (publishingRun ⟨7⟩ ⟨1⟩ .failed)) :=
  retirement_withdraws_iff ⟨1⟩ (publishingRun ⟨7⟩ ⟨1⟩ .failed) ⟨7⟩ ⟨1⟩ (by decide +kernel)

/-- With the owner fields left empty, all three records stay current. -/
theorem publishingRun_left_current :
    let calls := publishingRun ⟨0⟩ ⟨0⟩ .available ++ [.workerRetired ⟨7⟩ ⟨1⟩]
    let history := NicRegistry.history { epoch := ⟨1⟩ } calls
    let s := NicRegistry.after { epoch := ⟨1⟩ } calls
    ¬EvidenceWithdrawn history ⟨7⟩ ⟨1⟩ s ∧
      (FunctionFrom history ⟨7⟩ ⟨1⟩ ⟨20⟩ ∧
        (s.functions[(⟨20⟩ : FunctionId)]?).map (·.lifecycle) = some .available) ∧
      (AttachmentFrom history ⟨7⟩ ⟨1⟩ ⟨50⟩ ∧
        (s.attachments[(⟨50⟩ : AttachmentId)]?).map (·.state) = some .committed) ∧
      (ResidencyFrom history ⟨7⟩ ⟨1⟩ 0 ∧ (s.residencies[0]?).map (·.state) = some .resident) := by
  intro calls history s
  have function : FunctionFrom history ⟨7⟩ ⟨1⟩ ⟨20⟩ := by
    unfold FunctionFrom
    decide +kernel
  have left : (s.functions[(⟨20⟩ : FunctionId)]?).map (·.lifecycle) = some .available := by
    decide +kernel
  refine ⟨?_, ⟨function, left⟩, ⟨?_, by decide +kernel⟩, ?_, by decide +kernel⟩
  · intro withdrawn
    obtain ⟨f, stored, lifecycle⟩ := Option.map_eq_some_iff.mp left
    have notCurrent := withdrawn.functions ⟨20⟩ f function stored
    rw [lifecycle] at notCurrent
    cases notCurrent
  · unfold AttachmentFrom
    decide +kernel
  · unfold ResidencyFrom
    decide +kernel

end NicResidency.Retirement

import NicResidency.Library.StateMachine
import NicResidency.Registry

/-!
The registry as a machine whose inputs are calls. `Transition` says once what any
call can do to the registry; the laws about runs are derived from it and not from
the bodies of the methods.
-/

namespace NicResidency
open Throwing

/-- The thirteen mutators that are guarded by an epoch and a worker incarnation. -/
inductive Mutation where
  | registerNic (rec : NicRecord)
  | advanceNicGeneration (id : NicId)
  | registerFunction (rec : FunctionRecord)
  | advanceFunctionGeneration (id : FunctionId)
  | registerPort (rec : PortRecord)
  | registerQueue (rec : QueueRecord)
  | advanceQueueGeneration (id : QueueId)
  | setTopology (top : TopologySnapshot)
  | registerAttachment (att : Attachment)
  | retireAttachment (id : AttachmentId)
  | registerGpu (rec : GpuRecord)
  | publishResidency (rec : ResidencyRecord)
  | retireResidency (id : ResidencyId)

inductive Call where
  | registerWorker (worker : WorkerId) (boot : WorkerBootId)
  | workerRetired (worker : WorkerId) (boot : WorkerBootId)
  | coordinatorRestart (newEpoch : CoordinatorEpoch)
  | mutate (auth : Authority) (mutation : Mutation)

/-- The value a call returns. -/
inductive Reply where
  | done
  | nic (generation : NicGeneration)
  | function (generation : FunctionGeneration)
  | port (generation : PortGeneration)
  | queue (generation : QueueGeneration)
  | attachment (generation : AttachmentGeneration)
  | residency (rec : ResidencyRecord)

namespace NicRegistry

def mutate (auth : Authority) : Mutation → RegistryM Reply
  | .registerNic rec => Reply.nic <$> registerNic rec auth
  | .advanceNicGeneration id => (fun _ => Reply.done) <$> advanceNicGeneration id auth
  | .registerFunction rec => Reply.function <$> registerFunction rec auth
  | .advanceFunctionGeneration id => (fun _ => Reply.done) <$> advanceFunctionGeneration id auth
  | .registerPort rec => Reply.port <$> registerPort rec auth
  | .registerQueue rec => Reply.queue <$> registerQueue rec auth
  | .advanceQueueGeneration id => (fun _ => Reply.done) <$> advanceQueueGeneration id auth
  | .setTopology top => (fun _ => Reply.done) <$> setTopology top auth
  | .registerAttachment att => Reply.attachment <$> registerAttachment att auth
  | .retireAttachment id => (fun _ => Reply.done) <$> retireAttachment id auth
  | .registerGpu rec => (fun _ => Reply.done) <$> registerGpu rec auth
  | .publishResidency rec => Reply.residency <$> publishResidency rec auth
  | .retireResidency id => (fun _ => Reply.done) <$> retireResidency id auth

def call : Call → RegistryM Reply
  | .registerWorker worker boot => (fun _ => Reply.done) <$> registerWorker worker boot
  | .workerRetired worker boot => (fun _ => Reply.done) <$> workerRetired worker boot
  | .coordinatorRestart newEpoch => (fun _ => Reply.done) <$> coordinatorRestart newEpoch
  | .mutate auth mutation => mutate auth mutation

/-- One call on a registry. -/
def step (s : NicRegistry) (c : Call) : Except ResidencyError Reply × NicRegistry :=
  perform (call c) s

/-! The checks every mutator starts with. -/

/-- The error of a call whose authority is not current. -/
def refusal (s : NicRegistry) (auth : Authority) : ResidencyError :=
  if auth.epoch ≠ s.epoch then
    { code := .staleEpoch, message := "stale coordinator epoch rejected", detail := auth.epoch.str }
  else if s.workers[auth.worker]? = none then
    { code := .notReady, message := "worker is not a registered authority"
      detail := "worker=" ++ auth.worker.str }
  else
    { code := .staleBoot, message := "stale worker boot identity rejected", detail := auth.boot.str }

theorem refusal_code (s : NicRegistry) (auth : Authority) :
    (s.refusal auth).code ∈ [ErrorCode.staleEpoch, .notReady, .staleBoot] := by
  unfold refusal
  split_ifs <;> simp

theorem perform_ensureAuthority (auth : Authority) (s : NicRegistry) :
    perform (ensureAuthority auth) s =
      if s.Authorised auth then (.ok (), s) else (.error (s.refusal auth), s) := by
  simp only [ensureAuthority, perform_get_bind, perform_reject_bind]
  by_cases current : auth.epoch = s.epoch
  · cases found : s.workers[auth.worker]? with
    | none => simp [Authorised, refusal, current, found]
    | some handle =>
      by_cases same : handle.boot = auth.boot
      · simp [Authorised, current, found, same, reject]
      · simp [Authorised, refusal, current, found, same, reject]
  · simp [Authorised, refusal, current]

/-- Either the authority is not current and nothing happened, or the rest of the
mutator ran on the same registry. -/
theorem authority_cases {β : Type} {auth : Authority} {next : Unit → RegistryM β}
    {s t : NicRegistry} {outcome : Except ResidencyError β}
    (called : perform (ensureAuthority auth >>= next) s = (outcome, t)) :
    (outcome = .error (s.refusal auth) ∧ t = s) ∨
      (s.Authorised auth ∧ perform (next ()) s = (outcome, t)) := by
  rw [perform_bind, perform_ensureAuthority] at called
  by_cases current : s.Authorised auth
  · simp only [if_pos current] at called
    exact .inr ⟨current, called⟩
  · simp only [if_neg current, Prod.mk.injEq] at called
    exact .inl ⟨called.1.symm, called.2.symm⟩

/-- A mutator without current authority throws and changes nothing. -/
theorem perform_unauthorised {β : Type} {auth : Authority} (next : Unit → RegistryM β)
    {s : NicRegistry} (stale : ¬s.Authorised auth) :
    perform (ensureAuthority auth >>= next) s = (.error (s.refusal auth), s) := by
  rw [perform_bind, perform_ensureAuthority, if_neg stale]

/-- A mutator that checks its authority and one more condition goes through. -/
theorem perform_guarded {auth : Authority} {s : NicRegistry} (current : s.Authorised auth)
    {missing : NicRegistry → Prop} [DecidablePred missing] (present : ¬missing s)
    (error : ResidencyError) (change : NicRegistry → NicRegistry) :
    perform (do
      ensureAuthority auth
      let s ← get
      reject (missing s) error
      modify change) s = (.ok (), change s) := by
  rw [perform_bind, perform_ensureAuthority, if_pos current]
  simp only [perform_get_bind, perform_reject_bind, if_neg present, perform_modify]

section
variable {α : Type} {tag : Tag} {slot : Option α} {new : α} {generation : α → Generation tag}
  {same : α → α → Bool} {invalid conflict stale : ResidencyError}
  {write : NicRegistry → NicRegistry} {s t : NicRegistry}
  {outcome : Except ResidencyError (Generation tag)}

/-- A versioned publication is rejected, or a duplicate, or written over a record
of smaller generation. -/
theorem storeVersioned_cases
    (called : perform (storeVersioned slot new generation same invalid conflict stale write) s =
      (outcome, t)) :
    (∃ error, outcome = .error error ∧ t = s) ∨
    (∃ old, slot = some old ∧ generation new = generation old ∧ same new old = true ∧
      outcome = .ok (generation new) ∧ t = s) ∨
    ((∀ old, slot = some old → generation old < generation new) ∧
      (slot = none → (generation new).valid = true) ∧
      outcome = .ok (generation new) ∧ t = write s) := by
  cases slot with
  | none =>
    rcases reject_cases called with refused | ⟨valid, called⟩
    · exact .inl ⟨_, refused⟩
    · cases called
      exact .inr (.inr ⟨by simp, fun _ => by simpa using valid, rfl, rfl⟩)
  | some old =>
    rw [storeVersioned, perform_ite] at called
    split at called
    next equal =>
      rcases reject_cases called with refused | ⟨agrees, called⟩
      · exact .inl ⟨_, refused⟩
      · cases called
        exact .inr (.inl ⟨old, rfl, equal, by simpa using agrees, by rw [equal], rfl⟩)
    next different =>
      rcases reject_cases called with refused | ⟨notOlder, called⟩
      · exact .inl ⟨_, refused⟩
      · cases called
        refine .inr (.inr ⟨?_, by simp, rfl, rfl⟩)
        intro stored found
        cases found
        exact lt_of_le_of_ne (not_lt.mp notOlder) (Ne.symm different)

/-- A lenient publication is rejected, or written over a record of at most its
own generation. -/
theorem storeLatest_cases
    (called : perform (storeLatest slot new generation invalid stale write) s = (outcome, t)) :
    (∃ error, outcome = .error error ∧ t = s) ∨
    ((∀ old, slot = some old → ¬generation new < generation old) ∧
      (slot = none → (generation new).valid = true) ∧
      outcome = .ok (generation new) ∧ t = write s) := by
  cases slot with
  | none =>
    rcases reject_cases called with refused | ⟨valid, called⟩
    · exact .inl ⟨_, refused⟩
    · cases called
      exact .inr ⟨by simp, fun _ => by simpa using valid, rfl, rfl⟩
  | some old =>
    rcases reject_cases called with refused | ⟨notOlder, called⟩
    · exact .inl ⟨_, refused⟩
    · cases called
      refine .inr ⟨?_, by simp, rfl, rfl⟩
      intro stored found
      cases found
      exact notOlder

end

end NicRegistry

open NicRegistry

/-- A field that names a stored resource, when it is set. -/
def Optional {tag : Tag} (id : Id tag) (Registered : Id tag → Prop) : Prop :=
  id.valid = true → Registered id

/-- What one call can do. Every constructor carries the checks its call has
passed; only a publication of a NIC leaves a trace when it is refused. -/
inductive Transition (s : NicRegistry) : Call → Except ResidencyError Reply → NicRegistry → Prop where
  | refused (c : Call) (error : ResidencyError) : Transition s c (.error error) s
  | refusedNic (auth : Authority) (rec : NicRecord) (error : ResidencyError)
      (current : s.Authorised auth) :
      Transition s (.mutate auth (.registerNic rec)) (.error error)
        (notePublisher auth.worker rec.id s)
  | registeredWorker (worker : WorkerId) (boot : WorkerBootId)
      (free : ∀ handle, s.workers[worker]? = some handle → handle.boot = boot) :
      Transition s (.registerWorker worker boot) (.ok .done)
        { s with workers := s.workers.insert worker ⟨worker, boot⟩ }
  | ignoredRetirement (worker : WorkerId) (boot : WorkerBootId) (handle : WorkerHandle)
      (found : s.workers[worker]? = some handle) (other : handle.boot ≠ boot) :
      Transition s (.workerRetired worker boot) (.ok .done) s
  | retiredWorker (worker : WorkerId) (boot : WorkerBootId)
      (unopposed : ∀ handle, s.workers[worker]? = some handle → handle.boot = boot) :
      Transition s (.workerRetired worker boot) (.ok .done) (retireWorker worker boot s)
  | restarted (newEpoch : CoordinatorEpoch) (later : s.epoch.value < newEpoch.value) :
      Transition s (.coordinatorRestart newEpoch) (.ok .done) (restart newEpoch s)
  | duplicateNic (auth : Authority) (rec old : NicRecord) (current : s.Authorised auth)
      (valid : rec.id.valid = true) (room : s.nics.size < kMaxNics)
      (stored : s.nics[rec.id]? = some old) (level : rec.generation = old.generation)
      (agrees : nicEqual rec old = true) :
      Transition s (.mutate auth (.registerNic rec)) (.ok (.nic rec.generation))
        (notePublisher auth.worker rec.id s)
  | wroteNic (auth : Authority) (rec : NicRecord) (current : s.Authorised auth)
      (valid : rec.id.valid = true) (room : s.nics.size < kMaxNics)
      (newer : ∀ old, s.nics[rec.id]? = some old → old.generation < rec.generation)
      (first : s.nics[rec.id]? = none → rec.generation.valid = true) :
      Transition s (.mutate auth (.registerNic rec)) (.ok (.nic rec.generation))
        { notePublisher auth.worker rec.id s with
          nics := s.nics.insert rec.id { rec with freshness := 0 } }
  | advancedNic (auth : Authority) (id : NicId) (current : s.Authorised auth) (old : NicRecord)
      (stored : s.nics[id]? = some old) :
      Transition s (.mutate auth (.advanceNicGeneration id)) (.ok .done)
        (invalidateNicDependents id { s with nics := s.nics.modify id NicRecord.advance })
  | duplicateFunction (auth : Authority) (rec old : FunctionRecord) (current : s.Authorised auth)
      (valid : rec.id.valid = true) (parent : rec.parentNic.valid = true)
      (parentKnown : rec.parentNic ∈ s.nics) (room : s.functions.size < kMaxFunctions)
      (stored : s.functions[rec.id]? = some old) (level : rec.generation = old.generation)
      (agrees : functionEqual rec old = true) :
      Transition s (.mutate auth (.registerFunction rec)) (.ok (.function rec.generation)) s
  | wroteFunction (auth : Authority) (rec : FunctionRecord) (current : s.Authorised auth)
      (valid : rec.id.valid = true) (parent : rec.parentNic.valid = true)
      (parentKnown : rec.parentNic ∈ s.nics) (room : s.functions.size < kMaxFunctions)
      (newer : ∀ old, s.functions[rec.id]? = some old → old.generation < rec.generation)
      (first : s.functions[rec.id]? = none → rec.generation.valid = true) :
      Transition s (.mutate auth (.registerFunction rec)) (.ok (.function rec.generation))
        { s with functions := s.functions.insert rec.id rec }
  | advancedFunction (auth : Authority) (id : FunctionId) (current : s.Authorised auth)
      (old : FunctionRecord) (stored : s.functions[id]? = some old) :
      Transition s (.mutate auth (.advanceFunctionGeneration id)) (.ok .done)
        (invalidateFunctionDependents id
          { s with functions := s.functions.modify id FunctionRecord.advance })
  | duplicatePort (auth : Authority) (rec old : PortRecord) (current : s.Authorised auth)
      (valid : rec.id.valid = true) (parent : rec.parentNic.valid = true)
      (parentKnown : rec.parentNic ∈ s.nics)
      (functionKnown : Optional rec.parentFunction (· ∈ s.functions))
      (room : s.ports.size < kMaxPorts)
      (stored : s.ports[rec.id]? = some old) (level : rec.generation = old.generation)
      (agrees : portEqual rec old = true) :
      Transition s (.mutate auth (.registerPort rec)) (.ok (.port rec.generation)) s
  | wrotePort (auth : Authority) (rec : PortRecord) (current : s.Authorised auth)
      (valid : rec.id.valid = true) (parent : rec.parentNic.valid = true)
      (parentKnown : rec.parentNic ∈ s.nics)
      (functionKnown : Optional rec.parentFunction (· ∈ s.functions))
      (room : s.ports.size < kMaxPorts)
      (newer : ∀ old, s.ports[rec.id]? = some old → old.generation < rec.generation)
      (first : s.ports[rec.id]? = none → rec.generation.valid = true) :
      Transition s (.mutate auth (.registerPort rec)) (.ok (.port rec.generation))
        { s with ports := s.ports.insert rec.id rec }
  | duplicateQueue (auth : Authority) (rec old : QueueRecord) (current : s.Authorised auth)
      (valid : rec.id.valid = true) (parentFunction : rec.parentFunction.valid = true)
      (parent : rec.parentNic.valid = true) (functionKnown : rec.parentFunction ∈ s.functions)
      (parentKnown : rec.parentNic ∈ s.nics) (room : s.queues.size < kMaxQueues)
      (stored : s.queues[rec.id]? = some old) (level : rec.generation = old.generation)
      (agrees : queueEqual rec old = true) :
      Transition s (.mutate auth (.registerQueue rec)) (.ok (.queue rec.generation)) s
  | wroteQueue (auth : Authority) (rec : QueueRecord) (current : s.Authorised auth)
      (valid : rec.id.valid = true) (parentFunction : rec.parentFunction.valid = true)
      (parent : rec.parentNic.valid = true) (functionKnown : rec.parentFunction ∈ s.functions)
      (parentKnown : rec.parentNic ∈ s.nics) (room : s.queues.size < kMaxQueues)
      (newer : ∀ old, s.queues[rec.id]? = some old → old.generation < rec.generation)
      (first : s.queues[rec.id]? = none → rec.generation.valid = true) :
      Transition s (.mutate auth (.registerQueue rec)) (.ok (.queue rec.generation))
        { s with queues := s.queues.insert rec.id rec }
  | advancedQueue (auth : Authority) (id : QueueId) (current : s.Authorised auth)
      (old : QueueRecord) (stored : s.queues[id]? = some old) :
      Transition s (.mutate auth (.advanceQueueGeneration id)) (.ok .done)
        (invalidateQueueDependents id { s with queues := s.queues.modify id QueueRecord.advance })
  | setTopology (auth : Authority) (top : TopologySnapshot) (current : s.Authorised auth)
      (notOlder : ∀ old, s.topology = some old → ¬top.generation < old.generation) :
      Transition s (.mutate auth (.setTopology top)) (.ok .done)
        (invalidateTopologyDependents { s with topology := some top })
  | wroteAttachment (auth : Authority) (att : Attachment) (current : s.Authorised auth)
      (valid : att.id.valid = true) (nicValid : att.nic.valid = true) (nicKnown : att.nic ∈ s.nics)
      (functionKnown : Optional att.function (· ∈ s.functions))
      (portKnown : Optional att.port (· ∈ s.ports))
      (queueKnown : Optional att.queue (· ∈ s.queues))
      (room : s.attachments.size < kMaxAttachments)
      (notOlder : ∀ old, s.attachments[att.id]? = some old → ¬att.generation < old.generation)
      (first : s.attachments[att.id]? = none → att.generation.valid = true) :
      Transition s (.mutate auth (.registerAttachment att)) (.ok (.attachment att.generation))
        { s with attachments := s.attachments.insert att.id att }
  | retiredAttachment (auth : Authority) (id : AttachmentId) (current : s.Authorised auth)
      (old : Attachment) (stored : s.attachments[id]? = some old) :
      Transition s (.mutate auth (.retireAttachment id)) (.ok .done)
        { s with attachments := s.attachments.modify id Attachment.revoke }
  | wroteGpu (auth : Authority) (rec : GpuRecord) (current : s.Authorised auth)
      (valid : rec.id.valid = true) (room : s.gpus.size < kMaxGpus)
      (notOlder : ∀ old, s.gpus[rec.id]? = some old → ¬rec.generation < old.generation)
      (first : s.gpus[rec.id]? = none → rec.generation.valid = true) :
      Transition s (.mutate auth (.registerGpu rec)) (.ok .done)
        { s with gpus := s.gpus.insert rec.id rec }
  | wroteResidency (auth : Authority) (rec : ResidencyRecord) (current : s.Authorised auth)
      (valid : rec.id.valid = true) (nicValid : rec.nic.valid = true) (nicKnown : rec.nic ∈ s.nics)
      (functionKnown : Optional rec.function (· ∈ s.functions))
      (portKnown : Optional rec.port (· ∈ s.ports))
      (queueKnown : Optional rec.queue (· ∈ s.queues))
      (room : s.residencies.length < kMaxResidencies)
      (notOlder : ∀ r ∈ s.residencies, r.id = rec.id → ¬rec.generation < r.generation) :
      Transition s (.mutate auth (.publishResidency rec)) (.ok (.residency rec))
        { s with residencies := s.residencies ++ [rec] }
  | retiredResidency (auth : Authority) (id : ResidencyId) (current : s.Authorised auth) (i : Nat)
      (found : s.residencies.findIdx? (·.id = id) = some i) :
      Transition s (.mutate auth (.retireResidency id)) (.ok .done)
        { s with residencies := s.residencies.modify i ResidencyRecord.retire }

namespace NicRegistry
variable {s t : NicRegistry} {auth : Authority}

/-- A throw before any write is a refusal. -/
private theorem refused_of {α : Type} {c : Call} {reply : α → Reply}
    {outcome : Except ResidencyError α} {error : ResidencyError}
    (threw : outcome = .error error ∧ t = s) : Transition s c (outcome.map reply) t := by
  obtain ⟨rfl, rfl⟩ := threw
  exact .refused c error

private theorem optional_of {tag : Tag} {id : Id tag} {Registered : Id tag → Prop}
    (passed : ¬(id.valid = true ∧ ¬Registered id)) : Optional id Registered := by
  intro valid
  by_contra missing
  exact passed ⟨valid, missing⟩

theorem registerNic_transition {rec : NicRecord} {outcome : Except ResidencyError NicGeneration}
    (called : perform (registerNic rec auth) s = (outcome, t)) :
    Transition s (.mutate auth (.registerNic rec)) (outcome.map .nic) t := by
  rcases authority_cases called with refused | ⟨current, called⟩
  · exact refused_of refused
  rw [perform_modify_bind] at called
  rcases reject_cases called with ⟨rfl, rfl⟩ | ⟨valid, called⟩
  · exact .refusedNic auth rec _ current
  rw [perform_get_bind] at called
  rcases reject_cases called with ⟨rfl, rfl⟩ | ⟨room, called⟩
  · exact .refusedNic auth rec _ current
  have valid : rec.id.valid = true := by simpa using valid
  have room : s.nics.size < kMaxNics := not_le.mp room
  rcases storeVersioned_cases called with
    ⟨_, rfl, rfl⟩ | ⟨old, stored, level, agrees, rfl, rfl⟩ | ⟨newer, first, rfl, rfl⟩
  · exact .refusedNic auth rec _ current
  · exact .duplicateNic auth rec old current valid room stored level agrees
  · exact .wroteNic auth rec current valid room newer first

theorem advanceNicGeneration_transition {id : NicId} {outcome : Except ResidencyError Unit}
    (called : perform (advanceNicGeneration id auth) s = (outcome, t)) :
    Transition s (.mutate auth (.advanceNicGeneration id)) (outcome.map fun _ => .done) t := by
  rcases authority_cases called with refused | ⟨current, called⟩
  · exact refused_of refused
  rw [perform_get_bind] at called
  rcases reject_cases called with refused | ⟨present, called⟩
  · exact refused_of refused
  obtain ⟨old, stored⟩ := Option.ne_none_iff_exists'.mp present
  cases called
  exact .advancedNic auth id current old stored

theorem registerFunction_transition {rec : FunctionRecord}
    {outcome : Except ResidencyError FunctionGeneration}
    (called : perform (registerFunction rec auth) s = (outcome, t)) :
    Transition s (.mutate auth (.registerFunction rec)) (outcome.map .function) t := by
  rcases authority_cases called with refused | ⟨current, called⟩
  · exact refused_of refused
  rcases reject_cases called with refused | ⟨valid, called⟩
  · exact refused_of refused
  rw [perform_get_bind] at called
  rcases reject_cases called with refused | ⟨parentKnown, called⟩
  · exact refused_of refused
  rcases reject_cases called with refused | ⟨room, called⟩
  · exact refused_of refused
  simp only [not_or, Decidable.not_not, not_le] at valid parentKnown room
  rcases storeVersioned_cases called with
    ⟨_, refused⟩ | ⟨old, stored, level, agrees, rfl, rfl⟩ | ⟨newer, first, rfl, rfl⟩
  · exact refused_of refused
  · exact .duplicateFunction auth rec old current valid.1 valid.2 parentKnown room stored level agrees
  · exact .wroteFunction auth rec current valid.1 valid.2 parentKnown room newer first

theorem advanceFunctionGeneration_transition {id : FunctionId}
    {outcome : Except ResidencyError Unit}
    (called : perform (advanceFunctionGeneration id auth) s = (outcome, t)) :
    Transition s (.mutate auth (.advanceFunctionGeneration id)) (outcome.map fun _ => .done) t := by
  rcases authority_cases called with refused | ⟨current, called⟩
  · exact refused_of refused
  rw [perform_get_bind] at called
  rcases reject_cases called with refused | ⟨present, called⟩
  · exact refused_of refused
  obtain ⟨old, stored⟩ := Option.ne_none_iff_exists'.mp present
  cases called
  exact .advancedFunction auth id current old stored

theorem registerPort_transition {rec : PortRecord} {outcome : Except ResidencyError PortGeneration}
    (called : perform (registerPort rec auth) s = (outcome, t)) :
    Transition s (.mutate auth (.registerPort rec)) (outcome.map .port) t := by
  rcases authority_cases called with refused | ⟨current, called⟩
  · exact refused_of refused
  rcases reject_cases called with refused | ⟨valid, called⟩
  · exact refused_of refused
  rw [perform_get_bind] at called
  rcases reject_cases called with refused | ⟨parentKnown, called⟩
  · exact refused_of refused
  rcases reject_cases called with refused | ⟨functionKnown, called⟩
  · exact refused_of refused
  rcases reject_cases called with refused | ⟨room, called⟩
  · exact refused_of refused
  simp only [not_or, Decidable.not_not, not_le] at valid parentKnown room
  have functionKnown := optional_of functionKnown
  rcases storeVersioned_cases called with
    ⟨_, refused⟩ | ⟨old, stored, level, agrees, rfl, rfl⟩ | ⟨newer, first, rfl, rfl⟩
  · exact refused_of refused
  · exact .duplicatePort auth rec old current valid.1 valid.2 parentKnown functionKnown room stored
      level agrees
  · exact .wrotePort auth rec current valid.1 valid.2 parentKnown functionKnown room newer first

theorem registerQueue_transition {rec : QueueRecord}
    {outcome : Except ResidencyError QueueGeneration}
    (called : perform (registerQueue rec auth) s = (outcome, t)) :
    Transition s (.mutate auth (.registerQueue rec)) (outcome.map .queue) t := by
  rcases authority_cases called with refused | ⟨current, called⟩
  · exact refused_of refused
  rcases reject_cases called with refused | ⟨valid, called⟩
  · exact refused_of refused
  rw [perform_get_bind] at called
  rcases reject_cases called with refused | ⟨functionKnown, called⟩
  · exact refused_of refused
  rcases reject_cases called with refused | ⟨parentKnown, called⟩
  · exact refused_of refused
  rcases reject_cases called with refused | ⟨room, called⟩
  · exact refused_of refused
  simp only [not_or, Decidable.not_not, not_le] at valid functionKnown parentKnown room
  rcases storeVersioned_cases called with
    ⟨_, refused⟩ | ⟨old, stored, level, agrees, rfl, rfl⟩ | ⟨newer, first, rfl, rfl⟩
  · exact refused_of refused
  · exact .duplicateQueue auth rec old current valid.1 valid.2.1 valid.2.2 functionKnown parentKnown
      room stored level agrees
  · exact .wroteQueue auth rec current valid.1 valid.2.1 valid.2.2 functionKnown parentKnown room
      newer first

theorem advanceQueueGeneration_transition {id : QueueId} {outcome : Except ResidencyError Unit}
    (called : perform (advanceQueueGeneration id auth) s = (outcome, t)) :
    Transition s (.mutate auth (.advanceQueueGeneration id)) (outcome.map fun _ => .done) t := by
  rcases authority_cases called with refused | ⟨current, called⟩
  · exact refused_of refused
  rw [perform_get_bind] at called
  rcases reject_cases called with refused | ⟨present, called⟩
  · exact refused_of refused
  obtain ⟨old, stored⟩ := Option.ne_none_iff_exists'.mp present
  cases called
  exact .advancedQueue auth id current old stored

theorem setTopology_transition {top : TopologySnapshot} {outcome : Except ResidencyError Unit}
    (called : perform (setTopology top auth) s = (outcome, t)) :
    Transition s (.mutate auth (.setTopology top)) (outcome.map fun _ => .done) t := by
  rcases authority_cases called with refused | ⟨current, called⟩
  · exact refused_of refused
  rw [perform_get_bind] at called
  rcases reject_cases called with refused | ⟨notOlder, called⟩
  · exact refused_of refused
  cases called
  exact .setTopology auth top current (fun old stored older => notOlder ⟨old, stored, older⟩)

theorem registerAttachment_transition {att : Attachment}
    {outcome : Except ResidencyError AttachmentGeneration}
    (called : perform (registerAttachment att auth) s = (outcome, t)) :
    Transition s (.mutate auth (.registerAttachment att)) (outcome.map .attachment) t := by
  rcases authority_cases called with refused | ⟨current, called⟩
  · exact refused_of refused
  rcases reject_cases called with refused | ⟨valid, called⟩
  · exact refused_of refused
  rw [perform_get_bind] at called
  rcases reject_cases called with refused | ⟨nicKnown, called⟩
  · exact refused_of refused
  rcases reject_cases called with refused | ⟨functionKnown, called⟩
  · exact refused_of refused
  rcases reject_cases called with refused | ⟨portKnown, called⟩
  · exact refused_of refused
  rcases reject_cases called with refused | ⟨queueKnown, called⟩
  · exact refused_of refused
  rcases reject_cases called with refused | ⟨room, called⟩
  · exact refused_of refused
  simp only [not_or, Decidable.not_not, not_le] at valid nicKnown room
  rcases storeLatest_cases called with ⟨_, refused⟩ | ⟨notOlder, first, rfl, rfl⟩
  · exact refused_of refused
  · exact .wroteAttachment auth att current valid.1 valid.2 nicKnown (optional_of functionKnown)
      (optional_of portKnown) (optional_of queueKnown) room notOlder first

theorem retireAttachment_transition {id : AttachmentId} {outcome : Except ResidencyError Unit}
    (called : perform (retireAttachment id auth) s = (outcome, t)) :
    Transition s (.mutate auth (.retireAttachment id)) (outcome.map fun _ => .done) t := by
  rcases authority_cases called with refused | ⟨current, called⟩
  · exact refused_of refused
  rw [perform_get_bind] at called
  rcases reject_cases called with refused | ⟨present, called⟩
  · exact refused_of refused
  obtain ⟨old, stored⟩ := Option.ne_none_iff_exists'.mp present
  cases called
  exact .retiredAttachment auth id current old stored

theorem registerGpu_transition {rec : GpuRecord} {outcome : Except ResidencyError Unit}
    (called : perform (registerGpu rec auth) s = (outcome, t)) :
    Transition s (.mutate auth (.registerGpu rec)) (outcome.map fun _ => .done) t := by
  rcases authority_cases called with refused | ⟨current, called⟩
  · exact refused_of refused
  rcases reject_cases called with refused | ⟨valid, called⟩
  · exact refused_of refused
  rw [perform_get_bind] at called
  rcases reject_cases called with refused | ⟨room, called⟩
  · exact refused_of refused
  simp only [Decidable.not_not, not_le] at valid room
  obtain ⟨stored, ran, rfl⟩ := map_cases called
  rcases storeLatest_cases ran with ⟨_, rfl, rfl⟩ | ⟨notOlder, first, rfl, rfl⟩
  · exact .refused _ _
  · exact .wroteGpu auth rec current valid room notOlder first

theorem publishResidency_transition {rec : ResidencyRecord}
    {outcome : Except ResidencyError ResidencyRecord}
    (called : perform (publishResidency rec auth) s = (outcome, t)) :
    Transition s (.mutate auth (.publishResidency rec)) (outcome.map .residency) t := by
  rcases authority_cases called with refused | ⟨current, called⟩
  · exact refused_of refused
  rcases reject_cases called with refused | ⟨valid, called⟩
  · exact refused_of refused
  rw [perform_get_bind] at called
  rcases reject_cases called with refused | ⟨nicKnown, called⟩
  · exact refused_of refused
  rcases reject_cases called with refused | ⟨functionKnown, called⟩
  · exact refused_of refused
  rcases reject_cases called with refused | ⟨portKnown, called⟩
  · exact refused_of refused
  rcases reject_cases called with refused | ⟨queueKnown, called⟩
  · exact refused_of refused
  rcases reject_cases called with refused | ⟨room, called⟩
  · exact refused_of refused
  rcases reject_cases called with refused | ⟨notOlder, called⟩
  · exact refused_of refused
  simp only [not_or, Decidable.not_not, not_le] at valid nicKnown room
  cases called
  exact .wroteResidency auth rec current valid.1 valid.2 nicKnown (optional_of functionKnown)
    (optional_of portKnown) (optional_of queueKnown) room
    (fun r member same older => notOlder ⟨r, member, same, older⟩)

theorem retireResidency_transition {id : ResidencyId} {outcome : Except ResidencyError Unit}
    (called : perform (retireResidency id auth) s = (outcome, t)) :
    Transition s (.mutate auth (.retireResidency id)) (outcome.map fun _ => .done) t := by
  rcases authority_cases called with refused | ⟨current, called⟩
  · exact refused_of refused
  rw [perform_get_bind] at called
  cases found : s.residencies.findIdx? (·.id = id) with
  | none =>
    rw [found] at called
    cases called
    exact .refused _ _
  | some i =>
    rw [found] at called
    cases called
    exact .retiredResidency auth id current i found

theorem registerWorker_transition {worker : WorkerId} {boot : WorkerBootId}
    {outcome : Except ResidencyError Unit}
    (called : perform (registerWorker worker boot) s = (outcome, t)) :
    Transition s (.registerWorker worker boot) (outcome.map fun _ => .done) t := by
  rw [registerWorker, perform_get_bind] at called
  rcases reject_cases called with refused | ⟨unopposed, called⟩
  · exact refused_of refused
  cases called
  refine .registeredWorker worker boot (fun handle found => ?_)
  by_contra other
  exact unopposed ⟨handle, found, other⟩

theorem workerRetired_transition {worker : WorkerId} {boot : WorkerBootId}
    {outcome : Except ResidencyError Unit}
    (called : perform (workerRetired worker boot) s = (outcome, t)) :
    Transition s (.workerRetired worker boot) (outcome.map fun _ => .done) t := by
  rw [workerRetired, perform_get_bind, perform_ite] at called
  split at called
  next opposed =>
    obtain ⟨handle, found, other⟩ := opposed
    cases called
    exact .ignoredRetirement worker boot handle found other
  next unopposed =>
    cases called
    refine .retiredWorker worker boot (fun handle found => ?_)
    by_contra other
    exact unopposed ⟨handle, found, other⟩

theorem coordinatorRestart_transition {newEpoch : CoordinatorEpoch}
    {outcome : Except ResidencyError Unit}
    (called : perform (coordinatorRestart newEpoch) s = (outcome, t)) :
    Transition s (.coordinatorRestart newEpoch) (outcome.map fun _ => .done) t := by
  rw [coordinatorRestart, perform_get_bind] at called
  rcases reject_cases called with refused | ⟨later, called⟩
  · exact refused_of refused
  cases called
  exact .restarted newEpoch (by simpa using later)

private theorem of_map {α : Type} {c : Call} {method : RegistryM α} {reply : α → Reply}
    {outcome : Except ResidencyError Reply}
    (called : perform (reply <$> method) s = (outcome, t))
    (transition : ∀ {first}, perform method s = (first, t) → Transition s c (first.map reply) t) :
    Transition s c outcome t := by
  obtain ⟨first, ran, rfl⟩ := map_cases called
  exact transition ran

/-- Every call is one of the transitions. -/
theorem step_transition {c : Call} {outcome : Except ResidencyError Reply}
    (called : s.step c = (outcome, t)) : Transition s c outcome t := by
  cases c with
  | registerWorker => exact of_map called registerWorker_transition
  | workerRetired => exact of_map called workerRetired_transition
  | coordinatorRestart => exact of_map called coordinatorRestart_transition
  | mutate auth mutation =>
    cases mutation with
    | registerNic => exact of_map called registerNic_transition
    | advanceNicGeneration => exact of_map called advanceNicGeneration_transition
    | registerFunction => exact of_map called registerFunction_transition
    | advanceFunctionGeneration => exact of_map called advanceFunctionGeneration_transition
    | registerPort => exact of_map called registerPort_transition
    | registerQueue => exact of_map called registerQueue_transition
    | advanceQueueGeneration => exact of_map called advanceQueueGeneration_transition
    | setTopology => exact of_map called setTopology_transition
    | registerAttachment => exact of_map called registerAttachment_transition
    | retireAttachment => exact of_map called retireAttachment_transition
    | registerGpu => exact of_map called registerGpu_transition
    | publishResidency => exact of_map called publishResidency_transition
    | retireResidency => exact of_map called retireResidency_transition

end NicRegistry

end NicResidency

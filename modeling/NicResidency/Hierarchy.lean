import NicResidency.Library.LinkedStore
import NicResidency.References

/-!
The resource hierarchy. Functions, ports, queues, attachments and residency records each
repeat the NIC they belong to. A publication is checked for references to nothing, and not
against what the records behind its references say.
-/

namespace NicResidency.Hierarchy
open StateMachine VersionedSlot NicRegistry LinkedStore References

/-- The function, port and queue, where they are set, belong to the NIC, and the queue to
the function. -/
structure BelongsTo (s : NicRegistry) (nic : NicId) (function : FunctionId) (port : PortId)
    (queue : QueueId) : Prop where
  functions : function.valid = true → ∃ f, s.functions[function]? = some f ∧ f.parentNic = nic
  ports : port.valid = true → ∃ p, s.ports[port]? = some p ∧ p.parentNic = nic
  queues : queue.valid = true → ∃ q, s.queues[queue]? = some q ∧ q.parentNic = nic ∧
    (function.valid = true → q.parentFunction = function)

/-- Everything that names several resources names such as belong together. -/
structure HierarchyCoherent (s : NicRegistry) : Prop where
  queues : ∀ (id : QueueId) q, s.queues[id]? = some q →
    ∃ f, s.functions[q.parentFunction]? = some f ∧ f.parentNic = q.parentNic
  ports : ∀ (id : PortId) p, s.ports[id]? = some p → p.parentFunction.valid = true →
    ∃ f, s.functions[p.parentFunction]? = some f ∧ f.parentNic = p.parentNic
  attachments : ∀ (id : AttachmentId) a, s.attachments[id]? = some a →
    BelongsTo s a.nic a.function a.port a.queue
  residencies : ∀ (position : Nat) r, s.residencies[position]? = some r →
    BelongsTo s r.nic r.function r.port r.queue

/-- The GPUs that attachments and residency records name are registered. -/
structure GpusRegistered (s : NicRegistry) : Prop where
  attachments : ∀ (id : AttachmentId) a, s.attachments[id]? = some a → Optional a.gpu (· ∈ s.gpus)
  residencies : ∀ (position : Nat) r, s.residencies[position]? = some r →
    Optional r.targetGpu (· ∈ s.gpus)

/-! The registry as a store of links. -/

inductive Key where
  | function (id : FunctionId)
  | port (id : PortId)
  | queue (id : QueueId)
  | attachment (id : AttachmentId)
  | residency (position : Nat)
  deriving DecidableEq

/-- What a record says about its place in the hierarchy. -/
structure Entry where
  nic : NicId
  function : Option FunctionId := none
  port : Option PortId := none
  queue : Option QueueId := none

/-- A zero id is not set. -/
def whenSet {tag : Tag} (id : Id tag) : Option (Id tag) := if id.valid then some id else none

theorem whenSet_eq_some_iff {tag : Tag} {id other : Id tag} :
    whenSet id = some other ↔ id.valid = true ∧ id = other := by
  unfold whenSet
  split <;> simp [*]

theorem forall_whenSet_iff {tag : Tag} {id : Id tag} {condition : Id tag → Prop} :
    (∀ other, whenSet id = some other → condition other) ↔ (id.valid = true → condition id) := by
  simp only [whenSet_eq_some_iff, and_imp]
  exact ⟨fun holds set => holds id set rfl, fun holds _ set same => same ▸ holds set⟩

def functionEntry (f : FunctionRecord) : Entry := { nic := f.parentNic }

def portEntry (p : PortRecord) : Entry :=
  { nic := p.parentNic, function := whenSet p.parentFunction }

def queueEntry (q : QueueRecord) : Entry :=
  { nic := q.parentNic, function := some q.parentFunction }

def attachmentEntry (a : Attachment) : Entry :=
  { nic := a.nic, function := whenSet a.function, port := whenSet a.port, queue := whenSet a.queue }

def residencyEntry (r : ResidencyRecord) : Entry :=
  { nic := r.nic, function := whenSet r.function, port := whenSet r.port, queue := whenSet r.queue }

/-! A duplicate of a stored record has its entry. -/

theorem functionEntry_of_equal {a b : FunctionRecord} (same : functionEqual a b = true) :
    functionEntry a = functionEntry b := by
  simp only [functionEqual, Bool.and_eq_true, beq_iff_eq] at same
  simp only [functionEntry, same]

theorem portEntry_of_equal {a b : PortRecord} (same : portEqual a b = true) :
    portEntry a = portEntry b := by
  simp only [portEqual, Bool.and_eq_true, beq_iff_eq] at same
  simp only [portEntry, same]

theorem queueEntry_of_equal {a b : QueueRecord} (same : queueEqual a b = true) :
    queueEntry a = queueEntry b := by
  simp only [queueEqual, Bool.and_eq_true, beq_iff_eq] at same
  simp only [queueEntry, same]

def links (s : NicRegistry) : Key → Option Entry
  | .function id => s.functions[id]?.map functionEntry
  | .port id => s.ports[id]?.map portEntry
  | .queue id => s.queues[id]?.map queueEntry
  | .attachment id => s.attachments[id]?.map attachmentEntry
  | .residency position => s.residencies[position]?.map residencyEntry

def refersTo (entry : Entry) : Key → Prop
  | .function id => entry.function = some id
  | .port id => entry.port = some id
  | .queue id => entry.queue = some id
  | .attachment _ | .residency _ => False

/-- The two entries name the same NIC, and if the second one is that of a queue also the
same function. -/
def agrees (entry : Entry) (ref : Key) (target : Entry) : Prop :=
  target.nic = entry.nic ∧ ∀ id, ref = .queue id → ∀ function ∈ entry.function,
    target.function = some function

/-- The key and the entry that a publication writes. -/
def declared (s : NicRegistry) : Mutation → Option (Key × Entry)
  | .registerFunction rec => some (.function rec.id, functionEntry rec)
  | .registerPort rec => some (.port rec.id, portEntry rec)
  | .registerQueue rec => some (.queue rec.id, queueEntry rec)
  | .registerAttachment att => some (.attachment att.id, attachmentEntry att)
  | .publishResidency rec => some (.residency s.residencies.length, residencyEntry rec)
  | _ => none

/-- The event accepts a publication of the entry. -/
def Declares (event : RegistryEvent) (key : Key) (entry : Entry) : Prop :=
  ∃ mutation, Accepts event mutation ∧ declared event.pre mutation = some (key, entry)

/-- What is published fits to the records stored before it. -/
def PublishesFitting (event : RegistryEvent) : Prop :=
  ∀ key entry, Declares event key entry → Fits refersTo agrees (links event.pre) key entry

/-- The targets of an entry, reference by reference. -/
theorem targets_iff {s : NicRegistry} {entry : Entry} :
    (∀ ref, refersTo entry ref → ∃ target, links s ref = some target ∧ agrees entry ref target) ↔
      (∀ id, entry.function = some id → ∃ f, s.functions[id]? = some f ∧ f.parentNic = entry.nic) ∧
      (∀ id, entry.port = some id → ∃ p, s.ports[id]? = some p ∧ p.parentNic = entry.nic) ∧
      ∀ id, entry.queue = some id → ∃ q, s.queues[id]? = some q ∧ q.parentNic = entry.nic ∧
        ∀ function ∈ entry.function, q.parentFunction = function := by
  constructor
  · intro found
    refine ⟨?_, ?_, ?_⟩
    · intro id named
      obtain ⟨target, stored, same, -⟩ := found (.function id) named
      obtain ⟨f, held, rfl⟩ := Option.map_eq_some_iff.mp stored
      exact ⟨f, held, same⟩
    · intro id named
      obtain ⟨target, stored, same, -⟩ := found (.port id) named
      obtain ⟨p, held, rfl⟩ := Option.map_eq_some_iff.mp stored
      exact ⟨p, held, same⟩
    · intro id named
      obtain ⟨target, stored, same, within⟩ := found (.queue id) named
      obtain ⟨q, held, rfl⟩ := Option.map_eq_some_iff.mp stored
      exact ⟨q, held, same, fun function set => Option.some.inj (within id rfl function set)⟩
  · intro found ref named
    obtain ⟨functions, ports, queues⟩ := found
    cases ref with
    | function id =>
      obtain ⟨f, stored, same⟩ := functions id named
      exact ⟨functionEntry f, by simp [links, stored], same, fun _ other => nomatch other⟩
    | port id =>
      obtain ⟨p, stored, same⟩ := ports id named
      exact ⟨portEntry p, by simp [links, stored], same, fun _ other => nomatch other⟩
    | queue id =>
      obtain ⟨q, stored, same, within⟩ := queues id named
      exact ⟨queueEntry q, by simp [links, stored], same,
        fun _ _ function set => congrArg some (within function set)⟩
    | attachment | residency => exact named.elim

/-- The parts of a binding, as the targets of its entry. -/
theorem belongsTo_iff {s : NicRegistry} {nic : NicId} {function : FunctionId} {port : PortId}
    {queue : QueueId} : BelongsTo s nic function port queue ↔
      (∀ id, whenSet function = some id → ∃ f, s.functions[id]? = some f ∧ f.parentNic = nic) ∧
      (∀ id, whenSet port = some id → ∃ p, s.ports[id]? = some p ∧ p.parentNic = nic) ∧
      ∀ id, whenSet queue = some id → ∃ q, s.queues[id]? = some q ∧ q.parentNic = nic ∧
        ∀ parent ∈ whenSet function, q.parentFunction = parent := by
  simp only [Option.mem_def, forall_whenSet_iff]
  constructor
  · intro belongs
    exact ⟨belongs.functions, belongs.ports, belongs.queues⟩
  · intro parts
    exact ⟨parts.1, parts.2.1, parts.2.2⟩

theorem hierarchyCoherent_iff {s : NicRegistry} :
    HierarchyCoherent s ↔ Coherent refersTo agrees (links s) := by
  constructor
  · intro coherent key entry stored
    rw [targets_iff]
    cases key with
    | function id =>
      obtain ⟨f, -, rfl⟩ := Option.map_eq_some_iff.mp stored
      exact ⟨fun _ unset => (nomatch unset), fun _ unset => (nomatch unset), fun _ unset => (nomatch unset)⟩
    | port id =>
      obtain ⟨p, held, rfl⟩ := Option.map_eq_some_iff.mp stored
      refine ⟨?_, fun _ unset => (nomatch unset), fun _ unset => (nomatch unset)⟩
      intro function named
      obtain ⟨set, rfl⟩ := whenSet_eq_some_iff.mp named
      exact coherent.ports id p held set
    | queue id =>
      obtain ⟨q, held, rfl⟩ := Option.map_eq_some_iff.mp stored
      refine ⟨?_, fun _ unset => (nomatch unset), fun _ unset => (nomatch unset)⟩
      intro function named
      cases named
      exact coherent.queues id q held
    | attachment id =>
      obtain ⟨a, held, rfl⟩ := Option.map_eq_some_iff.mp stored
      exact belongsTo_iff.mp (coherent.attachments id a held)
    | residency position =>
      obtain ⟨r, held, rfl⟩ := Option.map_eq_some_iff.mp stored
      exact belongsTo_iff.mp (coherent.residencies position r held)
  · intro coherent
    have targets (key : Key) (entry : Entry) (stored : links s key = some entry) :=
      targets_iff.mp (coherent key entry stored)
    exact {
      queues := fun id q stored =>
        (targets (.queue id) (queueEntry q) (by simp [links, stored])).1 _ rfl
      ports := fun id p stored set =>
        (targets (.port id) (portEntry p) (by simp [links, stored])).1 _
          (whenSet_eq_some_iff.mpr ⟨set, rfl⟩)
      attachments := fun id a stored =>
        belongsTo_iff.mpr (targets (.attachment id) (attachmentEntry a) (by simp [links, stored]))
      residencies := fun position r stored =>
        belongsTo_iff.mpr (targets (.residency position) (residencyEntry r) (by simp [links, stored])) }

section
variable {s t : NicRegistry} {c : Call} {outcome : Except ResidencyError Reply}

/-- An event has one call, so it declares one entry. -/
theorem declares_unique {event : RegistryEvent} {key other : Key} {entry otherEntry : Entry}
    (first : Declares event key entry) (second : Declares event other otherEntry) :
    other = key ∧ otherEntry = entry := by
  obtain ⟨mutation, ⟨auth, called, -⟩, named⟩ := first
  obtain ⟨mutation', ⟨auth', called', -⟩, named'⟩ := second
  rw [called] at called'
  injection called' with _ same
  rw [← same, named] at named'
  exact Prod.mk.inj (Option.some.inj named'.symm)

/-- A declared entry is what the registry then holds, also when the publication was a
duplicate of the stored record. -/
theorem declared_stored (transition : Transition s c outcome t) {key : Key} {entry : Entry}
    (declares : Declares ⟨s, c, outcome, t⟩ key entry) : links t key = some entry := by
  obtain ⟨mutation, ⟨auth, rfl, -, ok⟩, named⟩ := declares
  cases mutation with
  | registerFunction rec =>
    cases named
    cases transition with
    | refused => cases ok
    | duplicateFunction _ _ old _ _ _ _ _ stored _ same =>
      rw [links, stored, Option.map_some, functionEntry_of_equal same]
    | wroteFunction => simp [links]
  | registerPort rec =>
    cases named
    cases transition with
    | refused => cases ok
    | duplicatePort _ _ old _ _ _ _ _ _ stored _ same =>
      rw [links, stored, Option.map_some, portEntry_of_equal same]
    | wrotePort => simp [links]
  | registerQueue rec =>
    cases named
    cases transition with
    | refused => cases ok
    | duplicateQueue _ _ old _ _ _ _ _ _ _ stored _ same =>
      rw [links, stored, Option.map_some, queueEntry_of_equal same]
    | wroteQueue => simp [links]
  | registerAttachment att =>
    cases named
    cases transition with
    | refused => cases ok
    | wroteAttachment => simp [links]
  | publishResidency rec =>
    cases named
    cases transition with
    | refused => cases ok
    | wroteResidency => simp [links]
  | _ => cases named

/-- An entry changes by a declaration only: what the registry does to a record on its own
leaves its place in the hierarchy as it is. -/
theorem links_cases (transition : Transition s c outcome t) (key : Key) :
    links t key = links s key ∨ ∃ entry, Declares ⟨s, c, outcome, t⟩ key entry := by
  cases key with
  | function id =>
    refine ((function_change transition id).view_cases functionEntry ?_).imp_right ?_
    · intro old new inPlace
      obtain rfl | ⟨epoch, rfl⟩ | ⟨-, rfl⟩ := inPlace <;> rfl
    · intro written
      obtain ⟨new, ⟨accepts, rfl⟩, -⟩ := written
      exact ⟨functionEntry new, _, accepts, rfl⟩
  | port id =>
    refine ((port_change transition id).view_cases portEntry (fun _ _ never => never.elim)).imp_right ?_
    intro written
    obtain ⟨new, ⟨accepts, rfl⟩, -⟩ := written
    exact ⟨portEntry new, _, accepts, rfl⟩
  | queue id =>
    refine ((queue_change transition id).view_cases queueEntry ?_).imp_right ?_
    · intro old new inPlace
      obtain rfl | ⟨-, rfl⟩ := inPlace <;> rfl
    · intro written
      obtain ⟨new, ⟨accepts, rfl⟩, -⟩ := written
      exact ⟨queueEntry new, _, accepts, rfl⟩
  | attachment id =>
    refine ((attachment_change transition id).view_cases attachmentEntry ?_).imp_right ?_
    · intro old new demoted
      cases demoted <;> rfl
    · intro written
      obtain ⟨new, ⟨accepts, rfl⟩, -⟩ := written
      exact ⟨attachmentEntry new, _, accepts, rfl⟩
  | residency position =>
    refine ((residency_change transition position).view_cases residencyEntry ?_).imp_right ?_
    · intro old new demoted
      cases demoted <;> rfl
    · intro written
      obtain ⟨new, ⟨accepts, rfl, -⟩, -⟩ := written
      exact ⟨residencyEntry new, _, accepts, rfl⟩

/-- An accepted publication updates the store of links at one key. -/
theorem links_declared (transition : Transition s c outcome t) {key : Key} {entry : Entry}
    (declares : Declares ⟨s, c, outcome, t⟩ key entry) :
    links t = Function.update (links s) key (some entry) := by
  funext other
  by_cases here : other = key
  · subst here
    rw [Function.update_self, declared_stored transition declares]
  · rw [Function.update_of_ne here]
    rcases links_cases transition other with same | ⟨entry', declares'⟩
    · exact same
    · exact absurd (declares_unique declares declares').1 here

theorem loopless_of_declares {event : RegistryEvent} {key : Key} {entry : Entry}
    (declares : Declares event key entry) : ¬refersTo entry key := by
  obtain ⟨mutation, -, named⟩ := declares
  cases mutation <;> cases named <;> exact fun loop => nomatch loop

/-- A step keeps the hierarchy coherent exactly when what it publishes fits. -/
theorem coherent_transition_iff (transition : Transition s c outcome t)
    (coherent : HierarchyCoherent s) :
    HierarchyCoherent t ↔ PublishesFitting ⟨s, c, outcome, t⟩ := by
  rw [hierarchyCoherent_iff] at coherent ⊢
  by_cases silent : ∃ key entry, Declares ⟨s, c, outcome, t⟩ key entry
  · obtain ⟨key, entry, declares⟩ := silent
    rw [links_declared transition declares,
      coherent_update_iff coherent (loopless_of_declares declares)]
    constructor
    · intro fits other otherEntry second
      obtain ⟨rfl, rfl⟩ := declares_unique declares second
      exact fits
    · exact fun fitting => fitting key entry declares
  · have same : links t = links s := by
      funext key
      exact (links_cases transition key).resolve_right (fun found => silent ⟨key, found⟩)
    rw [same]
    exact iff_of_true coherent (fun key entry declares => absurd ⟨key, entry, declares⟩ silent)

end

/-- The hierarchy is coherent in every state of a run exactly when every publication that
the run accepts fits to the records stored before it. -/
theorem coherent_throughout_iff (epoch : CoordinatorEpoch) (calls : List Call) :
    Throughout step HierarchyCoherent { epoch } calls ↔
      ∀ event ∈ NicRegistry.history { epoch } calls, PublishesFitting event := by
  have nothing : HierarchyCoherent { epoch } := by
    constructor <;> simp
  exact throughout_iff PublishesFitting
    (fun s c coherent => coherent_transition_iff (at_transition s c) coherent) nothing calls

/-- A queue of a function under one NIC is published under another NIC. -/
def strayQueueRun : List Call :=
  let auth : Authority := ⟨⟨1⟩, ⟨7⟩, ⟨1⟩⟩
  [.registerWorker ⟨7⟩ ⟨1⟩,
    .mutate auth (.registerNic { id := ⟨10⟩, generation := ⟨1⟩ }),
    .mutate auth (.registerNic { id := ⟨11⟩, generation := ⟨1⟩ }),
    .mutate auth (.registerFunction { id := ⟨20⟩, generation := ⟨1⟩, parentNic := ⟨10⟩ }),
    .mutate auth (.registerQueue
      { id := ⟨40⟩, generation := ⟨1⟩, parentFunction := ⟨20⟩, parentNic := ⟨11⟩ })]

theorem strayQueueRun_incoherent :
    ¬Throughout step (fun s => HierarchyCoherent s ∧ GpusRegistered s) { epoch := ⟨1⟩ } strayQueueRun := by
  intro coherent
  obtain ⟨coherent, -⟩ := coherent strayQueueRun [] rfl
  obtain ⟨f, stored, same⟩ := coherent.queues ⟨40⟩
    { id := ⟨40⟩, generation := ⟨1⟩, parentFunction := ⟨20⟩, parentNic := ⟨11⟩ } (by decide +kernel)
  have parent : ((NicRegistry.after { epoch := ⟨1⟩ } strayQueueRun).functions[
      (⟨20⟩ : FunctionId)]?).map (·.parentNic) = some ⟨10⟩ := by decide +kernel
  rw [NicRegistry.after, stored, Option.map_some, same] at parent
  cases parent

end NicResidency.Hierarchy

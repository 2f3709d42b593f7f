import NicResidency.AcceptedCalls
import NicResidency.Contents
import NicResidency.Library.OrderedMap
import NicResidency.Rejections

/-!
The same publication twice. A NIC, function, port or queue meets itself as a duplicate, an
attachment or a GPU overwrites itself, but a residency record is appended once more.
-/

namespace NicResidency.Republication
open NicRegistry Contents OrderedMap

/-- The seven calls that publish a record. -/
def publishes : Mutation → Bool
  | .registerNic _ | .registerFunction _ | .registerPort _ | .registerQueue _ | .registerAttachment _
  | .registerGpu _ | .publishResidency _ => true
  | .advanceNicGeneration _ | .advanceFunctionGeneration _ | .advanceQueueGeneration _
  | .setTopology _ | .retireAttachment _ | .retireResidency _ => false

def publishesResidency : Mutation → Bool
  | .publishResidency _ => true
  | _ => false

/-- No kind of record is at its limit. -/
structure BelowLimits (s : NicRegistry) : Prop where
  nics : s.nics.size < kMaxNics
  gpus : s.gpus.size < kMaxGpus
  functions : s.functions.size < kMaxFunctions
  ports : s.ports.size < kMaxPorts
  queues : s.queues.size < kMaxQueues
  attachments : s.attachments.size < kMaxAttachments
  residencies : s.residencies.length < kMaxResidencies

section
variable {s t : NicRegistry} {auth : Authority} {reply : Reply}

/-! One record after the other. What the first call has left, the second one meets. -/

/-- A NIC that is stored as published, by a worker that is on record for it. -/
theorem known_nic {rec old : NicRecord} (current : s.Authorised auth) (valid : rec.id.valid = true)
    (room : s.nics.size < kMaxNics) (stored : s.nics[rec.id]? = some old)
    (level : rec.generation = old.generation) (agrees : nicEqual rec old = true)
    (published : rec.id ∈ s.publishedBy auth.worker) :
    Transition s (.mutate auth (.registerNic rec)) (.ok (.nic rec.generation)) s := by
  have again := Transition.duplicateNic auth rec old current valid room stored level agrees
  rwa [Rejections.notePublisher_of_published published] at again

theorem repeat_nic {rec : NicRecord}
    (accepted : Transition s (.mutate auth (.registerNic rec)) (.ok reply) t)
    (room : t.nics.size < kMaxNics) :
    Transition t (.mutate auth (.registerNic rec)) (.ok reply) t := by
  have published := WorkerEvidence.publishedBy_note_self (s := s) auth.worker rec.id
  cases accepted with
  | duplicateNic _ _ old current valid _ stored level agrees =>
    exact known_nic current valid room stored level agrees published
  | wroteNic _ _ current valid =>
    exact known_nic current valid room Std.ExtTreeMap.getElem?_insert_self rfl
      (nicEqual_of_content rfl) published

theorem repeat_function {rec : FunctionRecord}
    (accepted : Transition s (.mutate auth (.registerFunction rec)) (.ok reply) t)
    (room : t.functions.size < kMaxFunctions) :
    Transition t (.mutate auth (.registerFunction rec)) (.ok reply) t := by
  cases accepted with
  | duplicateFunction _ _ old current valid parent parentKnown _ stored level agrees =>
    exact .duplicateFunction auth rec old current valid parent parentKnown room stored level agrees
  | wroteFunction _ _ current valid parent parentKnown =>
    exact .duplicateFunction auth rec rec current valid parent parentKnown room
      Std.ExtTreeMap.getElem?_insert_self rfl (functionEqual_of_content rfl)

theorem repeat_port {rec : PortRecord}
    (accepted : Transition s (.mutate auth (.registerPort rec)) (.ok reply) t)
    (room : t.ports.size < kMaxPorts) :
    Transition t (.mutate auth (.registerPort rec)) (.ok reply) t := by
  cases accepted with
  | duplicatePort _ _ old current valid parent parentKnown functionKnown _ stored level agrees =>
    exact .duplicatePort auth rec old current valid parent parentKnown functionKnown room stored level
      agrees
  | wrotePort _ _ current valid parent parentKnown functionKnown =>
    exact .duplicatePort auth rec rec current valid parent parentKnown functionKnown room
      Std.ExtTreeMap.getElem?_insert_self rfl (portEqual_of_content rfl)

theorem repeat_queue {rec : QueueRecord}
    (accepted : Transition s (.mutate auth (.registerQueue rec)) (.ok reply) t)
    (room : t.queues.size < kMaxQueues) :
    Transition t (.mutate auth (.registerQueue rec)) (.ok reply) t := by
  cases accepted with
  | duplicateQueue _ _ old current valid parentFunction parent functionKnown parentKnown _ stored level
      agrees =>
    exact .duplicateQueue auth rec old current valid parentFunction parent functionKnown parentKnown
      room stored level agrees
  | wroteQueue _ _ current valid parentFunction parent functionKnown parentKnown =>
    exact .duplicateQueue auth rec rec current valid parentFunction parent functionKnown parentKnown
      room Std.ExtTreeMap.getElem?_insert_self rfl (queueEqual_of_content rfl)

/-- A record is not older than itself. -/
theorem notOlder_than_itself {κ α : Type} {tag : Tag} [Ord κ] [Std.TransOrd κ] [Std.LawfulEqOrd κ]
    {map : Std.ExtTreeMap κ α} {key : κ} {new : α} (generation : α → Generation tag) :
    ∀ old, (map.insert key new)[key]? = some old → ¬generation new < generation old := by
  intro old stored
  rw [Std.ExtTreeMap.getElem?_insert_self, Option.some.injEq] at stored
  rw [stored]
  exact lt_irrefl _

theorem repeat_attachment {att : Attachment}
    (accepted : Transition s (.mutate auth (.registerAttachment att)) (.ok reply) t)
    (room : t.attachments.size < kMaxAttachments) :
    Transition t (.mutate auth (.registerAttachment att)) (.ok reply) t := by
  cases accepted with
  | wroteAttachment _ _ current valid nicValid nicKnown functionKnown portKnown queueKnown =>
    have again : Transition { s with attachments := s.attachments.insert att.id att } _ _ _ :=
      .wroteAttachment auth att current valid nicValid nicKnown functionKnown portKnown queueKnown room
        (notOlder_than_itself Attachment.generation) (by simp)
    rwa [insert_insert_same] at again

theorem repeat_gpu {rec : GpuRecord}
    (accepted : Transition s (.mutate auth (.registerGpu rec)) (.ok reply) t)
    (room : t.gpus.size < kMaxGpus) :
    Transition t (.mutate auth (.registerGpu rec)) (.ok reply) t := by
  cases accepted with
  | wroteGpu _ _ current valid =>
    have again : Transition { s with gpus := s.gpus.insert rec.id rec } _ _ _ :=
      .wroteGpu auth rec current valid room (notOlder_than_itself GpuRecord.generation) (by simp)
    rwa [insert_insert_same] at again

/-- An accepted residency record is counted, also when it is there already. -/
theorem residencies_grow {rec : ResidencyRecord}
    (accepted : Transition s (.mutate auth (.publishResidency rec)) (.ok reply) t) :
    t.residencies = s.residencies ++ [rec] := by
  cases accepted with
  | wroteResidency => rfl

/-- An accepted publication that is repeated at once succeeds with the same reply and
changes nothing, exactly when it does not publish a residency record. -/
theorem repeat_unchanged_iff (s t : NicRegistry) (auth : Authority) (mutation : Mutation)
    (reply : Reply) (publication : publishes mutation = true)
    (accepted : s.step (.mutate auth mutation) = (.ok reply, t)) (room : BelowLimits t) :
    t.step (.mutate auth mutation) = (.ok reply, t) ↔ publishesResidency mutation = false := by
  rw [step_ok_iff] at accepted ⊢
  cases mutation with
  | registerNic rec => exact iff_of_true (repeat_nic accepted room.nics) rfl
  | registerFunction rec => exact iff_of_true (repeat_function accepted room.functions) rfl
  | registerPort rec => exact iff_of_true (repeat_port accepted room.ports) rfl
  | registerQueue rec => exact iff_of_true (repeat_queue accepted room.queues) rfl
  | registerAttachment att => exact iff_of_true (repeat_attachment accepted room.attachments) rfl
  | registerGpu rec => exact iff_of_true (repeat_gpu accepted room.gpus) rfl
  | publishResidency rec =>
    refine iff_of_false ?_ (nomatch ·)
    intro again
    have grown := congrArg List.length (residencies_grow again)
    simp at grown
  | advanceNicGeneration | advanceFunctionGeneration | advanceQueueGeneration | setTopology
  | retireAttachment | retireResidency => cases publication

end

/-- A worker publishes a NIC and a residency record of it. -/
def boundRun : List Call :=
  let auth : Authority := ⟨⟨1⟩, ⟨7⟩, ⟨1⟩⟩
  [.registerWorker ⟨7⟩ ⟨1⟩, .mutate auth (.registerNic { id := ⟨10⟩, generation := ⟨1⟩ }),
    .mutate auth (.publishResidency { id := ⟨60⟩, generation := ⟨1⟩, nic := ⟨10⟩ })]

theorem boundRun_repeat_unchanged_iff :
    let auth : Authority := ⟨⟨1⟩, ⟨7⟩, ⟨1⟩⟩
    let nic : Mutation := .registerNic { id := ⟨10⟩, generation := ⟨1⟩ }
    let s := NicRegistry.after { epoch := ⟨1⟩ } (boundRun.take 1)
    let t := (s.step (.mutate auth nic)).2
    t.step (.mutate auth nic) = (.ok (.nic ⟨1⟩), t) ↔ publishesResidency nic = false := by
  intro auth nic s t
  exact repeat_unchanged_iff s t auth nic (.nic ⟨1⟩) rfl rfl
    ⟨by decide +kernel, by decide +kernel, by decide +kernel, by decide +kernel, by decide +kernel,
      by decide +kernel, by decide +kernel⟩

/-- The same residency record is counted twice. -/
theorem boundRun_counted_twice :
    ¬∀ (s t : NicRegistry) (auth : Authority) (mutation : Mutation) (reply : Reply), s.Reachable →
      publishes mutation = true → s.step (.mutate auth mutation) = (.ok reply, t) → BelowLimits t →
        t.step (.mutate auth mutation) = (.ok reply, t) := by
  intro harmless
  let auth : Authority := ⟨⟨1⟩, ⟨7⟩, ⟨1⟩⟩
  let residency : ResidencyRecord := { id := ⟨60⟩, generation := ⟨1⟩, nic := ⟨10⟩ }
  have again := harmless (NicRegistry.after { epoch := ⟨1⟩ } (boundRun.take 2))
    (NicRegistry.after { epoch := ⟨1⟩ } boundRun) auth (.publishResidency residency) (.residency residency)
    ⟨⟨1⟩, _, boundRun.take 2, rfl, rfl⟩ rfl rfl
    ⟨by decide +kernel, by decide +kernel, by decide +kernel, by decide +kernel, by decide +kernel,
      by decide +kernel, by decide +kernel⟩
  have counted := congrArg (fun result => result.2.residencies.length) again
  revert counted
  decide +kernel

end NicResidency.Republication

import NicResidency.Replay

/-!
The topology generation behind attachments and residency records. A new topology demotes
all of them, but a publication is not compared with the topology that is set, so evidence
from an older one is taken when it arrives late.
-/

namespace NicResidency.TopologyBinding
open StateMachine VersionedSlot NicRegistry Replay

/-- The states in which a residency record binds its resources. -/
def residencyBinds : ResidencyState → Bool
  | .available | .resident | .attached | .draining => true
  | .discovered | .absent | .detached | .revalidationRequired | .stale | .failed | .unsupported
  | .retired => false

/-- An attachment that is in force and carries a topology generation carries the one of
the topology. -/
def AttachmentBound (top : TopologySnapshot) (a : Attachment) : Prop :=
  attachmentCurrent a.state = true → a.topologyGeneration.valid = true →
    a.topologyGeneration = top.generation

def ResidencyBound (top : TopologySnapshot) (r : ResidencyRecord) : Prop :=
  residencyBinds r.state = true → r.topologyGeneration.valid = true →
    r.topologyGeneration = top.generation

/-- All stored evidence that is in force belongs to the current topology. -/
structure Bound (s : NicRegistry) : Prop where
  attachments : ∀ top ∈ s.topology, ∀ (id : AttachmentId) a, s.attachments[id]? = some a →
    AttachmentBound top a
  residencies : ∀ top ∈ s.topology, ∀ (position : Nat) r, s.residencies[position]? = some r →
    ResidencyBound top r

/-- What the event publishes belongs to the topology that is set. -/
structure PublishesBound (event : RegistryEvent) : Prop where
  attachment : ∀ att, Accepts event (.registerAttachment att) → ∀ top ∈ event.pre.topology,
    AttachmentBound top att
  residency : ∀ rec, Accepts event (.publishResidency rec) → ∀ top ∈ event.pre.topology,
    ResidencyBound top rec

section
variable {s t : NicRegistry} {c : Call} {outcome : Except ResidencyError Reply}

/-- In-place changes leave nothing in force. -/
theorem attachmentBound_demoted {top : TopologySnapshot} {old new : Attachment}
    (demoted : old.Demoted new) : AttachmentBound top new := by
  intro current
  cases demoted <;> cases current

theorem residencyBound_demoted {top : TopologySnapshot} {old new : ResidencyRecord}
    (demoted : old.Demoted new) : ResidencyBound top new := by
  intro binds
  cases demoted <;> cases binds

/-- A step keeps the topology, or sets a new one and leaves nothing in force. -/
theorem topology_or_bound (transition : Transition s c outcome t) :
    t.topology = s.topology ∨ Bound t := by
  cases transition with
  | setTopology auth top =>
    refine .inr ⟨?_, ?_⟩
    · intro _ _ id a stored
      have stored : (s.attachments.map fun _ a => a.markStale)[id]? = some a := stored
      rw [Std.ExtTreeMap.getElem?_map] at stored
      obtain ⟨old, -, rfl⟩ := Option.map_eq_some_iff.mp stored
      exact attachmentBound_demoted .markStale
    · intro _ _ position r stored
      have stored : (s.residencies.map ResidencyRecord.requireRevalidation)[position]? = some r :=
        stored
      rw [List.getElem?_map] at stored
      obtain ⟨old, -, rfl⟩ := Option.map_eq_some_iff.mp stored
      exact residencyBound_demoted .requireRevalidation
  | _ => exact .inl rfl

theorem accepted_attachment_topology (transition : Transition s c outcome t) {att : Attachment}
    (accepts : Accepts ⟨s, c, outcome, t⟩ (.registerAttachment att)) : t.topology = s.topology := by
  obtain ⟨auth, rfl, -, ok⟩ := accepts
  cases transition with
  | refused => rfl
  | wroteAttachment => rfl

/-- An accepted publication stands at the end of the log, and the topology is kept. -/
theorem accepted_residency_stored (transition : Transition s c outcome t) {rec : ResidencyRecord}
    (accepts : Accepts ⟨s, c, outcome, t⟩ (.publishResidency rec)) :
    t.topology = s.topology ∧ t.residencies[s.residencies.length]? = some rec := by
  obtain ⟨auth, rfl, -, ok⟩ := accepts
  cases transition with
  | refused => cases ok
  | wroteResidency => exact ⟨rfl, List.getElem?_concat_length ..⟩

/-- A step leaves all evidence bound exactly when it publishes none that is not. -/
theorem bound_transition_iff (transition : Transition s c outcome t) (bound : Bound s) :
    Bound t ↔ PublishesBound ⟨s, c, outcome, t⟩ := by
  constructor
  · intro after
    refine ⟨?_, ?_⟩
    · intro att accepts top set
      rw [← accepted_attachment_topology transition accepts] at set
      exact after.attachments top set att.id att (accepted_attachment_stored transition accepts).1
    · intro rec accepts top set
      have ⟨kept, stored⟩ := accepted_residency_stored transition accepts
      rw [← kept] at set
      exact after.residencies top set _ rec stored
  · intro published
    rcases topology_or_bound transition with kept | demoted
    · refine ⟨?_, ?_⟩
      · intro top set id
        rw [kept] at set
        exact (attachment_change transition id).holds_after (AttachmentBound top)
          (bound.attachments top set id)
          (fun att wrote => published.attachment att wrote.1 top set)
          (fun _ _ demoted _ => attachmentBound_demoted demoted)
      · intro top set position
        rw [kept] at set
        exact (residency_change transition position).holds_after (ResidencyBound top)
          (bound.residencies top set position)
          (fun rec wrote => published.residency rec wrote.1 top set)
          (fun _ _ demoted _ => residencyBound_demoted demoted)
    · exact demoted

end

/-- All evidence in force belongs to the current topology, in every state of a run, exactly
when every publication that the run accepts belongs to the topology set at that time. -/
theorem bound_throughout_iff (epoch : CoordinatorEpoch) (calls : List Call) :
    Throughout step Bound { epoch } calls ↔
      ∀ event ∈ NicRegistry.history { epoch } calls, PublishesBound event := by
  have nothing : Bound { epoch } :=
    ⟨fun _ unset => (nomatch unset), fun _ unset => (nomatch unset)⟩
  exact throughout_iff PublishesBound
    (fun s c bound => bound_transition_iff (at_transition s c) bound) nothing calls

/-- A topology is set, and then an attachment and a residency record arrive that were
derived from the one before it. -/
def lateRun : List Call :=
  let auth : Authority := ⟨⟨1⟩, ⟨7⟩, ⟨1⟩⟩
  [.registerWorker ⟨7⟩ ⟨1⟩,
    .mutate auth (.registerNic { id := ⟨10⟩, generation := ⟨1⟩ }),
    .mutate auth (.setTopology { generation := ⟨2⟩ }),
    .mutate auth (.registerAttachment
      { id := ⟨50⟩, generation := ⟨1⟩, nic := ⟨10⟩, state := .committed, topologyGeneration := ⟨1⟩ }),
    .mutate auth (.publishResidency
      { id := ⟨60⟩, generation := ⟨1⟩, nic := ⟨10⟩, state := .resident, topologyGeneration := ⟨1⟩ })]

theorem lateRun_not_bound : ¬Throughout step Bound { epoch := ⟨1⟩ } lateRun := by
  intro bound
  have final := bound lateRun [] rfl
  have second : (NicRegistry.after { epoch := ⟨1⟩ } lateRun).topology.map (·.generation) =
      some ⟨2⟩ := by decide +kernel
  obtain ⟨top, set, generation⟩ := Option.map_eq_some_iff.mp second
  have same := final.attachments top set ⟨50⟩
    { id := ⟨50⟩, generation := ⟨1⟩, nic := ⟨10⟩, state := .committed, topologyGeneration := ⟨1⟩ }
    (by decide +kernel) rfl rfl
  rw [generation] at same
  cases same

end NicResidency.TopologyBinding

import NicResidency.AuthorityFencing
import NicResidency.Dependents

/-!
Revoked attachments and retired residency records. The calls that demote stored evidence
do not look at its state, so each of them takes a record that it reaches out of its
terminal state.
-/

namespace NicResidency.TerminalStates
open StateMachine NicRegistry AuthorityFencing Generations Dependents

def AttachmentRevoked (id : AttachmentId) (s : NicRegistry) : Prop :=
  ∃ a, s.attachments[id]? = some a ∧ a.state = .revoked

/-- The log holds a retired record at the position. -/
def ResidencyRetired (position : Nat) (s : NicRegistry) : Prop :=
  ∃ r, s.residencies[position]? = some r ∧ r.state = .retired

/-- The call demotes every record whose references an advance would scan and that has the
given owner. -/
def reaches (scanned : List ResourceRef) (owner : WorkerId) (ownerBoot : WorkerBootId) : Call → Prop
  | .registerWorker _ _ => False
  | .workerRetired worker boot => owner = worker ∧ ownerBoot = boot
  | .coordinatorRestart _ => True
  | .mutate _ (.setTopology _) => True
  | .mutate _ mutation => ∃ ref ∈ scanned, mutationAdvances mutation = some ref

/-- The call of the event is not in effect or does not reach the record. -/
def Spares (scanned : List ResourceRef) (owner : WorkerId) (ownerBoot : WorkerBootId)
    (event : RegistryEvent) : Prop :=
  accepted event = true → staleInput event.pre event.input = false →
    ¬reaches scanned owner ownerBoot event.input

def SparesAttachment (a : Attachment) : RegistryEvent → Prop :=
  Spares (attachmentKind.scanned a) a.ownerWorker a.ownerBoot

def SparesResidency (r : ResidencyRecord) : RegistryEvent → Prop :=
  Spares (residencyKind.scanned r) r.ownerWorker r.ownerBoot

section
variable {s t : NicRegistry} {c : Call} {outcome : Except ResidencyError Reply}
  {scanned : List ResourceRef} {owner : WorkerId} {ownerBoot : WorkerBootId}

theorem authorised_not_stale {auth : Authority} (current : s.Authorised auth) (mutation : Mutation) :
    staleInput s (.mutate auth mutation) = false := decide_eq_false (not_not.mpr current)

/-! Which events spare a record. -/

theorem spares_refused {error : ResidencyError} :
    Spares scanned owner ownerBoot ⟨s, c, .error error, t⟩ := fun ok => nomatch ok

theorem spares_quiet {auth : Authority} {mutation : Mutation} (idle : mutationAdvances mutation = none)
    (other : ∀ top, mutation ≠ .setTopology top) :
    Spares scanned owner ownerBoot ⟨s, .mutate auth mutation, outcome, t⟩ := by
  intro _ _ reached
  cases mutation with
  | setTopology top => exact other top rfl
  | _ =>
    obtain ⟨ref, -, named⟩ := reached
    rw [idle] at named
    cases named

theorem spares_advance {auth : Authority} {mutation : Mutation} {ref : ResourceRef} {reply : Reply}
    (current : s.Authorised auth) (named : mutationAdvances mutation = some ref) :
    Spares scanned owner ownerBoot ⟨s, .mutate auth mutation, .ok reply, t⟩ ↔ ref ∉ scanned := by
  have reached : reaches scanned owner ownerBoot (.mutate auth mutation) ↔ ref ∈ scanned := by
    cases mutation with
    | setTopology => cases named
    | _ =>
      constructor
      · intro reached
        obtain ⟨other, member, same⟩ := reached
        rw [named] at same
        cases same
        exact member
      · exact fun member => ⟨ref, member, named⟩
  constructor
  · intro spared member
    exact spared rfl (authorised_not_stale current _) (reached.mpr member)
  · intro absent _ _ found
    exact absent (reached.mp found)

theorem spares_setTopology {auth : Authority} {top : TopologySnapshot} {reply : Reply}
    (current : s.Authorised auth) :
    ¬Spares scanned owner ownerBoot ⟨s, .mutate auth (.setTopology top), .ok reply, t⟩ :=
  fun spared => spared rfl (authorised_not_stale current _) trivial

theorem spares_restart {newEpoch : CoordinatorEpoch} {reply : Reply}
    (later : s.epoch.value < newEpoch.value) :
    ¬Spares scanned owner ownerBoot ⟨s, .coordinatorRestart newEpoch, .ok reply, t⟩ :=
  fun spared => spared rfl (decide_eq_false (UInt64.not_le.mpr later)) trivial

theorem spares_retirement {worker : WorkerId} {boot : WorkerBootId} {reply : Reply}
    (unopposed : ∀ handle, s.workers[worker]? = some handle → handle.boot = boot) :
    Spares scanned owner ownerBoot ⟨s, .workerRetired worker boot, .ok reply, t⟩ ↔
      ¬(owner = worker ∧ ownerBoot = boot) := by
  have current : staleInput s (.workerRetired worker boot) = false := by
    refine decide_eq_false (fun opposed => ?_)
    obtain ⟨handle, found, other⟩ := opposed
    exact other (unopposed handle found)
  exact ⟨fun spared => spared rfl current, fun foreign _ _ => foreign⟩

theorem spares_ignored {worker : WorkerId} {boot : WorkerBootId} {handle : WorkerHandle}
    (found : s.workers[worker]? = some handle) (other : handle.boot ≠ boot) :
    Spares scanned owner ownerBoot ⟨s, .workerRetired worker boot, outcome, t⟩ :=
  fun _ current => absurd ⟨handle, found, other⟩ (of_decide_eq_false current)

/-! What a step leaves of a terminal record. -/

/-- A sweep that reopens records leaves one closed exactly if it passes it over. -/
theorem closed_iff_missed {α β : Type} (state : α → β) {closed : β} {old new : α}
    (before : state old = closed) (reopened : state new ≠ closed) {swept : Prop} [Decidable swept] :
    state (if swept then new else old) = closed ↔ ¬swept := by
  split
  next hit => exact iff_of_false reopened (not_not.mpr hit)
  next missed => exact iff_of_true before missed

theorem attachmentRevoked_iff {id : AttachmentId} {b : Attachment} (reached : t.attachments[id]? = some b) :
    AttachmentRevoked id t ↔ b.state = .revoked := by
  simp only [AttachmentRevoked, reached, Option.some.injEq, exists_eq_left']

/-- A revoked attachment that is not registered again stays revoked exactly through the
events that spare it. -/
theorem revoked_transition_iff (transition : Transition s c outcome t) {id : AttachmentId}
    {a : Attachment} (stored : s.attachments[id]? = some a) (revoked : a.state = .revoked)
    (notAgain : ∀ att, Accepts ⟨s, c, outcome, t⟩ (.registerAttachment att) → att.id ≠ id) :
    AttachmentRevoked id t ↔ SparesAttachment a ⟨s, c, outcome, t⟩ := by
  have mapped (change : AttachmentId → Attachment → Attachment) :
      (s.attachments.map change)[id]? = some (change id a) := by
    rw [Std.ExtTreeMap.getElem?_map, stored, Option.map_some]
  unfold SparesAttachment
  cases transition with
  | refused | refusedNic => exact iff_of_true ⟨a, stored, revoked⟩ spares_refused
  | registeredWorker => exact iff_of_true ⟨a, stored, revoked⟩ (fun _ _ reached => reached)
  | ignoredRetirement _ _ _ found other =>
    exact iff_of_true ⟨a, stored, revoked⟩ (spares_ignored found other)
  | retiredWorker worker boot unopposed =>
    rw [spares_retirement unopposed, attachmentRevoked_iff (mapped _)]
    refine closed_iff_missed Attachment.state revoked ?_
    intro kept
    cases kept
  | restarted newEpoch later =>
    rw [attachmentRevoked_iff (mapped _)]
    refine iff_of_false ?_ (spares_restart later)
    intro kept
    cases kept
  | advancedNic _ _ current | advancedFunction _ _ current =>
    rw [spares_advance current rfl, attachmentRevoked_iff (mapped _)]
    refine (closed_iff_missed Attachment.state revoked ?_).trans (not_congr ?_)
    · intro kept
      cases kept
    · simp [attachmentKind, eq_comm]
  | advancedQueue auth queue current =>
    rw [spares_advance current rfl]
    exact iff_of_true ⟨a, stored, revoked⟩ (by simp [attachmentKind])
  | setTopology _ _ current =>
    rw [attachmentRevoked_iff (mapped _)]
    refine iff_of_false ?_ (spares_setTopology current)
    intro kept
    cases kept
  | wroteAttachment auth att current =>
    have other := notAgain att ⟨auth, rfl, current, rfl⟩
    refine iff_of_true ⟨a, ?_, revoked⟩ (spares_quiet rfl (by simp))
    rw [Std.ExtTreeMap.getElem?_insert, if_neg (by simpa using other)]
    exact stored
  | retiredAttachment auth retired =>
    refine iff_of_true ?_ (spares_quiet rfl (by simp))
    rw [attachmentRevoked_iff (b := if retired = id then a.revoke else a)
      (by rw [getElem?_modify_map, stored, Option.map_some])]
    split
    · rfl
    · exact revoked
  | _ => exact iff_of_true ⟨a, stored, revoked⟩ (spares_quiet rfl (by simp))

theorem residencyRetired_iff {position : Nat} {r : ResidencyRecord}
    (reached : t.residencies[position]? = some r) : ResidencyRetired position t ↔ r.state = .retired := by
  simp only [ResidencyRetired, reached, Option.some.injEq, exists_eq_left']

/-- A retired residency record stays retired exactly through the events that spare it. -/
theorem retired_transition_iff (transition : Transition s c outcome t) {position : Nat}
    {r : ResidencyRecord} (stored : s.residencies[position]? = some r) (retired : r.state = .retired) :
    ResidencyRetired position t ↔ SparesResidency r ⟨s, c, outcome, t⟩ := by
  have mapped (change : ResidencyRecord → ResidencyRecord) :
      (s.residencies.map change)[position]? = some (change r) := by
    rw [List.getElem?_map, stored, Option.map_some]
  unfold SparesResidency
  cases transition with
  | refused | refusedNic => exact iff_of_true ⟨r, stored, retired⟩ spares_refused
  | registeredWorker => exact iff_of_true ⟨r, stored, retired⟩ (fun _ _ reached => reached)
  | ignoredRetirement _ _ _ found other =>
    exact iff_of_true ⟨r, stored, retired⟩ (spares_ignored found other)
  | retiredWorker worker boot unopposed =>
    rw [spares_retirement unopposed, residencyRetired_iff (mapped _)]
    refine closed_iff_missed ResidencyRecord.state retired ?_
    intro kept
    cases kept
  | restarted newEpoch later =>
    rw [residencyRetired_iff (mapped _)]
    refine iff_of_false ?_ (spares_restart later)
    intro kept
    cases kept
  | advancedNic _ _ current | advancedFunction _ _ current | advancedQueue _ _ current =>
    rw [spares_advance current rfl, residencyRetired_iff (mapped _)]
    refine (closed_iff_missed ResidencyRecord.state retired ?_).trans (not_congr ?_)
    · intro kept
      cases kept
    · simp [residencyKind, eq_comm]
  | setTopology _ _ current =>
    rw [residencyRetired_iff (mapped _)]
    refine iff_of_false ?_ (spares_setTopology current)
    intro kept
    cases kept
  | wroteResidency auth rec =>
    refine iff_of_true ⟨r, ?_, retired⟩ (spares_quiet rfl (by simp))
    rw [List.getElem?_append_left (List.getElem?_eq_some_iff.mp stored).1]
    exact stored
  | retiredResidency auth id current i =>
    refine iff_of_true ?_ (spares_quiet rfl (by simp))
    rw [residencyRetired_iff (r := if i = position then r.retire else r)
      (by rw [List.getElem?_modify, stored]; rfl)]
    split
    · rfl
    · exact retired
  | _ => exact iff_of_true ⟨r, stored, retired⟩ (spares_quiet rfl (by simp))

end

/-- No registration of the attachment is accepted. -/
def NotRegistered (id : AttachmentId) (event : RegistryEvent) : Prop :=
  ∀ att, Accepts event (.registerAttachment att) → att.id ≠ id

/-- A revoked attachment stays revoked through a run that does not register it again, and a
retired residency record stays retired through a run, exactly when every event spares the
record that is stored before it. -/
theorem terminal_throughout_iff (s : NicRegistry) (calls : List Call) :
    (∀ id, AttachmentRevoked id s → (∀ event ∈ s.history calls, NotRegistered id event) →
      (Throughout step (AttachmentRevoked id) s calls ↔
        ∀ event ∈ s.history calls, ∀ a, event.pre.attachments[id]? = some a →
          SparesAttachment a event)) ∧
    (∀ position, ResidencyRetired position s →
      (Throughout step (ResidencyRetired position) s calls ↔
        ∀ event ∈ s.history calls, ∀ r, event.pre.residencies[position]? = some r →
          SparesResidency r event)) := by
  constructor
  · intro id revoked notAgain
    refine throughout_iff_of_allowed (NotRegistered id)
      (fun event => ∀ a, event.pre.attachments[id]? = some a → SparesAttachment a event)
      ?_ revoked calls notAgain
    intro s c held notRegistered
    obtain ⟨a, stored, revoked⟩ := held
    simp only [Event.at_pre, stored, Option.some.injEq, forall_eq']
    exact revoked_transition_iff (at_transition s c) stored revoked notRegistered
  · intro position retired
    refine throughout_iff
      (fun event => ∀ r, event.pre.residencies[position]? = some r → SparesResidency r event)
      ?_ retired calls
    intro s c held
    obtain ⟨r, stored, retired⟩ := held
    simp only [Event.at_pre, stored, Option.some.injEq, forall_eq']
    exact retired_transition_iff (at_transition s c) stored retired

/-- An attachment is revoked and a residency record retired. -/
def closedRun : List Call :=
  let auth : Authority := ⟨⟨1⟩, ⟨7⟩, ⟨1⟩⟩
  [.registerWorker ⟨7⟩ ⟨1⟩,
    .mutate auth (.registerNic { id := ⟨10⟩, generation := ⟨1⟩ }),
    .mutate auth (.registerAttachment
      { id := ⟨50⟩, generation := ⟨1⟩, nic := ⟨10⟩, state := .committed }),
    .mutate auth (.publishResidency
      { id := ⟨60⟩, generation := ⟨1⟩, nic := ⟨10⟩, state := .resident }),
    .mutate auth (.retireAttachment ⟨50⟩),
    .mutate auth (.retireResidency ⟨60⟩)]

theorem closedRun_closed :
    AttachmentRevoked ⟨50⟩ (NicRegistry.after { epoch := ⟨1⟩ } closedRun) ∧
      ResidencyRetired 0 (NicRegistry.after { epoch := ⟨1⟩ } closedRun) := by
  have attachment : ((NicRegistry.after { epoch := ⟨1⟩ } closedRun).attachments[
      (⟨50⟩ : AttachmentId)]?).map (·.state) = some .revoked := by decide +kernel
  have residency : ((NicRegistry.after { epoch := ⟨1⟩ } closedRun).residencies[0]?).map (·.state) =
      some .retired := by decide +kernel
  exact ⟨Option.map_eq_some_iff.mp attachment, Option.map_eq_some_iff.mp residency⟩

/-- The retired residency record through the registration of another attachment. -/
theorem closedRun_stays_closed :
    let s := NicRegistry.after { epoch := ⟨1⟩ } closedRun
    let calls : List Call := [.mutate ⟨⟨1⟩, ⟨7⟩, ⟨1⟩⟩ (.registerAttachment
      { id := ⟨51⟩, generation := ⟨1⟩, nic := ⟨10⟩, state := .committed })]
    ResidencyRetired 0 s ∧ (Throughout step (ResidencyRetired 0) s calls ↔
      ∀ event ∈ s.history calls, ∀ r, event.pre.residencies[0]? = some r →
        SparesResidency r event) := by
  intro s calls
  exact ⟨closedRun_closed.2, (terminal_throughout_iff s calls).2 0 closedRun_closed.2⟩

/-- A new topology takes both out of their terminal states. -/
theorem closedRun_reopened :
    let s := NicRegistry.after { epoch := ⟨1⟩ } closedRun
    let calls : List Call := [.mutate ⟨⟨1⟩, ⟨7⟩, ⟨1⟩⟩ (.setTopology { generation := ⟨1⟩ })]
    (AttachmentRevoked ⟨50⟩ s ∧ (∀ event ∈ s.history calls, NotRegistered ⟨50⟩ event) ∧
        ¬Throughout step (AttachmentRevoked ⟨50⟩) s calls) ∧
      ResidencyRetired 0 s ∧ ¬Throughout step (ResidencyRetired 0) s calls := by
  intro s calls
  have stale : ((s.after calls).attachments[(⟨50⟩ : AttachmentId)]?).map (·.state) =
      some .stale := by decide +kernel
  have waiting : ((s.after calls).residencies[0]?).map (·.state) = some .revalidationRequired := by
    decide +kernel
  refine ⟨⟨closedRun_closed.1, ?_, fun stays => ?_⟩, closedRun_closed.2, fun stays => ?_⟩
  · intro event member att accepts
    obtain ⟨auth, called, -⟩ := accepts
    obtain rfl := List.mem_singleton.mp member
    cases called
  · obtain ⟨a, stored, revoked⟩ := stays calls [] rfl
    rw [NicRegistry.after, stored, Option.map_some, revoked] at stale
    cases stale
  · obtain ⟨r, stored, retired⟩ := stays calls [] rfl
    rw [NicRegistry.after, stored, Option.map_some, retired] at waiting
    cases waiting

end NicResidency.TerminalStates

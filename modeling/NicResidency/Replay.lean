import NicResidency.RegistrySlots

/-!
Replays of withdrawn evidence. An attachment that was made stale or revoked, and
a residency record that was made to require revalidation or retired, come back
only with a strictly greater generation, as long as no publication at exactly
the stored generation is accepted over them. The registry does accept those.
-/

namespace NicResidency.Replay
open StateMachine VersionedSlot NicRegistry

def attachmentCurrent : AttachmentState → Bool
  | .proposed | .validated | .committed | .draining => true
  | .revoked | .stale | .failed => false

def attachmentWithdrawn (state : AttachmentState) : Bool := state == .stale || state == .revoked

def residencyCurrent : ResidencyState → Bool
  | .discovered | .available | .resident | .attached => true
  | .absent | .detached | .draining | .revalidationRequired | .stale | .failed | .unsupported
  | .retired => false

def residencyWithdrawn (state : ResidencyState) : Bool :=
  state == .revalidationRequired || state == .retired

/-- The call publishes at exactly the generation of a stored record: an
attachment over a withdrawn one that it does not leave withdrawn, or a current
residency record beside a withdrawn one. -/
def replaysEqual (s : NicRegistry) : Call → Bool
  | .mutate _ (.registerAttachment att) => s.attachments[att.id]?.any fun old =>
      old.generation == att.generation && attachmentWithdrawn old.state &&
        !attachmentWithdrawn att.state
  | .mutate _ (.publishResidency rec) => residencyCurrent rec.state && s.residencies.any fun r =>
      r.id == rec.id && r.generation == rec.generation && residencyWithdrawn r.state
  | _ => false

/-- No accepted event of this kind. -/
def NoEqualReplay (event : RegistryEvent) : Prop :=
  accepted event = true → replaysEqual event.pre event.input = false

instance (event : RegistryEvent) : Decidable (NoEqualReplay event) :=
  inferInstanceAs (Decidable (_ → _))

/-- The registry holds the attachment withdrawn at the generation. -/
def AttachmentWithdrawnAt (s : NicRegistry) (id : AttachmentId) (g : AttachmentGeneration) : Prop :=
  ∃ a, s.attachments[id]? = some a ∧ attachmentWithdrawn a.state = true ∧ a.generation = g

/-- The registry holds a withdrawn record of the residency at the generation. -/
def ResidencyWithdrawnAt (s : NicRegistry) (id : ResidencyId) (g : ResidencyGeneration) : Prop :=
  ∃ r ∈ s.residencies, residencyWithdrawn r.state = true ∧ r.id = id ∧ r.generation = g

/-- The position of the log holds a current record of the residency. -/
def ResidencyCurrentAt (s : NicRegistry) (id : ResidencyId) (position : Nat) : Prop :=
  ∃ r, s.residencies[position]? = some r ∧ r.id = id ∧ residencyCurrent r.state = true

/-- What withdrawing evidence promises for the rest of a run. -/
structure StaysWithdrawn (s : NicRegistry) (calls : List Call) : Prop where
  attachmentReplay : ∀ earlier later c rest, calls = earlier ++ later ++ c :: rest →
    ∀ id g att, AttachmentWithdrawnAt (s.after earlier) id g →
      Accepts (Event.at step (s.after (earlier ++ later)) c) (.registerAttachment att) →
      att.id = id → att.generation ≤ g →
      ∀ a, (s.after (earlier ++ later ++ [c])).attachments[id]? = some a →
        attachmentCurrent a.state = false
  attachmentRestored : ∀ earlier later rest, calls = earlier ++ later ++ rest →
    ∀ id g a, AttachmentWithdrawnAt (s.after earlier) id g →
      (s.after (earlier ++ later)).attachments[id]? = some a → attachmentCurrent a.state = true →
      ∃ event ∈ (s.after earlier).history later, ∃ att, Accepts event (.registerAttachment att) ∧
        att.id = id ∧ g < att.generation
  residencyReplay : ∀ earlier later c rest, calls = earlier ++ later ++ c :: rest →
    ∀ id g rec, ResidencyWithdrawnAt (s.after earlier) id g →
      Accepts (Event.at step (s.after (earlier ++ later)) c) (.publishResidency rec) →
      rec.id = id → rec.generation ≤ g →
      ∀ position, ResidencyCurrentAt (s.after (earlier ++ later ++ [c])) id position →
        ResidencyCurrentAt (s.after (earlier ++ later)) id position
  residencyRestored : ∀ earlier later rest, calls = earlier ++ later ++ rest →
    ∀ id g position, ResidencyWithdrawnAt (s.after earlier) id g →
      ResidencyCurrentAt (s.after (earlier ++ later)) id position →
      ResidencyCurrentAt (s.after earlier) id position ∨
      ∃ event ∈ (s.after earlier).history later, ∃ rec, Accepts event (.publishResidency rec) ∧
        rec.id = id ∧ g < rec.generation

theorem attachmentCurrent_of_withdrawn {state : AttachmentState}
    (withdrawn : attachmentWithdrawn state = true) : attachmentCurrent state = false := by
  cases state <;> first | rfl | cases withdrawn

theorem residencyCurrent_of_withdrawn {state : ResidencyState}
    (withdrawn : residencyWithdrawn state = true) : residencyCurrent state = false := by
  cases state <;> first | rfl | cases withdrawn

section
variable {s t : NicRegistry} {c : Call} {outcome : Except ResidencyError Reply}

/-- An event has one call, so it publishes one record. -/
theorem published_unique {event : RegistryEvent} {rec other : ResidencyRecord}
    (first : Accepts event (.publishResidency rec))
    (second : Accepts event (.publishResidency other)) : rec = other := by
  obtain ⟨_, called, -⟩ := first
  obtain ⟨_, called', -⟩ := second
  rw [called] at called'
  injection called' with _ same
  injection same

/-! Attachments. -/

/-- In-place changes withdraw an attachment and keep its generation. -/
theorem demoted_withdrawn {old new : Attachment} (demoted : old.Demoted new) :
    attachmentWithdrawn new.state = true ∧ new.generation = old.generation := by
  cases demoted <;> exact ⟨rfl, rfl⟩

/-- An accepted registration over a withdrawn attachment leaves it withdrawn at
its generation, or has a greater generation. -/
theorem accepted_over_withdrawn (noReplay : NoEqualReplay ⟨s, c, outcome, t⟩) {att old : Attachment}
    (accepts : Accepts ⟨s, c, outcome, t⟩ (.registerAttachment att))
    (stored : s.attachments[att.id]? = some old) (withdrawn : attachmentWithdrawn old.state = true)
    (notOlder : ¬att.generation < old.generation) :
    (attachmentWithdrawn att.state = true ∧ att.generation = old.generation) ∨
      old.generation < att.generation := by
  obtain ⟨auth, called, -, ok⟩ := accepts
  by_cases level : old.generation = att.generation
  · have guarded := noReplay ok
    rw [called] at guarded
    simp only [replaysEqual, stored, Option.any_some, level, beq_self_eq_true, withdrawn,
      Bool.true_and, Bool.not_eq_false'] at guarded
    exact .inl ⟨guarded, level.symm⟩
  · exact .inr (lt_of_le_of_ne (not_lt.mp notOlder) level)

theorem attachmentWithdrawn_transition (transition : Transition s c outcome t)
    (noReplay : NoEqualReplay ⟨s, c, outcome, t⟩) {id : AttachmentId} {g : AttachmentGeneration}
    (withdrawn : AttachmentWithdrawnAt s id g) :
    AttachmentWithdrawnAt t id g ∨
      ∃ att, Accepts ⟨s, c, outcome, t⟩ (.registerAttachment att) ∧ att.id = id ∧
        g < att.generation := by
  obtain ⟨old, stored, marked, rfl⟩ := withdrawn
  obtain ⟨new, reached, kept | ⟨⟨accepts, rfl⟩, notOlder⟩⟩ :=
    (attachment_change transition id).mark_kept
      (fun a => attachmentWithdrawn a.state = true ∧ a.generation = old.generation)
      (fun _ _ _ demoted marked =>
        ⟨(demoted_withdrawn demoted).1, (demoted_withdrawn demoted).2.trans marked.2⟩)
      old stored ⟨marked, rfl⟩
  · exact .inl ⟨new, reached, kept⟩
  · rcases accepted_over_withdrawn noReplay accepts stored marked notOlder with still | greater
    · exact .inl ⟨new, reached, still⟩
    · exact .inr ⟨new, accepts, rfl, greater⟩

/-- An accepted registration is what the registry then holds. -/
theorem accepted_attachment_stored (transition : Transition s c outcome t) {att : Attachment}
    (accepts : Accepts ⟨s, c, outcome, t⟩ (.registerAttachment att)) :
    t.attachments[att.id]? = some att ∧
      ∀ old, s.attachments[att.id]? = some old → ¬att.generation < old.generation := by
  obtain ⟨auth, rfl, -, ok⟩ := accepts
  cases transition with
  | refused => cases ok
  | wroteAttachment _ _ _ _ _ _ _ _ _ _ notOlder =>
    exact ⟨Std.ExtTreeMap.getElem?_insert_self, notOlder⟩

/-- The registry holds the attachment withdrawn at the generation, or at a
greater generation. -/
def AttachmentBeyond (s : NicRegistry) (id : AttachmentId) (g : AttachmentGeneration) : Prop :=
  AttachmentWithdrawnAt s id g ∨ ∃ a, s.attachments[id]? = some a ∧ g < a.generation

theorem attachmentBeyond_transition (transition : Transition s c outcome t)
    (noReplay : NoEqualReplay ⟨s, c, outcome, t⟩) {id : AttachmentId} {g : AttachmentGeneration}
    (beyond : AttachmentBeyond s id g) : AttachmentBeyond t id g := by
  rcases beyond with withdrawn | ⟨old, stored, greater⟩
  · rcases attachmentWithdrawn_transition transition noReplay withdrawn with
      still | ⟨att, accepts, rfl, greater⟩
    · exact .inl still
    · exact .inr ⟨att, (accepted_attachment_stored transition accepts).1, greater⟩
  · obtain ⟨new, reached, grown⟩ := (attachment_change transition id).le_version (·.generation)
      (fun _ _ notOlder => not_lt.mp notOlder)
      (fun _ _ _ demoted => (demoted_withdrawn demoted).2.ge) old stored
    exact .inr ⟨new, reached, greater.trans_le grown⟩

/-- A registration that is accepted at most at the generation of the withdrawal
leaves the attachment withdrawn. -/
theorem accepted_beyond (transition : Transition s c outcome t)
    (noReplay : NoEqualReplay ⟨s, c, outcome, t⟩) {att : Attachment} {g : AttachmentGeneration}
    (beyond : AttachmentBeyond s att.id g)
    (accepts : Accepts ⟨s, c, outcome, t⟩ (.registerAttachment att)) (old : att.generation ≤ g) :
    attachmentWithdrawn att.state = true := by
  have ⟨_, notOlder⟩ := accepted_attachment_stored transition accepts
  rcases beyond with ⟨a, stored, marked, rfl⟩ | ⟨a, stored, greater⟩
  · rcases accepted_over_withdrawn noReplay accepts stored marked (notOlder a stored) with
      still | greater
    · exact still.1
    · exact absurd old greater.not_ge
  · exact absurd (old.trans_lt greater) (notOlder a stored)

/-! Residency records. -/

theorem residencyDemoted_withdrawn {old new : ResidencyRecord} (demoted : old.Demoted new) :
    residencyWithdrawn new.state = true ∧ new.id = old.id ∧ new.generation = old.generation := by
  cases demoted <;> exact ⟨rfl, rfl, rfl⟩

/-- A withdrawn record stays in the log and stays withdrawn. -/
theorem residencyWithdrawn_transition (transition : Transition s c outcome t) {id : ResidencyId}
    {g : ResidencyGeneration} (withdrawn : ResidencyWithdrawnAt s id g) :
    ResidencyWithdrawnAt t id g := by
  obtain ⟨r, member, marked, rfl, rfl⟩ := withdrawn
  obtain ⟨position, stored⟩ := List.mem_iff_getElem?.mp member
  obtain ⟨new, reached, kept | ⟨-, never⟩⟩ := (residency_change transition position).mark_kept
    (fun r' => residencyWithdrawn r'.state = true ∧ r'.id = r.id ∧ r'.generation = r.generation)
    (fun _ _ _ demoted marked =>
      have ⟨withdrawn, sameId, sameGeneration⟩ := residencyDemoted_withdrawn demoted
      ⟨withdrawn, sameId.trans marked.2.1, sameGeneration.trans marked.2.2⟩)
    r stored ⟨marked, rfl, rfl⟩
  · exact ⟨new, List.mem_of_getElem? reached, kept⟩
  · exact never.elim

/-- A position becomes current only by a publication, which is then newer than
every withdrawn record of its id. -/
theorem residencyCurrent_transition (transition : Transition s c outcome t)
    (noReplay : NoEqualReplay ⟨s, c, outcome, t⟩) {id : ResidencyId} {g : ResidencyGeneration}
    {position : Nat} (withdrawn : ResidencyWithdrawnAt s id g)
    (current : ResidencyCurrentAt t id position) :
    ResidencyCurrentAt s id position ∨
      ∃ rec, Accepts ⟨s, c, outcome, t⟩ (.publishResidency rec) ∧ rec.id = id ∧
        g < rec.generation := by
  by_cases already : ResidencyCurrentAt s id position
  · exact .inl already
  obtain ⟨new, reached, rfl, isCurrent⟩ := current
  have ⟨⟨accepts, _, notOlder⟩, _⟩ := (residency_change transition position).gained_by_write
    (fun r => r.id = new.id ∧ residencyCurrent r.state = true)
    (fun _ _ demoted good => by
      have withdrawn := (residencyDemoted_withdrawn demoted).1
      rw [residencyCurrent_of_withdrawn withdrawn] at good
      cases good.2)
    (fun old stored good => already ⟨old, stored, good⟩) new reached ⟨rfl, isCurrent⟩
  refine .inr ⟨new, accepts, rfl, ?_⟩
  obtain ⟨r, member, marked, same, rfl⟩ := withdrawn
  refine lt_of_le_of_ne (not_lt.mp (notOlder r member same)) (fun level => ?_)
  obtain ⟨auth, called, -, ok⟩ := accepts
  have guarded := noReplay ok
  rw [called] at guarded
  simp only [replaysEqual, isCurrent, Bool.true_and, List.any_eq_false, Bool.and_eq_true,
    beq_iff_eq] at guarded
  exact guarded r member ⟨⟨same, level⟩, marked⟩

end

theorem residencyWithdrawn_run {s : NicRegistry} {id : ResidencyId} {g : ResidencyGeneration}
    (withdrawn : ResidencyWithdrawnAt s id g) (later : List Call) :
    ResidencyWithdrawnAt (s.after later) id g :=
  invariant_exec (ResidencyWithdrawnAt · id g) (fun _ => True)
    (fun s c withdrawn _ => residencyWithdrawn_transition (at_transition s c) withdrawn)
    withdrawn later (fun _ _ => trivial)

/-! Runs without a replay at the stored generation. -/

section
variable {s : NicRegistry} {later : List Call} (met : ∀ event ∈ s.history later, NoEqualReplay event)
include met

theorem attachmentBeyond_run {id : AttachmentId} {g : AttachmentGeneration}
    (withdrawn : AttachmentWithdrawnAt s id g) : AttachmentBeyond (s.after later) id g :=
  invariant_exec (AttachmentBeyond · id g) NoEqualReplay
    (fun s c beyond noReplay => attachmentBeyond_transition (at_transition s c) noReplay beyond)
    (.inl withdrawn) later met

theorem attachmentWithdrawn_run {id : AttachmentId} {g : AttachmentGeneration}
    (withdrawn : AttachmentWithdrawnAt s id g) :
    AttachmentWithdrawnAt (s.after later) id g ∨
      ∃ event ∈ s.history later, ∃ att, Accepts event (.registerAttachment att) ∧ att.id = id ∧
        g < att.generation :=
  latch (AttachmentWithdrawnAt · id g) NoEqualReplay
    (fun event => ∃ att, Accepts event (.registerAttachment att) ∧ att.id = id ∧ g < att.generation)
    (fun s c held noReplay => attachmentWithdrawn_transition (at_transition s c) noReplay held)
    withdrawn later met

/-- A position becomes current in a run only by a publication newer than what was
withdrawn. -/
theorem residencyCurrent_run {id : ResidencyId} {g : ResidencyGeneration} {position : Nat}
    (withdrawn : ResidencyWithdrawnAt s id g)
    (current : ResidencyCurrentAt (s.after later) id position) :
    ResidencyCurrentAt s id position ∨
      ∃ event ∈ s.history later, ∃ rec, Accepts event (.publishResidency rec) ∧ rec.id = id ∧
        g < rec.generation := by
  by_cases already : ResidencyCurrentAt s id position
  · exact .inl already
  let held (s : NicRegistry) := ResidencyWithdrawnAt s id g ∧ ¬ResidencyCurrentAt s id position
  let newer (event : RegistryEvent) := ∃ rec, Accepts event (.publishResidency rec) ∧
    rec.id = id ∧ g < rec.generation
  have kept : ∀ s c, held s → NoEqualReplay (Event.at step s c) →
      held (step s c).2 ∨ newer (Event.at step s c) := by
    intro s c found noReplay
    obtain ⟨withdrawn, notCurrent⟩ := found
    by_cases becomes : ResidencyCurrentAt (step s c).2 id position
    · rcases residencyCurrent_transition (at_transition s c) noReplay withdrawn becomes with
        before | published
      · exact absurd before notCurrent
      · exact .inr published
    · exact .inl ⟨residencyWithdrawn_transition (at_transition s c) withdrawn, becomes⟩
  rcases latch held NoEqualReplay newer kept ⟨withdrawn, already⟩ later met with
    ⟨-, notCurrent⟩ | published
  · exact absurd current notCurrent
  · exact .inr published

end

/-- In every run that accepts no publication at exactly the generation of a
withdrawn record, withdrawn evidence returns only at a greater generation. -/
theorem stays_withdrawn (s : NicRegistry) (calls : List Call)
    (met : ∀ event ∈ s.history calls, NoEqualReplay event) : StaysWithdrawn s calls where
  attachmentReplay := by
    intro earlier later c rest split id g att withdrawn accepts split old a reached
    subst split
    subst split
    simp only [events_append, events_cons, List.mem_append, List.mem_cons] at met
    have beyond := attachmentBeyond_run (fun event member => met event (.inl (.inr member))) withdrawn
    rw [← after_append] at beyond
    have transition := at_transition (s.after (earlier ++ later)) c
    have stored := (accepted_attachment_stored transition accepts).1
    have noReplay := met (Event.at step (s.after (earlier ++ later)) c) (.inr (.inl rfl))
    rw [after_concat] at reached
    obtain rfl : att = a := Option.some.inj (stored.symm.trans reached)
    exact attachmentCurrent_of_withdrawn (accepted_beyond transition noReplay beyond accepts old)
  attachmentRestored := by
    intro earlier later rest split id g a withdrawn reached isCurrent
    subst split
    simp only [events_append, List.mem_append] at met
    rcases attachmentWithdrawn_run (fun event member => met event (.inl (.inr member))) withdrawn with
      ⟨b, stored, marked, -⟩ | newer
    · rw [← after_append, reached] at stored
      cases stored
      rw [attachmentCurrent_of_withdrawn marked] at isCurrent
      cases isCurrent
    · exact newer
  residencyReplay := by
    intro earlier later c rest split id g rec withdrawn accepts split old position isCurrent
    subst split
    subst split
    simp only [events_append, events_cons, List.mem_append, List.mem_cons] at met
    have withdrawn := residencyWithdrawn_run withdrawn later
    rw [← after_append] at withdrawn
    have noReplay := met (Event.at step (s.after (earlier ++ later)) c) (.inr (.inl rfl))
    rw [after_concat] at isCurrent
    rcases residencyCurrent_transition (at_transition _ c) noReplay withdrawn isCurrent with
      before | ⟨other, published, -, greater⟩
    · exact before
    · obtain rfl : rec = other := published_unique accepts published
      exact absurd old greater.not_ge
  residencyRestored := by
    intro earlier later rest split id g position withdrawn isCurrent
    subst split
    simp only [events_append, List.mem_append] at met
    rw [after_append] at isCurrent
    exact residencyCurrent_run (fun event member => met event (.inl (.inr member))) withdrawn isCurrent

/-- Published evidence is withdrawn and published again, one generation later. -/
def renewedRun (generation : UInt64) : List Call :=
  let auth : Authority := ⟨⟨1⟩, ⟨7⟩, ⟨1⟩⟩
  let attachment (generation : UInt64) : Attachment :=
    { id := ⟨50⟩, generation := ⟨generation⟩, nic := ⟨10⟩, state := .committed }
  let residency (generation : UInt64) : ResidencyRecord :=
    { id := ⟨60⟩, generation := ⟨generation⟩, nic := ⟨10⟩, state := .resident }
  [.registerWorker ⟨7⟩ ⟨1⟩,
    .mutate auth (.registerNic { id := ⟨10⟩, generation := ⟨1⟩ }),
    .mutate auth (.registerAttachment (attachment 1)),
    .mutate auth (.publishResidency (residency 1)),
    .mutate auth (.retireAttachment ⟨50⟩),
    .mutate auth (.retireResidency ⟨60⟩),
    .mutate auth (.registerAttachment (attachment generation)),
    .mutate auth (.publishResidency (residency generation))]

theorem renewedRun_stays_withdrawn : StaysWithdrawn { epoch := ⟨1⟩ } (renewedRun 2) :=
  stays_withdrawn { epoch := ⟨1⟩ } (renewedRun 2) (by decide +kernel)

/-- At the withdrawn generation, both replays are accepted and make the evidence
current again. -/
theorem renewedRun_replays :
    ¬StaysWithdrawn { epoch := ⟨1⟩ } ((renewedRun 1).take 7) ∧
      ¬StaysWithdrawn { epoch := ⟨1⟩ } ((renewedRun 1).eraseIdx 6) := by
  let withdrawn := (renewedRun 1).take 6
  let auth : Authority := ⟨⟨1⟩, ⟨7⟩, ⟨1⟩⟩
  let attachment : Attachment :=
    { id := ⟨50⟩, generation := ⟨1⟩, nic := ⟨10⟩, state := .committed }
  let residency : ResidencyRecord :=
    { id := ⟨60⟩, generation := ⟨1⟩, nic := ⟨10⟩, state := .resident }
  constructor
  · intro stays
    have revoked : AttachmentWithdrawnAt (NicRegistry.after { epoch := ⟨1⟩ } withdrawn) ⟨50⟩ ⟨1⟩ :=
      ⟨{ attachment with state := .revoked }, by decide +kernel, rfl, rfl⟩
    have clash := stays.attachmentReplay withdrawn [] (.mutate auth (.registerAttachment attachment))
      [] rfl ⟨50⟩ ⟨1⟩ attachment revoked ⟨auth, rfl, by decide +kernel, by decide +kernel⟩ rfl le_rfl
      attachment (by decide +kernel)
    cases clash
  · intro stays
    have retired : ResidencyWithdrawnAt (NicRegistry.after { epoch := ⟨1⟩ } withdrawn) ⟨60⟩ ⟨1⟩ :=
      ⟨{ residency with state := .retired, lifecycle := .retired }, by decide +kernel, rfl, rfl, rfl⟩
    obtain ⟨r, stored, -, -⟩ := stays.residencyReplay withdrawn []
      (.mutate auth (.publishResidency residency)) [] rfl ⟨60⟩ ⟨1⟩ residency retired
      ⟨auth, rfl, by decide +kernel, by decide +kernel⟩ rfl le_rfl 1
      ⟨residency, by decide +kernel, rfl, rfl⟩
    have absent : (NicRegistry.after { epoch := ⟨1⟩ } withdrawn).residencies[1]? = none := by
      decide +kernel
    cases absent.symm.trans stored

end NicResidency.Replay

import NicResidency.Library.OrderedMap
import NicResidency.WorkerEvidence

/-!
Calls that throw. Every mutator checks before it writes, except that a NIC
publication first puts its worker on record for the id; a rejected publication
leaves that entry behind, and the NIC is demoted when that worker dies.
-/

namespace NicResidency.Rejections
open StateMachine Throwing NicRegistry

/-- Every call of the run that throws leaves the registry as it was, and every
later run goes on as without the call. -/
def RejectionsHarmless (s : NicRegistry) (calls : List Call) : Prop :=
  ∀ earlier c rest, calls = earlier ++ c :: rest →
    accepted (Event.at step (s.after earlier) c) = false →
    s.after (earlier ++ [c]) = s.after earlier ∧
      ∀ later, (s.after (earlier ++ [c])).history later = (s.after earlier).history later

/-- A publication of a NIC by a current authority is for an id that its worker is
already on record for. -/
def OnRecord (s : NicRegistry) (c : Call) : Prop :=
  ∀ auth rec, c = .mutate auth (.registerNic rec) → s.Authorised auth →
    rec.id ∈ s.publishedBy auth.worker

/-- Putting a worker on record again changes nothing. -/
theorem notePublisher_of_published {s : NicRegistry} {worker : WorkerId} {id : NicId}
    (published : id ∈ s.publishedBy worker) : notePublisher worker id s = s := by
  have same : s.workerNics.insert worker (insert id (s.publishedBy worker)) = s.workerNics := by
    rw [Finset.insert_eq_of_mem published]
    apply OrderedMap.insert_of_stored
    cases stored : s.workerNics[worker]? with
    | none => simp [publishedBy, stored] at published
    | some ids => simp [publishedBy, stored]
  rw [notePublisher, same]

section
variable {α β : Type} {tag : Tag} {slot : Option α} {new : α} {generation : α → Generation tag}
  {same : α → α → Bool} {invalid conflict stale : ResidencyError}
  {write : NicRegistry → NicRegistry} {s : NicRegistry}

/-- A versioned publication changes at most what its write changes. -/
theorem storeVersioned_keeps (view : NicRegistry → β) (kept : view (write s) = view s) :
    view (perform (storeVersioned slot new generation same invalid conflict stale write) s).2 =
      view s := by
  generalize ran : perform (storeVersioned slot new generation same invalid conflict stale write) s =
    result
  obtain ⟨outcome, t⟩ := result
  rcases storeVersioned_cases ran with ⟨_, -, rfl⟩ | ⟨_, -, -, -, -, rfl⟩ | ⟨-, -, -, rfl⟩
  · rfl
  · rfl
  · exact kept

end

/-- Whatever becomes of the publication, its worker is on record afterwards. -/
theorem registerNic_notes {s : NicRegistry} {auth : Authority} (rec : NicRecord)
    (current : s.Authorised auth) :
    (s.step (.mutate auth (.registerNic rec))).2.workerNics =
      (notePublisher auth.worker rec.id s).workerNics := by
  change (perform (Reply.nic <$> registerNic rec auth) s).2.workerNics = _
  rw [perform_map, registerNic, perform_bind, perform_ensureAuthority, if_pos current]
  simp only [perform_modify_bind, perform_reject_bind, perform_get_bind]
  split
  next => rfl
  next =>
    split
    next => rfl
    next => exact storeVersioned_keeps NicRegistry.workerNics rfl

section
variable {s : NicRegistry} {c : Call}

/-- A call that throws changes nothing, unless it puts a worker on record. -/
theorem rejected_unchanged_iff (rejected : accepted (Event.at step s c) = false) :
    (s.step c).2 = s ↔ OnRecord s c := by
  constructor
  · intro same auth rec called current
    subst called
    have noted := registerNic_notes rec current
    rw [same] at noted
    have self := WorkerEvidence.publishedBy_note_self (s := s) auth.worker rec.id
    rwa [publishedBy, ← noted] at self
  · intro onRecord
    have transition := at_transition s c
    rw [Event.at_post] at transition
    cases outcome : (Event.at step s c).outcome with
    | ok =>
      rw [accepted, outcome] at rejected
      cases rejected
    | error error =>
      rw [outcome] at transition
      generalize (s.step c).2 = t at transition
      cases transition with
      | refused => rfl
      | refusedNic auth rec _ current =>
        exact notePublisher_of_published (onRecord auth rec rfl current)

end

/-- All rejected calls of a run are harmless exactly when each of them is on
record, that is no NIC publication for an id that is new to its worker. -/
theorem rejections_harmless_iff (s : NicRegistry) (calls : List Call) :
    RejectionsHarmless s calls ↔
      ∀ event ∈ s.history calls, accepted event = false → OnRecord event.pre event.input := by
  constructor
  · intro harmless event member rejected
    obtain ⟨earlier, c, rest, rfl, rfl⟩ := (mem_events_iff step s calls event).mp member
    have same := (harmless earlier c rest rfl rejected).1
    rw [after_concat] at same
    exact (rejected_unchanged_iff rejected).mp same
  · intro onRecord earlier c rest split rejected
    subst split
    have same := (rejected_unchanged_iff rejected).mpr
      (onRecord _ ((mem_events_iff step s _ _).mpr ⟨earlier, c, rest, rfl, rfl⟩) rejected)
    rw [← after_concat] at same
    exact ⟨same, fun later => by rw [same]⟩

/-- A worker publishes a NIC; the publication of the same NIC by a second worker
is rejected as stale. -/
def contestedRun : List Call :=
  let nic (generation : UInt64) : NicRecord :=
    { id := ⟨10⟩, generation := ⟨generation⟩, lifecycle := .available, provenance := ⟨.real, []⟩ }
  [.registerWorker ⟨7⟩ ⟨1⟩,
    .registerWorker ⟨8⟩ ⟨1⟩,
    .mutate ⟨⟨1⟩, ⟨7⟩, ⟨1⟩⟩ (.registerNic (nic 2)),
    .mutate ⟨⟨1⟩, ⟨8⟩, ⟨1⟩⟩ (.registerNic (nic 1))]

/-- When the second worker dies, the NIC of the first one is demoted; without the
rejected call it is not. -/
theorem contestedRun_harmful :
    ¬RejectionsHarmless { epoch := ⟨1⟩ } contestedRun ∧
      ((NicRegistry.after { epoch := ⟨1⟩ }
          (contestedRun ++ [.workerRetired ⟨8⟩ ⟨1⟩])).nics[(⟨10⟩ : NicId)]?).map (·.lifecycle) =
        some .revalidationRequired ∧
      ((NicRegistry.after { epoch := ⟨1⟩ }
          (contestedRun.take 3 ++ [.workerRetired ⟨8⟩ ⟨1⟩])).nics[(⟨10⟩ : NicId)]?).map (·.lifecycle) =
        some .available := by
  refine ⟨?_, by decide +kernel, by decide +kernel⟩
  intro harmless
  have same := (harmless (contestedRun.take 3) _ [] rfl (by decide +kernel)).1
  have noted := congrArg (fun s : NicRegistry => decide ((⟨10⟩ : NicId) ∈ s.publishedBy ⟨8⟩)) same
  revert noted
  decide +kernel

end NicResidency.Rejections

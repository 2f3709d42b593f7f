import NicResidency.Retirement

/-!
The residency log. A publication appends a record whatever the log holds under its id,
and a retirement stops at the first record of its id. So an id has one live record exactly
as long as no id is published twice.
-/

namespace NicResidency.ResidencyLog
open StateMachine NicRegistry Retirement

/-- No id has two records that are not retired. -/
def LiveOnce (s : NicRegistry) : Prop :=
  ∀ (i j : Nat) (r other : ResidencyRecord), s.residencies[i]? = some r →
    s.residencies[j]? = some other → r.id = other.id → r.state ≠ .retired →
    other.state ≠ .retired → i = j

/-- Every record of the id is retired. -/
def AllRetired (s : NicRegistry) (id : ResidencyId) : Prop :=
  ∀ r ∈ s.residencies, r.id = id → r.state = .retired

/-- In every state of the run an id has one live record at most, and none after its
retirement. -/
structure OneLiveBinding (s : NicRegistry) (calls : List Call) : Prop where
  once : Throughout step LiveOnce s calls
  retired : ∀ event ∈ s.history calls, ∀ id, Accepts event (.retireResidency id) →
    AllRetired event.post id

/-- A publication is accepted under an id that the log holds already. -/
def Republishes (event : RegistryEvent) : Prop :=
  ∃ rec ∈ publishes event, rec.id ∈ event.pre.residencies.map (·.id)

def isPublication : Call → Bool
  | .mutate _ (.publishResidency _) => true
  | _ => false

/-! Logs without a repeated id. -/

def DistinctIds (s : NicRegistry) : Prop := (s.residencies.map (·.id)).Nodup

theorem distinctIds_step_iff (s : NicRegistry) (c : Call) (distinct : DistinctIds s) :
    DistinctIds (s.step c).2 ↔ ¬Republishes (Event.at step s c) := by
  have ids := ids_transition (at_transition s c)
  rw [Event.at_post] at ids
  unfold DistinctIds at distinct
  rw [DistinctIds, ids, Republishes, Event.at_pre]
  change (_ ++ ((publishes (Event.at step s c)).map (·.id)).toList).Nodup ↔ _
  cases publishes (Event.at step s c) with
  | none => simpa using distinct
  | some rec => simp [List.nodup_append, distinct]

theorem position_unique {s : NicRegistry} (distinct : DistinctIds s) {i j : Nat}
    {r other : ResidencyRecord} (stored : s.residencies[i]? = some r)
    (found : s.residencies[j]? = some other) (same : r.id = other.id) : i = j := by
  have inside : i < (s.residencies.map (·.id)).length := by
    rw [List.length_map]
    exact (List.getElem?_eq_some_iff.mp stored).1
  refine (List.getElem?_inj inside distinct).mp ?_
  rw [List.getElem?_map, List.getElem?_map, stored, found, Option.map_some, Option.map_some, same]

theorem liveOnce_of_distinctIds {s : NicRegistry} (distinct : DistinctIds s) : LiveOnce s :=
  fun _ _ _ _ stored found same _ _ => position_unique distinct stored found same

/-- The retirement of an id that stands once leaves no live record of it. -/
theorem allRetired_transition {s t : NicRegistry} {c : Call} {outcome : Except ResidencyError Reply}
    (transition : Transition s c outcome t) (distinct : DistinctIds s) {id : ResidencyId}
    (accepts : Accepts ⟨s, c, outcome, t⟩ (.retireResidency id)) : AllRetired t id := by
  obtain ⟨auth, rfl, -, ok⟩ := accepts
  cases transition with
  | refused => cases ok
  | retiredResidency _ _ _ i found =>
    intro r member sameId
    obtain ⟨inside, named, -⟩ := List.findIdx?_eq_some_iff_getElem.mp found
    obtain ⟨position, reached⟩ := List.mem_iff_getElem?.mp member
    rw [List.getElem?_modify] at reached
    obtain ⟨old, stored, rfl⟩ := Option.map_eq_some_iff.mp reached
    by_cases here : i = position
    · rw [if_pos here]
      rfl
    · rw [if_neg here] at sameId
      refine absurd (position_unique distinct (List.getElem?_eq_getElem inside) stored ?_) here
      exact (of_decide_eq_true named).trans sameId.symm

/-! Logs with a repeated id. -/

/-- A worker can always make every record of the log wait for a revalidation. -/
theorem revalidation_follows (s : NicRegistry) : ∃ more, (∀ c ∈ more, isPublication c = false) ∧
    (s.after more).residencies = s.residencies.map ResidencyRecord.requireRevalidation := by
  let boot := (s.workers[(⟨0⟩ : WorkerId)]?).elim ⟨0⟩ WorkerHandle.boot
  have free (handle : WorkerHandle) (found : s.workers[(⟨0⟩ : WorkerId)]? = some handle) :
      handle.boot = boot := by
    simp only [boot, found, Option.elim_some]
  have current : NicRegistry.Authorised
      { s with workers := s.workers.insert ⟨0⟩ ⟨⟨0⟩, boot⟩ } ⟨s.epoch, ⟨0⟩, boot⟩ :=
    ⟨rfl, by rw [Std.ExtTreeMap.getElem?_insert_self, Option.map_some]⟩
  refine ⟨[.registerWorker ⟨0⟩ boot,
    .mutate ⟨s.epoch, ⟨0⟩, boot⟩ (.setTopology { generation := .last })], by simp [isPublication], ?_⟩
  rw [NicRegistry.after, exec_cons, exec_cons, exec_nil, step_registerWorker free,
    step_lastTopology current]
  rfl

theorem distinctIds_of_liveOnce {s : NicRegistry}
    (revalidated : ∀ r ∈ s.residencies, r.state ≠ .retired) (once : LiveOnce s) : DistinctIds s := by
  rw [DistinctIds, List.nodup_iff_getElem?_ne_getElem?]
  intro i j smaller inside same
  rw [List.length_map] at inside
  rw [List.getElem?_map, List.getElem?_map, List.getElem?_eq_getElem inside,
    List.getElem?_eq_getElem (smaller.trans inside)] at same
  have equal := once i j _ _ (List.getElem?_eq_getElem (smaller.trans inside))
    (List.getElem?_eq_getElem inside) (Option.some.inj same)
    (revalidated _ (List.getElem_mem _)) (revalidated _ (List.getElem_mem _))
  omega

theorem not_republishes {event : RegistryEvent} (quiet : isPublication event.input = false) :
    ¬Republishes event := by
  intro found
  obtain ⟨rec, published, -⟩ := found
  unfold publishes at published
  split at published
  next called =>
    rw [called] at quiet
    cases quiet
  next => cases published

/-- The log of the final state is free of repeated ids only if it was so at all times. -/
theorem distinctIds_throughout {epoch : CoordinatorEpoch} {calls : List Call}
    (distinct : DistinctIds (NicRegistry.after { epoch } calls)) :
    Throughout step DistinctIds { epoch } calls := by
  intro before rest split
  rw [DistinctIds, ids_after, split, NicRegistry.history, events_append, List.filterMap_append,
    List.map_append] at distinct
  rw [DistinctIds, ids_after]
  exact (List.nodup_append.mp distinct).1

/-- An id has one live record at most, and none after its retirement, in a run and in all
that can follow it without another publication, exactly when no id is published twice. -/
theorem one_live_binding_iff (epoch : CoordinatorEpoch) (calls : List Call) :
    (∀ more, (∀ c ∈ more, isPublication c = false) → OneLiveBinding { epoch } (calls ++ more)) ↔
      ∀ event ∈ NicRegistry.history { epoch } calls, ¬Republishes event := by
  have empty : DistinctIds { epoch } := List.nodup_nil
  have noRepeat := throughout_iff (fun event => ¬Republishes event) distinctIds_step_iff empty
  constructor
  · intro binding
    refine (noRepeat calls).mp (distinctIds_throughout ?_)
    obtain ⟨more, quiet, revalidated⟩ := revalidation_follows (NicRegistry.after { epoch } calls)
    have once := (binding more quiet).once (calls ++ more) [] (List.append_nil _).symm
    rw [exec_append] at once
    have distinct : DistinctIds (NicRegistry.after (NicRegistry.after { epoch } calls) more) := by
      refine distinctIds_of_liveOnce ?_ once
      rw [revalidated, List.forall_mem_map]
      exact fun _ _ waiting => nomatch waiting
    rwa [DistinctIds, revalidated, ids_map _ ResidencyRecord.requireRevalidation (fun _ => rfl)] at distinct
  · intro met more quiet
    have distinct : Throughout step DistinctIds { epoch } (calls ++ more) := by
      refine (noRepeat (calls ++ more)).mpr ?_
      intro event member
      rw [events_append, List.mem_append] at member
      rcases member with earlier | later
      · exact met event earlier
      · obtain ⟨before, c, rest, rfl, rfl⟩ := (mem_events_iff step _ _ event).mp later
        exact not_republishes (quiet c (by simp))
    refine ⟨fun before rest split => liveOnce_of_distinctIds (distinct before rest split), ?_⟩
    intro event member id accepts
    obtain ⟨before, c, rest, split, rfl⟩ := (mem_events_iff step _ _ event).mp member
    exact allRetired_transition (at_transition _ c) (distinct before (c :: rest) split) accepts

def residentRecord : ResidencyRecord :=
  { id := ⟨60⟩, generation := ⟨1⟩, nic := ⟨10⟩, state := .resident }

/-- A worker publishes the same residency record twice and retires its id. -/
def republishedRun : List Call :=
  let auth : Authority := ⟨⟨1⟩, ⟨7⟩, ⟨1⟩⟩
  [.registerWorker ⟨7⟩ ⟨1⟩,
    .mutate auth (.registerNic { id := ⟨10⟩, generation := ⟨1⟩ }),
    .mutate auth (.publishResidency residentRecord),
    .mutate auth (.publishResidency residentRecord),
    .mutate auth (.retireResidency ⟨60⟩)]

/-- The id has two live records after the second publication, and one after its
retirement. -/
theorem republishedRun_twice :
    ¬Throughout step LiveOnce { epoch := ⟨1⟩ } republishedRun ∧
      ¬∀ event ∈ NicRegistry.history { epoch := ⟨1⟩ } republishedRun, ∀ id,
        Accepts event (.retireResidency id) → AllRetired event.post id := by
  constructor
  · intro once
    have same := once (republishedRun.take 4) (republishedRun.drop 4) rfl 0 1 residentRecord
      residentRecord (by decide +kernel) (by decide +kernel) rfl (by decide) (by decide)
    cases same
  · intro retired
    let event := Event.at step (NicRegistry.after { epoch := ⟨1⟩ } (republishedRun.take 4))
      republishedRun[4]
    have gone := retired event (List.mem_of_getElem? (i := 4) rfl) ⟨60⟩
      ⟨⟨⟨1⟩, ⟨7⟩, ⟨1⟩⟩, rfl, by decide +kernel, by decide +kernel⟩
    cases gone residentRecord (by decide +kernel) rfl

end NicResidency.ResidencyLog

import NicResidency.Selection

/-!
Selected evidence belongs to a living worker. As long as no coordinator restart
is accepted, the incarnation that last wrote the record of a selected NIC is
still registered.
-/

namespace NicResidency.WorkerEvidence
open StateMachine VersionedSlot NicRegistry Selection

/-- The call of the event inserted or replaced the record of the NIC. -/
def writesNic (n : NicId) (event : RegistryEvent) : Bool :=
  match event.input with
  | .mutate _ (.registerNic rec) => accepted event && rec.id == n &&
      (event.pre.nics[n]?).all fun old => old.generation != rec.generation
  | _ => false

/-- The event is an accepted coordinator restart. -/
def restarts (event : RegistryEvent) : Bool :=
  match event.input with
  | .coordinatorRestart _ => accepted event
  | _ => false

/-- The incarnation is registered and on record as a publisher of the NIC. -/
def Held (s : NicRegistry) (n : NicId) (auth : Authority) : Prop :=
  (s.workers[auth.worker]?).map WorkerHandle.boot = some auth.boot ∧ n ∈ s.publishedBy auth.worker

/-- The last writer of every NIC in an available lifecycle is held. -/
def WritersHeld (history : List RegistryEvent) (s : NicRegistry) : Prop :=
  ∀ n nic, s.nics[n]? = some nic → availableLifecycle nic.lifecycle = true →
    ∃ event auth rec, latest (writesNic n) history = some event ∧
      event.input = .mutate auth (.registerNic rec) ∧ Held s n auth

section
variable {s t : NicRegistry} {c : Call} {outcome : Except ResidencyError Reply}

theorem publishedBy_notePublisher (worker other : WorkerId) (id n : NicId)
    (published : n ∈ s.publishedBy other) : n ∈ (notePublisher worker id s).publishedBy other := by
  unfold publishedBy notePublisher at *
  simp only [Std.ExtTreeMap.getElem?_insert]
  split
  next same =>
    obtain rfl : worker = other := Std.LawfulEqOrd.eq_of_compare same
    exact Finset.mem_insert_of_mem published
  next => exact published

theorem publishedBy_note_self (worker : WorkerId) (id : NicId) :
    id ∈ (notePublisher worker id s).publishedBy worker := by
  simp [publishedBy, notePublisher]

/-- A write stores the record of its call and puts its worker on record for it. -/
theorem state_of_writes (transition : Transition s c outcome t) {n : NicId}
    (writes : writesNic n ⟨s, c, outcome, t⟩ = true) :
    ∃ auth rec, c = .mutate auth (.registerNic rec) ∧ s.Authorised auth ∧ rec.id = n ∧
      t = { notePublisher auth.worker rec.id s with
        nics := s.nics.insert rec.id { rec with freshness := 0 } } := by
  unfold writesNic at writes
  cases transition with
  | refusedNic => cases writes
  | refused c =>
    split at writes
    · cases writes
    · cases writes
  | duplicateNic auth rec old _ _ _ stored level =>
    simp only [Bool.and_eq_true, beq_iff_eq] at writes
    obtain ⟨⟨-, rfl⟩, changed⟩ := writes
    simp [stored, level] at changed
  | wroteNic auth rec current =>
    simp only [Bool.and_eq_true, beq_iff_eq] at writes
    exact ⟨auth, rec, rfl, current, writes.1.2, rfl⟩
  | _ => cases writes

/-- A write puts its authority in charge of the NIC. -/
theorem held_of_writes (transition : Transition s c outcome t) {n : NicId}
    (writes : writesNic n ⟨s, c, outcome, t⟩ = true) :
    ∃ auth rec, c = .mutate auth (.registerNic rec) ∧ Held t n auth := by
  obtain ⟨auth, rec, called, current, rfl, rfl⟩ := state_of_writes transition writes
  exact ⟨auth, rec, called, current.2, publishedBy_note_self _ _⟩

/-- Only the retirement of its worker takes a NIC out of the hands of an
incarnation, and that demotes the NIC. -/
theorem held_kept (transition : Transition s c outcome t)
    (noRestart : restarts ⟨s, c, outcome, t⟩ = false) {n : NicId} {nic : NicRecord}
    (reached : t.nics[n]? = some nic) (available : availableLifecycle nic.lifecycle = true)
    {auth : Authority} (held : Held s n auth) : Held t n auth := by
  obtain ⟨registered, published⟩ := held
  cases transition with
  | restarted => cases noRestart
  | refusedNic | duplicateNic | wroteNic =>
    exact ⟨registered, publishedBy_notePublisher _ _ _ _ published⟩
  | registeredWorker worker boot free =>
    refine ⟨?_, published⟩
    obtain ⟨handle, found, same⟩ := Option.map_eq_some_iff.mp registered
    simp only [Std.ExtTreeMap.getElem?_insert]
    split
    next named =>
      obtain rfl : worker = auth.worker := Std.LawfulEqOrd.eq_of_compare named
      simp [← same, free handle found]
    next => exact registered
  | retiredWorker worker boot =>
    have spared : auth.worker ≠ worker := by
      intro same
      subst same
      simp only [retireWorker, Std.ExtTreeMap.getElem?_map] at reached
      obtain ⟨old, -, rfl⟩ := Option.map_eq_some_iff.mp reached
      simp only [if_pos published] at available
      cases available
    have different : ¬compare worker auth.worker = .eq :=
      fun same => spared (Std.LawfulEqOrd.eq_of_compare same).symm
    simp only [Held, retireWorker, publishedBy, Std.ExtTreeMap.getElem?_erase, if_neg different]
    exact ⟨registered, published⟩
  | _ => exact ⟨registered, published⟩

/-- What the registry cannot do to a NIC record on its own is gained only by a
write of a current authority. -/
theorem writes_of_gained (transition : Transition s c outcome t) (good : NicRecord → Prop)
    (revalidation : ∀ old : NicRecord, good old.requireRevalidation → good old)
    (advance : ∀ old : NicRecord, good old.advance → good old) {n : NicId}
    (bad : ∀ old, s.nics[n]? = some old → ¬good old) {nic : NicRecord}
    (reached : t.nics[n]? = some nic) (isGood : good nic) :
    writesNic n ⟨s, c, outcome, t⟩ = true ∧
      ∃ auth rec, c = .mutate auth (.registerNic rec) ∧ s.Authorised auth := by
  obtain ⟨⟨rec, ⟨auth, called, current, ok⟩, same, rfl⟩, newer⟩ :=
    (nic_change transition n).gained_by_write good
      (by
        intro old _ found isGood
        obtain rfl | ⟨-, rfl⟩ := found
        · exact revalidation old isGood
        · exact advance old isGood)
      bad nic reached isGood
  refine ⟨?_, auth, rec, called, current⟩
  change c = _ at called
  subst called
  simp only [writesNic, Bool.and_eq_true, beq_iff_eq, Option.all_eq_true, bne_iff_ne]
  exact ⟨⟨ok, same⟩, fun old stored => (newer old stored).ne⟩

/-- A NIC that the event does not write was available before it. -/
theorem available_before (transition : Transition s c outcome t) {n : NicId} {nic : NicRecord}
    (quiet : writesNic n ⟨s, c, outcome, t⟩ = false)
    (reached : t.nics[n]? = some nic) (available : availableLifecycle nic.lifecycle = true) :
    ∃ old, s.nics[n]? = some old ∧ availableLifecycle old.lifecycle = true := by
  by_contra unavailable
  have ⟨writes, _⟩ := writes_of_gained transition (fun n => availableLifecycle n.lifecycle = true)
    (fun _ never => nomatch never) (fun _ good => good)
    (fun old stored good => unavailable ⟨old, stored, good⟩) reached available
  rw [quiet] at writes
  cases writes

end

theorem writersHeld_step (history : List RegistryEvent) (s : NicRegistry) (c : Call)
    (held : WritersHeld history s) (noRestart : restarts (Event.at step s c) = false) :
    WritersHeld (history ++ [Event.at step s c]) (step s c).2 := by
  intro n nic reached available
  have transition := at_transition s c
  rw [latest_append_singleton]
  by_cases writes : writesNic n (Event.at step s c) = true
  · obtain ⟨auth, rec, called, held⟩ := held_of_writes transition writes
    exact ⟨_, auth, rec, by rw [if_pos writes], called, held⟩
  · obtain ⟨old, stored, wasAvailable⟩ :=
      available_before transition (Bool.eq_false_of_not_eq_true writes) reached available
    obtain ⟨event, auth, rec, last, called, holds⟩ := held n old stored wasAvailable
    exact ⟨event, auth, rec, by rw [if_neg writes, last], called,
      held_kept transition noRestart reached available holds⟩

/-- In a run without an accepted restart, the last writer of every selected NIC
is still registered with its boot id. -/
theorem selected_writer_registered (epoch : CoordinatorEpoch) (calls : List Call)
    (noRestart : ∀ event ∈ NicRegistry.history { epoch } calls, restarts event = false)
    (policy : ResidencyPolicy) (gpu : GpuId) (numa : NumaNodeId) (endpoint : EndpointId)
    (workload : WorkerId) (n : NicId)
    (selects : Selects (policy.decide (NicRegistry.after { epoch } calls).snapshot gpu numa endpoint
      workload) n) :
    ∃ event auth rec, latest (writesNic n) (NicRegistry.history { epoch } calls) = some event ∧
      event.input = .mutate auth (.registerNic rec) ∧
      ((NicRegistry.after { epoch } calls).workers[auth.worker]?).map WorkerHandle.boot =
        some auth.boot := by
  have held : WritersHeld (NicRegistry.history { epoch } calls) (NicRegistry.after { epoch } calls) :=
    history_invariant WritersHeld (fun event => restarts event = false) writersHeld_step
      (by intro n nic stored; simp at stored) calls noRestart
  obtain ⟨nic, stored, admissible⟩ := selects_stored selects
  obtain ⟨event, auth, rec, last, called, registered, -⟩ := held n nic stored admissible.lifecycle
  exact ⟨event, auth, rec, last, called, registered⟩

/-- Two workers register and publish a NIC each; one of them dies. -/
def oneSurvivor : List Call :=
  let nic (id : UInt64) : NicRecord :=
    { id := ⟨id⟩, generation := ⟨1⟩, lifecycle := .available, provenance := ⟨.real, []⟩ }
  [.registerWorker ⟨7⟩ ⟨1⟩,
    .registerWorker ⟨8⟩ ⟨1⟩,
    .mutate ⟨⟨1⟩, ⟨7⟩, ⟨1⟩⟩ (.registerNic (nic 10)),
    .mutate ⟨⟨1⟩, ⟨8⟩, ⟨1⟩⟩ (.registerNic (nic 11)),
    .workerRetired ⟨7⟩ ⟨1⟩]

theorem oneSurvivor_writer_registered :
    ∃ event auth rec, latest (writesNic ⟨11⟩) (NicRegistry.history { epoch := ⟨1⟩ } oneSurvivor) =
        some event ∧ event.input = .mutate auth (.registerNic rec) ∧
      ((NicRegistry.after { epoch := ⟨1⟩ } oneSurvivor).workers[auth.worker]?).map
        WorkerHandle.boot = some auth.boot :=
  selected_writer_registered ⟨1⟩ oneSurvivor (by decide +kernel) {} ⟨0⟩ ⟨0⟩ ⟨0⟩ ⟨0⟩ ⟨11⟩
    ⟨rfl, by decide +kernel⟩

end NicResidency.WorkerEvidence

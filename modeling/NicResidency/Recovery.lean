import NicResidency.FileFormat
import NicResidency.References
import NicResidency.Revalidation
import NicResidency.Selection

/-!
Recovered NICs. Whatever a state file contains, a NIC that is recovered from it
and registered again cannot be selected until a newer generation of it has been
registered.
-/

namespace NicResidency.Recovery
open ByteStream StateMachine Throwing NicRegistry Generations Revalidation Selection PersistenceStore FileFormat

/-- The calls that register some workers. -/
def workerCalls (workers : List (WorkerId × WorkerBootId)) : List Call :=
  workers.map fun worker => .registerWorker worker.1 worker.2

/-- The calls that register recovered NICs. A call that throws is skipped. -/
def nicCalls (auth : Authority) (nics : List NicRecord) : List Call :=
  nics.map fun nic => .mutate auth (.registerNic nic)

/-! What is recovered. -/

/-- The NICs of a recovery are those of a state that passed the checks of the
reader, or none. -/
theorem recovered_checked {data : Option Bytes} {recovered : RecoveryResult}
    (read : recover data = .ok recovered) :
    (∀ n ∈ recovered.nics, NicChecked n ∧ n.id.valid = true) ∧
      (recovered.nics.map (·.id)).Nodup := by
  cases data with
  | none =>
    cases read
    exact ⟨fun _ member => (nomatch member), List.nodup_nil⟩
  | some data =>
    simp only [recover] at read
    split at read
    next st loaded =>
      cases read
      have checked := (load_eq_ok_iff.mp loaded).2
      exact ⟨checked.nics, checked.nicsDistinct⟩
    next =>
      cases read
      exact ⟨fun _ member => (nomatch member), List.nodup_nil⟩
    next => cases read

/-! Recovered NICs in the registry. -/

/-- The NIC requires revalidation at this generation or a greater one, or it was
not taken in: its generation is zero, or the registry is full. -/
def Pending (n : NicId) (g : Nat) (s : NicRegistry) : Prop :=
  Flagged g (.nic n) s ∨ s.nics[n]? = none ∧ (g = 0 ∨ NicRegistry.kMaxNics ≤ s.nics.size)

section
variable {s t : NicRegistry} {c : Call} {outcome : Except ResidencyError Reply}

theorem Pending.not_admissible {n : NicId} {g : Nat} (pending : Pending n g s) {nic : NicRecord}
    (stored : s.nics[n]? = some nic) : ¬Admissible nic := by
  intro admissible
  rcases pending with ⟨generation, flagged, -⟩ | ⟨absent, -⟩
  · have lifecycle := admissible.lifecycle
    rw [status, stored, Option.map_some, Option.some.injEq, Prod.mk.injEq] at flagged
    rw [flagged.2] at lifecycle
    cases lifecycle
  · rw [absent] at stored
    cases stored

/-- No NIC is ever removed. -/
theorem size_le (transition : Transition s c outcome t) : s.nics.size ≤ t.nics.size := by
  have subset : s.nics.keys ⊆ t.nics.keys := fun id member =>
    Std.ExtTreeMap.mem_keys.mpr
      ((References.kept transition).nics id (Std.ExtTreeMap.mem_keys.mp member))
  have shorter := (List.subperm_of_subset Std.ExtTreeMap.nodup_keys subset).length_le
  rwa [Std.ExtTreeMap.length_keys, Std.ExtTreeMap.length_keys] at shorter

/-- A NIC that was not taken in stays out, unless it is registered at a generation
that is not zero. -/
theorem absent_transition (transition : Transition s c outcome t) {n : NicId} {g : Nat}
    (absent : s.nics[n]? = none) (refused : g = 0 ∨ NicRegistry.kMaxNics ≤ s.nics.size) :
    t.nics[n]? = none ∨ ∃ newer, Registers ⟨s, c, outcome, t⟩ newer (.nic n) ∧ g < newer := by
  cases transition with
  | wroteNic auth rec current valid room newer first =>
    by_cases same : rec.id = n
    · subst same
      obtain rfl : g = 0 := refused.resolve_right (not_le.mpr room)
      have positive : 0 < rec.generation.value.toNat := by
        have nonzero := first absent
        rw [Generation.valid, bne_iff_ne] at nonzero
        exact Nat.pos_of_ne_zero fun zero => nonzero (UInt64.toNat_inj.mp zero)
      exact .inr ⟨_, ⟨rec, ⟨auth, rfl, current, rfl⟩, rfl, rfl⟩, positive⟩
    · left
      rw [Std.ExtTreeMap.getElem?_insert]
      rw [if_neg (fun equal => same (Std.LawfulEqOrd.eq_of_compare equal))]
      exact absent
  | advancedNic auth id =>
    left
    change (s.nics.modify id NicRecord.advance)[n]? = none
    rw [Std.ExtTreeMap.getElem?_modify]
    split <;> simp_all
  | retiredWorker =>
    left
    change (s.nics.map _)[n]? = none
    rw [Std.ExtTreeMap.getElem?_map, absent, Option.map_none]
  | _ => exact .inl absent

theorem pending_transition (transition : Transition s c outcome t)
    (noWrap : NoWrap ⟨s, c, outcome, t⟩) {n : NicId} {g : Nat} (pending : Pending n g s) :
    Pending n g t ∨ ∃ newer, Registers ⟨s, c, outcome, t⟩ newer (.nic n) ∧ g < newer := by
  rcases pending with flagged | ⟨absent, refused⟩
  · exact (flagged_transition transition noWrap flagged).imp_left .inl
  · rcases absent_transition transition absent refused with still | released
    · exact .inl (.inr ⟨still, refused.imp_right (·.trans (size_le transition))⟩)
    · exact .inr released

/-- Registering another NIC leaves the NIC as it is. -/
theorem pending_other {auth : Authority} {rec : NicRecord}
    (transition : Transition s (.mutate auth (.registerNic rec)) outcome t) {n : NicId} {g : Nat}
    (other : rec.id ≠ n) (pending : Pending n g s) : Pending n g t := by
  have noWrap : NoWrap ⟨s, .mutate auth (.registerNic rec), outcome, t⟩ :=
    fun _ advanced => nomatch advanced.2
  rcases pending_transition transition noWrap pending with still | ⟨_, ⟨found, accepts, same, -⟩, -⟩
  · exact still
  · obtain ⟨_, called, -, -⟩ := accepts
    obtain rfl : rec = found := by simpa using (Call.mutate.inj called).2
    exact absurd same other

theorem nics_registerWorker {worker : WorkerId} {boot : WorkerBootId}
    (transition : Transition s (.registerWorker worker boot) outcome t) : t.nics = s.nics := by
  cases transition <;> rfl

theorem authorised_registerNic {auth : Authority} {rec : NicRecord}
    (transition : Transition s (.mutate auth (.registerNic rec)) outcome t)
    (live : s.Authorised auth) : t.Authorised auth := by
  cases transition <;> exact live

end

/-- A publication of a NIC that is not stored writes it, unless the registry is
full or its generation is zero. -/
theorem registerNic_new {s : NicRegistry} {auth : Authority} {rec : NicRecord}
    (live : s.Authorised auth) (valid : rec.id.valid = true) (absent : s.nics[rec.id]? = none) :
    (s.step (.mutate auth (.registerNic rec))).2.nics =
      if NicRegistry.kMaxNics ≤ s.nics.size ∨ rec.generation.valid = false then s.nics
      else s.nics.insert rec.id { rec with freshness := 0 } := by
  change (perform (Reply.nic <$> registerNic rec auth) s).2.nics = _
  have noted : (notePublisher auth.worker rec.id s).nics = s.nics := rfl
  rw [perform_map, registerNic, perform_bind, perform_ensureAuthority, if_pos live]
  simp only [perform_modify_bind, perform_reject_bind, perform_get_bind, noted, absent,
    storeVersioned]
  by_cases full : NicRegistry.kMaxNics ≤ s.nics.size
  · simp [valid, full, noted]
  · by_cases positive : rec.generation.valid = true
    · simp [valid, full, positive]
    · simp [valid, full, positive, noted]

theorem pending_registered {s : NicRegistry} {auth : Authority} {rec : NicRecord}
    (live : s.Authorised auth) (checked : NicChecked rec) (valid : rec.id.valid = true)
    (absent : s.nics[rec.id]? = none) :
    Pending rec.id rec.generation.value.toNat (s.step (.mutate auth (.registerNic rec))).2 := by
  have nics := registerNic_new live valid absent
  split_ifs at nics with refused
  · right
    rw [nics]
    refine ⟨absent, refused.symm.imp_left fun zero => ?_⟩
    rw [Generation.valid, bne_eq_false_iff_eq] at zero
    rw [zero]
    rfl
  · left
    refine ⟨rec.generation.value.toNat, ?_, le_rfl⟩
    simp only [status, nics, Std.ExtTreeMap.getElem?_insert_self, Option.map_some, checked.lifecycle]

/-- After the recovered NICs are registered, each of them is pending. -/
theorem pending_recovered {auth : Authority} (nics : List NicRecord)
    (checked : ∀ n ∈ nics, NicChecked n ∧ n.id.valid = true) (distinct : (nics.map (·.id)).Nodup)
    {s : NicRegistry} (live : s.Authorised auth) (new : ∀ n ∈ nics, s.nics[n.id]? = none) :
    ∀ n ∈ nics, Pending n.id n.generation.value.toNat (s.after (nicCalls auth nics)) := by
  induction nics generalizing s with
  | nil => exact fun _ member => nomatch member
  | cons nic rest ih =>
    obtain ⟨⟨nicChecked, valid⟩, restChecked⟩ := List.forall_mem_cons.mp checked
    obtain ⟨absent, restNew⟩ := List.forall_mem_cons.mp new
    obtain ⟨different, restDistinct⟩ := List.nodup_cons.mp distinct
    have transition := at_transition s (.mutate auth (.registerNic nic))
    have others (n : NicRecord) (member : n ∈ rest) : nic.id ≠ n.id :=
      fun same => different (List.mem_map.mpr ⟨n, member, same.symm⟩)
    refine List.forall_mem_cons.mpr ⟨?_, ih restChecked restDistinct
      (authorised_registerNic transition live) ?_⟩
    · -- the records that follow have other ids
      refine invariant_exec (Pending nic.id nic.generation.value.toNat)
        (fun event => ∃ rec, event.input = .mutate auth (.registerNic rec) ∧ rec.id ≠ nic.id)
        ?_ (pending_registered live nicChecked valid absent) _ ?_
      · intro s c pending called
        obtain ⟨rec, rfl, other⟩ := called
        exact pending_other (at_transition s _) other pending
      · intro event member
        obtain ⟨before, c, after, cut, rfl⟩ := (mem_events_iff step _ _ event).mp member
        have called : c ∈ nicCalls auth rest := by
          change nicCalls auth rest = _ at cut
          rw [cut]
          exact List.mem_append_right _ (List.mem_cons_self ..)
        obtain ⟨rec, listed, rfl⟩ := List.mem_map.mp called
        exact ⟨rec, rfl, (others rec listed).symm⟩
    · intro n member
      have nics := registerNic_new live valid absent
      change (s.step (.mutate auth (.registerNic nic))).2.nics[n.id]? = none
      rw [nics]
      split
      next => exact restNew n member
      next =>
        rw [Std.ExtTreeMap.getElem?_insert]
        rw [if_neg (fun equal => others n member (Std.LawfulEqOrd.eq_of_compare equal))]
        exact restNew n member

theorem nics_workerCalls {s : NicRegistry} (workers : List (WorkerId × WorkerBootId)) :
    (s.after (workerCalls workers)).nics = s.nics := by
  induction workers generalizing s with
  | nil => rfl
  | cons worker rest ih =>
    exact ih.trans (nics_registerWorker (at_transition s (.registerWorker worker.1 worker.2)))

/-- A NIC recovered from any file and registered in a fresh registry is selected
only after a registration of it at a strictly greater generation. -/
theorem recovered_selected_after_newer (data : Option Bytes) (recovered : RecoveryResult)
    (read : recover data = .ok recovered) (epoch : CoordinatorEpoch) (fresh : NicRegistry)
    (made : create epoch = .ok fresh) (workers : List (WorkerId × WorkerBootId)) (auth : Authority)
    (live : (fresh.after (workerCalls workers)).Authorised auth) (calls : List Call)
    (met : ∀ event ∈ (fresh.after (workerCalls workers ++ nicCalls auth recovered.nics)).history calls,
      NoWrap event)
    (policy : ResidencyPolicy) (gpu : GpuId) (numa : NumaNodeId) (endpoint : EndpointId)
    (workload : WorkerId) (n : NicRecord) (member : n ∈ recovered.nics)
    (selects : Selects (policy.decide
      (fresh.after (workerCalls workers ++ nicCalls auth recovered.nics ++ calls)).snapshot
      gpu numa endpoint workload) n.id) :
    ∃ event ∈ (fresh.after (workerCalls workers ++ nicCalls auth recovered.nics)).history calls,
      ∃ newer, Registers event newer (.nic n.id) ∧ n.generation.value.toNat < newer := by
  obtain rfl := create_ok made
  obtain ⟨checked, distinct⟩ := recovered_checked read
  have empty := nics_workerCalls workers (s := { epoch })
  have pending := pending_recovered recovered.nics checked distinct live
    (fun n _ => by rw [empty, Std.ExtTreeMap.getElem?_empty]) n member
  rw [← after_append] at pending
  rcases latch (Pending n.id n.generation.value.toNat) NoWrap
    (fun event => ∃ newer, Registers event newer (.nic n.id) ∧ n.generation.value.toNat < newer)
    (fun s c held noWrap => pending_transition (at_transition s c) noWrap held)
    pending calls met with still | released
  · obtain ⟨nic, stored, admissible⟩ := selects_stored selects
    rw [after_append] at stored
    exact absurd admissible (still.not_admissible stored)
  · exact released

/-- The file of one NIC whose record reads as available and real. -/
def oneNicFile : Bytes :=
  let body := leBytes 4 1 ++ leBytes 8 3 ++ leBytes 4 0 ++ leBytes 8 0 ++ leBytes 4 1 ++
    leBytes 8 10 ++ leBytes 8 4 ++ leBytes 2 0 ++ leBytes 2 0 ++ leBytes 5 0 ++ leBytes 8 0 ++
    leBytes 3 0 ++ leBytes 12 0 ++ leBytes 5 0 ++ leBytes 8 0 ++ leBytes 5 0 ++
    leBytes 4 0 ++ leBytes 4 0
  kMagicBox ++ body ++ leBytes 8 (fnv1a body).toNat

/-- The NIC of the file. -/
def recoveredNic : NicRecord :=
  { id := ⟨10⟩, generation := ⟨4⟩, functionClass := .physicalFunction
    capability := { provenance := ⟨.real, []⟩ }, lifecycle := .revalidationRequired
    provenance := ⟨.real, []⟩ }

/-- What is recovered from the file. -/
def oneNicRecovery : RecoveryResult :=
  { ok := true, epoch := ⟨3⟩, nics := [recoveredNic]
    message := "recovered durable identity; dynamic evidence requires revalidation" }

/-- The NIC is selected after it has been published at the next generation. -/
theorem oneNicRecovery_republished :
    ∃ event ∈ (NicRegistry.after { epoch := ⟨3⟩ }
        (workerCalls [(⟨7⟩, ⟨1⟩)] ++ nicCalls ⟨⟨3⟩, ⟨7⟩, ⟨1⟩⟩ oneNicRecovery.nics)).history
        [.mutate ⟨⟨3⟩, ⟨7⟩, ⟨1⟩⟩ (.registerNic
          { recoveredNic with generation := ⟨5⟩, lifecycle := .available })],
      ∃ newer, Registers event newer (.nic ⟨10⟩) ∧ 4 < newer :=
  recovered_selected_after_newer (some oneNicFile) oneNicRecovery (by decide +kernel) ⟨3⟩
    { epoch := ⟨3⟩ } rfl [(⟨7⟩, ⟨1⟩)] ⟨⟨3⟩, ⟨7⟩, ⟨1⟩⟩ (by decide +kernel)
    [.mutate ⟨⟨3⟩, ⟨7⟩, ⟨1⟩⟩ (.registerNic
      { recoveredNic with generation := ⟨5⟩, lifecycle := .available })]
    (noWrap_of_no_advance _ _ (by decide)) {} ⟨0⟩ ⟨0⟩ ⟨0⟩ ⟨0⟩ recoveredNic
    (List.mem_singleton.mpr rfl) ⟨rfl, by decide +kernel⟩

end NicResidency.Recovery

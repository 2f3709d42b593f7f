import NicResidency.AcceptedCalls
import NicResidency.AuthorityFencing
import NicResidency.FreshnessLimit
import NicResidency.Rejections
import NicResidency.Retirement

/-!
NICs that another worker has taken over. A retirement demotes every NIC that the worker has
tried to publish since it was last forgotten, also where another worker has written the
record since then, or where the publication was rejected.
-/

namespace NicResidency.Takeover
open StateMachine Throwing NicRegistry WorkerEvidence

/-- The worker published the NIC with current authority, whatever came of it. -/
def attempts (worker : WorkerId) (n : NicId) (event : RegistryEvent) : Prop :=
  ∃ auth nic, event.input = .mutate auth (.registerNic nic) ∧ event.pre.Authorised auth ∧
    auth.worker = worker ∧ nic.id = n

/-- No other incarnation of the worker is registered, so that its retirement is not stale. -/
def Unopposed (s : NicRegistry) (worker : WorkerId) (boot : WorkerBootId) : Prop :=
  ∀ handle, s.workers[worker]? = some handle → handle.boot = boot

/-- The event is an effective retirement of the worker, or an accepted restart. -/
def forgets (worker : WorkerId) (event : RegistryEvent) : Prop :=
  (∃ boot, event.input = .workerRetired worker boot ∧ Unopposed event.pre worker boot) ∨
    restarts event = true

/-- The worker has tried to publish the NIC since it was last forgotten. -/
def AttemptedSince (history : List RegistryEvent) (worker : WorkerId) (n : NicId) : Prop :=
  ∃ before event after, history = before ++ event :: after ∧ attempts worker n event ∧
    ∀ later ∈ after, ¬forgets worker later

/-- Another incarnation than the given one has last written the NIC, and is registered. -/
def TakenOver (history : List RegistryEvent) (s : NicRegistry) (worker : WorkerId)
    (boot : WorkerBootId) (n : NicId) : Prop :=
  ∃ event other otherBoot, latest (writesNic n) history = some event ∧
    Retirement.caller event = some (other, otherBoot) ∧ (other, otherBoot) ≠ (worker, boot) ∧
      (s.workers[other]?).map WorkerHandle.boot = some otherBoot

/-- No retirement of the run changes a NIC that another incarnation has taken over. -/
def RetirementsSpare (epoch : CoordinatorEpoch) (calls : List Call) : Prop :=
  ∀ earlier worker boot rest, calls = earlier ++ .workerRetired worker boot :: rest →
    ∀ n, TakenOver (NicRegistry.history { epoch } earlier) (NicRegistry.after { epoch } earlier) worker
        boot n →
      (NicRegistry.after { epoch } (earlier ++ [.workerRetired worker boot])).nics[n]? =
        (NicRegistry.after { epoch } earlier).nics[n]?

/-- The retirement is stale, or the worker is not on record for the NIC, or the NIC
requires revalidation already. -/
def OutOfReach (history : List RegistryEvent) (s : NicRegistry) (worker : WorkerId)
    (boot : WorkerBootId) (n : NicId) : Prop :=
  ¬Unopposed s worker boot ∨ ¬AttemptedSince history worker n ∨
    ∀ nic, s.nics[n]? = some nic → nic.lifecycle = .revalidationRequired

/-! The table of publishers is the history of the attempts. -/

section
variable {s : NicRegistry} {worker : WorkerId} {n : NicId}

theorem mem_publishedBy_note {publisher : WorkerId} {id : NicId} :
    n ∈ (notePublisher publisher id s).publishedBy worker ↔
      publisher = worker ∧ id = n ∨ n ∈ s.publishedBy worker := by
  unfold publishedBy notePublisher
  simp only [Std.ExtTreeMap.getElem?_insert, Std.LawfulEqOrd.compare_eq_iff_eq]
  by_cases same : publisher = worker
  · subst same
    simp only [if_true, Option.getD_some, Finset.mem_insert, true_and, publishedBy]
    rw [eq_comm]
  · simp only [same, if_false, false_and, false_or]

theorem attemptedSince_append {history : List RegistryEvent} {event : RegistryEvent} :
    AttemptedSince (history ++ [event]) worker n ↔
      attempts worker n event ∨ AttemptedSince history worker n ∧ ¬forgets worker event := by
  constructor
  · intro since
    obtain ⟨before, attempt, after, split, attempted, kept⟩ := since
    rcases List.eq_nil_or_concat' after with rfl | ⟨after, last, rfl⟩
    · obtain ⟨-, same⟩ := List.append_inj' split rfl
      obtain rfl : event = attempt := List.cons.inj same |>.1
      exact .inl attempted
    · rw [← List.cons_append, ← List.append_assoc] at split
      obtain ⟨rfl, same⟩ := List.append_inj' split rfl
      obtain rfl : event = last := List.cons.inj same |>.1
      refine .inr ⟨⟨before, attempt, after, rfl, attempted, ?_⟩, kept event (by simp)⟩
      intro later member
      exact kept later (by simp [member])
  · intro since
    rcases since with attempted | ⟨⟨before, attempt, after, rfl, attempted, kept⟩, still⟩
    · exact ⟨history, event, [], rfl, attempted, by simp⟩
    · refine ⟨before, attempt, after ++ [event], by simp, attempted, ?_⟩
      intro later member
      rcases List.mem_append.mp member with inside | last
      · exact kept later inside
      · rwa [List.mem_singleton.mp last]

theorem attempts_mutate {auth : Authority} {mutation : Mutation} :
    attempts worker n (Event.at step s (.mutate auth mutation)) ↔
      ∃ nic, mutation = .registerNic nic ∧ s.Authorised auth ∧ auth.worker = worker ∧ nic.id = n := by
  constructor
  · intro attempted
    obtain ⟨_, nic, called, current, same⟩ := attempted
    obtain ⟨rfl, rfl⟩ := Call.mutate.inj called
    exact ⟨nic, rfl, current, same⟩
  · intro attempted
    obtain ⟨nic, rfl, current, same⟩ := attempted
    exact ⟨auth, nic, rfl, current, same⟩

/-- Only the publication of a NIC enters a worker into the table. -/
theorem publishedBy_mutate {auth : Authority} {mutation : Mutation}
    (other : ∀ nic, mutation ≠ .registerNic nic) :
    (s.step (.mutate auth mutation)).2.publishedBy worker = s.publishedBy worker := by
  cases called : s.step (.mutate auth mutation) with
  | mk outcome t =>
    cases step_transition called with
    | refusedNic _ nic | duplicateNic _ nic | wroteNic _ nic => exact absurd rfl (other nic)
    | _ => rfl

theorem publishedBy_registerNic {auth : Authority} (nic : NicRecord) :
    n ∈ (s.step (.mutate auth (.registerNic nic))).2.publishedBy worker ↔
      (s.Authorised auth ∧ auth.worker = worker ∧ nic.id = n) ∨ n ∈ s.publishedBy worker := by
  by_cases current : s.Authorised auth
  · have noted : (s.step (.mutate auth (.registerNic nic))).2.publishedBy worker =
        (notePublisher auth.worker nic.id s).publishedBy worker :=
      congrArg (fun table => table[worker]?.getD ∅) (Rejections.registerNic_notes nic current)
    rw [noted, mem_publishedBy_note, and_iff_right current]
  · rw [AuthorityFencing.step_unauthorised current]
    exact (or_iff_right fun attempted => current attempted.1).symm

theorem publishedBy_registerWorker (other : WorkerId) (boot : WorkerBootId) :
    (s.step (.registerWorker other boot)).2.publishedBy worker = s.publishedBy worker := by
  cases called : s.step (.registerWorker other boot) with
  | mk outcome t => cases step_transition called <;> rfl

/-- A stale retirement is ignored. -/
theorem step_opposed {boot : WorkerBootId} (opposed : ¬Unopposed s worker boot) :
    s.step (.workerRetired worker boot) = (.ok .done, s) := by
  obtain ⟨handle, stale⟩ := not_forall.mp opposed
  obtain ⟨found, other⟩ := Classical.not_imp.mp stale
  exact step_of_accepted (.ignoredRetirement worker boot handle found other)

/-- An effective retirement leaves nothing of the worker in the table. -/
theorem publishedBy_workerRetired (other : WorkerId) (boot : WorkerBootId) :
    n ∈ (s.step (.workerRetired other boot)).2.publishedBy worker ↔
      n ∈ s.publishedBy worker ∧ ¬(other = worker ∧ Unopposed s worker boot) := by
  by_cases unopposed : Unopposed s other boot
  · rw [step_of_accepted (.retiredWorker other boot unopposed)]
    unfold retireWorker publishedBy
    simp only [Std.ExtTreeMap.getElem?_erase, Std.LawfulEqOrd.compare_eq_iff_eq]
    by_cases same : other = worker
    · subst same
      simp [unopposed]
    · simp [same]
  · rw [step_opposed unopposed]
    refine (and_iff_left ?_).symm
    intro retired
    obtain ⟨rfl, effective⟩ := retired
    exact unopposed effective

/-- An accepted restart leaves nothing in the table. -/
theorem publishedBy_restart (newEpoch : CoordinatorEpoch) :
    n ∈ (s.step (.coordinatorRestart newEpoch)).2.publishedBy worker ↔
      n ∈ s.publishedBy worker ∧ ¬restarts (Event.at step s (.coordinatorRestart newEpoch)) = true := by
  simp only [restarts, accepted, Event.at_input, Event.at_outcome]
  cases called : s.step (.coordinatorRestart newEpoch) with
  | mk outcome t =>
    cases step_transition called with
    | refused => simp [Except.isOk, Except.toBool]
    | restarted => simp [Except.isOk, Except.toBool, restart, publishedBy]

/-- A worker is on record for a NIC after a call if it has just tried to publish it, or was
on record before and is not forgotten. -/
theorem publishedBy_step (s : NicRegistry) (c : Call) (worker : WorkerId) (n : NicId) :
    n ∈ (s.step c).2.publishedBy worker ↔ attempts worker n (Event.at step s c) ∨
      n ∈ s.publishedBy worker ∧ ¬forgets worker (Event.at step s c) := by
  cases c with
  | mutate auth mutation =>
    have kept : ¬forgets worker (Event.at step s (.mutate auth mutation)) := by
      simp [forgets, restarts]
    rw [attempts_mutate, and_iff_left kept]
    by_cases publication : ∃ nic, mutation = .registerNic nic
    · obtain ⟨nic, rfl⟩ := publication
      simp only [publishedBy_registerNic, Mutation.registerNic.injEq, exists_eq_left']
    · rw [publishedBy_mutate (fun nic same => publication ⟨nic, same⟩)]
      exact (or_iff_right fun attempted => publication ⟨_, attempted.choose_spec.1⟩).symm
  | registerWorker other boot =>
    rw [publishedBy_registerWorker]
    simp [attempts, forgets, restarts]
  | workerRetired other boot =>
    rw [publishedBy_workerRetired]
    simp [attempts, forgets, restarts]
  | coordinatorRestart newEpoch =>
    rw [publishedBy_restart]
    simp [attempts, forgets]

end

/-- The table is the history of the attempts, read from the end. -/
theorem publishedBy_after (epoch : CoordinatorEpoch) (calls : List Call) (worker : WorkerId) (n : NicId) :
    n ∈ (NicRegistry.after { epoch } calls).publishedBy worker ↔
      AttemptedSince (NicRegistry.history { epoch } calls) worker n := by
  refine history_invariant
    (fun history s => n ∈ s.publishedBy worker ↔ AttemptedSince history worker n) (fun _ => True) ?_ ?_
    calls (fun _ _ => trivial)
  · intro history s c recorded _
    rw [publishedBy_step, attemptedSince_append, recorded]
  · apply iff_of_false
    · simp [publishedBy]
    · intro since
      obtain ⟨before, event, after, split, -⟩ := since
      simp at split

/-! What a retirement does to a NIC. -/

theorem retired_nic_kept_iff (s : NicRegistry) (worker : WorkerId) (boot : WorkerBootId) (n : NicId) :
    (s.step (.workerRetired worker boot)).2.nics[n]? = s.nics[n]? ↔
      ¬Unopposed s worker boot ∨ n ∉ s.publishedBy worker ∨
        ∀ nic, s.nics[n]? = some nic → nic.requireRevalidation = nic := by
  by_cases unopposed : Unopposed s worker boot
  · rw [or_iff_right (not_not.mpr unopposed), step_of_accepted (.retiredWorker worker boot unopposed)]
    show (s.nics.map _)[n]? = _ ↔ _
    rw [Std.ExtTreeMap.getElem?_map]
    by_cases published : n ∈ s.publishedBy worker
    · rw [or_iff_right (not_not.mpr published)]
      cases s.nics[n]? <;> simp [published]
    · rw [or_iff_left_of_imp (fun _ => published)]
      cases s.nics[n]? <;> simp [published]
  · rw [step_opposed unopposed]
    exact iff_of_true rfl (.inl unopposed)

/-- A record of freshness zero is demoted already when it requires revalidation. -/
theorem requireRevalidation_eq_iff {nic : NicRecord} (fresh : nic.freshness = 0) :
    nic.requireRevalidation = nic ↔ nic.lifecycle = .revalidationRequired := by
  constructor
  · intro same
    rw [← same]
    rfl
  · intro required
    cases nic
    simp only at fresh required
    subst fresh required
    rfl

theorem retirement_kept_iff (epoch : CoordinatorEpoch) (calls : List Call) (worker : WorkerId)
    (boot : WorkerBootId) (n : NicId) :
    (NicRegistry.after { epoch } (calls ++ [.workerRetired worker boot])).nics[n]? =
        (NicRegistry.after { epoch } calls).nics[n]? ↔
      OutOfReach (NicRegistry.history { epoch } calls) (NicRegistry.after { epoch } calls) worker boot n := by
  have demoted : (∀ nic, (NicRegistry.after { epoch } calls).nics[n]? = some nic →
      nic.requireRevalidation = nic) ↔ ∀ nic, (NicRegistry.after { epoch } calls).nics[n]? = some nic →
        nic.lifecycle = .revalidationRequired := by
    apply forall_congr'
    intro nic
    apply imp_congr_right
    intro stored
    exact requireRevalidation_eq_iff (FreshnessLimit.nicsFresh_after epoch calls n nic stored)
  rw [after_concat, retired_nic_kept_iff, demoted, publishedBy_after]
  rfl

/-- The retirements of a run spare the NICs of other registered incarnations exactly when each
of these is out of reach of each retirement. -/
theorem retirements_spare_iff (epoch : CoordinatorEpoch) (calls : List Call) :
    RetirementsSpare epoch calls ↔
      ∀ earlier worker boot rest, calls = earlier ++ .workerRetired worker boot :: rest →
        ∀ n, TakenOver (NicRegistry.history { epoch } earlier) (NicRegistry.after { epoch } earlier) worker
            boot n →
          OutOfReach (NicRegistry.history { epoch } earlier) (NicRegistry.after { epoch } earlier) worker
            boot n := by
  unfold RetirementsSpare
  simp only [retirement_kept_iff]

/-- A worker publishes a NIC, a second one takes it over, and the first one dies. -/
def takeoverRun : List Call :=
  let nic (generation : UInt64) : NicRecord :=
    { id := ⟨10⟩, generation := ⟨generation⟩, lifecycle := .available, provenance := ⟨.real, []⟩ }
  [.registerWorker ⟨7⟩ ⟨1⟩, .registerWorker ⟨8⟩ ⟨1⟩,
    .mutate ⟨⟨1⟩, ⟨7⟩, ⟨1⟩⟩ (.registerNic (nic 1)),
    .mutate ⟨⟨1⟩, ⟨8⟩, ⟨1⟩⟩ (.registerNic (nic 2)),
    .workerRetired ⟨7⟩ ⟨1⟩]

/-- The death of the first worker demotes the NIC of the second one. -/
theorem takeoverRun_demoted : ¬RetirementsSpare ⟨1⟩ takeoverRun := by
  intro spared
  have written : (latest (writesNic ⟨10⟩)
      (NicRegistry.history { epoch := ⟨1⟩ } (takeoverRun.take 4))).bind Retirement.caller =
        some (⟨8⟩, ⟨1⟩) := by decide +kernel
  obtain ⟨event, last, caller⟩ := Option.bind_eq_some_iff.mp written
  have same := spared (takeoverRun.take 4) ⟨7⟩ ⟨1⟩ [] rfl ⟨10⟩
    ⟨event, ⟨8⟩, ⟨1⟩, last, caller, by decide, by decide +kernel⟩
  have lifecycles := congrArg (Option.map NicRecord.lifecycle) same
  revert lifecycles
  decide +kernel

end NicResidency.Takeover

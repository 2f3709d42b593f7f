import NicResidency.AuthorityFencing
import NicResidency.Retirement

/-!
Dead incarnations. The registry keeps no record of the boot ids that it has retired, so
an incarnation stays dead exactly as long as its registration is not replayed while its
worker has no other incarnation.
-/

namespace NicResidency.Incarnations
open StateMachine NicRegistry AuthorityFencing Retirement

/-- The incarnation is the registered one of its worker. -/
def Live (s : NicRegistry) (worker : WorkerId) (boot : WorkerBootId) : Prop :=
  (s.workers[worker]?).map WorkerHandle.boot = some boot

instance (s : NicRegistry) (worker : WorkerId) (boot : WorkerBootId) :
    Decidable (Live s worker boot) :=
  inferInstanceAs (Decidable (_ = _))

/-- No guarded mutator that carries the incarnation would succeed. -/
def Rejected (worker : WorkerId) (boot : WorkerBootId) (s : NicRegistry) : Prop :=
  ∀ auth mutation, auth.worker = worker → auth.boot = boot →
    accepted (Event.at step s (.mutate auth mutation)) = false

/-- The registration of the incarnation is called while its worker is not registered
with another boot id. -/
def Reregisters (worker : WorkerId) (boot : WorkerBootId) (event : RegistryEvent) : Prop :=
  event.input = .registerWorker worker boot ∧
    ∀ handle, event.pre.workers[worker]? = some handle → handle.boot = boot

/-- An incarnation is rejected exactly while it is not live. -/
theorem rejected_iff {s : NicRegistry} {worker : WorkerId} {boot : WorkerBootId} :
    Rejected worker boot s ↔ ¬Live s worker boot := by
  constructor
  · intro rejected live
    have current : s.Authorised ⟨s.epoch, worker, boot⟩ := ⟨rfl, live⟩
    have refused := rejected ⟨s.epoch, worker, boot⟩ (.setTopology { generation := .last }) rfl rfl
    rw [accepted, Event.at_outcome, step_lastTopology current] at refused
    cases refused
  · intro dead auth mutation sameWorker sameBoot
    have stale : ¬s.Authorised auth := by
      intro current
      rw [Authorised, sameWorker, sameBoot] at current
      exact dead current.2
    rw [accepted, Event.at_outcome, step_unauthorised stale]
    rfl

/-- A dead incarnation comes to life by its registration and by nothing else. -/
theorem live_step_iff {s : NicRegistry} {worker : WorkerId} {boot : WorkerBootId}
    (dead : ¬Live s worker boot) (c : Call) :
    Live (s.step c).2 worker boot ↔ Reregisters worker boot (Event.at step s c) := by
  constructor
  · intro live
    have transition := at_transition s c
    rw [Event.at_outcome, Event.at_post] at transition
    generalize (s.step c).1 = outcome at transition
    generalize (s.step c).2 = t at transition live
    cases transition with
    | registeredWorker other newBoot free =>
      by_cases same : other = worker
      · subst same
        obtain rfl : newBoot = boot := by
          rw [Live, Std.ExtTreeMap.getElem?_insert_self] at live
          exact Option.some.inj live
        exact ⟨rfl, free⟩
      · rw [Live, Std.ExtTreeMap.getElem?_insert, if_neg (by simpa using same)] at live
        exact absurd live dead
    | retiredWorker other =>
      rw [Live, retireWorker, Std.ExtTreeMap.getElem?_erase] at live
      split at live
      · cases live
      · exact absurd live dead
    | restarted => cases live
    | _ => exact absurd live dead
  · intro registers
    obtain ⟨rfl, free⟩ := registers
    rw [Event.at_pre] at free
    rw [step_registerWorker free, Live, Std.ExtTreeMap.getElem?_insert_self]
    rfl

/-- The retirement of a live incarnation ends its registration. -/
theorem retired_not_live {s : NicRegistry} {worker : WorkerId} {boot : WorkerBootId}
    (live : Live s worker boot) : ¬Live (s.after [.workerRetired worker boot]) worker boot := by
  have transition := at_transition s (.workerRetired worker boot)
  have retired := retired_state transition (retirement_accepted s worker boot) live
  rw [Event.at_post] at retired
  rw [NicRegistry.after, exec_cons, exec_nil, retired, Live, retireWorker,
    Std.ExtTreeMap.getElem?_erase_self]
  intro gone
  cases gone

/-- After the retirement of a live incarnation, whatever calls follow, no guarded mutator
that carries it succeeds at any time, exactly when its registration is not replayed while
its worker has no other incarnation. -/
theorem never_authoritative_iff (s : NicRegistry) (worker : WorkerId) (boot : WorkerBootId)
    (live : Live s worker boot) (later : List Call) :
    Throughout step (Rejected worker boot) (s.after [.workerRetired worker boot]) later ↔
      ∀ event ∈ (s.after [.workerRetired worker boot]).history later,
        ¬Reregisters worker boot event := by
  have exact_step (s : NicRegistry) (c : Call) (dead : Rejected worker boot s) :
      Rejected worker boot (s.step c).2 ↔ ¬Reregisters worker boot (Event.at step s c) := by
    rw [rejected_iff] at dead
    rw [rejected_iff, live_step_iff dead]
  exact throughout_iff (fun event => ¬Reregisters worker boot event) exact_step
    (rejected_iff.mpr (retired_not_live live)) later

/-- The worker of a retired incarnation registers with another boot id. -/
theorem never_authoritative_successor :
    let s := NicRegistry.after { epoch := ⟨1⟩ } [.registerWorker ⟨7⟩ ⟨1⟩]
    Live s ⟨7⟩ ⟨1⟩ ∧
      (Throughout step (Rejected ⟨7⟩ ⟨1⟩) (s.after [.workerRetired ⟨7⟩ ⟨1⟩]) [.registerWorker ⟨7⟩ ⟨2⟩] ↔
        ∀ event ∈ (s.after [.workerRetired ⟨7⟩ ⟨1⟩]).history [.registerWorker ⟨7⟩ ⟨2⟩],
          ¬Reregisters ⟨7⟩ ⟨1⟩ event) := by
  intro s
  have live : Live s ⟨7⟩ ⟨1⟩ := by decide +kernel
  exact ⟨live, never_authoritative_iff s ⟨7⟩ ⟨1⟩ live [.registerWorker ⟨7⟩ ⟨2⟩]⟩

/-- The old registration message is replayed, and the dead incarnation publishes a NIC. -/
theorem replayed_registration_authoritative :
    let s := NicRegistry.after { epoch := ⟨1⟩ } [.registerWorker ⟨7⟩ ⟨1⟩]
    Live s ⟨7⟩ ⟨1⟩ ∧
      ¬Throughout step (Rejected ⟨7⟩ ⟨1⟩) (s.after [.workerRetired ⟨7⟩ ⟨1⟩])
        [.registerWorker ⟨7⟩ ⟨1⟩] := by
  intro s
  refine ⟨by decide +kernel, fun rejected => ?_⟩
  have refused := rejected [.registerWorker ⟨7⟩ ⟨1⟩] [] rfl ⟨⟨1⟩, ⟨7⟩, ⟨1⟩⟩
    (.registerNic { id := ⟨10⟩, generation := ⟨1⟩ }) rfl rfl
  have succeeded : accepted (Event.at step (s.after [.workerRetired ⟨7⟩ ⟨1⟩, .registerWorker ⟨7⟩ ⟨1⟩])
      (.mutate ⟨⟨1⟩, ⟨7⟩, ⟨1⟩⟩ (.registerNic { id := ⟨10⟩, generation := ⟨1⟩ }))) = true := by
    decide +kernel
  cases succeeded.symm.trans refused

end NicResidency.Incarnations

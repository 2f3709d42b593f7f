import NicResidency.RegistryRuns

/-!
Traffic from a stale epoch or a stale incarnation does not interfere: deleting it
from a run changes neither the outcome of any other call nor the final registry.
-/

namespace NicResidency.AuthorityFencing
open StateMachine Throwing NicRegistry

/-- A call that its epoch or its worker incarnation disqualifies at this moment. -/
def staleInput (s : NicRegistry) : Call → Bool
  | .registerWorker _ _ => false
  | .workerRetired worker boot => decide (∃ handle ∈ s.workers[worker]?, handle.boot ≠ boot)
  | .coordinatorRestart newEpoch => decide (newEpoch.value ≤ s.epoch.value)
  | .mutate auth _ => decide (¬s.Authorised auth)

/-- The calls that report a stale epoch or incarnation by throwing. A stale
retirement returns normally. -/
def throwsWhenStale : Call → Bool
  | .mutate _ _ | .coordinatorRestart _ => true
  | .registerWorker _ _ | .workerRetired _ _ => false

theorem perform_map_error {α β : Type} {method : RegistryM α} {reply : α → β} {s : NicRegistry}
    {error : ResidencyError} (threw : perform method s = (.error error, s)) :
    perform (reply <$> method) s = (.error error, s) := by
  rw [perform_map, threw]
  rfl

/-- Every mutator checks its authority before anything else. -/
theorem step_unauthorised {s : NicRegistry} {auth : Authority} (stale : ¬s.Authorised auth)
    (mutation : Mutation) : s.step (.mutate auth mutation) = (.error (s.refusal auth), s) := by
  cases mutation <;> exact perform_map_error (perform_unauthorised _ stale)

theorem step_staleRestart {s : NicRegistry} {newEpoch : CoordinatorEpoch}
    (stale : newEpoch.value ≤ s.epoch.value) :
    s.step (.coordinatorRestart newEpoch) =
      (.error { code := .staleEpoch, message := "coordinator epoch must advance monotonically"
                detail := newEpoch.str }, s) := by
  refine perform_map_error ?_
  rw [coordinatorRestart, perform_get_bind, perform_reject_bind]
  simp [stale]

theorem step_staleRetirement {s : NicRegistry} {worker : WorkerId} {boot : WorkerBootId}
    (stale : ∃ handle ∈ s.workers[worker]?, handle.boot ≠ boot) :
    s.step (.workerRetired worker boot) = (.ok .done, s) := by
  have quiet : perform (workerRetired worker boot) s = (.ok (), s) := by
    rw [workerRetired, perform_get_bind, perform_ite, if_pos stale, perform_pure]
  rw [step, call, perform_map, quiet]
  rfl

theorem staleInput_still (s : NicRegistry) (c : Call) (stale : staleInput s c = true) :
    (s.step c).2 = s := by
  cases c with
  | registerWorker => cases stale
  | workerRetired => rw [step_staleRetirement (of_decide_eq_true stale)]
  | coordinatorRestart => rw [step_staleRestart (of_decide_eq_true stale)]
  | mutate auth mutation => rw [step_unauthorised (of_decide_eq_true stale)]

theorem staleInput_threw (s : NicRegistry) (c : Call) (stale : staleInput s c = true)
    (loud : throwsWhenStale c = true) :
    ∃ error, (s.step c).1 = .error error ∧
      error.code ∈ [ErrorCode.staleEpoch, .notReady, .staleBoot] := by
  cases c with
  | registerWorker | workerRetired => cases loud
  | coordinatorRestart =>
    exact ⟨_, by rw [step_staleRestart (of_decide_eq_true stale)], by simp⟩
  | mutate auth mutation =>
    exact ⟨_, by rw [step_unauthorised (of_decide_eq_true stale)], s.refusal_code auth⟩

/-- The calls of a run without its stale traffic. -/
abbrev withoutStale (s : NicRegistry) (calls : List Call) : List Call := prune step staleInput s calls

/-- Noninterference of stale traffic, for every registry and every list of calls. -/
theorem stale_traffic_noninterference (s : NicRegistry) (calls : List Call) :
    (∀ event ∈ s.history calls, staleInput event.pre event.input = true →
      throwsWhenStale event.input = true →
      ∃ error, event.outcome = .error error ∧
        error.code ∈ [ErrorCode.staleEpoch, .notReady, .staleBoot]) ∧
    (s.history (withoutStale s calls)).map (fun event => (event.input, event.outcome)) =
      ((s.history calls).filter fun event => !staleInput event.pre event.input).map
        (fun event => (event.input, event.outcome)) ∧
    s.after (withoutStale s calls) = s.after calls := by
  refine ⟨?_, ?_, exec_prune staleInput_still s calls⟩
  · intro event member stale loud
    obtain ⟨before, input, rest, -, rfl⟩ := (mem_events_iff step s calls event).mp member
    exact staleInput_threw _ _ stale loud
  · exact congrArg _ (events_prune staleInput_still s calls)

end NicResidency.AuthorityFencing

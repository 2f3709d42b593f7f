import NicResidency.Library.VersionedSlot
import NicResidency.RegistrySteps

/-!
Runs of the registry. A run starts at a constructed registry and performs any
list of calls, in any order and by any workers; the lock makes every interleaving
of concurrent callers such a list.
-/

namespace NicResidency
open StateMachine Throwing

/-- One performed call with the registry before and after it. -/
abbrev RegistryEvent := Event NicRegistry Call (Except ResidencyError Reply)

namespace NicRegistry

/-- The registry after a list of calls. -/
abbrev after (s : NicRegistry) (calls : List Call) : NicRegistry := exec step s calls

theorem after_append (s : NicRegistry) (first second : List Call) :
    s.after (first ++ second) = (s.after first).after second :=
  exec_append step s first second

theorem after_concat (s : NicRegistry) (calls : List Call) (c : Call) :
    s.after (calls ++ [c]) = ((s.after calls).step c).2 :=
  after_append s calls [c]

/-- The events of a list of calls. -/
abbrev history (s : NicRegistry) (calls : List Call) : List RegistryEvent := events step s calls

/-- A registry that some run reaches from its construction. -/
def Reachable (s : NicRegistry) : Prop :=
  ∃ epoch created calls, create epoch = .ok created ∧ s = created.after calls

/-- A constructed registry has the given epoch and holds nothing. -/
theorem create_ok {epoch : CoordinatorEpoch} {created : NicRegistry}
    (made : create epoch = .ok created) : created = { epoch } := by
  unfold create at made
  split at made
  · exact (Except.ok.inj made).symm
  · cases made

end NicRegistry

/-- The call of an event returned normally. -/
def accepted (event : RegistryEvent) : Bool := event.outcome.isOk

theorem at_transition (s : NicRegistry) (c : Call) :
    Transition s c (Event.at NicRegistry.step s c).outcome (Event.at NicRegistry.step s c).post :=
  NicRegistry.step_transition rfl

namespace NicRegistry
variable {s : NicRegistry}

/-! Calls that go through in every state. -/

/-- A worker without another incarnation is registered. -/
theorem step_registerWorker {worker : WorkerId} {boot : WorkerBootId}
    (free : ∀ handle, s.workers[worker]? = some handle → handle.boot = boot) :
    s.step (.registerWorker worker boot) =
      (.ok .done, { s with workers := s.workers.insert worker ⟨worker, boot⟩ }) := by
  have unopposed : ¬∃ handle ∈ s.workers[worker]?, handle.boot ≠ boot := by
    intro opposed
    obtain ⟨handle, found, other⟩ := opposed
    exact other (free handle found)
  have done : perform (registerWorker worker boot) s =
      (.ok (), { s with workers := s.workers.insert worker ⟨worker, boot⟩ }) := by
    rw [registerWorker, perform_get_bind, perform_reject_bind, if_neg unopposed]
    rfl
  rw [step, call, perform_map, done]
  rfl

/-- No stored topology is newer than one of the last generation. -/
theorem step_lastTopology {auth : Authority} (current : s.Authorised auth) :
    s.step (.mutate auth (.setTopology { generation := .last })) =
      (.ok .done, invalidateTopologyDependents { s with topology := some { generation := .last } }) := by
  have newest : ¬∃ old ∈ s.topology, (Generation.last : TopologyGeneration) < old.generation := by
    intro found
    obtain ⟨old, -, newer⟩ := found
    exact absurd newer (not_lt.mpr (Generation.le_last _))
  rw [step, call, mutate, perform_map, setTopology, perform_guarded current newest]
  rfl

end NicRegistry

end NicResidency

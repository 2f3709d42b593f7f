import NicResidency.RegistryRuns

/-!
The transitions in the other direction. Whoever passes the checks that a transition
carries is accepted, so an accepted call and its transition are the same thing.
-/

namespace NicResidency
open Throwing NicRegistry

namespace NicRegistry

/-! The two ways of storing a record, once their checks are passed. -/

section
variable {α : Type} {tag : Tag} {slot : Option α} {new old : α} {generation : α → Generation tag}
  {same : α → α → Bool} {invalid conflict stale : ResidencyError}
  {write : NicRegistry → NicRegistry} {s : NicRegistry}

theorem perform_duplicate (stored : slot = some old) (level : generation new = generation old)
    (agrees : same new old = true) :
    perform (storeVersioned slot new generation same invalid conflict stale write) s =
      (.ok (generation new), s) := by
  rw [stored, storeVersioned, if_pos level, perform_reject_bind, if_neg (not_not.mpr agrees), level]
  rfl

theorem perform_write (newer : ∀ old, slot = some old → generation old < generation new)
    (first : slot = none → (generation new).valid = true) :
    perform (storeVersioned slot new generation same invalid conflict stale write) s =
      (.ok (generation new), write s) := by
  cases slot with
  | none =>
    rw [storeVersioned, perform_reject_bind, if_neg (not_not.mpr (first rfl))]
    rfl
  | some old =>
    have newer := newer old rfl
    rw [storeVersioned, if_neg newer.ne', perform_reject_bind, if_neg newer.not_gt]
    rfl

theorem perform_overwrite (notOlder : ∀ old, slot = some old → ¬generation new < generation old)
    (first : slot = none → (generation new).valid = true) :
    perform (storeLatest slot new generation invalid stale write) s =
      (.ok (generation new), write s) := by
  cases slot with
  | none =>
    rw [storeLatest, perform_reject_bind, if_neg (not_not.mpr (first rfl))]
    rfl
  | some old =>
    rw [storeLatest, perform_reject_bind, if_neg (notOlder old rfl)]
    rfl

end

section
variable {s : NicRegistry} {auth : Authority}

theorem perform_authorised {β : Type} (next : Unit → RegistryM β) (current : s.Authorised auth) :
    perform (ensureAuthority auth >>= next) s = perform (next ()) s := by
  rw [perform_bind, perform_ensureAuthority, if_pos current]

/-- A guard that is not met lets the method go on. -/
theorem perform_passed {β : Type} {condition : Prop} [Decidable condition] {error : ResidencyError}
    {next : Unit → RegistryM β} (passed : ¬condition) :
    perform (reject condition error >>= next) s = perform (next ()) s := by
  rw [perform_reject_bind, if_neg passed]

theorem unset_or_known {tag : Tag} {id : Id tag} {Registered : Id tag → Prop}
    (known : Optional id Registered) : ¬(id.valid = true ∧ ¬Registered id) := by
  intro dangling
  exact dangling.2 (known dangling.1)

/-! One publication after the other. -/

theorem registerNic_passed {rec : NicRecord} (current : s.Authorised auth)
    (valid : rec.id.valid = true) (room : s.nics.size < kMaxNics) :
    perform (registerNic rec auth) s =
      perform (storeVersioned s.nics[rec.id]? rec NicRecord.generation nicEqual
        (invalidArgument "new NIC generation must be non-zero" "")
        (invalidArgument "conflicting duplicate NIC publication at same generation" rec.id.str)
        { code := .staleNic, message := "stale NIC generation rejected", detail := rec.id.str }
        fun s => { s with nics := s.nics.insert rec.id { rec with freshness := 0 } })
        (notePublisher auth.worker rec.id s) := by
  rw [registerNic, perform_authorised _ current, perform_modify_bind,
    perform_passed (not_not.mpr valid), perform_get_bind]
  exact perform_passed (not_le.mpr room)

theorem registerFunction_passed {rec : FunctionRecord} (current : s.Authorised auth)
    (valid : rec.id.valid = true) (parent : rec.parentNic.valid = true)
    (parentKnown : rec.parentNic ∈ s.nics) (room : s.functions.size < kMaxFunctions) :
    perform (registerFunction rec auth) s =
      perform (storeVersioned s.functions[rec.id]? rec FunctionRecord.generation functionEqual
        (invalidArgument "new function generation must be non-zero" "")
        (invalidArgument "conflicting duplicate function publication at same generation" rec.id.str)
        { code := .staleFunction, message := "stale function generation rejected"
          detail := rec.id.str }
        fun s => { s with functions := s.functions.insert rec.id rec }) s := by
  rw [registerFunction, perform_authorised _ current, perform_passed (by simp [valid, parent]),
    perform_get_bind, perform_passed (not_not.mpr parentKnown)]
  exact perform_passed (not_le.mpr room)

theorem registerPort_passed {rec : PortRecord} (current : s.Authorised auth)
    (valid : rec.id.valid = true) (parent : rec.parentNic.valid = true)
    (parentKnown : rec.parentNic ∈ s.nics)
    (functionKnown : Optional rec.parentFunction (· ∈ s.functions))
    (room : s.ports.size < kMaxPorts) :
    perform (registerPort rec auth) s =
      perform (storeVersioned s.ports[rec.id]? rec PortRecord.generation portEqual
        (invalidArgument "new port generation must be non-zero" "")
        (invalidArgument "conflicting duplicate port publication at same generation" rec.id.str)
        (invalidArgument "stale port generation rejected" rec.id.str)
        fun s => { s with ports := s.ports.insert rec.id rec }) s := by
  rw [registerPort, perform_authorised _ current, perform_passed (by simp [valid, parent]),
    perform_get_bind, perform_passed (not_not.mpr parentKnown),
    perform_passed (unset_or_known functionKnown)]
  exact perform_passed (not_le.mpr room)

theorem registerQueue_passed {rec : QueueRecord} (current : s.Authorised auth)
    (valid : rec.id.valid = true) (parentFunction : rec.parentFunction.valid = true)
    (parent : rec.parentNic.valid = true) (functionKnown : rec.parentFunction ∈ s.functions)
    (parentKnown : rec.parentNic ∈ s.nics) (room : s.queues.size < kMaxQueues) :
    perform (registerQueue rec auth) s =
      perform (storeVersioned s.queues[rec.id]? rec QueueRecord.generation queueEqual
        (invalidArgument "new queue generation must be non-zero" "")
        (invalidArgument "conflicting duplicate queue publication at same generation" rec.id.str)
        (invalidArgument "stale queue generation rejected" rec.id.str)
        fun s => { s with queues := s.queues.insert rec.id rec }) s := by
  rw [registerQueue, perform_authorised _ current,
    perform_passed (by simp [valid, parentFunction, parent]), perform_get_bind,
    perform_passed (not_not.mpr functionKnown), perform_passed (not_not.mpr parentKnown)]
  exact perform_passed (not_le.mpr room)

/-- What a transition accepts, the registry accepts with the same outcome. -/
theorem step_of_accepted {t : NicRegistry} {c : Call} {reply : Reply}
    (transition : Transition s c (.ok reply) t) : s.step c = (.ok reply, t) := by
  cases transition with
  | registeredWorker worker boot free => exact step_registerWorker free
  | ignoredRetirement worker boot handle found other =>
    rw [step, call, perform_map, workerRetired, perform_get_bind, perform_ite,
      if_pos ⟨handle, found, other⟩]
    rfl
  | retiredWorker worker boot unopposed =>
    have unopposed : ¬∃ handle ∈ s.workers[worker]?, handle.boot ≠ boot := by
      intro opposed
      obtain ⟨handle, found, other⟩ := opposed
      exact other (unopposed handle found)
    rw [step, call, perform_map, workerRetired, perform_get_bind, perform_ite, if_neg unopposed]
    rfl
  | restarted newEpoch later =>
    rw [step, call, perform_map, coordinatorRestart, perform_get_bind,
      perform_passed (not_not.mpr later)]
    rfl
  | duplicateNic auth rec old current valid room stored level agrees =>
    rw [step, call, mutate, perform_map, registerNic_passed current valid room,
      perform_duplicate stored level agrees]
    rfl
  | wroteNic auth rec current valid room newer first =>
    rw [step, call, mutate, perform_map, registerNic_passed current valid room,
      perform_write newer first]
    rfl
  | advancedNic auth id current old stored =>
    rw [step, call, mutate, perform_map, advanceNicGeneration,
      perform_guarded current (by rw [stored]; exact Option.some_ne_none old)]
    rfl
  | duplicateFunction auth rec old current valid parent parentKnown room stored level agrees =>
    rw [step, call, mutate, perform_map, registerFunction_passed current valid parent parentKnown room,
      perform_duplicate stored level agrees]
    rfl
  | wroteFunction auth rec current valid parent parentKnown room newer first =>
    rw [step, call, mutate, perform_map, registerFunction_passed current valid parent parentKnown room,
      perform_write newer first]
    rfl
  | advancedFunction auth id current old stored =>
    rw [step, call, mutate, perform_map, advanceFunctionGeneration,
      perform_guarded current (by rw [stored]; exact Option.some_ne_none old)]
    rfl
  | duplicatePort auth rec old current valid parent parentKnown functionKnown room stored level agrees =>
    rw [step, call, mutate, perform_map,
      registerPort_passed current valid parent parentKnown functionKnown room,
      perform_duplicate stored level agrees]
    rfl
  | wrotePort auth rec current valid parent parentKnown functionKnown room newer first =>
    rw [step, call, mutate, perform_map,
      registerPort_passed current valid parent parentKnown functionKnown room,
      perform_write newer first]
    rfl
  | duplicateQueue auth rec old current valid parentFunction parent functionKnown parentKnown room
      stored level agrees =>
    rw [step, call, mutate, perform_map,
      registerQueue_passed current valid parentFunction parent functionKnown parentKnown room,
      perform_duplicate stored level agrees]
    rfl
  | wroteQueue auth rec current valid parentFunction parent functionKnown parentKnown room newer
      first =>
    rw [step, call, mutate, perform_map,
      registerQueue_passed current valid parentFunction parent functionKnown parentKnown room,
      perform_write newer first]
    rfl
  | advancedQueue auth id current old stored =>
    rw [step, call, mutate, perform_map, advanceQueueGeneration,
      perform_guarded current (by rw [stored]; exact Option.some_ne_none old)]
    rfl
  | setTopology auth top current notOlder =>
    have newest : ¬∃ old ∈ s.topology, top.generation < old.generation := by
      intro found
      obtain ⟨old, stored, older⟩ := found
      exact notOlder old stored older
    rw [step, call, mutate, perform_map, NicRegistry.setTopology, perform_guarded current newest]
    rfl
  | wroteAttachment auth att current valid nicValid nicKnown functionKnown portKnown queueKnown room
      notOlder first =>
    rw [step, call, mutate, perform_map, registerAttachment, perform_authorised _ current,
      perform_passed (by simp [valid, nicValid]), perform_get_bind,
      perform_passed (not_not.mpr nicKnown), perform_passed (unset_or_known functionKnown),
      perform_passed (unset_or_known portKnown), perform_passed (unset_or_known queueKnown),
      perform_passed (not_le.mpr room), perform_overwrite notOlder first]
    rfl
  | retiredAttachment auth id current old stored =>
    rw [step, call, mutate, perform_map, retireAttachment,
      perform_guarded current (by rw [stored]; exact Option.some_ne_none old)]
    rfl
  | wroteGpu auth rec current valid room notOlder first =>
    rw [step, call, mutate, perform_map, registerGpu, perform_authorised _ current,
      perform_passed (not_not.mpr valid), perform_get_bind, perform_passed (not_le.mpr room),
      perform_discard, perform_overwrite notOlder first]
    rfl
  | wroteResidency auth rec current valid nicValid nicKnown functionKnown portKnown queueKnown room
      notOlder =>
    have newest : ¬∃ r ∈ s.residencies, r.id = rec.id ∧ rec.generation < r.generation := by
      intro found
      obtain ⟨r, member, same, older⟩ := found
      exact notOlder r member same older
    rw [step, call, mutate, perform_map, publishResidency, perform_authorised _ current,
      perform_passed (by simp [valid, nicValid]), perform_get_bind,
      perform_passed (not_not.mpr nicKnown), perform_passed (unset_or_known functionKnown),
      perform_passed (unset_or_known portKnown), perform_passed (unset_or_known queueKnown),
      perform_passed (not_le.mpr room), perform_passed newest]
    rfl
  | retiredResidency auth id current i found =>
    rw [step, call, mutate, perform_map, retireResidency, perform_authorised _ current,
      perform_get_bind, found]
    rfl

/-- An accepted call is exactly an accepting transition. -/
theorem step_ok_iff {t : NicRegistry} {c : Call} {reply : Reply} :
    s.step c = (.ok reply, t) ↔ Transition s c (.ok reply) t :=
  ⟨step_transition, step_of_accepted⟩

end

end NicRegistry

end NicResidency

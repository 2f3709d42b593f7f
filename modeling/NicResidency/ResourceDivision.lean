import NicResidency.Library.KeyedShare
import NicResidency.Library.Noninterference
import NicResidency.Policy
import NicResidency.RegistrySlots

/-!
Concurrent publishers. The resources are divided up so that whatever refers to a
resource lies on the same side as the resource. Each side of the registry then runs as a
registry of its own, whatever is published on the other sides in between.
-/

namespace NicResidency.ResourceDivision
open StateMachine Throwing NicRegistry KeyedShare Noninterference

/-- A side for every resource. -/
structure Division (δ : Type) where
  nic : NicId → δ
  function : FunctionId → δ
  port : PortId → δ
  queue : QueueId → δ
  attachment : AttachmentId → δ
  gpu : GpuId → δ
  residency : ResidencyId → δ

namespace Division
variable {δ : Type} (division : Division δ)

/-- The side of the resource that a mutator is about. A topology is on no side. -/
def subject : Mutation → Option δ
  | .registerNic rec => some (division.nic rec.id)
  | .advanceNicGeneration id => some (division.nic id)
  | .registerFunction rec => some (division.function rec.id)
  | .advanceFunctionGeneration id => some (division.function id)
  | .registerPort rec => some (division.port rec.id)
  | .registerQueue rec => some (division.queue rec.id)
  | .advanceQueueGeneration id => some (division.queue id)
  | .setTopology _ => none
  | .registerAttachment att => some (division.attachment att.id)
  | .retireAttachment id => some (division.attachment id)
  | .registerGpu rec => some (division.gpu rec.id)
  | .publishResidency rec => some (division.residency rec.id)
  | .retireResidency id => some (division.residency id)

/-- The side of a call. Calls about workers, the epoch or the topology are on no side. -/
def side : Call → Option δ
  | .mutate _ mutation => division.subject mutation
  | _ => none

/-- The links of a record lie on its side. -/
structure Within (side : δ) (nic : NicId) (function : FunctionId) (port : PortId)
    (queue : QueueId) : Prop where
  nic : Optional nic (division.nic · = side)
  function : Optional function (division.function · = side)
  port : Optional port (division.port · = side)
  queue : Optional queue (division.queue · = side)

/-- The record of a publication links to resources on its own side only. -/
def Links : Mutation → Prop
  | .registerFunction rec => division.Within (division.function rec.id) rec.parentNic {} {} {}
  | .registerPort rec =>
    division.Within (division.port rec.id) rec.parentNic rec.parentFunction {} {}
  | .registerQueue rec =>
    division.Within (division.queue rec.id) rec.parentNic rec.parentFunction {} {}
  | .registerAttachment att =>
    division.Within (division.attachment att.id) att.nic att.function att.port att.queue
  | .publishResidency rec =>
    division.Within (division.residency rec.id) rec.nic rec.function rec.port rec.queue
  | _ => True

def Respects : Call → Prop
  | .mutate _ mutation => division.Links mutation
  | _ => True

variable [DecidableEq δ]

/-- The call is on the side or on none. -/
def concerns (side : δ) (c : Call) : Bool :=
  match division.side c with
  | none => true
  | some other => decide (other = side)

/-- The ids of a worker on one side, if there are any. -/
def published (side : δ) (ids : Finset NicId) : Option (Finset NicId) :=
  let mine := ids.filter (division.nic · = side)
  if mine = ∅ then none else some mine

/-- One side of a registry. The epoch, the workers and the topology belong to all. -/
def view (side : δ) (s : NicRegistry) : NicRegistry :=
  { s with
    nics := share division.nic side s.nics
    functions := share division.function side s.functions
    ports := share division.port side s.ports
    queues := share division.queue side s.queues
    attachments := share division.attachment side s.attachments
    gpus := share division.gpu side s.gpus
    residencies := shareOf (fun r => division.residency r.id) side s.residencies
    workerNics := s.workerNics.filterMap fun _ ids => division.published side ids }

end Division

/-- Every stored record links to resources on its own side, and no null id is stored. -/
structure Divided {δ : Type} (division : Division δ) (s : NicRegistry) : Prop where
  nics : ∀ (id : NicId) (n : NicRecord), s.nics[id]? = some n → id.valid = true
  functions : ∀ (id : FunctionId) (f : FunctionRecord), s.functions[id]? = some f →
    id.valid = true ∧ division.Within (division.function id) f.parentNic {} {} {}
  queues : ∀ (id : QueueId) (q : QueueRecord), s.queues[id]? = some q →
    id.valid = true ∧ division.Within (division.queue id) q.parentNic q.parentFunction {} {}
  attachments : ∀ (id : AttachmentId) (a : Attachment), s.attachments[id]? = some a →
    division.Within (division.attachment id) a.nic a.function a.port a.queue
  residencies : ∀ r ∈ s.residencies,
    division.Within (division.residency r.id) r.nic r.function r.port r.queue

/-- The error of a full table, which is full for all sides together. -/
def LimitReached (error : ResidencyError) : Prop := error.code = .resourceLimit

section
variable {δ : Type} {division : Division δ} {s t : NicRegistry} {c : Call}
  {outcome : Except ResidencyError Reply}

/-! Every call that respects the division keeps the registry divided. -/

theorem divided_created (epoch : CoordinatorEpoch) : Divided division { epoch } := by
  constructor <;> simp

theorem links_of_accepts {event : RegistryEvent} {mutation : Mutation}
    (accepts : Accepts event mutation) (respects : division.Respects event.input) :
    division.Links mutation := by
  obtain ⟨auth, asked, -, -⟩ := accepts
  rwa [asked] at respects

/-- An accepted publication has a valid id. -/
theorem accepted_valid (transition : Transition s c outcome t) :
    (∀ rec, Accepts ⟨s, c, outcome, t⟩ (.registerNic rec) → rec.id.valid = true) ∧
    (∀ rec, Accepts ⟨s, c, outcome, t⟩ (.registerFunction rec) → rec.id.valid = true) ∧
    (∀ rec, Accepts ⟨s, c, outcome, t⟩ (.registerQueue rec) → rec.id.valid = true) := by
  refine ⟨?_, ?_, ?_⟩ <;> rintro rec ⟨auth, rfl, -, ok⟩
  · cases transition with
    | refused | refusedNic => cases ok
    | duplicateNic _ _ _ _ valid => exact valid
    | wroteNic _ _ _ valid => exact valid
  · cases transition with
    | refused => cases ok
    | duplicateFunction _ _ _ _ valid => exact valid
    | wroteFunction _ _ _ valid => exact valid
  · cases transition with
    | refused => cases ok
    | duplicateQueue _ _ _ _ valid => exact valid
    | wroteQueue _ _ _ valid => exact valid

theorem divided_transition (transition : Transition s c outcome t) (respects : division.Respects c)
    (divided : Divided division s) : Divided division t where
  nics id := by
    refine (nic_change transition id).holds_after (fun _ => id.valid = true) (divided.nics id) ?_
      (fun _ _ _ valid => valid)
    intro _ wrote
    obtain ⟨rec, accepts, rfl, -⟩ := wrote
    exact (accepted_valid transition).1 rec accepts
  functions id := by
    refine (function_change transition id).holds_after
      (fun f => id.valid = true ∧ division.Within (division.function id) f.parentNic {} {} {})
      (divided.functions id) ?_ ?_
    · intro f wrote
      obtain ⟨accepts, rfl⟩ := wrote
      exact ⟨(accepted_valid transition).2.1 f accepts, links_of_accepts accepts respects⟩
    · intro old _ change held
      rcases change with rfl | ⟨epoch, rfl⟩ | ⟨-, rfl⟩ <;> exact held
  queues id := by
    refine (queue_change transition id).holds_after
      (fun q => id.valid = true ∧
        division.Within (division.queue id) q.parentNic q.parentFunction {} {})
      (divided.queues id) ?_ ?_
    · intro q wrote
      obtain ⟨accepts, rfl⟩ := wrote
      exact ⟨(accepted_valid transition).2.2 q accepts, links_of_accepts accepts respects⟩
    · intro old _ change held
      rcases change with rfl | ⟨-, rfl⟩ <;> exact held
  attachments id := by
    refine (attachment_change transition id).holds_after
      (fun a => division.Within (division.attachment id) a.nic a.function a.port a.queue)
      (divided.attachments id) ?_ ?_
    · intro a wrote
      obtain ⟨accepts, rfl⟩ := wrote
      exact links_of_accepts accepts respects
    · intro old _ demoted held
      cases demoted <;> exact held
  residencies r member := by
    obtain ⟨position, stored⟩ := List.mem_iff_getElem?.mp member
    refine (residency_change transition position).holds_after
      (fun r => division.Within (division.residency r.id) r.nic r.function r.port r.queue)
      (fun r held => divided.residencies r (List.mem_of_getElem? held)) ?_ ?_ r stored
    · intro r wrote
      obtain ⟨accepts, -⟩ := wrote
      exact links_of_accepts accepts respects
    · intro old _ demoted held
      cases demoted <;> exact held

end

/-! What the changes of the registry do to one side of it. -/

section
variable {δ : Type} {division : Division δ} [DecidableEq δ] {side : δ} {s : NicRegistry}

theorem published_insert_own {id : NicId} (own : division.nic id = side) (ids : Finset NicId) :
    division.published side (insert id ids) =
      some (insert id (ids.filter (division.nic · = side))) := by
  rw [Division.published, Finset.filter_insert, if_pos own]
  exact if_neg (Finset.insert_ne_empty _ _)

theorem published_insert_foreign {id : NicId} (foreign : division.nic id ≠ side)
    (ids : Finset NicId) : division.published side (insert id ids) = division.published side ids := by
  rw [Division.published, Finset.filter_insert, if_neg foreign, ← Division.published]

theorem getElem?_view_workerNics (worker : WorkerId) :
    (division.view side s).workerNics[worker]? =
      s.workerNics[worker]?.bind (division.published side) :=
  Std.ExtTreeMap.getElem?_filterMap'

theorem publishedBy_view (worker : WorkerId) :
    (division.view side s).publishedBy worker =
      (s.publishedBy worker).filter (division.nic · = side) := by
  rw [publishedBy, getElem?_view_workerNics, publishedBy]
  cases s.workerNics[worker]? with
  | none => rfl
  | some ids =>
    rw [Option.bind_some, Option.getD_some, Division.published]
    split
    next empty => rw [empty]; rfl
    next => rfl

/-- The published ids of a worker seen from one side. -/
theorem published_publishedBy (worker : WorkerId) :
    division.published side (s.publishedBy worker) =
      (division.view side s).workerNics[worker]? := by
  rw [getElem?_view_workerNics, publishedBy]
  cases s.workerNics[worker]? with
  | none => simp [Division.published]
  | some ids => rfl

theorem view_notePublisher_own {id : NicId} (own : division.nic id = side) (worker : WorkerId) :
    division.view side (notePublisher worker id s) =
      notePublisher worker id (division.view side s) := by
  have noted : (division.view side (notePublisher worker id s)).workerNics =
      (notePublisher worker id (division.view side s)).workerNics := by
    apply Std.ExtTreeMap.ext_getElem?
    intro other
    rw [getElem?_view_workerNics, notePublisher, notePublisher, Std.ExtTreeMap.getElem?_insert,
      Std.ExtTreeMap.getElem?_insert, getElem?_view_workerNics, publishedBy_view]
    split
    · exact published_insert_own own _
    · rfl
  exact congrArg (fun table => { division.view side s with workerNics := table }) noted

theorem view_notePublisher_foreign {id : NicId} (foreign : division.nic id ≠ side)
    (worker : WorkerId) : division.view side (notePublisher worker id s) = division.view side s := by
  have noted : (division.view side (notePublisher worker id s)).workerNics =
      (division.view side s).workerNics := by
    apply Std.ExtTreeMap.ext_getElem?
    intro other
    rw [getElem?_view_workerNics, notePublisher, Std.ExtTreeMap.getElem?_insert]
    split
    next here =>
      obtain rfl : worker = other := Std.LawfulEqOrd.eq_of_compare here
      rw [Option.bind_some, published_insert_foreign foreign, published_publishedBy]
    next => exact (getElem?_view_workerNics other).symm
  exact congrArg (fun table => { division.view side s with workerNics := table }) noted

/-- The death of a worker reaches the NICs it has published, on their own sides. -/
theorem view_retireWorker (worker : WorkerId) (boot : WorkerBootId) :
    division.view side (retireWorker worker boot s) =
      retireWorker worker boot (division.view side s) := by
  have nics : share division.nic side (s.nics.map fun id n =>
      if id ∈ s.publishedBy worker then n.requireRevalidation else n) =
        (share division.nic side s.nics).map fun id n =>
          if id ∈ (division.view side s).publishedBy worker then n.requireRevalidation else n := by
    apply share_map
    intro id n own _
    simp only [publishedBy_view, Finset.mem_filter, own, and_true]
  have table : (s.workerNics.erase worker).filterMap (fun _ ids => division.published side ids) =
      (s.workerNics.filterMap fun _ ids => division.published side ids).erase worker := by
    apply Std.ExtTreeMap.ext_getElem?
    intro other
    rw [Std.ExtTreeMap.getElem?_filterMap', Std.ExtTreeMap.getElem?_erase,
      Std.ExtTreeMap.getElem?_erase, Std.ExtTreeMap.getElem?_filterMap']
    split <;> rfl
  simp only [Division.view, retireWorker, table]
  rw [nics, share_map (fun _ _ _ _ => rfl), shareOf_map ?_ (fun _ _ _ => rfl)]
  · rfl
  · intro r
    split <;> rfl

theorem view_restart (newEpoch : CoordinatorEpoch) :
    division.view side (restart newEpoch s) = restart newEpoch (division.view side s) := by
  have table : (∅ : Std.ExtTreeMap WorkerId (Finset NicId)).filterMap
      (fun _ ids => division.published side ids) = ∅ := by
    apply Std.ExtTreeMap.ext_getElem?
    intro other
    rw [Std.ExtTreeMap.getElem?_filterMap', Std.ExtTreeMap.getElem?_empty]
    rfl
  simp only [Division.view, restart, table]
  rw [share_map (fun _ _ _ _ => rfl), share_map (fun _ _ _ _ => rfl),
    shareOf_map ?_ (fun _ _ _ => rfl)]
  exact fun _ => rfl

theorem view_setTopology (top : TopologySnapshot) :
    division.view side (invalidateTopologyDependents { s with topology := some top }) =
      invalidateTopologyDependents { division.view side s with topology := some top } := by
  simp only [Division.view, invalidateTopologyDependents]
  rw [share_map (fun _ _ _ _ => rfl), shareOf_map ?_ (fun _ _ _ => rfl)]
  exact fun _ => rfl

/-! A residency record that an invalidation marks keeps its id. -/

theorem marked_id (condition : Prop) [Decidable condition] (r : ResidencyRecord) :
    (if condition then r.requireRevalidation else r).id = r.id := by
  split <;> rfl

theorem view_invalidateNicDependents (id : NicId) :
    division.view side (invalidateNicDependents id s) =
      invalidateNicDependents id (division.view side s) := by
  simp only [Division.view, invalidateNicDependents]
  rw [share_map (fun _ _ _ _ => rfl), share_map (fun _ _ _ _ => rfl),
    share_map (fun _ _ _ _ => rfl), shareOf_map ?_ (fun _ _ _ => rfl)]
  exact fun r => congrArg division.residency (marked_id _ r)

theorem view_invalidateFunctionDependents (id : FunctionId) :
    division.view side (invalidateFunctionDependents id s) =
      invalidateFunctionDependents id (division.view side s) := by
  simp only [Division.view, invalidateFunctionDependents]
  rw [share_map (fun _ _ _ _ => rfl), share_map (fun _ _ _ _ => rfl),
    shareOf_map ?_ (fun _ _ _ => rfl)]
  exact fun r => congrArg division.residency (marked_id _ r)

theorem view_invalidateQueueDependents (id : QueueId) :
    division.view side (invalidateQueueDependents id s) =
      invalidateQueueDependents id (division.view side s) := by
  simp only [Division.view, invalidateQueueDependents]
  rw [shareOf_map ?_ (fun _ _ _ => rfl)]
  exact fun r => congrArg division.residency (marked_id _ r)

/-! An advance on a foreign side marks nothing here. -/

omit [DecidableEq δ] in
theorem foreign_link {tag : Tag} {home : Id tag → δ} {id link : Id tag} (valid : id.valid = true)
    (foreign : home id ≠ side) (own : Optional link (home · = side)) : link ≠ id := by
  rintro rfl
  exact foreign (own valid)

theorem view_invalidateNicDependents_foreign {id : NicId} (divided : Divided division s)
    (valid : id.valid = true) (foreign : division.nic id ≠ side) :
    division.view side (invalidateNicDependents id s) = division.view side s := by
  simp only [Division.view, invalidateNicDependents]
  rw [share_map_foreign, share_map_foreign, share_map_foreign, shareOf_map_foreign]
  · exact fun r => congrArg division.residency (marked_id _ r)
  · rintro r member rfl
    exact if_neg (foreign_link valid foreign (divided.residencies r member).nic)
  · rintro key a rfl stored
    exact if_neg (foreign_link valid foreign (divided.attachments key a stored).nic)
  · rintro key q rfl stored
    exact if_neg (foreign_link valid foreign (divided.queues key q stored).2.nic)
  · rintro key f rfl stored
    exact if_neg (foreign_link valid foreign (divided.functions key f stored).2.nic)

theorem view_invalidateFunctionDependents_foreign {id : FunctionId} (divided : Divided division s)
    (valid : id.valid = true) (foreign : division.function id ≠ side) :
    division.view side (invalidateFunctionDependents id s) = division.view side s := by
  simp only [Division.view, invalidateFunctionDependents]
  rw [share_map_foreign, share_map_foreign, shareOf_map_foreign]
  · exact fun r => congrArg division.residency (marked_id _ r)
  · rintro r member rfl
    exact if_neg (foreign_link valid foreign (divided.residencies r member).function)
  · rintro key a rfl stored
    exact if_neg (foreign_link valid foreign (divided.attachments key a stored).function)
  · rintro key q rfl stored
    exact if_neg (foreign_link valid foreign (divided.queues key q stored).2.function)

theorem view_invalidateQueueDependents_foreign {id : QueueId} (divided : Divided division s)
    (valid : id.valid = true) (foreign : division.queue id ≠ side) :
    division.view side (invalidateQueueDependents id s) = division.view side s := by
  simp only [Division.view, invalidateQueueDependents]
  rw [shareOf_map_foreign]
  · exact fun r => congrArg division.residency (marked_id _ r)
  · rintro r member rfl
    exact if_neg (foreign_link valid foreign (divided.residencies r member).queue)

/-- A call on another side leaves no trace on this one. -/
theorem view_of_foreign {t : NicRegistry} {c : Call} {outcome : Except ResidencyError Reply}
    (transition : Transition s c outcome t) (divided : Divided division s)
    (foreign : division.concerns side c = false) : division.view side t = division.view side s := by
  cases transition with
  | refused | duplicateFunction | duplicatePort | duplicateQueue | ignoredRetirement => rfl
  | registeredWorker | retiredWorker | restarted | setTopology => cases foreign
  | refusedNic auth rec | duplicateNic auth rec =>
    exact view_notePublisher_foreign (of_decide_eq_false foreign) auth.worker
  | wroteNic auth rec =>
    have apart : division.nic rec.id ≠ side := of_decide_eq_false foreign
    calc division.view side { notePublisher auth.worker rec.id s with
          nics := s.nics.insert rec.id { rec with freshness := 0 } }
        = { division.view side (notePublisher auth.worker rec.id s) with
            nics := share division.nic side
              (s.nics.insert rec.id { rec with freshness := 0 }) } := rfl
      _ = division.view side s := by
        rw [view_notePublisher_foreign apart, share_insert_foreign apart]
        rfl
  | advancedNic auth id _ old stored =>
    have apart : division.nic id ≠ side := of_decide_eq_false foreign
    calc division.view side
          (invalidateNicDependents id { s with nics := s.nics.modify id NicRecord.advance })
        = { division.view side (invalidateNicDependents id s) with
            nics := share division.nic side (s.nics.modify id NicRecord.advance) } := rfl
      _ = division.view side s := by
        rw [view_invalidateNicDependents_foreign divided (divided.nics id old stored) apart,
          share_modify_foreign apart]
        rfl
  | wroteFunction auth rec =>
    simp only [Division.view, share_insert_foreign (of_decide_eq_false foreign)]
  | advancedFunction auth id _ old stored =>
    have apart : division.function id ≠ side := of_decide_eq_false foreign
    calc division.view side (invalidateFunctionDependents id
          { s with functions := s.functions.modify id FunctionRecord.advance })
        = { division.view side (invalidateFunctionDependents id s) with
            functions := share division.function side
              (s.functions.modify id FunctionRecord.advance) } := rfl
      _ = division.view side s := by
        rw [view_invalidateFunctionDependents_foreign divided (divided.functions id old stored).1 apart,
          share_modify_foreign apart]
        rfl
  | wrotePort | wroteQueue | wroteAttachment | wroteGpu =>
    simp only [Division.view, share_insert_foreign (of_decide_eq_false foreign)]
  | advancedQueue auth id _ old stored =>
    have apart : division.queue id ≠ side := of_decide_eq_false foreign
    calc division.view side
          (invalidateQueueDependents id { s with queues := s.queues.modify id QueueRecord.advance })
        = { division.view side (invalidateQueueDependents id s) with
            queues := share division.queue side (s.queues.modify id QueueRecord.advance) } := rfl
      _ = division.view side s := by
        rw [view_invalidateQueueDependents_foreign divided (divided.queues id old stored).1 apart,
          share_modify_foreign apart]
        rfl
  | retiredAttachment =>
    simp only [Division.view, share_modify_foreign (of_decide_eq_false foreign)]
  | wroteResidency auth rec =>
    have apart : division.residency rec.id ≠ side := of_decide_eq_false foreign
    have kept : shareOf (fun r => division.residency r.id) side (s.residencies ++ [rec]) =
        shareOf (fun r => division.residency r.id) side s.residencies := shareOf_append_foreign apart
    simp only [Division.view, kept]
  | retiredResidency auth id _ i found =>
    have kept : shareOf (fun r => division.residency r.id) side
        (s.residencies.modify i ResidencyRecord.retire) =
          shareOf (fun r => division.residency r.id) side s.residencies := by
      apply shareOf_modify_foreign
      · exact fun _ => rfl
      intro r stored
      obtain ⟨inside, hit, -⟩ := List.findIdx?_eq_some_iff_getElem.mp found
      obtain rfl : s.residencies[i] = r := List.getElem_eq_iff inside |>.mpr stored
      have same : s.residencies[i].id = id := of_decide_eq_true hit
      rw [same]
      exact of_decide_eq_false foreign
    simp only [Division.view, kept]

/-! A call on this side runs on the view as on the whole registry, unless a table is full. -/

section
variable {α β : Type} {auth : Authority}

theorem mirrors_ensureAuthority_bind {next next' : Unit → RegistryM β}
    (later : Mirrors (division.view side) LimitReached (next ()) (next' ()) s) :
    Mirrors (division.view side) LimitReached (ensureAuthority auth >>= next)
      (ensureAuthority auth >>= next') s := by
  intro spared
  rw [perform_bind, perform_ensureAuthority] at spared ⊢
  rw [perform_bind, perform_ensureAuthority]
  by_cases current : s.Authorised auth
  · have currentHere : (division.view side s).Authorised auth := current
    rw [if_pos current] at spared ⊢
    rw [if_pos currentHere]
    exact later spared
  · have staleHere : ¬(division.view side s).Authorised auth := current
    rw [if_neg current, if_neg staleHere]
    rfl

variable {tag : Tag} {slot slot' : Option α} {new : α} {generation : α → Generation tag}
  {same : α → α → Bool} {invalid conflict stale : ResidencyError}
  {write : NicRegistry → NicRegistry}

theorem mirrors_storeVersioned (found : slot = slot')
    (wrote : write (division.view side s) = division.view side (write s)) :
    Mirrors (division.view side) LimitReached
      (storeVersioned slot new generation same invalid conflict stale write)
      (storeVersioned slot' new generation same invalid conflict stale write) s := by
  subst found
  cases slot with
  | none =>
    exact mirrors_reject_bind Iff.rfl (fun _ => mirrors_modify_bind wrote (mirrors_pure _))
  | some old =>
    simp only [storeVersioned]
    split
    · exact mirrors_reject_bind Iff.rfl (fun _ => mirrors_pure _)
    · exact mirrors_reject_bind Iff.rfl (fun _ => mirrors_modify_bind wrote (mirrors_pure _))

theorem mirrors_storeLatest (found : slot = slot')
    (wrote : write (division.view side s) = division.view side (write s)) :
    Mirrors (division.view side) LimitReached
      (storeLatest slot new generation invalid stale write)
      (storeLatest slot' new generation invalid stale write) s := by
  subst found
  cases slot with
  | none | some =>
    exact mirrors_reject_bind Iff.rfl (fun _ => mirrors_modify_bind wrote (mirrors_pure _))

/-- A link check reads the side only, since the link lies on it. -/
theorem dangling_iff {κ : Tag} {record : Type} {home : Id κ → δ} {link : Id κ}
    {map : Std.ExtTreeMap (Id κ) record} (own : Optional link (home · = side)) :
    (link.valid = true ∧ link ∉ share home side map) ↔ (link.valid = true ∧ link ∉ map) :=
  and_congr_right fun valid => not_congr (mem_share_own (own valid))

theorem unknown_iff {κ : Tag} {record : Type} {home : Id κ → δ} {id : Id κ}
    {map : Std.ExtTreeMap (Id κ) record} (own : home id = side) :
    (share home side map)[id]? = none ↔ map[id]? = none := by
  rw [getElem?_share_own own]

theorem mirrors_registerNic {rec : NicRecord} (own : division.nic rec.id = side) :
    Mirrors (division.view side) LimitReached (registerNic rec auth) (registerNic rec auth) s := by
  unfold registerNic
  refine mirrors_ensureAuthority_bind ?_
  refine mirrors_modify_bind (view_notePublisher_own own _).symm ?_
  refine mirrors_reject_bind Iff.rfl (fun _ => mirrors_get_bind ?_)
  refine mirrors_limit_bind rfl (fun full => full.trans size_share_le) (fun _ => ?_)
  refine mirrors_storeVersioned (getElem?_share_own own) ?_
  simp only [Division.view, share_insert_own own]

theorem mirrors_advanceNicGeneration {id : NicId} (own : division.nic id = side) :
    Mirrors (division.view side) LimitReached (advanceNicGeneration id auth)
      (advanceNicGeneration id auth) s := by
  unfold advanceNicGeneration
  refine mirrors_ensureAuthority_bind (mirrors_get_bind ?_)
  refine mirrors_reject_bind (unknown_iff own) (fun _ => mirrors_modify ?_)
  rw [view_invalidateNicDependents]
  simp only [Division.view, share_modify_own own]

theorem mirrors_registerFunction {rec : FunctionRecord} (own : division.function rec.id = side)
    (links : division.Within side rec.parentNic {} {} {}) :
    Mirrors (division.view side) LimitReached (registerFunction rec auth)
      (registerFunction rec auth) s := by
  unfold registerFunction
  refine mirrors_ensureAuthority_bind (mirrors_reject_bind Iff.rfl (fun valid => ?_))
  simp only [not_or, Decidable.not_not] at valid
  refine mirrors_get_bind ?_
  refine mirrors_reject_bind (not_congr (mem_share_own (links.nic valid.2))) (fun _ => ?_)
  refine mirrors_limit_bind rfl (fun full => full.trans size_share_le) (fun _ => ?_)
  refine mirrors_storeVersioned (getElem?_share_own own) ?_
  simp only [Division.view, share_insert_own own]

theorem mirrors_advanceFunctionGeneration {id : FunctionId} (own : division.function id = side) :
    Mirrors (division.view side) LimitReached (advanceFunctionGeneration id auth)
      (advanceFunctionGeneration id auth) s := by
  unfold advanceFunctionGeneration
  refine mirrors_ensureAuthority_bind (mirrors_get_bind ?_)
  refine mirrors_reject_bind (unknown_iff own) (fun _ => mirrors_modify ?_)
  rw [view_invalidateFunctionDependents]
  simp only [Division.view, share_modify_own own]

theorem mirrors_registerPort {rec : PortRecord} (own : division.port rec.id = side)
    (links : division.Within side rec.parentNic rec.parentFunction {} {}) :
    Mirrors (division.view side) LimitReached (registerPort rec auth) (registerPort rec auth) s := by
  unfold registerPort
  refine mirrors_ensureAuthority_bind (mirrors_reject_bind Iff.rfl (fun valid => ?_))
  simp only [not_or, Decidable.not_not] at valid
  refine mirrors_get_bind ?_
  refine mirrors_reject_bind (not_congr (mem_share_own (links.nic valid.2))) (fun _ => ?_)
  refine mirrors_reject_bind (dangling_iff links.function) (fun _ => ?_)
  refine mirrors_limit_bind rfl (fun full => full.trans size_share_le) (fun _ => ?_)
  refine mirrors_storeVersioned (getElem?_share_own own) ?_
  simp only [Division.view, share_insert_own own]

theorem mirrors_registerQueue {rec : QueueRecord} (own : division.queue rec.id = side)
    (links : division.Within side rec.parentNic rec.parentFunction {} {}) :
    Mirrors (division.view side) LimitReached (registerQueue rec auth) (registerQueue rec auth) s := by
  unfold registerQueue
  refine mirrors_ensureAuthority_bind (mirrors_reject_bind Iff.rfl (fun valid => ?_))
  simp only [not_or, Decidable.not_not] at valid
  refine mirrors_get_bind ?_
  refine mirrors_reject_bind (not_congr (mem_share_own (links.function valid.2.1))) (fun _ => ?_)
  refine mirrors_reject_bind (not_congr (mem_share_own (links.nic valid.2.2))) (fun _ => ?_)
  refine mirrors_limit_bind rfl (fun full => full.trans size_share_le) (fun _ => ?_)
  refine mirrors_storeVersioned (getElem?_share_own own) ?_
  simp only [Division.view, share_insert_own own]

theorem mirrors_advanceQueueGeneration {id : QueueId} (own : division.queue id = side) :
    Mirrors (division.view side) LimitReached (advanceQueueGeneration id auth)
      (advanceQueueGeneration id auth) s := by
  unfold advanceQueueGeneration
  refine mirrors_ensureAuthority_bind (mirrors_get_bind ?_)
  refine mirrors_reject_bind (unknown_iff own) (fun _ => mirrors_modify ?_)
  rw [view_invalidateQueueDependents]
  simp only [Division.view, share_modify_own own]

theorem mirrors_setTopology (top : TopologySnapshot) :
    Mirrors (division.view side) LimitReached (setTopology top auth) (setTopology top auth) s := by
  unfold setTopology
  refine mirrors_ensureAuthority_bind (mirrors_get_bind ?_)
  exact mirrors_reject_bind Iff.rfl (fun _ => mirrors_modify (view_setTopology top).symm)

theorem mirrors_registerAttachment {att : Attachment} (own : division.attachment att.id = side)
    (links : division.Within side att.nic att.function att.port att.queue) :
    Mirrors (division.view side) LimitReached (registerAttachment att auth)
      (registerAttachment att auth) s := by
  unfold registerAttachment
  refine mirrors_ensureAuthority_bind (mirrors_reject_bind Iff.rfl (fun valid => ?_))
  simp only [not_or, Decidable.not_not] at valid
  refine mirrors_get_bind ?_
  refine mirrors_reject_bind (not_congr (mem_share_own (links.nic valid.2))) (fun _ => ?_)
  refine mirrors_reject_bind (dangling_iff links.function) (fun _ => ?_)
  refine mirrors_reject_bind (dangling_iff links.port) (fun _ => ?_)
  refine mirrors_reject_bind (dangling_iff links.queue) (fun _ => ?_)
  refine mirrors_limit_bind rfl (fun full => full.trans size_share_le) (fun _ => ?_)
  refine mirrors_storeLatest (getElem?_share_own own) ?_
  simp only [Division.view, share_insert_own own]

theorem mirrors_retireAttachment {id : AttachmentId} (own : division.attachment id = side) :
    Mirrors (division.view side) LimitReached (retireAttachment id auth)
      (retireAttachment id auth) s := by
  unfold retireAttachment
  refine mirrors_ensureAuthority_bind (mirrors_get_bind ?_)
  refine mirrors_reject_bind (unknown_iff own) (fun _ => mirrors_modify ?_)
  simp only [Division.view, share_modify_own own]

theorem mirrors_registerGpu {rec : GpuRecord} (own : division.gpu rec.id = side) :
    Mirrors (division.view side) LimitReached (registerGpu rec auth) (registerGpu rec auth) s := by
  unfold registerGpu
  refine mirrors_ensureAuthority_bind (mirrors_reject_bind Iff.rfl (fun _ => mirrors_get_bind ?_))
  refine mirrors_limit_bind rfl (fun full => full.trans size_share_le) (fun _ => ?_)
  refine mirrors_map _ (mirrors_storeLatest (getElem?_share_own own) ?_)
  simp only [Division.view, share_insert_own own]

theorem mirrors_publishResidency {rec : ResidencyRecord} (own : division.residency rec.id = side)
    (links : division.Within side rec.nic rec.function rec.port rec.queue) :
    Mirrors (division.view side) LimitReached (publishResidency rec auth)
      (publishResidency rec auth) s := by
  unfold publishResidency
  refine mirrors_ensureAuthority_bind (mirrors_reject_bind Iff.rfl (fun valid => ?_))
  simp only [not_or, Decidable.not_not] at valid
  refine mirrors_get_bind ?_
  refine mirrors_reject_bind (not_congr (mem_share_own (links.nic valid.2))) (fun _ => ?_)
  refine mirrors_reject_bind (dangling_iff links.function) (fun _ => ?_)
  refine mirrors_reject_bind (dangling_iff links.port) (fun _ => ?_)
  refine mirrors_reject_bind (dangling_iff links.queue) (fun _ => ?_)
  refine mirrors_limit_bind rfl (fun full => full.trans length_shareOf_le) (fun _ => ?_)
  refine mirrors_reject_bind ?_ (fun _ => mirrors_modify_bind ?_ (mirrors_pure _))
  · constructor
    · rintro ⟨r, member, same, older⟩
      exact ⟨r, (mem_shareOf.mp member).1, same, older⟩
    · rintro ⟨r, member, same, older⟩
      have mine : division.residency r.id = side := by rw [same, own]
      exact ⟨r, mem_shareOf.mpr ⟨member, mine⟩, same, older⟩
  · have appended : shareOf (fun r => division.residency r.id) side (s.residencies ++ [rec]) =
        shareOf (fun r => division.residency r.id) side s.residencies ++ [rec] :=
      shareOf_append_own own
    simp only [Division.view, appended]

theorem mirrors_retireResidency {id : ResidencyId} (own : division.residency id = side) :
    Mirrors (division.view side) LimitReached (retireResidency id auth)
      (retireResidency id auth) s := by
  unfold retireResidency
  refine mirrors_ensureAuthority_bind (mirrors_get_bind ?_)
  have mine (r : ResidencyRecord) (hit : decide (r.id = id) = true) :
      division.residency r.id = side := by
    rw [of_decide_eq_true hit, own]
  have missing : (division.view side s).residencies.findIdx? (·.id = id) = none ↔
      s.residencies.findIdx? (·.id = id) = none := findIdx?_shareOf_eq_none mine
  cases found : s.residencies.findIdx? (·.id = id) with
  | none =>
    have foundHere : (division.view side s).residencies.findIdx? (·.id = id) = none :=
      missing.mpr found
    rw [foundHere]
    exact mirrors_throw _
  | some i =>
    cases foundHere : (division.view side s).residencies.findIdx? (·.id = id) with
    | none => exact absurd (missing.mp foundHere) (by rw [found]; exact Option.some_ne_none i)
    | some j =>
      have retired : shareOf (fun r => division.residency r.id) side
          (s.residencies.modify i ResidencyRecord.retire) =
            (shareOf (fun r => division.residency r.id) side s.residencies).modify j
              ResidencyRecord.retire := by
        apply shareOf_modify_first _ mine found foundHere
        exact fun _ => rfl
      refine mirrors_modify ?_
      simp only [Division.view, retired]

theorem mirrors_registerWorker (worker : WorkerId) (boot : WorkerBootId) :
    Mirrors (division.view side) LimitReached (registerWorker worker boot)
      (registerWorker worker boot) s :=
  mirrors_get_bind (mirrors_reject_bind Iff.rfl (fun _ => mirrors_modify rfl))

theorem mirrors_workerRetired (worker : WorkerId) (boot : WorkerBootId) :
    Mirrors (division.view side) LimitReached (workerRetired worker boot)
      (workerRetired worker boot) s := by
  unfold workerRetired
  refine mirrors_get_bind ?_
  by_cases opposed : ∃ handle ∈ s.workers[worker]?, handle.boot ≠ boot
  · have opposedHere : ∃ handle ∈ (division.view side s).workers[worker]?, handle.boot ≠ boot :=
      opposed
    rw [if_pos opposed, if_pos opposedHere]
    exact mirrors_pure ()
  · have unopposedHere :
        ¬∃ handle ∈ (division.view side s).workers[worker]?, handle.boot ≠ boot := opposed
    rw [if_neg opposed, if_neg unopposedHere]
    exact mirrors_modify (view_retireWorker worker boot).symm

theorem mirrors_coordinatorRestart (newEpoch : CoordinatorEpoch) :
    Mirrors (division.view side) LimitReached (coordinatorRestart newEpoch)
      (coordinatorRestart newEpoch) s :=
  mirrors_get_bind (mirrors_reject_bind Iff.rfl (fun _ => mirrors_modify (view_restart newEpoch).symm))

end

/-- A call that concerns a side does to the view what it does to the registry. -/
theorem mirrors_call {c : Call} (respects : division.Respects c)
    (own : division.concerns side c = true) :
    Mirrors (division.view side) LimitReached (call c) (call c) s := by
  cases c with
  | registerWorker worker boot => exact mirrors_map _ (mirrors_registerWorker worker boot)
  | workerRetired worker boot => exact mirrors_map _ (mirrors_workerRetired worker boot)
  | coordinatorRestart newEpoch => exact mirrors_map _ (mirrors_coordinatorRestart newEpoch)
  | mutate auth mutation =>
    cases mutation with
    | registerNic => exact mirrors_map _ (mirrors_registerNic (of_decide_eq_true own))
    | advanceNicGeneration =>
      exact mirrors_map _ (mirrors_advanceNicGeneration (of_decide_eq_true own))
    | registerFunction =>
      obtain rfl := of_decide_eq_true own
      exact mirrors_map _ (mirrors_registerFunction rfl respects)
    | advanceFunctionGeneration =>
      exact mirrors_map _ (mirrors_advanceFunctionGeneration (of_decide_eq_true own))
    | registerPort =>
      obtain rfl := of_decide_eq_true own
      exact mirrors_map _ (mirrors_registerPort rfl respects)
    | registerQueue =>
      obtain rfl := of_decide_eq_true own
      exact mirrors_map _ (mirrors_registerQueue rfl respects)
    | advanceQueueGeneration =>
      exact mirrors_map _ (mirrors_advanceQueueGeneration (of_decide_eq_true own))
    | setTopology top => exact mirrors_map _ (mirrors_setTopology top)
    | registerAttachment =>
      obtain rfl := of_decide_eq_true own
      exact mirrors_map _ (mirrors_registerAttachment rfl respects)
    | retireAttachment => exact mirrors_map _ (mirrors_retireAttachment (of_decide_eq_true own))
    | registerGpu => exact mirrors_map _ (mirrors_registerGpu (of_decide_eq_true own))
    | publishResidency =>
      obtain rfl := of_decide_eq_true own
      exact mirrors_map _ (mirrors_publishResidency rfl respects)
    | retireResidency => exact mirrors_map _ (mirrors_retireResidency (of_decide_eq_true own))

theorem registry_unwinding (division : Division δ) :
    Unwinding step (Divided division) division.Respects division.concerns division.view
      (Spares LimitReached) where
  kept _ _ divided respects := divided_transition (step_transition rfl) respects divided
  hidden _ _ _ divided _ foreign := view_of_foreign (step_transition rfl) divided foreign
  seen _ _ _ _ respects own spared := mirrors_call respects own spared

end

/-- A side of a run, with the calls of other sides in between in any number and order, is
the run of a registry that holds this side only and gets its calls only: the same calls
get the same answers, and the side ends in the same state. -/
theorem side_runs_alone {δ : Type} [DecidableEq δ] (division : Division δ) {s : NicRegistry}
    (divided : Divided division s) (calls : List Call)
    (respectful : ∀ c ∈ calls, division.Respects c) (side : δ)
    (room : ∀ event ∈ s.history calls, division.concerns side event.input = true →
      Spares LimitReached event.outcome) :
    (division.view side s).after (calls.filter (division.concerns side)) =
        division.view side (s.after calls) ∧
      (division.view side s).history (calls.filter (division.concerns side)) =
        ((s.history calls).filter fun event => division.concerns side event.input).map
          (viewed (division.view side)) :=
  (registry_unwinding division).private_run side divided calls respectful room

/-- The resources of odd id against those of even id. -/
def parity : Division Bool where
  nic id := id.value % 2 = 0
  function id := id.value % 2 = 0
  port id := id.value % 2 = 0
  queue id := id.value % 2 = 0
  attachment id := id.value % 2 = 0
  gpu id := id.value % 2 = 0
  residency id := id.value % 2 = 0

/-- Two workers publish a NIC each with a function below it, the first one advances its
NIC, and the second one dies. -/
def twoPublishers : List Call :=
  let even : Authority := ⟨⟨1⟩, ⟨7⟩, ⟨1⟩⟩
  let odd : Authority := ⟨⟨1⟩, ⟨8⟩, ⟨1⟩⟩
  [.registerWorker ⟨7⟩ ⟨1⟩, .registerWorker ⟨8⟩ ⟨1⟩,
    .mutate even (.registerNic { id := ⟨10⟩, generation := ⟨1⟩ }),
    .mutate odd (.registerNic { id := ⟨11⟩, generation := ⟨1⟩ }),
    .mutate odd (.registerFunction { id := ⟨21⟩, generation := ⟨1⟩, parentNic := ⟨11⟩ }),
    .mutate even (.registerFunction { id := ⟨20⟩, generation := ⟨1⟩, parentNic := ⟨10⟩ }),
    .mutate even (.advanceNicGeneration ⟨10⟩),
    .workerRetired ⟨8⟩ ⟨1⟩]

theorem parity_link {side : Bool} {nic : NicId} (own : parity.nic nic = side) :
    parity.Within side nic {} {} {} where
  nic _ := own
  function valid := nomatch valid
  port valid := nomatch valid
  queue valid := nomatch valid

theorem twoPublishers_respectful : ∀ c ∈ twoPublishers, parity.Respects c := by
  simp only [twoPublishers, List.forall_mem_cons, List.not_mem_nil, false_implies, implies_true]
  exact ⟨trivial, trivial, trivial, trivial, parity_link rfl, parity_link rfl, trivial, trivial,
    trivial⟩

/-- An accepted call has not run into a full table. -/
theorem spares_of_all {events : List RegistryEvent} (ok : events.all accepted = true) :
    ∀ event ∈ events, Spares LimitReached event.outcome := by
  intro event member error threw
  have returned := List.all_eq_true.mp ok event member
  rw [accepted, threw] at returned
  cases returned

theorem twoPublishers_even :
    (parity.view true { epoch := ⟨1⟩ }).after (twoPublishers.filter (parity.concerns true)) =
      parity.view true (NicRegistry.after { epoch := ⟨1⟩ } twoPublishers) :=
  (side_runs_alone parity (divided_created ⟨1⟩) twoPublishers twoPublishers_respectful true
    (fun event member _ => spares_of_all (by decide +kernel) event member)).1

/-! Interleavings. -/

/-- Registries that differ only in the order of their residency records. -/
structure Alike (s t : NicRegistry) : Prop where
  epoch : s.epoch = t.epoch
  workers : s.workers = t.workers
  nics : s.nics = t.nics
  functions : s.functions = t.functions
  ports : s.ports = t.ports
  queues : s.queues = t.queues
  attachments : s.attachments = t.attachments
  gpus : s.gpus = t.gpus
  topology : s.topology = t.topology
  residencies : s.residencies.Perm t.residencies
  published : ∀ worker, s.publishedBy worker = t.publishedBy worker

/-- Decisions do not look at the residency records. -/
theorem Alike.decide_eq {s t : NicRegistry} (alike : Alike s t) (policy : ResidencyPolicy)
    (gpu : GpuId) (numa : NumaNodeId) (endpoint : EndpointId) (worker : WorkerId) :
    policy.decide s.snapshot gpu numa endpoint worker =
      policy.decide t.snapshot gpu numa endpoint worker := by
  have cleared : { s.snapshot with residencies := [] } = { t.snapshot with residencies := [] } := by
    simp only [snapshot, alike.epoch, alike.nics, alike.functions, alike.ports, alike.queues,
      alike.attachments, alike.gpus, alike.topology]
  calc policy.decide s.snapshot gpu numa endpoint worker
      = policy.decide { s.snapshot with residencies := [] } gpu numa endpoint worker := rfl
    _ = policy.decide { t.snapshot with residencies := [] } gpu numa endpoint worker := by
      rw [cleared]
    _ = policy.decide t.snapshot gpu numa endpoint worker := rfl

/-- Registries that look the same from every side are alike. -/
theorem alike_of_views {δ : Type} [DecidableEq δ] {division : Division δ} {s t : NicRegistry}
    (same : ∀ side, division.view side s = division.view side t) : Alike s t where
  epoch := by
    have seen := congrArg NicRegistry.epoch (same (division.nic {}))
    exact seen
  workers := by
    have seen := congrArg NicRegistry.workers (same (division.nic {}))
    exact seen
  nics := eq_of_shares fun side => congrArg NicRegistry.nics (same side)
  functions := eq_of_shares fun side => congrArg NicRegistry.functions (same side)
  ports := eq_of_shares fun side => congrArg NicRegistry.ports (same side)
  queues := eq_of_shares fun side => congrArg NicRegistry.queues (same side)
  attachments := eq_of_shares fun side => congrArg NicRegistry.attachments (same side)
  gpus := eq_of_shares fun side => congrArg NicRegistry.gpus (same side)
  topology := by
    have seen := congrArg NicRegistry.topology (same (division.nic {}))
    exact seen
  residencies := perm_of_shares fun side => congrArg NicRegistry.residencies (same side)
  published worker := by
    ext id
    have seen := congrArg (id ∈ NicRegistry.publishedBy · worker) (same (division.nic id))
    simpa [publishedBy_view] using seen

/-- The answers to the calls that concern a side, in their order. -/
def Division.answers {δ : Type} [DecidableEq δ] (division : Division δ) (side : δ)
    (events : List RegistryEvent) : List (Call × Except ResidencyError Reply) :=
  (events.filter fun event => division.concerns side event.input).map
    fun event => (event.input, event.outcome)

/-- Two interleavings in which every side finds its own calls, and those about workers,
the epoch and the topology, in the same order: every call gets the same answer, the
registries end alike, and every decision on them is the same. -/
theorem interleaving_irrelevant {δ : Type} [DecidableEq δ] (division : Division δ)
    {s : NicRegistry} (divided : Divided division s) {first second : List Call}
    (reordered : ∀ side, first.filter (division.concerns side) =
      second.filter (division.concerns side))
    (respectful : ∀ c ∈ first, division.Respects c)
    (roomFirst : ∀ event ∈ s.history first, Spares LimitReached event.outcome)
    (roomSecond : ∀ event ∈ s.history second, Spares LimitReached event.outcome) :
    Alike (s.after first) (s.after second) ∧
    (∀ side, division.answers side (s.history first) = division.answers side (s.history second)) ∧
    ∀ (policy : ResidencyPolicy) gpu numa endpoint worker,
      policy.decide (s.after first).snapshot gpu numa endpoint worker =
        policy.decide (s.after second).snapshot gpu numa endpoint worker := by
  have listed (c : Call) (member : c ∈ second) : c ∈ first := by
    obtain ⟨side, own⟩ : ∃ side, division.concerns side c = true := by
      cases placed : division.side c with
      | none => exact ⟨division.nic {}, by simp [Division.concerns, placed]⟩
      | some side => exact ⟨side, by simp [Division.concerns, placed]⟩
    have kept : c ∈ second.filter (division.concerns side) := List.mem_filter.mpr ⟨member, own⟩
    rw [← reordered side] at kept
    exact (List.mem_filter.mp kept).1
  have agree := (registry_unwinding division).interleaving divided reordered respectful
    (fun c member => respectful c (listed c member)) roomFirst roomSecond
  have alike : Alike (s.after first) (s.after second) := alike_of_views fun side => (agree side).1
  refine ⟨alike, fun side => ?_, fun policy gpu numa endpoint worker =>
    alike.decide_eq policy gpu numa endpoint worker⟩
  have answers := congrArg (List.map fun event => (event.input, event.outcome)) (agree side).2
  rw [List.map_map, List.map_map] at answers
  exact answers

/-- The same calls with the two publishers taking turns differently. -/
def twoPublishersReordered : List Call :=
  let even : Authority := ⟨⟨1⟩, ⟨7⟩, ⟨1⟩⟩
  let odd : Authority := ⟨⟨1⟩, ⟨8⟩, ⟨1⟩⟩
  [.registerWorker ⟨7⟩ ⟨1⟩, .registerWorker ⟨8⟩ ⟨1⟩,
    .mutate odd (.registerNic { id := ⟨11⟩, generation := ⟨1⟩ }),
    .mutate odd (.registerFunction { id := ⟨21⟩, generation := ⟨1⟩, parentNic := ⟨11⟩ }),
    .mutate even (.registerNic { id := ⟨10⟩, generation := ⟨1⟩ }),
    .mutate even (.registerFunction { id := ⟨20⟩, generation := ⟨1⟩, parentNic := ⟨10⟩ }),
    .mutate even (.advanceNicGeneration ⟨10⟩),
    .workerRetired ⟨8⟩ ⟨1⟩]

theorem twoPublishers_interleaved :
    Alike (NicRegistry.after { epoch := ⟨1⟩ } twoPublishers)
      (NicRegistry.after { epoch := ⟨1⟩ } twoPublishersReordered) :=
  (interleaving_irrelevant parity (divided_created ⟨1⟩) (fun side => by cases side <;> rfl)
    twoPublishers_respectful (spares_of_all (by decide +kernel))
    (spares_of_all (by decide +kernel))).1

end NicResidency.ResourceDivision

import NicResidency.CarriedGenerations
import NicResidency.Ingestion
import NicResidency.Republication
import NicResidency.Takeover

/-!
The same discovery twice. A NIC, function, port or queue meets itself as a duplicate and a
GPU overwrites itself, but a topology withdraws every attachment and residency once more.
-/

namespace NicResidency.Rediscovery
open StateMachine OrderedMap Throwing NicRegistry DiscoveryResult Generations Contents References
  CarriedGenerations

/-- The calls that publish an attachment or a residency record. -/
def publishesBinding : Call → Bool
  | .mutate _ (.registerAttachment _) | .mutate _ (.publishResidency _) => true
  | _ => false

/-- Entries with one id have one generation. -/
def OneGeneration {α : Type} {tag tag' : Tag} (entries : List α) (id : α → Id tag)
    (generation : α → Generation tag') : Prop :=
  ∀ a ∈ entries, ∀ b ∈ entries, id a = id b → generation a = generation b

structure Uniform (d : DiscoveryResult) : Prop where
  nics : OneGeneration d.nics NicRecord.id NicRecord.generation
  functions : OneGeneration d.functions FunctionRecord.id FunctionRecord.generation
  ports : OneGeneration d.ports PortRecord.id PortRecord.generation
  queues : OneGeneration d.queues QueueRecord.id QueueRecord.generation
  gpus : OneGeneration d.gpus GpuRecord.id GpuRecord.generation

/-- No kind of record that the discovery publishes is at its limit. -/
structure HasRoom (d : DiscoveryResult) (s : NicRegistry) : Prop where
  nics : ∀ nic ∈ d.nics, s.nics.size < kMaxNics
  functions : ∀ func ∈ d.functions, s.functions.size < kMaxFunctions
  ports : ∀ port ∈ d.ports, s.ports.size < kMaxPorts
  queues : ∀ q ∈ d.queues, s.queues.size < kMaxQueues
  gpus : ∀ gpu ∈ d.gpus, s.gpus.size < kMaxGpus

/-- Every attachment and every residency record is withdrawn already. -/
structure Withdrawn (s : NicRegistry) : Prop where
  attachments : ∀ (id : AttachmentId) (a : Attachment), s.attachments[id]? = some a →
    a.state = .stale
  residencies : ∀ r ∈ s.residencies, r.state = .revalidationRequired ∧
    r.lifecycle = .revalidationRequired

/-- What a worker has to find for the discovery to have no effect. -/
structure NothingToDo (d : DiscoveryResult) (s : NicRegistry) (worker : WorkerId) : Prop where
  uniform : Uniform d
  room : HasRoom d s
  withdrawn : ∀ top ∈ d.topology, Withdrawn s
  onRecord : ∀ nic ∈ d.nics, nic.id ∈ s.publishedBy worker

/-! The generations that a discovery carries. -/

/-- The discovery has an entry for the resource, at the generation. -/
def Finds (d : DiscoveryResult) : ResourceRef → Nat → Prop
  | .nic id, g => ∃ nic ∈ d.nics, nic.id = id ∧ nic.generation.value.toNat = g
  | .function id, g => ∃ func ∈ d.functions, func.id = id ∧ func.generation.value.toNat = g
  | .port id, g => ∃ port ∈ d.ports, port.id = id ∧ port.generation.value.toNat = g
  | .queue id, g => ∃ q ∈ d.queues, q.id = id ∧ q.generation.value.toNat = g
  | .gpu id, g => ∃ gpu ∈ d.gpus, gpu.id = id ∧ gpu.generation.value.toNat = g
  | .topology, g => ∃ top ∈ d.topology, top.generation.value.toNat = g
  | .attachment _, _ => False

section
variable {d : DiscoveryResult} {auth : Authority} {c : Call} {ref : ResourceRef} {g : Nat}

theorem finds_of_carries (member : c ∈ d.calls auth) (carried : carries c = some (ref, g)) :
    Finds d ref g := by
  rcases mem_calls.mp member with ⟨x, listed, rfl⟩ | ⟨x, listed, rfl⟩ | ⟨x, listed, rfl⟩ |
    ⟨x, listed, rfl⟩ | ⟨x, listed, rfl⟩ | ⟨x, listed, rfl⟩ <;> cases carried
  · exact ⟨x, listed, rfl, rfl⟩
  · exact ⟨x, listed, rfl, rfl⟩
  · exact ⟨x, listed, rfl⟩
  · exact ⟨x, listed, rfl, rfl⟩
  · exact ⟨x, listed, rfl, rfl⟩
  · exact ⟨x, listed, rfl, rfl⟩

theorem calls_idle (member : c ∈ d.calls auth) : advances c = none := by
  rcases mem_calls.mp member with ⟨x, listed, rfl⟩ | ⟨x, listed, rfl⟩ | ⟨x, listed, rfl⟩ |
    ⟨x, listed, rfl⟩ | ⟨x, listed, rfl⟩ | ⟨x, listed, rfl⟩ <;> rfl

theorem OneGeneration.level {α : Type} {tag tag' : Tag} {entries : List α} {id : α → Id tag}
    {generation : α → Generation tag'} (one : OneGeneration entries id generation) {key : Id tag}
    {g g' : Nat} (first : ∃ a ∈ entries, id a = key ∧ (generation a).value.toNat = g)
    (second : ∃ a ∈ entries, id a = key ∧ (generation a).value.toNat = g') : g = g' := by
  obtain ⟨a, listed, named, rfl⟩ := first
  obtain ⟨b, listed', named', rfl⟩ := second
  rw [one a listed b listed' (named.trans named'.symm)]

/-- A uniform discovery has one generation for each resource. -/
theorem Uniform.level (uniform : Uniform d) {g' : Nat} (first : Finds d ref g)
    (second : Finds d ref g') : g = g' := by
  cases ref with
  | nic id => exact uniform.nics.level first second
  | function id => exact uniform.functions.level first second
  | port id => exact uniform.ports.level first second
  | queue id => exact uniform.queues.level first second
  | gpu id => exact uniform.gpus.level first second
  | attachment id => exact first.elim
  | topology =>
    obtain ⟨top, present, rfl⟩ := first
    obtain ⟨top', present', rfl⟩ := second
    rw [Option.some.inj (present.symm.trans present')]

theorem binding_idle (binding : publishesBinding c = true) : advances c = none := by
  unfold publishesBinding at binding
  split at binding
  · rfl
  · rfl
  · cases binding

theorem binding_carries (binding : publishesBinding c = true) (carried : carries c = some (ref, g))
    {g' : Nat} : ¬Finds d ref g' := by
  unfold publishesBinding at binding
  split at binding
  · cases carried
    exact id
  · cases carried
  · cases binding

end

/-! What an ingestion leaves, its publications meet. -/

section
variable {first again : Authority} {q p v : NicRegistry} {reply : Reply}

theorem nic_again {rec : NicRecord}
    (transition : Transition q (.mutate first (.registerNic rec)) (.ok reply) p)
    (settled : ContentSettled p v)
    (level : generationOf v (.nic rec.id) = some rec.generation.value.toNat)
    (current : v.Authorised again) (room : v.nics.size < kMaxNics)
    (published : rec.id ∈ v.publishedBy again.worker) :
    Transition v (.mutate again (.registerNic rec)) (.ok (.nic rec.generation)) v := by
  obtain ⟨valid, old, stored, same, agrees⟩ : rec.id.valid = true ∧ ∃ old,
      p.nics[rec.id]? = some old ∧ rec.generation = old.generation ∧ nicEqual rec old = true := by
    cases transition with
    | duplicateNic _ _ old _ valid _ stored level agrees => exact ⟨valid, old, stored, level, agrees⟩
    | wroteNic _ _ _ valid =>
      exact ⟨valid, _, Std.ExtTreeMap.getElem?_insert_self, rfl, nicEqual_of_content rfl⟩
  obtain ⟨new, held, still, kept⟩ :=
    stored_since NicRecord.generation (settled.nics rec.id) stored same level
  have equal : nicEqual rec (nicContent new) = nicEqual rec (nicContent old) := by rw [kept]
  exact Republication.known_nic current valid room held still (equal.trans agrees) published

theorem function_again {rec : FunctionRecord}
    (transition : Transition q (.mutate first (.registerFunction rec)) (.ok reply) p)
    (stays : Kept p v) (settled : ContentSettled p v)
    (level : generationOf v (.function rec.id) = some rec.generation.value.toNat)
    (current : v.Authorised again) (room : v.functions.size < kMaxFunctions) :
    Transition v (.mutate again (.registerFunction rec)) (.ok (.function rec.generation)) v := by
  obtain ⟨valid, parent, parentKnown, old, stored, same, agrees⟩ : rec.id.valid = true ∧
      rec.parentNic.valid = true ∧ rec.parentNic ∈ p.nics ∧ ∃ old, p.functions[rec.id]? = some old ∧
        rec.generation = old.generation ∧ functionEqual rec old = true := by
    cases transition with
    | duplicateFunction _ _ old _ valid parent parentKnown _ stored level agrees =>
      exact ⟨valid, parent, parentKnown, old, stored, level, agrees⟩
    | wroteFunction _ _ _ valid parent parentKnown =>
      exact ⟨valid, parent, parentKnown, rec, Std.ExtTreeMap.getElem?_insert_self, rfl,
        functionEqual_of_content rfl⟩
  obtain ⟨new, held, still, kept⟩ :=
    stored_since FunctionRecord.generation (settled.functions rec.id) stored same level
  have equal : functionEqual rec (functionContent new) = functionEqual rec (functionContent old) := by
    rw [kept]
  exact .duplicateFunction again rec new current valid parent (stays.nics _ parentKnown) room held
    still (equal.trans agrees)

theorem port_again {rec : PortRecord}
    (transition : Transition q (.mutate first (.registerPort rec)) (.ok reply) p)
    (stays : Kept p v) (settled : ContentSettled p v)
    (level : generationOf v (.port rec.id) = some rec.generation.value.toNat)
    (current : v.Authorised again) (room : v.ports.size < kMaxPorts) :
    Transition v (.mutate again (.registerPort rec)) (.ok (.port rec.generation)) v := by
  obtain ⟨valid, parent, parentKnown, functionKnown, old, stored, same, agrees⟩ :
      rec.id.valid = true ∧ rec.parentNic.valid = true ∧ rec.parentNic ∈ p.nics ∧
        Optional rec.parentFunction (· ∈ p.functions) ∧ ∃ old, p.ports[rec.id]? = some old ∧
          rec.generation = old.generation ∧ portEqual rec old = true := by
    cases transition with
    | duplicatePort _ _ old _ valid parent parentKnown functionKnown _ stored level agrees =>
      exact ⟨valid, parent, parentKnown, functionKnown, old, stored, level, agrees⟩
    | wrotePort _ _ _ valid parent parentKnown functionKnown =>
      exact ⟨valid, parent, parentKnown, functionKnown, rec, Std.ExtTreeMap.getElem?_insert_self, rfl,
        portEqual_of_content rfl⟩
  obtain ⟨new, held, still, rfl⟩ :=
    stored_since PortRecord.generation (settled.ports rec.id) stored same level
  exact .duplicatePort again rec old current valid parent (stays.nics _ parentKnown)
    (Optional.imp functionKnown (stays.functions _)) room held still agrees

theorem queue_again {rec : QueueRecord}
    (transition : Transition q (.mutate first (.registerQueue rec)) (.ok reply) p)
    (stays : Kept p v) (settled : ContentSettled p v)
    (level : generationOf v (.queue rec.id) = some rec.generation.value.toNat)
    (current : v.Authorised again) (room : v.queues.size < kMaxQueues) :
    Transition v (.mutate again (.registerQueue rec)) (.ok (.queue rec.generation)) v := by
  obtain ⟨valid, parentFunction, parent, functionKnown, parentKnown, old, stored, same, agrees⟩ :
      rec.id.valid = true ∧ rec.parentFunction.valid = true ∧ rec.parentNic.valid = true ∧
        rec.parentFunction ∈ p.functions ∧ rec.parentNic ∈ p.nics ∧ ∃ old,
          p.queues[rec.id]? = some old ∧ rec.generation = old.generation ∧ queueEqual rec old = true := by
    cases transition with
    | duplicateQueue _ _ old _ valid parentFunction parent functionKnown parentKnown _ stored level
        agrees =>
      exact ⟨valid, parentFunction, parent, functionKnown, parentKnown, old, stored, level, agrees⟩
    | wroteQueue _ _ _ valid parentFunction parent functionKnown parentKnown =>
      exact ⟨valid, parentFunction, parent, functionKnown, parentKnown, rec,
        Std.ExtTreeMap.getElem?_insert_self, rfl, queueEqual_of_content rfl⟩
  obtain ⟨new, held, still, kept⟩ :=
    stored_since QueueRecord.generation (settled.queues rec.id) stored same level
  have equal : queueEqual rec (queueContent new) = queueEqual rec (queueContent old) := by rw [kept]
  exact .duplicateQueue again rec new current valid parentFunction parent
    (stays.functions _ functionKnown) (stays.nics _ parentKnown) room held still (equal.trans agrees)

end

/-! GPUs are written over themselves, so only the whole list of them changes nothing. -/

section
variable {s t : NicRegistry} {auth : Authority} {gpus : List GpuRecord}

theorem leads_gpus
    (leads : Leads s (gpus.map fun gpu => Call.mutate auth (.registerGpu gpu)) t) :
    t = { s with gpus := storeAll GpuRecord.id s.gpus gpus } := by
  induction gpus generalizing s with
  | nil => exact (leads_nil.mp leads).symm
  | cons gpu rest ih =>
    obtain ⟨reply, u, transition, later⟩ := leads_cons.mp leads
    have tail := ih later
    rw [storeAll_cons]
    cases transition with
    | wroteGpu => exact tail

theorem gpus_again (gpus : List GpuRecord) (current : s.Authorised auth)
    (room : ∀ gpu ∈ gpus, s.gpus.size < kMaxGpus)
    (valid : ∀ gpu ∈ gpus, gpu.id.valid = true)
    (level : ∀ gpu ∈ gpus, generationOf s (.gpu gpu.id) = some gpu.generation.value.toNat) :
    Leads s (gpus.map fun gpu => Call.mutate auth (.registerGpu gpu))
      { s with gpus := storeAll GpuRecord.id s.gpus gpus } := by
  induction gpus generalizing s with
  | nil => exact leads_nil.mpr rfl
  | cons gpu rest ih =>
    rw [List.forall_mem_cons] at room valid level
    obtain ⟨old, stored, same⟩ := Option.map_eq_some_iff.mp level.1
    have written : Transition s (.mutate auth (.registerGpu gpu)) (.ok .done)
        { s with gpus := s.gpus.insert gpu.id gpu } := by
      refine .wroteGpu auth gpu current valid.1 room.1 ?_ ?_
      · intro other present
        obtain rfl : old = other := Option.some.inj (stored.symm.trans present)
        exact not_lt.mpr same.le
      · intro absent
        cases stored.symm.trans absent
    rw [storeAll_cons]
    refine leads_cons.mpr ⟨.done, _, written, ih current ?_ valid.2 ?_⟩
    · intro other listed
      have filled : s.gpus.contains gpu.id = true :=
        Std.ExtTreeMap.contains_iff_mem.mpr (mem_of_stored stored)
      rw [Std.ExtTreeMap.size_insert, if_pos filled]
      exact room.2 other listed
    · intro other listed
      have known := level.2 other listed
      refine generationOf_kept written rfl ?_ known
      intro g' carried
      obtain ⟨named, rfl⟩ := Prod.mk.inj (Option.some.inj carried)
      rw [← named] at known
      exact Option.some.inj (level.1.symm.trans known)

end

/-! A topology withdraws the attachments and the residencies. -/

section
variable {s t : NicRegistry}

/-- What the registration of a NIC, function, port or queue leaves alone. -/
def beside (s : NicRegistry) : Std.ExtTreeMap GpuId GpuRecord × Option TopologySnapshot ×
    Std.ExtTreeMap AttachmentId Attachment × List ResidencyRecord :=
  (s.gpus, s.topology, s.attachments, s.residencies)

def registersRecord : Call → Bool
  | .mutate _ (.registerNic _) | .mutate _ (.registerFunction _) | .mutate _ (.registerPort _)
  | .mutate _ (.registerQueue _) => true
  | _ => false

theorem beside_step {c : Call} (registers : registersRecord c = true) (s : NicRegistry) :
    beside (s.step c).2 = beside s := by
  cases called : s.step c with
  | mk outcome t =>
    unfold registersRecord at registers
    split at registers
    · cases step_transition called <;> rfl
    · cases step_transition called <;> rfl
    · cases step_transition called <;> rfl
    · cases step_transition called <;> rfl
    · cases registers

theorem withdrawn_invalidated (s : NicRegistry) : Withdrawn (invalidateTopologyDependents s) where
  attachments id a stored := by
    rw [invalidateTopologyDependents, Std.ExtTreeMap.getElem?_map, Option.map_eq_some_iff] at stored
    obtain ⟨old, -, rfl⟩ := stored
    rfl
  residencies r member := by
    obtain ⟨old, -, rfl⟩ := List.mem_map.mp member
    exact ⟨rfl, rfl⟩

theorem invalidate_withdrawn (withdrawn : Withdrawn s) : invalidateTopologyDependents s = s := by
  have attachments : s.attachments.map (fun _ a => a.markStale) = s.attachments := by
    apply Std.ExtTreeMap.ext_getElem?
    intro id
    rw [Std.ExtTreeMap.getElem?_map]
    cases stored : s.attachments[id]? with
    | none => rfl
    | some a => rw [Option.map_some, Attachment.markStale, ← withdrawn.attachments id a stored]
  have residencies : s.residencies.map ResidencyRecord.requireRevalidation = s.residencies := by
    calc
      s.residencies.map ResidencyRecord.requireRevalidation = s.residencies.map id := by
        apply List.map_congr_left
        intro r member
        obtain ⟨state, lifecycle⟩ := withdrawn.residencies r member
        rw [ResidencyRecord.requireRevalidation, ← state, ← lifecycle, id]
      _ = s.residencies := List.map_id _
  rw [invalidateTopologyDependents, attachments, residencies]

theorem Withdrawn.congr (same : beside s = beside t) (withdrawn : Withdrawn s) : Withdrawn t := by
  simp only [beside, Prod.mk.injEq] at same
  obtain ⟨-, -, attachments, residencies⟩ := same
  exact ⟨by rw [← attachments]; exact withdrawn.attachments,
    by rw [← residencies]; exact withdrawn.residencies⟩

end

/-! An ingestion that returns to where it started has found nothing to do. -/

section
variable {d : DiscoveryResult} {again : Authority} {v : NicRegistry}

theorem level_of_return (returned : Leads v (d.calls again) v) {c : Call} (member : c ∈ d.calls again)
    {ref : ResourceRef} {g : Nat} (carried : carries c = some (ref, g)) :
    generationOf v ref = some g := by
  obtain ⟨before, after, q, reply, p, split, reached, transition, last⟩ := leads_member returned member
  have idle : ∀ c ∈ d.calls again, advances c = none := fun _ => calls_idle
  rw [split, List.forall_mem_append, List.forall_mem_cons] at idle
  have early : NotBelow v q := reached.2 ▸ notBelow_after idle.1
  have late : NotBelow p v := last.2 ▸ notBelow_after idle.2.2
  obtain ⟨left, notLower⟩ := generationOf_published transition carried
  obtain ⟨g₀, stored, grown⟩ := late ref g left
  obtain ⟨g₁, met, grown'⟩ := early ref g₀ stored
  have bound := notLower g₁ met
  have level : g₀ = g := by omega
  rw [stored, level]

theorem oneGeneration_of_level {α : Type} {tag tag' : Tag} {entries : List α} {id : α → Id tag}
    {generation : α → Generation tag'} (stored : Id tag → Option Nat)
    (level : ∀ a ∈ entries, stored (id a) = some (generation a).value.toNat) :
    OneGeneration entries id generation := by
  intro a listed b listed' same
  have known := level b listed'
  rw [← same, level a listed] at known
  exact Generation.value_injective (Option.some.inj known)

theorem uniform_of_return (returned : Leads v (d.calls again) v) : Uniform d where
  nics := oneGeneration_of_level (fun id => generationOf v (.nic id)) fun _ listed =>
    level_of_return returned (nic_mem_calls listed) rfl
  gpus := oneGeneration_of_level (fun id => generationOf v (.gpu id)) fun _ listed =>
    level_of_return returned (gpu_mem_calls listed) rfl
  functions := oneGeneration_of_level (fun id => generationOf v (.function id)) fun _ listed =>
    level_of_return returned (function_mem_calls listed) rfl
  ports := oneGeneration_of_level (fun id => generationOf v (.port id)) fun _ listed =>
    level_of_return returned (port_mem_calls listed) rfl
  queues := oneGeneration_of_level (fun id => generationOf v (.queue id)) fun _ listed =>
    level_of_return returned (queue_mem_calls listed) rfl

/-- Every publication is accepted in a registry that has at least the ids of the last one. -/
theorem accepted_beyond (returned : Leads v (d.calls again) v) {c : Call}
    (member : c ∈ d.calls again) : ∃ q reply p, Kept v q ∧ (∀ id ∈ v.gpus, id ∈ q.gpus) ∧
      Transition q c (.ok reply) p := by
  obtain ⟨before, after, q, reply, p, split, ⟨-, rfl⟩, transition, -⟩ := leads_member returned member
  refine ⟨_, reply, p, kept_after v before, ?_, transition⟩
  intro id known
  have idle : ∀ c ∈ d.calls again, advances c = none := fun _ => calls_idle
  rw [split, List.forall_mem_append] at idle
  rw [Std.ExtTreeMap.mem_iff_isSome_getElem?, Option.isSome_iff_exists] at known
  obtain ⟨gpu, stored⟩ := known
  obtain ⟨g, held, -⟩ := notBelow_after idle.1 (.gpu id) gpu.generation.value.toNat
    (by rw [generationOf, stored]; rfl)
  obtain ⟨kept, present, -⟩ := Option.map_eq_some_iff.mp held
  exact mem_of_stored present

theorem room_of_return (returned : Leads v (d.calls again) v) : HasRoom d v where
  nics nic listed := by
    obtain ⟨q, reply, p, stays, -, transition⟩ :=
      accepted_beyond returned (nic_mem_calls listed)
    have fewer := size_le_of_keys stays.nics
    cases transition with
    | duplicateNic _ _ _ _ _ room | wroteNic _ _ _ _ room => exact fewer.trans_lt room
  gpus gpu listed := by
    obtain ⟨q, reply, p, -, stays, transition⟩ :=
      accepted_beyond returned (gpu_mem_calls listed)
    have fewer := size_le_of_keys stays
    cases transition with
    | wroteGpu _ _ _ _ room => exact fewer.trans_lt room
  functions func listed := by
    obtain ⟨q, reply, p, stays, -, transition⟩ :=
      accepted_beyond returned (function_mem_calls listed)
    have fewer := size_le_of_keys stays.functions
    cases transition with
    | duplicateFunction _ _ _ _ _ _ _ room | wroteFunction _ _ _ _ _ _ room =>
      exact fewer.trans_lt room
  ports port listed := by
    obtain ⟨q, reply, p, stays, -, transition⟩ :=
      accepted_beyond returned (port_mem_calls listed)
    have fewer := size_le_of_keys stays.ports
    cases transition with
    | duplicatePort _ _ _ _ _ _ _ _ room | wrotePort _ _ _ _ _ _ _ room => exact fewer.trans_lt room
  queues queue listed := by
    obtain ⟨q, reply, p, stays, -, transition⟩ :=
      accepted_beyond returned (queue_mem_calls listed)
    have fewer := size_le_of_keys stays.queues
    cases transition with
    | duplicateQueue _ _ _ _ _ _ _ _ _ room | wroteQueue _ _ _ _ _ _ _ _ room =>
      exact fewer.trans_lt room

/-- What an ingestion publishes behind the topology. -/
theorem beside_behind (s : NicRegistry) :
    beside (s.after (d.functions.map (fun func => Call.mutate again (.registerFunction func)) ++
      (d.ports.map (fun port => Call.mutate again (.registerPort port)) ++
        d.queues.map (fun q => Call.mutate again (.registerQueue q))))) = beside s := by
  apply view_after beside
  intro c member
  apply beside_step
  simp only [List.mem_append, List.mem_map] at member
  rcases member with ⟨x, -, rfl⟩ | ⟨x, -, rfl⟩ | ⟨x, -, rfl⟩ <;> rfl

theorem withdrawn_of_return (returned : Leads v (d.calls again) v) :
    ∀ top ∈ d.topology, Withdrawn v := by
  intro top present
  obtain ⟨a, -, returned⟩ := leads_append.mp returned
  obtain ⟨b, -, returned⟩ := leads_append.mp returned
  obtain ⟨c, set, -, reached⟩ := leads_append.mp returned
  rw [Option.mem_def.mp present, Option.toList_some, List.map_singleton] at set
  obtain ⟨reply, u, transition, last⟩ := leads_cons.mp set
  obtain rfl := leads_nil.mp last
  have same : beside v = beside u := reached ▸ beside_behind u
  cases transition with
  | setTopology => exact (withdrawn_invalidated _).congr same.symm

theorem publishedBy_grows {s : NicRegistry} {calls : List Call} {worker : WorkerId} {n : NicId}
    (mutations : ∀ c ∈ calls, ∃ auth mutation, c = .mutate auth mutation)
    (known : n ∈ s.publishedBy worker) : n ∈ (s.after calls).publishedBy worker := by
  induction calls generalizing s with
  | nil => exact known
  | cons c rest ih =>
    rw [List.forall_mem_cons] at mutations
    obtain ⟨⟨auth, mutation, rfl⟩, later⟩ := mutations
    refine ih later ?_
    by_cases registers : ∃ nic, mutation = .registerNic nic
    · obtain ⟨nic, rfl⟩ := registers
      exact (Takeover.publishedBy_registerNic nic).mpr (.inr known)
    · rw [Takeover.publishedBy_mutate (not_exists.mp registers)]
      exact known

theorem onRecord_of_return (returned : Leads v (d.calls again) v) :
    ∀ nic ∈ d.nics, nic.id ∈ v.publishedBy again.worker := by
  intro nic listed
  obtain ⟨before, after, q, reply, p, split, -, transition, -, reached⟩ :=
    leads_member returned (nic_mem_calls listed)
  have noted : nic.id ∈ p.publishedBy again.worker := by
    have published := WorkerEvidence.publishedBy_note_self (s := q) again.worker nic.id
    cases transition <;> exact published
  rw [← reached]
  refine publishedBy_grows ?_ noted
  intro c later
  have member : c ∈ d.calls again := by rw [split]; simp [later]
  rcases mem_calls.mp member with ⟨x, -, rfl⟩ | ⟨x, -, rfl⟩ | ⟨x, -, rfl⟩ | ⟨x, -, rfl⟩ |
    ⟨x, -, rfl⟩ | ⟨x, -, rfl⟩ <;> exact ⟨_, _, rfl⟩

end

/-! Where nothing is left to do, the ingestion goes through and changes nothing. -/

section
variable {d : DiscoveryResult} {first again : Authority} {s ingested : NicRegistry} {later : List Call}

/-- What a publication has left is in the registry that the ingestion and the bindings after it
have reached. -/
theorem traced (taken : Leads s (d.calls first) ingested)
    (bindings : ∀ c ∈ later, publishesBinding c = true) {c : Call} (member : c ∈ d.calls first) :
    ∃ q reply p, Transition q c (.ok reply) p ∧ Kept p (ingested.after later) ∧
      ContentSettled p (ingested.after later) ∧
        ∀ ref g, carries c = some (ref, g) → Uniform d →
          generationOf (ingested.after later) ref = some g := by
  obtain ⟨before, after, q, reply, p, split, -, transition, -, rfl⟩ := leads_member taken member
  have remaining {c' : Call} (inside : c' ∈ after) : c' ∈ d.calls first := by
    rw [split]
    simp [inside]
  have idle : ∀ c' ∈ after ++ later, advances c' = none := by
    intro c' inside
    rcases List.mem_append.mp inside with published | bound
    · exact calls_idle (remaining published)
    · exact binding_idle (bindings c' bound)
  rw [← after_append]
  refine ⟨q, reply, p, transition, kept_after p _, settled_after idle, ?_⟩
  intro ref g carried uniform
  have found : Finds d ref g := finds_of_carries member carried
  refine generation_after idle ?_ (generationOf_published transition carried).1
  intro c' inside g' carried'
  rcases List.mem_append.mp inside with published | bound
  · exact uniform.level (finds_of_carries (remaining published) carried') found
  · exact absurd found (binding_carries (bindings c' bound) carried')

theorem binding_step {c : Call} (binding : publishesBinding c = true) (s : NicRegistry) :
    ((s.step c).2.gpus, (s.step c).2.topology) = (s.gpus, s.topology) := by
  cases called : s.step c with
  | mk outcome t =>
    unfold publishesBinding at binding
    split at binding
    · cases step_transition called <;> rfl
    · cases step_transition called <;> rfl
    · cases binding

/-- The GPUs and the topology are those of the discovery. -/
theorem evidence_of_ingestion (taken : Leads s (d.calls first) ingested)
    (bindings : ∀ c ∈ later, publishesBinding c = true) :
    (∃ map, (ingested.after later).gpus = storeAll GpuRecord.id map d.gpus) ∧
      ∀ top ∈ d.topology, (ingested.after later).topology = some top := by
  obtain ⟨a, -, taken⟩ := leads_append.mp taken
  obtain ⟨b, published, taken⟩ := leads_append.mp taken
  obtain ⟨c, set, -, reached⟩ := leads_append.mp taken
  have behind : beside ingested = beside c := reached ▸ beside_behind c
  have bound : ((ingested.after later).gpus, (ingested.after later).topology) =
      (ingested.gpus, ingested.topology) :=
    view_after (fun s => (s.gpus, s.topology))
      (fun c' inside s => binding_step (bindings c' inside) s) ingested
  simp only [beside, Prod.mk.injEq] at behind bound
  rw [bound.1, bound.2, behind.1, behind.2.1]
  cases present : d.topology with
  | none =>
    rw [present, Option.toList_none, List.map_nil] at set
    obtain rfl := leads_nil.mp set
    exact ⟨⟨a.gpus, by rw [leads_gpus published]⟩, nofun⟩
  | some top =>
    rw [present, Option.toList_some, List.map_singleton] at set
    obtain ⟨reply, u, transition, last⟩ := leads_cons.mp set
    obtain rfl := leads_nil.mp last
    cases transition with
    | setTopology => exact ⟨⟨a.gpus, by rw [leads_gpus published]; rfl⟩, fun _ same => same⟩

theorem returns_of_nothingToDo (taken : Leads s (d.calls first) ingested)
    (bindings : ∀ c ∈ later, publishesBinding c = true)
    (current : (ingested.after later).Authorised again)
    (nothing : NothingToDo d (ingested.after later) again.worker) :
    Leads (ingested.after later) (d.calls again) (ingested.after later) := by
  obtain ⟨uniform, room, withdrawn, onRecord⟩ := nothing
  have known {c : Call} (member : c ∈ d.calls first) := traced taken bindings member
  obtain ⟨⟨map, gpus⟩, topology⟩ := evidence_of_ingestion taken bindings
  generalize ingested.after later = v at *
  simp only [DiscoveryResult.calls, leads_append]
  refine ⟨v, ?nics, v, ?gpus, v, ?topology, v, ?functions, v, ?ports, ?queues⟩
  case nics =>
    refine leads_still (List.forall_mem_map.mpr fun nic listed => ?_)
    obtain ⟨q, reply, p, transition, -, settled, level⟩ := known (nic_mem_calls listed)
    exact ⟨_, nic_again transition settled (level _ _ rfl uniform) current (room.nics nic listed)
      (onRecord nic listed)⟩
  case gpus =>
    have same : { v with gpus := storeAll GpuRecord.id v.gpus d.gpus } = v := by
      rw [gpus, storeAll_storeAll, ← gpus]
    have written := gpus_again d.gpus current room.gpus ?_ ?_
    · rwa [same] at written
    · intro gpu listed
      obtain ⟨q, reply, p, transition, -⟩ := known (gpu_mem_calls listed)
      cases transition with
      | wroteGpu _ _ _ valid => exact valid
    · intro gpu listed
      obtain ⟨q, reply, p, -, -, -, level⟩ := known (gpu_mem_calls listed)
      exact level _ _ rfl uniform
  case topology =>
    refine leads_still (List.forall_mem_map.mpr fun top listed => ?_)
    have present := topology top (Option.mem_toList.mp listed)
    have set : Transition v (.mutate again (.setTopology top)) (.ok .done)
        (invalidateTopologyDependents { v with topology := some top }) := by
      refine .setTopology again top current ?_
      intro old stored
      rw [present, Option.some.injEq] at stored
      rw [stored]
      exact lt_irrefl _
    rw [← present, invalidate_withdrawn (withdrawn top (Option.mem_toList.mp listed))] at set
    exact ⟨_, set⟩
  case functions =>
    refine leads_still (List.forall_mem_map.mpr fun func listed => ?_)
    obtain ⟨q, reply, p, transition, stays, settled, level⟩ :=
      known (function_mem_calls listed)
    exact ⟨_, function_again transition stays settled (level _ _ rfl uniform) current
      (room.functions func listed)⟩
  case ports =>
    refine leads_still (List.forall_mem_map.mpr fun port listed => ?_)
    obtain ⟨q, reply, p, transition, stays, settled, level⟩ :=
      known (port_mem_calls listed)
    exact ⟨_, port_again transition stays settled (level _ _ rfl uniform) current
      (room.ports port listed)⟩
  case queues =>
    refine leads_still (List.forall_mem_map.mpr fun queue listed => ?_)
    obtain ⟨q, reply, p, transition, stays, settled, level⟩ :=
      known (queue_mem_calls listed)
    exact ⟨_, queue_again transition stays settled (level _ _ rfl uniform) current
      (room.queues queue listed)⟩

end

/-- After an ingestion, and any attachments and residencies, the same discovery is ingested
without an effect exactly when it lists no id with two generations, nothing is full, its
topology finds nothing to withdraw and the worker is on record for its NICs. -/
theorem reingest_unchanged_iff (s ingested : NicRegistry) (d : DiscoveryResult)
    (first again : Authority) (later : List Call)
    (taken : perform (ingest d first) s = (.ok (), ingested))
    (bindings : ∀ c ∈ later, publishesBinding c = true)
    (current : (ingested.after later).Authorised again) :
    perform (ingest d again) (ingested.after later) = (.ok (), ingested.after later) ↔
      NothingToDo d (ingested.after later) again.worker := by
  rw [ingest_ok_iff] at taken ⊢
  constructor
  · intro returned
    exact ⟨uniform_of_return returned, room_of_return returned, withdrawn_of_return returned,
      onRecord_of_return returned⟩
  · exact returns_of_nothingToDo taken bindings current

/-- One NIC with a function, a GPU and a topology. -/
def smallHost : DiscoveryResult where
  nics := [{ id := ⟨10⟩, generation := ⟨1⟩ }]
  functions := [{ id := ⟨20⟩, generation := ⟨1⟩, parentNic := ⟨10⟩ }]
  gpus := [{ id := ⟨30⟩, generation := ⟨1⟩ }]
  topology := some { generation := ⟨1⟩ }

/-- The NIC of the host is attached after its discovery. -/
def attachedSince : List Call :=
  [.mutate ⟨⟨1⟩, ⟨7⟩, ⟨1⟩⟩
    (.registerAttachment { id := ⟨50⟩, generation := ⟨1⟩, nic := ⟨10⟩, state := .committed })]

theorem smallHost_ingested :
    let auth : Authority := ⟨⟨1⟩, ⟨7⟩, ⟨1⟩⟩
    let s := NicRegistry.after { epoch := ⟨1⟩ } [.registerWorker ⟨7⟩ ⟨1⟩]
    perform (ingest smallHost auth) s = (.ok (), s.after (smallHost.calls auth)) :=
  ingest_ok_iff.mpr ⟨by decide +kernel, rfl⟩

theorem smallHost_reingest_unchanged_iff :
    let auth : Authority := ⟨⟨1⟩, ⟨7⟩, ⟨1⟩⟩
    let s := NicRegistry.after { epoch := ⟨1⟩ } [.registerWorker ⟨7⟩ ⟨1⟩]
    let reached := (s.after (smallHost.calls auth)).after attachedSince
    perform (ingest smallHost auth) reached = (.ok (), reached) ↔
      NothingToDo smallHost reached ⟨7⟩ := by
  intro auth s reached
  exact reingest_unchanged_iff s _ smallHost auth auth attachedSince smallHost_ingested (by decide)
    (by decide +kernel)

/-- The attachment is withdrawn by the topology that was there before it. -/
theorem smallHost_withdraws :
    ¬∀ (s ingested : NicRegistry) (d : DiscoveryResult) (first again : Authority) (later : List Call),
      s.Reachable → perform (ingest d first) s = (.ok (), ingested) →
        (∀ c ∈ later, publishesBinding c = true) → (ingested.after later).Authorised again →
          perform (ingest d again) (ingested.after later) = (.ok (), ingested.after later) := by
  intro harmless
  let auth : Authority := ⟨⟨1⟩, ⟨7⟩, ⟨1⟩⟩
  have again := harmless _ _ smallHost auth auth attachedSince
    ⟨⟨1⟩, _, [.registerWorker ⟨7⟩ ⟨1⟩], rfl, rfl⟩ smallHost_ingested (by decide) (by decide +kernel)
  have state := congrArg (fun result => result.2.attachments[(⟨50⟩ : AttachmentId)]?.map Attachment.state)
    again
  revert state
  decide +kernel

end NicResidency.Rediscovery

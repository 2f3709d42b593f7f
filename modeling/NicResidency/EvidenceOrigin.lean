import NicResidency.Selection

/-!
Where the stored evidence comes from. The registry sets generations, freshness, states, owners and
epochs on its own. All else that a record says was published for it by an accepted call of the run.
-/

namespace NicResidency.EvidenceOrigin
open StateMachine NicRegistry Selection

/-! What a publication says beside generations, freshness, states, owners and epochs. -/

def nicEvidence (n : NicRecord) : NicRecord :=
  { n with generation := {}, lifecycle := .discovered, freshness := 0 }

def functionEvidence (f : FunctionRecord) : FunctionRecord :=
  { f with generation := {}, lifecycle := .discovered, ownership := .unknown, ownerWorker := {}
           ownerBoot := {}, epoch := {} }

def queueEvidence (q : QueueRecord) : QueueRecord :=
  { q with generation := {}, lifecycle := .discovered }

def attachmentEvidence (a : Attachment) : Attachment :=
  { a with state := .proposed, ownerWorker := {}, ownerBoot := {}, epoch := {} }

def residencyEvidence (r : ResidencyRecord) : ResidencyRecord :=
  { r with state := .discovered, lifecycle := .discovered, ownerWorker := {}, ownerBoot := {}, epoch := {} }

/-- An accepted call of the history published the evidence of the record. -/
def Published {α ε : Type} (publication : α → Mutation) (evidence : α → ε)
    (history : List RegistryEvent) (stored : α) : Prop :=
  ∃ event ∈ history, ∃ rec, Accepts event (publication rec) ∧ evidence rec = evidence stored

/-- All evidence of a registry was published in the history. -/
structure Origin (history : List RegistryEvent) (s : NicRegistry) : Prop where
  nics : ∀ (id : NicId) nic, s.nics[id]? = some nic →
    Published .registerNic nicEvidence history nic
  functions : ∀ (id : FunctionId) func, s.functions[id]? = some func →
    Published .registerFunction functionEvidence history func
  ports : ∀ (key : PortId) port, s.ports[key]? = some port → Published .registerPort id history port
  queues : ∀ (id : QueueId) q, s.queues[id]? = some q →
    Published .registerQueue queueEvidence history q
  gpus : ∀ (key : GpuId) gpu, s.gpus[key]? = some gpu → Published .registerGpu id history gpu
  attachments : ∀ (id : AttachmentId) att, s.attachments[id]? = some att →
    Published .registerAttachment attachmentEvidence history att
  topology : ∀ top, s.topology = some top → Published .setTopology id history top
  residencies : ∀ (position : Nat) rec, s.residencies[position]? = some rec →
    Published .publishResidency residencyEvidence history rec

section
variable {α ε : Type} {publication : α → Mutation} {evidence : α → ε} {history : List RegistryEvent}
  {stored : α} {event : RegistryEvent}

theorem Published.later (published : Published publication evidence history stored) :
    Published publication evidence (history ++ [event]) stored := by
  obtain ⟨earlier, member, rest⟩ := published
  exact ⟨earlier, List.mem_append_left _ member, rest⟩

theorem Published.like {other : α} (published : Published publication evidence history stored)
    (same : evidence other = evidence stored) : Published publication evidence history other := by
  obtain ⟨earlier, member, rec, accepted, like⟩ := published
  exact ⟨earlier, member, rec, accepted, like.trans same.symm⟩

theorem published_now {rec : α} (accepted : Accepts event (publication rec))
    (same : evidence rec = evidence stored) :
    Published publication evidence (history ++ [event]) stored :=
  ⟨event, List.mem_append_right _ (List.mem_singleton_self _), rec, accepted, same⟩

end

theorem origin_step (history : List RegistryEvent) (s : NicRegistry) (c : Call) (origin : Origin history s) :
    Origin (history ++ [Event.at step s c]) (step s c).2 := by
  have transition := at_transition s c
  constructor
  case nics =>
    intro id
    apply (nic_change transition id).holds_after _ fun nic stored => (origin.nics id nic stored).later
    · rintro _ ⟨rec, accepted, -, rfl⟩
      exact published_now accepted rfl
    · rintro old _ (rfl | ⟨-, rfl⟩) published
      · exact published.like rfl
      · exact published.like rfl
  case functions =>
    intro id
    apply (function_change transition id).holds_after _ fun func stored =>
      (origin.functions id func stored).later
    · rintro func ⟨accepted, -⟩
      exact published_now accepted rfl
    · rintro old _ (rfl | ⟨epoch, rfl⟩ | ⟨-, rfl⟩) published
      · exact published.like rfl
      · exact published.like rfl
      · exact published.like rfl
  case ports =>
    intro id
    apply (port_change transition id).holds_after _ fun port stored => (origin.ports id port stored).later
    · rintro port ⟨accepted, -⟩
      exact published_now accepted rfl
    · exact fun _ _ never => never.elim
  case queues =>
    intro id
    apply (queue_change transition id).holds_after _ fun q stored => (origin.queues id q stored).later
    · rintro q ⟨accepted, -⟩
      exact published_now accepted rfl
    · rintro old _ (rfl | ⟨-, rfl⟩) published
      · exact published.like rfl
      · exact published.like rfl
  case gpus =>
    intro id
    apply (gpu_change transition id).holds_after _ fun gpu stored => (origin.gpus id gpu stored).later
    · rintro gpu ⟨accepted, -⟩
      exact published_now accepted rfl
    · exact fun _ _ never => never.elim
  case attachments =>
    intro id
    apply (attachment_change transition id).holds_after _ fun att stored =>
      (origin.attachments id att stored).later
    · rintro att ⟨accepted, -⟩
      exact published_now accepted rfl
    · intro old new demoted published
      cases demoted <;> exact published.like rfl
  case topology =>
    apply (topology_change transition).holds_after _ fun top stored => (origin.topology top stored).later
    · exact fun top accepted => published_now accepted rfl
    · exact fun _ _ never => never.elim
  case residencies =>
    intro position
    apply (residency_change transition position).holds_after _ fun rec stored =>
      (origin.residencies position rec stored).later
    · rintro rec ⟨accepted, -⟩
      exact published_now accepted rfl
    · intro old new demoted published
      cases demoted <;> exact published.like rfl

theorem origin_after (epoch : CoordinatorEpoch) (calls : List Call) :
    Origin (NicRegistry.history { epoch } calls) (NicRegistry.after { epoch } calls) := by
  refine history_invariant Origin (fun _ => True)
    (fun history s c origin _ => origin_step history s c origin) ?_ calls fun _ _ => trivial
  constructor <;> simp

/-- What a policy requires of the capabilities of a NIC. -/
structure Capable (policy : ResidencyPolicy) (capability : CapabilitySet) : Prop where
  rdma : policy.requireRdma = true → capability.rdmaCapable = true
  sriov : policy.requireSriov = true → capability.srIovCapable = true
  offload : policy.requireOffload = true → capability.offloadCapable = true
  localMemory : policy.requireLocalMemory = true → capability.localMemoryObservable = true

theorem capable_of_allowed {policy : ResidencyPolicy} {reg : RegistrySnapshot} {nic : NicRecord}
    {gpu : GpuId} {numa : NumaNodeId} (allowed : (policy.hardCheck reg nic gpu numa).1.allowed = true) :
    Capable policy nic.capability := by
  rw [hardCheck_allowed_iff] at allowed
  simp only [ResidencyPolicy.constraints, List.forall_mem_cons] at allowed
  obtain ⟨-, -, -, -, -, -, -, -, rdma, sriov, offload, localMemory, -⟩ := allowed
  have present {required has : Bool} (kept : (required && !has) = false) (asked : required = true) :
      has = true := by
    rw [asked, Bool.true_and, Bool.not_eq_false'] at kept
    exact kept
  exact ⟨present rdma, present sriov, present offload, present localMemory⟩

/-- After every run all stored evidence was published by accepted calls, apart from generations,
freshness, states, owners and epochs. A NIC that a policy without synthetic evidence selects was
published as real, with the capabilities that the policy requires. -/
theorem evidence_published (epoch : CoordinatorEpoch) (calls : List Call) :
    Origin (NicRegistry.history { epoch } calls) (NicRegistry.after { epoch } calls) ∧
    ∀ (policy : ResidencyPolicy) gpu numa endpoint workload n, policy.allowSynthetic = false →
      Selects (policy.decide (NicRegistry.after { epoch } calls).snapshot gpu numa endpoint workload) n →
      ∃ event ∈ NicRegistry.history { epoch } calls, ∃ rec, Accepts event (.registerNic rec) ∧
        rec.id = n ∧ rec.provenance.kind = .real ∧ Capable policy rec.capability := by
  have origin := origin_after epoch calls
  refine ⟨origin, fun policy gpu numa endpoint workload n strict selects => ?_⟩
  obtain ⟨nic, stored, allowed⟩ := selects_stored_allowed selects
  have closed := References.referenceClosed_after (References.referenceClosed_created epoch) calls
  have own := closed.nics n nic stored
  obtain ⟨event, member, rec, accepted, same⟩ := origin.nics n nic stored
  simp only [nicEvidence, NicRecord.mk.injEq] at same
  have capability : rec.capability = nic.capability := by tauto
  have provenance : rec.provenance = nic.provenance := by tauto
  have named : rec.id = nic.id := by tauto
  refine ⟨event, member, rec, accepted, named.trans own, ?_, ?_⟩
  · rw [provenance]
    exact real_of_allowed allowed strict
  · rw [capability]
    exact capable_of_allowed allowed

end NicResidency.EvidenceOrigin

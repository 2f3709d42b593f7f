import NicResidency.Replay
import NicResidency.Generations

/-!
What a generation says about the content of a record. A NIC, function, port or queue that
is published at the stored generation has to be the stored one, so the generation
determines the content as long as no advance wraps. A topology or a GPU is replaced at the
stored generation without a comparison.
-/

namespace NicResidency.Contents
open StateMachine VersionedSlot NicRegistry Generations

/-! What is left of a record without the fields that the registry changes on its own. -/

def nicContent (n : NicRecord) : NicRecord := { n with lifecycle := .discovered, freshness := 0 }

def functionContent (f : FunctionRecord) : FunctionRecord :=
  { f with lifecycle := .discovered, ownership := .unknown, ownerWorker := {}, ownerBoot := {}
           epoch := {} }

def queueContent (q : QueueRecord) : QueueRecord := { q with lifecycle := .discovered }

theorem nicEqual_of_content {a b : NicRecord} (same : nicContent a = nicContent b) :
    nicEqual a b = true := by
  have fields : nicEqual a b = nicEqual (nicContent a) (nicContent b) := rfl
  rw [fields, same]
  simp [nicEqual, PciAddress.equal, CapabilitySet.equal]

theorem functionEqual_of_content {a b : FunctionRecord} (same : functionContent a = functionContent b) :
    functionEqual a b = true := by
  have fields : functionEqual a b = functionEqual (functionContent a) (functionContent b) := rfl
  rw [fields, same]
  simp [functionEqual, CapabilitySet.equal]

theorem portEqual_of_content {a b : PortRecord} (same : a = b) : portEqual a b = true := by
  rw [same]
  simp [portEqual]

theorem queueEqual_of_content {a b : QueueRecord} (same : queueContent a = queueContent b) :
    queueEqual a b = true := by
  have fields : queueEqual a b = queueEqual (queueContent a) (queueContent b) := rfl
  rw [fields, same]
  simp [queueEqual]

/-- The records of the second registry have moved on in generation or kept their content. -/
structure ContentSettled (s t : NicRegistry) : Prop where
  nics : ∀ id : NicId, Settled (·.generation.value.toNat) nicContent s.nics[id]? t.nics[id]?
  functions : ∀ id : FunctionId,
    Settled (·.generation.value.toNat) functionContent s.functions[id]? t.functions[id]?
  ports : ∀ id : PortId, Settled (·.generation.value.toNat) (fun p => p) s.ports[id]? t.ports[id]?
  queues : ∀ id : QueueId,
    Settled (·.generation.value.toNat) queueContent s.queues[id]? t.queues[id]?

theorem ContentSettled.refl (s : NicRegistry) : ContentSettled s s where
  nics _ := .refl _
  functions _ := .refl _
  ports _ := .refl _
  queues _ := .refl _

theorem ContentSettled.trans {s t u : NicRegistry} (first : ContentSettled s t)
    (second : ContentSettled t u) : ContentSettled s u where
  nics id := (first.nics id).trans (second.nics id)
  functions id := (first.functions id).trans (second.functions id)
  ports id := (first.ports id).trans (second.ports id)
  queues id := (first.queues id).trans (second.queues id)

/-- Without a wrapping advance, a step changes no content at a fixed generation. -/
theorem contentSettled_transition {s t : NicRegistry} {c : Call}
    {outcome : Except ResidencyError Reply} (transition : Transition s c outcome t)
    (noWrap : NoWrap ⟨s, c, outcome, t⟩) : ContentSettled s t where
  nics id := by
    refine (nic_change transition id).settled (fun _ _ _ _ newer => .inl newer) ?_
    intro old _ stored found
    obtain rfl | ⟨advanced, rfl⟩ := found
    · exact .inr ⟨rfl, rfl⟩
    · exact .inl (toNat_lt_next (noWrap_nic noWrap advanced stored))
  functions id := by
    refine (function_change transition id).settled (fun _ _ _ _ newer => .inl newer) ?_
    intro old _ stored found
    obtain rfl | ⟨epoch, rfl⟩ | ⟨advanced, rfl⟩ := found
    · exact .inr ⟨rfl, rfl⟩
    · exact .inr ⟨rfl, rfl⟩
    · exact .inl (toNat_lt_next (noWrap_function noWrap advanced stored))
  ports id := (port_change transition id).settled (fun _ _ _ _ newer => .inl newer)
    (fun _ _ _ never => never.elim)
  queues id := by
    refine (queue_change transition id).settled (fun _ _ _ _ newer => .inl newer) ?_
    intro old _ stored found
    obtain rfl | ⟨advanced, rfl⟩ := found
    · exact .inr ⟨rfl, rfl⟩
    · exact .inl (toNat_lt_next (noWrap_queue noWrap advanced stored))

/-- Records of one id and one generation agree in everything that is compared when a
publication meets the stored record. -/
structure SameIdentity (s t : NicRegistry) : Prop where
  nics : ∀ (id : NicId) a b, s.nics[id]? = some a → t.nics[id]? = some b →
    a.generation = b.generation → nicEqual a b = true
  functions : ∀ (id : FunctionId) a b, s.functions[id]? = some a → t.functions[id]? = some b →
    a.generation = b.generation → functionEqual a b = true
  ports : ∀ (id : PortId) a b, s.ports[id]? = some a → t.ports[id]? = some b →
    a.generation = b.generation → portEqual a b = true
  queues : ∀ (id : QueueId) a b, s.queues[id]? = some a → t.queues[id]? = some b →
    a.generation = b.generation → queueEqual a b = true

/-- The content of two slots of which one comes after the other. -/
theorem content_of_settled {α β : Type} {tag : Tag} {generation : α → Generation tag} {content : α → β}
    {x y : Option α} (settled : Settled (fun r => (generation r).value.toNat) content x y ∨
      Settled (fun r => (generation r).value.toNat) content y x) {a b : α} (stored : x = some a)
    (found : y = some b) (level : generation a = generation b) : content a = content b := by
  have level : (generation a).value.toNat = (generation b).value.toNat := by rw [level]
  rcases settled with settled | settled
  · exact settled.content_eq stored found level
  · exact (settled.content_eq found stored level.symm).symm

/-- In a run without a wrapping advance, a NIC, function, port or queue has the same
content in any two snapshots that hold it at the same generation. -/
theorem same_identity_snapshots (s : NicRegistry) (calls : List Call)
    (met : ∀ event ∈ s.history calls, NoWrap event) (first second : List Call)
    (one : first <+: calls) (two : second <+: calls) :
    SameIdentity (s.after first) (s.after second) := by
  have settled := relation_snapshots ContentSettled ContentSettled.refl ContentSettled.trans NoWrap
    (fun s c noWrap => contentSettled_transition (at_transition s c) noWrap) s one two met
  exact {
    nics := fun id a b stored found level => nicEqual_of_content
      (content_of_settled (settled.imp (·.nics id) (·.nics id)) stored found level)
    functions := fun id a b stored found level => functionEqual_of_content
      (content_of_settled (settled.imp (·.functions id) (·.functions id)) stored found level)
    ports := fun id a b stored found level => portEqual_of_content
      (content_of_settled (settled.imp (·.ports id) (·.ports id)) stored found level)
    queues := fun id a b stored found level => queueEqual_of_content
      (content_of_settled (settled.imp (·.queues id) (·.queues id)) stored found level) }

/-- A NIC is published, and published once more at its generation. -/
theorem same_identity_republished :
    let auth : Authority := ⟨⟨1⟩, ⟨7⟩, ⟨1⟩⟩
    let calls : List Call := [.registerWorker ⟨7⟩ ⟨1⟩,
      .mutate auth (.registerNic { id := ⟨10⟩, generation := ⟨1⟩, linkState := .up }),
      .mutate auth (.registerNic { id := ⟨10⟩, generation := ⟨1⟩, linkState := .down })]
    SameIdentity (NicRegistry.after { epoch := ⟨1⟩ } (calls.take 2))
      (NicRegistry.after { epoch := ⟨1⟩ } calls) := by
  intro auth calls
  exact same_identity_snapshots { epoch := ⟨1⟩ } calls
    (noWrap_of_no_advance _ calls (by decide)) (calls.take 2) calls (List.take_prefix 2 calls)
    List.prefix_rfl

/-! Topologies and GPUs. -/

def SameTopology (a b : TopologySnapshot) : Prop := a.nodes = b.nodes ∧ a.edges = b.edges

def SameGpu (a b : GpuRecord) : Prop := a.pci.equal b.pci = true ∧ a.numaNode = b.numaNode

/-- Topologies of one generation, and GPU records of one id and generation, agree. -/
structure SameContent (s t : NicRegistry) : Prop where
  topology : ∀ a b, s.topology = some a → t.topology = some b → a.generation = b.generation →
    SameTopology a b
  gpus : ∀ (id : GpuId) a b, s.gpus[id]? = some a → t.gpus[id]? = some b →
    a.generation = b.generation → SameGpu a b

/-- A topology or a GPU that the event writes at the stored generation agrees with the
stored one. -/
structure AgreesAtStored (event : RegistryEvent) : Prop where
  topology : ∀ top, Accepts event (.setTopology top) → ∀ old, event.pre.topology = some old →
    old.generation = top.generation → SameTopology old top
  gpus : ∀ rec, Accepts event (.registerGpu rec) → ∀ old, event.pre.gpus[rec.id]? = some old →
    old.generation = rec.generation → SameGpu old rec

def topologyContent (top : TopologySnapshot) :
    Std.ExtTreeMap PciNodeId TopologyNode × Finset (PciNodeId × PciNodeId) := (top.nodes, top.edges)

def gpuContent (gpu : GpuRecord) : UInt32 × NumaNodeId := (gpu.pci.numeric, gpu.numaNode)

theorem topologyContent_eq_iff {a b : TopologySnapshot} :
    topologyContent a = topologyContent b ↔ SameTopology a b := Prod.mk.injEq .. |>.to_iff

theorem gpuContent_eq_iff {a b : GpuRecord} : gpuContent a = gpuContent b ↔ SameGpu a b := by
  simp [gpuContent, SameGpu, PciAddress.equal]

/-- The topology and the GPUs of the second registry have moved on in generation or kept
their content. -/
structure EvidenceSettled (s t : NicRegistry) : Prop where
  topology : Settled (·.generation.value.toNat) topologyContent s.topology t.topology
  gpus : ∀ id : GpuId, Settled (·.generation.value.toNat) gpuContent s.gpus[id]? t.gpus[id]?

theorem EvidenceSettled.refl (s : NicRegistry) : EvidenceSettled s s where
  topology := .refl _
  gpus _ := .refl _

theorem EvidenceSettled.trans {s t u : NicRegistry} (first : EvidenceSettled s t)
    (second : EvidenceSettled t u) : EvidenceSettled s u where
  topology := first.topology.trans second.topology
  gpus id := (first.gpus id).trans (second.gpus id)

section
variable {s t : NicRegistry} {c : Call} {outcome : Except ResidencyError Reply}

/-- A replacement that is not older has a greater generation or the same one. -/
theorem newer_or_level {tag : Tag} {old new : Generation tag} (notOlder : ¬new < old) :
    old.value.toNat < new.value.toNat ∨ old = new := by
  rcases lt_or_eq_of_le (not_lt.mp notOlder) with newer | level
  · exact .inl newer
  · exact .inr level

theorem evidenceSettled_transition (transition : Transition s c outcome t)
    (agrees : AgreesAtStored ⟨s, c, outcome, t⟩) : EvidenceSettled s t where
  topology := by
    refine (topology_change transition).settled ?_ (fun _ _ _ never => never.elim)
    intro old new stored wrote notOlder
    rcases newer_or_level notOlder with newer | level
    · exact .inl newer
    · exact .inr ⟨by rw [level], topologyContent_eq_iff.mpr (agrees.topology new wrote old stored level)⟩
  gpus id := by
    refine (gpu_change transition id).settled ?_ (fun _ _ _ never => never.elim)
    intro old new stored wrote notOlder
    obtain ⟨accepts, rfl⟩ := wrote
    rcases newer_or_level notOlder with newer | level
    · exact .inl newer
    · exact .inr ⟨by rw [level], gpuContent_eq_iff.mpr (agrees.gpus new accepts old stored level)⟩

theorem accepted_topology_stored (transition : Transition s c outcome t) {top : TopologySnapshot}
    (accepts : Accepts ⟨s, c, outcome, t⟩ (.setTopology top)) : t.topology = some top := by
  obtain ⟨auth, rfl, -, ok⟩ := accepts
  cases transition with
  | refused => cases ok
  | setTopology => rfl

theorem accepted_gpu_stored (transition : Transition s c outcome t) {rec : GpuRecord}
    (accepts : Accepts ⟨s, c, outcome, t⟩ (.registerGpu rec)) : t.gpus[rec.id]? = some rec := by
  obtain ⟨auth, rfl, -, ok⟩ := accepts
  cases transition with
  | refused => cases ok
  | wroteGpu => exact Std.ExtTreeMap.getElem?_insert_self

end

/-- Topologies of one generation and GPU records of one generation agree in any two
snapshots of a run, exactly when all that the run writes at a stored generation agrees
with what is stored. -/
theorem same_content_snapshots_iff (s : NicRegistry) (calls : List Call) :
    (∀ first second, first <+: calls → second <+: calls →
      SameContent (s.after first) (s.after second)) ↔
    ∀ event ∈ s.history calls, AgreesAtStored event := by
  constructor
  · intro same event member
    obtain ⟨before, c, rest, rfl, rfl⟩ := (mem_events_iff step s calls event).mp member
    have around := same before (before ++ [c]) (List.prefix_append ..)
      ⟨rest, by rw [List.append_assoc, List.singleton_append]⟩
    rw [after_concat] at around
    have transition := at_transition (s.after before) c
    exact {
      topology := fun top accepts old stored level =>
        around.topology old top stored (accepted_topology_stored transition accepts) level
      gpus := fun rec accepts old stored level =>
        around.gpus rec.id old rec stored (accepted_gpu_stored transition accepts) level }
  · intro met first second one two
    have settled := relation_snapshots EvidenceSettled EvidenceSettled.refl EvidenceSettled.trans
      AgreesAtStored (fun s c agrees => evidenceSettled_transition (at_transition s c) agrees)
      s one two met
    exact {
      topology := fun a b stored found level => topologyContent_eq_iff.mp
        (content_of_settled (settled.imp (·.topology) (·.topology)) stored found level)
      gpus := fun id a b stored found level => gpuContent_eq_iff.mp
        (content_of_settled (settled.imp (·.gpus id) (·.gpus id)) stored found level) }

/-- Two nodes without parents, as the builder returns them. -/
def twoNodes (edges : Finset (PciNodeId × PciNodeId)) : TopologySnapshot where
  generation := ⟨1⟩
  nodes := ((∅ : Std.ExtTreeMap PciNodeId TopologyNode).insert ⟨1⟩ { id := ⟨1⟩ }).insert ⟨2⟩ { id := ⟨2⟩ }
  edges
  rootComplex := ((∅ : Std.ExtTreeMap PciNodeId PciNodeId).insert ⟨1⟩ {}).insert ⟨2⟩ {}
  switch := ((∅ : Std.ExtTreeMap PciNodeId PciNodeId).insert ⟨1⟩ {}).insert ⟨2⟩ {}

/-- A topology without edges is replaced by one with an edge, and a GPU by one on another
NUMA node, each at its generation. -/
def replacedRun : List Call :=
  let auth : Authority := ⟨⟨1⟩, ⟨7⟩, ⟨1⟩⟩
  [.registerWorker ⟨7⟩ ⟨1⟩,
    .mutate auth (.setTopology (twoNodes ∅)),
    .mutate auth (.registerGpu { id := ⟨30⟩, generation := ⟨1⟩, numaNode := ⟨1⟩ }),
    .mutate auth (.setTopology (twoNodes {(⟨1⟩, ⟨2⟩)})),
    .mutate auth (.registerGpu { id := ⟨30⟩, generation := ⟨1⟩, numaNode := ⟨2⟩ })]

theorem replacedRun_differs :
    (¬∀ first second, first <+: replacedRun → second <+: replacedRun → ∀ a b,
      (NicRegistry.after { epoch := ⟨1⟩ } first).topology = some a →
      (NicRegistry.after { epoch := ⟨1⟩ } second).topology = some b →
      a.generation = b.generation → SameTopology a b) ∧
    ¬∀ first second, first <+: replacedRun → second <+: replacedRun → ∀ (id : GpuId) a b,
      (NicRegistry.after { epoch := ⟨1⟩ } first).gpus[id]? = some a →
      (NicRegistry.after { epoch := ⟨1⟩ } second).gpus[id]? = some b →
      a.generation = b.generation → SameGpu a b := by
  constructor
  · intro same
    have early : (NicRegistry.after { epoch := ⟨1⟩ } (replacedRun.take 2)).topology.map
        (fun top => (top.generation, top.edges)) = some (⟨1⟩, ∅) := by decide +kernel
    have late : (NicRegistry.after { epoch := ⟨1⟩ } replacedRun).topology.map
        (fun top => (top.generation, top.edges)) = some (⟨1⟩, {(⟨1⟩, ⟨2⟩)}) := by decide +kernel
    obtain ⟨a, stored, fields⟩ := Option.map_eq_some_iff.mp early
    obtain ⟨b, found, others⟩ := Option.map_eq_some_iff.mp late
    obtain ⟨level, none⟩ := Prod.mk.inj fields
    obtain ⟨level', one⟩ := Prod.mk.inj others
    have edges := (same _ _ (List.take_prefix 2 _) List.prefix_rfl a b stored found
      (level.trans level'.symm)).2
    rw [none, one] at edges
    exact absurd edges (by decide)
  · intro same
    have agree := same _ _ (List.take_prefix 3 replacedRun) List.prefix_rfl ⟨30⟩
      { id := ⟨30⟩, generation := ⟨1⟩, numaNode := ⟨1⟩ } { id := ⟨30⟩, generation := ⟨1⟩, numaNode := ⟨2⟩ }
      (by decide +kernel) (by decide +kernel) rfl
    cases agree.2

end NicResidency.Contents

import NicResidency.Ingestion
import NicResidency.Library.Admission

/-!
The ingestion of a first discovery: the backends publish every record at the first generation. It
succeeds exactly if the ids are set, the parents are among the records, and the records of one id
agree with one another.
-/

namespace NicResidency.FirstDiscovery
open Admission NicRegistry Contents

/-- A call that the registry accepts. -/
def Accepts (publication : α → Call) (s : NicRegistry) (a : α) (t : NicRegistry) : Prop :=
  ∃ reply, Transition s (publication a) (.ok reply) t

theorem leads_iff_run {α : Type} {publication : α → Call} {s t : NicRegistry} {entries : List α} :
    Leads s (entries.map publication) t ↔ Run (Accepts publication) s entries t := by
  induction entries generalizing s with
  | nil => exact leads_nil
  | cons entry rest ih =>
    rw [List.map_cons, leads_cons]
    constructor
    · rintro ⟨reply, u, accepted, later⟩
      exact ⟨u, ⟨reply, accepted⟩, ih.mp later⟩
    · rintro ⟨u, ⟨reply, accepted⟩, later⟩
      exact ⟨reply, u, accepted, ih.mpr later⟩

/-! Versioned records. -/

/-- The publications of a kind of versioned records: what the registry checks of them, and what it
does with a duplicate and with a new record. -/
structure Versioned {α : Type} {tag : Tag} (publication : α → Call) (key : α → Id tag)
    (table : NicRegistry → Std.ExtTreeMap (Id tag) α) (generation : α → Generation tag)
    (same : α → α → Bool) (stored : α → α) (good : NicRegistry → α → Prop) (limit : Nat)
    (skip write : α → NicRegistry → NicRegistry) : Prop where
  accepts_iff : ∀ s a t, Accepts publication s a t ↔ good s a ∧ (table s).size < limit ∧
    ((∃ old, (table s)[key a]? = some old ∧ generation a = generation old ∧ same a old = true ∧
        t = skip a s) ∨
      ((∀ old, (table s)[key a]? = some old → generation old < generation a) ∧
        ((table s)[key a]? = none → (generation a).valid = true) ∧ t = write a s))
  skipped : ∀ s a, table (skip a s) = table s
  written : ∀ s a, table (write a s) = (table s).insert (key a) (stored a)
  good_skip : ∀ s a b, good (skip a s) b ↔ good s b
  good_write : ∀ s a b, good (write a s) b ↔ good s b
  generation_stored : ∀ a, generation (stored a) = generation a
  refl : ∀ a, same a (stored a) = true

section
variable {α : Type} {tag : Tag} {publication : α → Call} {key : α → Id tag}
  {table : NicRegistry → Std.ExtTreeMap (Id tag) α} {generation : α → Generation tag}
  {same : α → α → Bool} {stored : α → α} {good : NicRegistry → α → Prop} {limit : Nat}
  {skip write : α → NicRegistry → NicRegistry} {s t start : NicRegistry} {a : α} {n : Nat}

/-- Records of the first generation only, and room for more of them. -/
structure Room (table : NicRegistry → Std.ExtTreeMap (Id tag) α) (generation : α → Generation tag)
    (good : NicRegistry → α → Prop) (limit : Nat) (start : NicRegistry) (n : Nat) (s : NicRegistry) :
    Prop where
  good : ∀ a, good s a ↔ good start a
  room : (table s).size + n ≤ limit
  first : ∀ (id : Id tag) (old : α), (table s)[id]? = some old → generation old = ⟨1⟩

theorem room_of_empty (empty : table s = ∅) (within : n ≤ limit) :
    Room table generation good limit s n s := by
  refine ⟨fun _ => Iff.rfl, ?_, fun id old held => ?_⟩
  · rw [empty, Std.ExtTreeMap.size_empty]
    omega
  · rw [empty] at held
    simp at held

variable (kind : Versioned publication key table generation same stored good limit skip write)
include kind

/-- An accepted record is stored, or one of its id was stored before. -/
theorem Versioned.accepted (first : generation a = ⟨1⟩)
    (space : Room table generation good limit start (n + 1) s) (accepted : Accepts publication s a t) :
    (∀ b, good t b ↔ good s b) ∧ (table t).size ≤ (table s).size + 1 ∧ ∀ id, (table t)[id]? =
      ((table s)[id]?).or (if key a = id then some (stored a) else none) := by
  obtain ⟨-, -, ⟨old, held, -, -, rfl⟩ | ⟨newer, -, rfl⟩⟩ := (kind.accepts_iff s a t).mp accepted
  · rw [kind.skipped]
    refine ⟨kind.good_skip s a, Nat.le_succ _, fun id => ?_⟩
    by_cases same : key a = id
    · rw [← same, held, Option.some_or]
    · rw [if_neg same, Option.or_none]
  · rw [kind.written]
    refine ⟨kind.good_write s a, Std.ExtTreeMap.size_insert_le, fun id => ?_⟩
    rw [Std.ExtTreeMap.getElem?_insert]
    by_cases same : key a = id
    · subst same
      cases held : (table s)[key a]? with
      | some old =>
        have older := newer old held
        rw [first, space.first _ old held] at older
        exact absurd older (lt_irrefl _)
      | none => simp
    · simp [same]

theorem Versioned.firstWins : FirstWins (Accepts publication) key (fun s id => (table s)[id]?)
    (good start) (fun a old => same a old = true) stored (fun a => generation a = ⟨1⟩)
    (Room table generation good limit start) where
  accepted_iff s a n first space := by
    rw [← space.good]
    constructor
    · rintro ⟨t, accepted⟩
      obtain ⟨good, -, ⟨old, held, -, agrees, -⟩ | ⟨newer, -, -⟩⟩ := (kind.accepts_iff s a t).mp accepted
      · refine ⟨good, fun old' held' => ?_⟩
        rw [held] at held'
        exact Option.some.inj held' ▸ agrees
      · refine ⟨good, fun old held => ?_⟩
        have older := newer old held
        rw [first, space.first _ old held] at older
        exact absurd older (lt_irrefl _)
    · rintro ⟨good, agrees⟩
      have room : (table s).size < limit := by
        have := space.room
        omega
      cases held : (table s)[key a]? with
      | some old =>
        have level : generation a = generation old := first.trans (space.first _ old held).symm
        exact ⟨skip a s, (kind.accepts_iff s a _).mpr
          ⟨good, room, .inl ⟨old, held, level, agrees old held, rfl⟩⟩⟩
      | none =>
        refine ⟨write a s, (kind.accepts_iff s a _).mpr
          ⟨good, room, .inr ⟨fun old there => (nomatch held.symm.trans there), fun _ => ?_, rfl⟩⟩⟩
        rw [first]
        rfl
  spends s a t n first space accepted := by
    obtain ⟨good, size, lookup⟩ := kind.accepted first space accepted
    refine ⟨fun b => (good b).trans (space.good b), ?_, fun id old held => ?_⟩
    · have room := space.room
      omega
    · rw [lookup, Option.or_eq_some_iff] at held
      rcases held with before | ⟨-, new⟩
      · exact space.first id old before
      · split at new
        · rw [← Option.some.inj new, kind.generation_stored, first]
        · cases new
  slot s a t n first space accepted := (kind.accepted first space accepted).2.2
  refl := kind.refl

/-- Records of the first generation for an empty table. -/
theorem Versioned.run_iff {list : List α} (empty : table s = ∅)
    (first : ∀ a ∈ list, generation a = ⟨1⟩) (within : list.length ≤ limit) :
    (∃ t, Run (Accepts publication) s list t) ↔ ∀ a ∈ list, good s a ∧
      ∀ old, list.find? (fun b => key b = key a) = some old → same a (stored old) = true := by
  rw [kind.firstWins.run_iff first (room_of_empty empty within)]
  simp [final, empty]

theorem Versioned.run_table {list : List α} (empty : table s = ∅)
    (first : ∀ a ∈ list, generation a = ⟨1⟩) (within : list.length ≤ limit)
    (run : Run (Accepts publication) s list t) (id : Id tag) :
    (table t)[id]? = (list.find? fun a => key a = id).map stored := by
  rw [kind.firstWins.run_slot first (room_of_empty empty within) run id]
  simp [final, empty]

/-- What neither a duplicate nor a new record changes. -/
theorem Versioned.run_keeps {τ : Type} (part : NicRegistry → τ) {list : List α}
    (skips : ∀ a s, part (skip a s) = part s) (writes : ∀ a s, part (write a s) = part s)
    (run : Run (Accepts publication) s list t) : part t = part s := by
  refine run.keeps fun s a t accepted => ?_
  obtain ⟨-, -, ⟨-, -, -, -, rfl⟩ | ⟨-, -, rfl⟩⟩ := (kind.accepts_iff s a t).mp accepted
  · exact skips a s
  · exact writes a s

end

/-! The four versioned kinds. -/

variable (auth : Authority)

theorem nics_versioned : Versioned (fun nic => .mutate auth (.registerNic nic)) NicRecord.id
    NicRegistry.nics NicRecord.generation nicEqual (fun nic => { nic with freshness := 0 })
    (fun s nic => s.Authorised auth ∧ nic.id.valid = true) kMaxNics
    (fun nic => notePublisher auth.worker nic.id)
    (fun nic s => { notePublisher auth.worker nic.id s with
      nics := s.nics.insert nic.id { nic with freshness := 0 } }) where
  accepts_iff s nic t := by
    constructor
    · rintro ⟨reply, accepted⟩
      cases accepted with
      | duplicateNic _ _ old current valid room held level agrees =>
        exact ⟨⟨current, valid⟩, room, .inl ⟨old, held, level, agrees, rfl⟩⟩
      | wroteNic _ _ current valid room newer new =>
        exact ⟨⟨current, valid⟩, room, .inr ⟨newer, new, rfl⟩⟩
    · rintro ⟨⟨current, valid⟩, room, ⟨old, held, level, agrees, rfl⟩ | ⟨newer, new, rfl⟩⟩
      · exact ⟨_, .duplicateNic auth nic old current valid room held level agrees⟩
      · exact ⟨_, .wroteNic auth nic current valid room newer new⟩
  skipped _ _ := rfl
  written _ _ := rfl
  good_skip _ _ _ := Iff.rfl
  good_write _ _ _ := Iff.rfl
  generation_stored _ := rfl
  refl _ := nicEqual_of_content rfl

theorem functions_versioned : Versioned (fun func => .mutate auth (.registerFunction func))
    FunctionRecord.id NicRegistry.functions FunctionRecord.generation functionEqual id
    (fun s func => s.Authorised auth ∧ func.id.valid = true ∧ func.parentNic.valid = true ∧
      func.parentNic ∈ s.nics) kMaxFunctions (fun _ s => s)
    (fun func s => { s with functions := s.functions.insert func.id func }) where
  accepts_iff s func t := by
    constructor
    · rintro ⟨reply, accepted⟩
      cases accepted with
      | duplicateFunction _ _ old current valid parent known room held level agrees =>
        exact ⟨⟨current, valid, parent, known⟩, room, .inl ⟨old, held, level, agrees, rfl⟩⟩
      | wroteFunction _ _ current valid parent known room newer new =>
        exact ⟨⟨current, valid, parent, known⟩, room, .inr ⟨newer, new, rfl⟩⟩
    · rintro ⟨⟨current, valid, parent, known⟩, room, ⟨old, held, level, agrees, rfl⟩ | ⟨newer, new, rfl⟩⟩
      · exact ⟨_, .duplicateFunction auth func old current valid parent known room held level agrees⟩
      · exact ⟨_, .wroteFunction auth func current valid parent known room newer new⟩
  skipped _ _ := rfl
  written _ _ := rfl
  good_skip _ _ _ := Iff.rfl
  good_write _ _ _ := Iff.rfl
  generation_stored _ := rfl
  refl _ := functionEqual_of_content rfl

theorem ports_versioned : Versioned (fun port => .mutate auth (.registerPort port)) PortRecord.id
    NicRegistry.ports PortRecord.generation portEqual id
    (fun s port => s.Authorised auth ∧ port.id.valid = true ∧ port.parentNic.valid = true ∧
      port.parentNic ∈ s.nics ∧ Optional port.parentFunction (· ∈ s.functions)) kMaxPorts (fun _ s => s)
    (fun port s => { s with ports := s.ports.insert port.id port }) where
  accepts_iff s port t := by
    constructor
    · rintro ⟨reply, accepted⟩
      cases accepted with
      | duplicatePort _ _ old current valid parent known function room held level agrees =>
        exact ⟨⟨current, valid, parent, known, function⟩, room, .inl ⟨old, held, level, agrees, rfl⟩⟩
      | wrotePort _ _ current valid parent known function room newer new =>
        exact ⟨⟨current, valid, parent, known, function⟩, room, .inr ⟨newer, new, rfl⟩⟩
    · rintro ⟨⟨current, valid, parent, known, function⟩, room, same | other⟩
      · obtain ⟨old, held, level, agrees, rfl⟩ := same
        exact ⟨_, .duplicatePort auth port old current valid parent known function room held level agrees⟩
      · obtain ⟨newer, new, rfl⟩ := other
        exact ⟨_, .wrotePort auth port current valid parent known function room newer new⟩
  skipped _ _ := rfl
  written _ _ := rfl
  good_skip _ _ _ := Iff.rfl
  good_write _ _ _ := Iff.rfl
  generation_stored _ := rfl
  refl _ := portEqual_of_content rfl

theorem queues_versioned : Versioned (fun q => .mutate auth (.registerQueue q)) QueueRecord.id
    NicRegistry.queues QueueRecord.generation queueEqual id
    (fun s q => s.Authorised auth ∧ q.id.valid = true ∧ q.parentFunction.valid = true ∧
      q.parentNic.valid = true ∧ q.parentFunction ∈ s.functions ∧ q.parentNic ∈ s.nics) kMaxQueues
    (fun _ s => s) (fun q s => { s with queues := s.queues.insert q.id q }) where
  accepts_iff s q t := by
    constructor
    · rintro ⟨reply, accepted⟩
      cases accepted with
      | duplicateQueue _ _ old current valid parentFunction parent function known room held level agrees =>
        exact ⟨⟨current, valid, parentFunction, parent, function, known⟩, room,
          .inl ⟨old, held, level, agrees, rfl⟩⟩
      | wroteQueue _ _ current valid parentFunction parent function known room newer new =>
        exact ⟨⟨current, valid, parentFunction, parent, function, known⟩, room, .inr ⟨newer, new, rfl⟩⟩
    · rintro ⟨⟨current, valid, parentFunction, parent, function, known⟩, room, same | other⟩
      · obtain ⟨old, held, level, agrees, rfl⟩ := same
        exact ⟨_, .duplicateQueue auth q old current valid parentFunction parent function known room held
          level agrees⟩
      · obtain ⟨newer, new, rfl⟩ := other
        exact ⟨_, .wroteQueue auth q current valid parentFunction parent function known room newer new⟩
  skipped _ _ := rfl
  written _ _ := rfl
  good_skip _ _ _ := Iff.rfl
  good_write _ _ _ := Iff.rfl
  generation_stored _ := rfl
  refl _ := queueEqual_of_content rfl

/-! The other publications. -/

/-- Accelerators of the first generation only, and room for more of them. -/
structure GpuRoom (n : Nat) (s : NicRegistry) : Prop where
  current : s.Authorised auth
  room : s.gpus.size + n ≤ kMaxGpus
  first : ∀ (id : GpuId) (old : GpuRecord), s.gpus[id]? = some old → old.generation = ⟨1⟩

theorem gpu_accepts_iff {gpu : GpuRecord} {n : Nat} (first : gpu.generation = ⟨1⟩)
    (space : GpuRoom auth (n + 1) s) :
    Accepts (fun gpu => .mutate auth (.registerGpu gpu)) s gpu t ↔
      gpu.id.valid = true ∧ t = { s with gpus := s.gpus.insert gpu.id gpu } := by
  constructor
  · rintro ⟨reply, accepted⟩
    cases accepted with
    | wroteGpu _ _ current valid room notOlder new => exact ⟨valid, rfl⟩
  · rintro ⟨valid, rfl⟩
    have room := space.room
    refine ⟨_, .wroteGpu auth gpu space.current valid (by omega) (fun old held => ?_) fun _ => ?_⟩
    · rw [first, space.first _ old held]
      exact lt_irrefl _
    · rw [first]
      rfl

theorem gpus_run_iff {gpus : List GpuRecord} (first : ∀ gpu ∈ gpus, gpu.generation = ⟨1⟩)
    (space : GpuRoom auth gpus.length s) :
    (∃ t, Run (Accepts fun gpu => .mutate auth (.registerGpu gpu)) s gpus t) ↔
      ∀ gpu ∈ gpus, gpu.id.valid = true := by
  refine run_iff_forall (fun s gpu t n first space accepted => ?_)
    (fun s gpu n first space => ?_) first space
  · obtain ⟨-, rfl⟩ := (gpu_accepts_iff auth first space).mp accepted
    refine ⟨space.current, ?_, fun id old held => ?_⟩
    · have room := space.room
      have size : (s.gpus.insert gpu.id gpu).size ≤ s.gpus.size + 1 := Std.ExtTreeMap.size_insert_le
      show (s.gpus.insert gpu.id gpu).size + n ≤ kMaxGpus
      omega
    · have held : (s.gpus.insert gpu.id gpu)[id]? = some old := held
      rw [Std.ExtTreeMap.getElem?_insert] at held
      split at held
      · rw [← Option.some.inj held]
        exact first
      · exact space.first id old held
  · constructor
    · rintro ⟨t, accepted⟩
      exact ((gpu_accepts_iff auth first space).mp accepted).1
    · intro valid
      exact ⟨_, (gpu_accepts_iff auth first space).mpr ⟨valid, rfl⟩⟩

theorem gpus_run_keeps {τ : Type} (part : NicRegistry → τ) {gpus : List GpuRecord}
    (writes : ∀ s (gpu : GpuRecord), part { s with gpus := s.gpus.insert gpu.id gpu } = part s)
    (run : Run (Accepts fun gpu => .mutate auth (.registerGpu gpu)) s gpus t) : part t = part s := by
  refine run.keeps fun s gpu t accepted => ?_
  obtain ⟨reply, accepted⟩ := accepted
  cases accepted with
  | wroteGpu => exact writes s gpu

theorem topology_leads_iff (topology : Option TopologySnapshot) (current : s.Authorised auth)
    (fresh : s.topology = none) :
    Leads s (topology.toList.map fun top => .mutate auth (.setTopology top)) t ↔
      t = topology.elim s fun top => invalidateTopologyDependents { s with topology := some top } := by
  cases topology with
  | none => exact leads_nil.trans eq_comm
  | some top =>
    rw [Option.toList_some, List.map_singleton, leads_cons]
    constructor
    · rintro ⟨reply, u, accepted, ended⟩
      obtain rfl := leads_nil.mp ended
      cases accepted with
      | setTopology => rfl
    · rintro rfl
      refine ⟨_, _, .setTopology auth top current fun old held => ?_, leads_nil.mpr rfl⟩
      rw [fresh] at held
      cases held

/-! The whole discovery. -/

/-- Every record is of the first generation, and there are not too many of a kind. -/
structure First (d : DiscoveryResult) : Prop where
  nics : (∀ nic ∈ d.nics, nic.generation = ⟨1⟩) ∧ d.nics.length ≤ kMaxNics
  gpus : (∀ gpu ∈ d.gpus, gpu.generation = ⟨1⟩) ∧ d.gpus.length ≤ kMaxGpus
  functions : (∀ func ∈ d.functions, func.generation = ⟨1⟩) ∧ d.functions.length ≤ kMaxFunctions
  ports : (∀ port ∈ d.ports, port.generation = ⟨1⟩) ∧ d.ports.length ≤ kMaxPorts
  queues : (∀ q ∈ d.queues, q.generation = ⟨1⟩) ∧ d.queues.length ≤ kMaxQueues

/-- The ids are set, the parents are listed, and records of one id agree with the first of them.
Accelerators of one id need not agree. -/
structure Consistent (d : DiscoveryResult) : Prop where
  nics : ∀ nic ∈ d.nics, nic.id.valid = true ∧
    ∀ old, d.nics.find? (fun other => other.id = nic.id) = some old → nicEqual nic old = true
  gpus : ∀ gpu ∈ d.gpus, gpu.id.valid = true
  functions : ∀ func ∈ d.functions, func.id.valid = true ∧ (∃ nic ∈ d.nics, nic.id = func.parentNic) ∧
    ∀ old, d.functions.find? (fun other => other.id = func.id) = some old → functionEqual func old = true
  ports : ∀ port ∈ d.ports, port.id.valid = true ∧ (∃ nic ∈ d.nics, nic.id = port.parentNic) ∧
    (port.parentFunction.valid = true → ∃ func ∈ d.functions, func.id = port.parentFunction) ∧
    ∀ old, d.ports.find? (fun other => other.id = port.id) = some old → portEqual port old = true
  queues : ∀ q ∈ d.queues, q.id.valid = true ∧ (∃ func ∈ d.functions, func.id = q.parentFunction) ∧
    (∃ nic ∈ d.nics, nic.id = q.parentNic) ∧
    ∀ old, d.queues.find? (fun other => other.id = q.id) = some old → queueEqual q old = true

/-- The registry holds the records of a discovery: of each id the first one, and for an
accelerator the last one. -/
structure Holds (d : DiscoveryResult) (s : NicRegistry) : Prop where
  current : s.Authorised auth
  nics : ∀ id, s.nics[id]? =
    (d.nics.find? fun nic => nic.id = id).map fun nic => { nic with freshness := 0 }
  gpus : ∀ id, s.gpus[id]? = d.gpus.reverse.find? fun gpu => gpu.id = id
  topology : s.topology = d.topology
  functions : ∀ id, s.functions[id]? = d.functions.find? fun func => func.id = id
  ports : ∀ id, s.ports[id]? = d.ports.find? fun port => port.id = id
  queues : ∀ id, s.queues[id]? = d.queues.find? fun q => q.id = id

theorem empty_of_lookup {κ α : Type} [Ord κ] [Std.TransOrd κ] [Std.LawfulEqOrd κ] {table : Std.ExtTreeMap κ α}
    (none : ∀ k : κ, table[k]? = none) : table = ∅ :=
  Std.ExtTreeMap.ext_getElem? fun k => (none k).trans Std.ExtTreeMap.getElem?_empty.symm

variable {d : DiscoveryResult}

theorem mem_nics_iff (holds : Holds auth d s) {id : NicId} :
    id ∈ s.nics ↔ ∃ nic ∈ d.nics, nic.id = id := by
  rw [Std.ExtTreeMap.mem_iff_isSome_getElem?, holds.nics, Option.isSome_map, List.find?_isSome]
  simp

theorem mem_functions_iff (holds : Holds auth d s) {id : FunctionId} :
    id ∈ s.functions ↔ ∃ func ∈ d.functions, func.id = id := by
  rw [Std.ExtTreeMap.mem_iff_isSome_getElem?, holds.functions, List.find?_isSome]
  simp

theorem nics_step (holds : Holds auth {} s) (first : First d) :
    ((∃ u, Run (Accepts fun nic => .mutate auth (.registerNic nic)) s d.nics u) ↔
      ∀ nic ∈ d.nics, nic.id.valid = true ∧
        ∀ old, d.nics.find? (fun other => other.id = nic.id) = some old → nicEqual nic old = true) ∧
    ∀ u, Run (Accepts fun nic => .mutate auth (.registerNic nic)) s d.nics u →
      Holds auth { nics := d.nics } u := by
  have empty : s.nics = ∅ := empty_of_lookup holds.nics
  have kind := nics_versioned auth
  refine ⟨?_, fun u run => ?_⟩
  · rw [kind.run_iff empty first.nics.1 first.nics.2]
    simp only [holds.current, true_and]
    rfl
  · have table := kind.run_table empty first.nics.1 first.nics.2 run
    have others := kind.run_keeps (fun s => { s with nics := ∅, workerNics := ∅ }) (fun _ _ => rfl)
      (fun _ _ => rfl) run
    simp only [NicRegistry.mk.injEq, true_and, and_true] at others
    obtain ⟨epoch, workers, functions, ports, queues, -, gpus, -, topology⟩ := others
    refine ⟨?_, table, ?_, ?_, ?_, ?_, ?_⟩
    · rw [Authorised, epoch, workers]
      exact holds.current
    · rw [gpus]
      exact holds.gpus
    · rw [topology]
      exact holds.topology
    · rw [functions]
      exact holds.functions
    · rw [ports]
      exact holds.ports
    · rw [queues]
      exact holds.queues

theorem gpus_run_table {gpus : List GpuRecord}
    (run : Run (Accepts fun gpu => .mutate auth (.registerGpu gpu)) s gpus t) (id : GpuId) :
    t.gpus[id]? = (gpus.reverse.find? fun gpu => gpu.id = id).or s.gpus[id]? := by
  induction gpus generalizing s with
  | nil => rw [← show s = t from run, List.reverse_nil, List.find?_nil, Option.none_or]
  | cons gpu rest ih =>
    obtain ⟨u, ⟨reply, accepted⟩, later⟩ := run
    cases accepted with
    | wroteGpu =>
      rw [ih later, List.reverse_cons, List.find?_append, Option.or_assoc]
      refine congrArg _ ?_
      show (s.gpus.insert gpu.id gpu)[id]? = _
      rw [Std.ExtTreeMap.getElem?_insert]
      by_cases same : gpu.id = id
      · simp [same]
      · simp [same]

theorem gpus_step {gpus : List GpuRecord} (holds : Holds auth d s) (none : d.gpus = [])
    (first : (∀ gpu ∈ gpus, gpu.generation = ⟨1⟩) ∧ gpus.length ≤ kMaxGpus) :
    ((∃ u, Run (Accepts fun gpu => .mutate auth (.registerGpu gpu)) s gpus u) ↔
      ∀ gpu ∈ gpus, gpu.id.valid = true) ∧
    ∀ u, Run (Accepts fun gpu => .mutate auth (.registerGpu gpu)) s gpus u →
      Holds auth { d with gpus } u := by
  have empty : s.gpus = ∅ := empty_of_lookup fun id => by
    rw [holds.gpus, none]
    rfl
  refine ⟨gpus_run_iff auth first.1 ⟨holds.current, ?_, fun id old held => ?_⟩, fun u run => ?_⟩
  · rw [empty, Std.ExtTreeMap.size_empty]
    have within := first.2
    omega
  · rw [empty] at held
    simp at held
  · have table := gpus_run_table auth run
    have others := gpus_run_keeps auth (fun s => { s with gpus := ∅ }) (fun _ _ => rfl) run
    simp only [NicRegistry.mk.injEq, true_and] at others
    obtain ⟨epoch, workers, nics, functions, ports, queues, -, -, topology, -⟩ := others
    refine ⟨?_, ?_, fun id => ?_, ?_, ?_, ?_, ?_⟩
    · rw [Authorised, epoch, workers]
      exact holds.current
    · rw [nics]
      exact holds.nics
    · rw [table id, empty, Std.ExtTreeMap.getElem?_empty, Option.or_none]
    · rw [topology]
      exact holds.topology
    · rw [functions]
      exact holds.functions
    · rw [ports]
      exact holds.ports
    · rw [queues]
      exact holds.queues

theorem topology_step (topology : Option TopologySnapshot) (holds : Holds auth d s)
    (absent : d.topology = none) :
    (∃ u, Run (Accepts fun top => .mutate auth (.setTopology top)) s topology.toList u) ∧
    ∀ u, Run (Accepts fun top => .mutate auth (.setTopology top)) s topology.toList u →
      Holds auth { d with topology } u := by
  have leads {u : NicRegistry} := leads_iff_run.symm.trans
    (topology_leads_iff (t := u) auth topology holds.current (holds.topology.trans absent))
  refine ⟨⟨_, leads.mpr rfl⟩, fun u reached => ?_⟩
  rw [leads.mp reached]
  cases topology with
  | none => exact { holds with topology := holds.topology.trans absent }
  | some top => exact { holds with topology := rfl }

theorem functions_step {functions : List FunctionRecord} (holds : Holds auth d s)
    (none : d.functions = []) (named : ∀ nic ∈ d.nics, nic.id.valid = true)
    (first : (∀ func ∈ functions, func.generation = ⟨1⟩) ∧ functions.length ≤ kMaxFunctions) :
    ((∃ u, Run (Accepts fun func => .mutate auth (.registerFunction func)) s functions u) ↔
      ∀ func ∈ functions, func.id.valid = true ∧ (∃ nic ∈ d.nics, nic.id = func.parentNic) ∧
        ∀ old, functions.find? (fun other => other.id = func.id) = some old →
          functionEqual func old = true) ∧
    ∀ u, Run (Accepts fun func => .mutate auth (.registerFunction func)) s functions u →
      Holds auth { d with functions } u := by
  have empty : s.functions = ∅ := empty_of_lookup fun id => by
    rw [holds.functions, none]
    rfl
  have kind := functions_versioned auth
  refine ⟨?_, fun u run => ?_⟩
  · rw [kind.run_iff empty first.1 first.2]
    refine forall₂_congr fun func _ => ?_
    rw [← mem_nics_iff auth holds]
    constructor
    · rintro ⟨⟨-, valid, -, known⟩, agrees⟩
      exact ⟨valid, known, agrees⟩
    · rintro ⟨valid, known, agrees⟩
      obtain ⟨nic, listed, same⟩ := (mem_nics_iff auth holds).mp known
      exact ⟨⟨holds.current, valid, same ▸ named nic listed, known⟩, agrees⟩
  · have table := kind.run_table empty first.1 first.2 run
    have others := kind.run_keeps (fun s => { s with functions := ∅ }) (fun _ _ => rfl)
      (fun _ _ => rfl) run
    simp only [NicRegistry.mk.injEq, true_and] at others
    obtain ⟨epoch, workers, nics, ports, queues, -, gpus, -, topology, -⟩ := others
    refine ⟨?_, ?_, ?_, ?_, fun id => ?_, ?_, ?_⟩
    · rw [Authorised, epoch, workers]
      exact holds.current
    · rw [nics]
      exact holds.nics
    · rw [gpus]
      exact holds.gpus
    · rw [topology]
      exact holds.topology
    · rw [table id, Option.map_id]
      rfl
    · rw [ports]
      exact holds.ports
    · rw [queues]
      exact holds.queues

theorem ports_step {ports : List PortRecord} (holds : Holds auth d s) (none : d.ports = [])
    (named : ∀ nic ∈ d.nics, nic.id.valid = true)
    (first : (∀ port ∈ ports, port.generation = ⟨1⟩) ∧ ports.length ≤ kMaxPorts) :
    ((∃ u, Run (Accepts fun port => .mutate auth (.registerPort port)) s ports u) ↔
      ∀ port ∈ ports, port.id.valid = true ∧ (∃ nic ∈ d.nics, nic.id = port.parentNic) ∧
        (port.parentFunction.valid = true → ∃ func ∈ d.functions, func.id = port.parentFunction) ∧
        ∀ old, ports.find? (fun other => other.id = port.id) = some old → portEqual port old = true) ∧
    ∀ u, Run (Accepts fun port => .mutate auth (.registerPort port)) s ports u →
      Holds auth { d with ports } u := by
  have empty : s.ports = ∅ := empty_of_lookup fun id => by
    rw [holds.ports, none]
    rfl
  have kind := ports_versioned auth
  refine ⟨?_, fun u run => ?_⟩
  · rw [kind.run_iff empty first.1 first.2]
    refine forall₂_congr fun port _ => ?_
    rw [← mem_nics_iff auth holds, ← mem_functions_iff auth holds]
    constructor
    · rintro ⟨⟨-, valid, -, known, function⟩, agrees⟩
      exact ⟨valid, known, function, agrees⟩
    · rintro ⟨valid, known, function, agrees⟩
      obtain ⟨nic, listed, same⟩ := (mem_nics_iff auth holds).mp known
      exact ⟨⟨holds.current, valid, same ▸ named nic listed, known, function⟩, agrees⟩
  · have table := kind.run_table empty first.1 first.2 run
    have others := kind.run_keeps (fun s => { s with ports := ∅ }) (fun _ _ => rfl) (fun _ _ => rfl) run
    simp only [NicRegistry.mk.injEq, true_and] at others
    obtain ⟨epoch, workers, nics, functions, queues, -, gpus, -, topology, -⟩ := others
    refine ⟨?_, ?_, ?_, ?_, ?_, fun id => ?_, ?_⟩
    · rw [Authorised, epoch, workers]
      exact holds.current
    · rw [nics]
      exact holds.nics
    · rw [gpus]
      exact holds.gpus
    · rw [topology]
      exact holds.topology
    · rw [functions]
      exact holds.functions
    · rw [table id, Option.map_id]
      rfl
    · rw [queues]
      exact holds.queues

theorem queues_step {queues : List QueueRecord} (holds : Holds auth d s) (none : d.queues = [])
    (named : ∀ nic ∈ d.nics, nic.id.valid = true) (namedToo : ∀ func ∈ d.functions, func.id.valid = true)
    (first : (∀ q ∈ queues, q.generation = ⟨1⟩) ∧ queues.length ≤ kMaxQueues) :
    ((∃ u, Run (Accepts fun q => .mutate auth (.registerQueue q)) s queues u) ↔
      ∀ q ∈ queues, q.id.valid = true ∧ (∃ func ∈ d.functions, func.id = q.parentFunction) ∧
        (∃ nic ∈ d.nics, nic.id = q.parentNic) ∧
        ∀ old, queues.find? (fun other => other.id = q.id) = some old → queueEqual q old = true) ∧
    ∀ u, Run (Accepts fun q => .mutate auth (.registerQueue q)) s queues u →
      Holds auth { d with queues } u := by
  have empty : s.queues = ∅ := empty_of_lookup fun id => by
    rw [holds.queues, none]
    rfl
  have kind := queues_versioned auth
  refine ⟨?_, fun u run => ?_⟩
  · rw [kind.run_iff empty first.1 first.2]
    refine forall₂_congr fun q _ => ?_
    rw [← mem_nics_iff auth holds, ← mem_functions_iff auth holds]
    constructor
    · rintro ⟨⟨-, valid, -, -, function, known⟩, agrees⟩
      exact ⟨valid, function, known, agrees⟩
    · rintro ⟨valid, function, known, agrees⟩
      obtain ⟨nic, listed, same⟩ := (mem_nics_iff auth holds).mp known
      obtain ⟨func, listed', same'⟩ := (mem_functions_iff auth holds).mp function
      exact ⟨⟨holds.current, valid, same' ▸ namedToo func listed', same ▸ named nic listed, function,
        known⟩, agrees⟩
  · have table := kind.run_table empty first.1 first.2 run
    have others := kind.run_keeps (fun s => { s with queues := ∅ }) (fun _ _ => rfl) (fun _ _ => rfl) run
    simp only [NicRegistry.mk.injEq, true_and] at others
    obtain ⟨epoch, workers, nics, functions, ports, -, gpus, -, topology, -⟩ := others
    refine ⟨?_, ?_, ?_, ?_, ?_, ?_, fun id => ?_⟩
    · rw [Authorised, epoch, workers]
      exact holds.current
    · rw [nics]
      exact holds.nics
    · rw [gpus]
      exact holds.gpus
    · rw [topology]
      exact holds.topology
    · rw [functions]
      exact holds.functions
    · rw [ports]
      exact holds.ports
    · rw [table id, Option.map_id]
      rfl

/-- What the ingestion of a first discovery needs, and what the registry then holds. -/
theorem ingest_first (first : First d) (fresh : Holds auth {} s) :
    ((∃ t, Throwing.perform (ingest d auth) s = (.ok (), t)) ↔ Consistent d) ∧
    ∀ t, Throwing.perform (ingest d auth) s = (.ok (), t) → Holds auth d t := by
  have nics := nics_step auth fresh first
  simp only [ingest_ok_iff, DiscoveryResult.calls, leads_append, leads_iff_run]
  constructor
  · constructor
    · rintro ⟨t, u₁, nicRun, u₂, gpuRun, u₃, reached, u₄, functionRun, u₅, portRun, queueRun⟩
      have named := nics.1.mp ⟨u₁, nicRun⟩
      have holds₁ := nics.2 u₁ nicRun
      have gpus := gpus_step auth holds₁ rfl first.gpus
      have holds₂ := gpus.2 u₂ gpuRun
      have holds₃ := (topology_step auth d.topology holds₂ rfl).2 u₃ reached
      have functions := functions_step auth holds₃ rfl (fun nic listed => (named nic listed).1)
        first.functions
      have namedToo := functions.1.mp ⟨u₄, functionRun⟩
      have holds₄ := functions.2 u₄ functionRun
      have ports := ports_step auth holds₄ rfl (fun nic listed => (named nic listed).1) first.ports
      have holds₅ := ports.2 u₅ portRun
      have queues := queues_step auth holds₅ rfl (fun nic listed => (named nic listed).1)
        (fun func listed => (namedToo func listed).1) first.queues
      exact ⟨named, gpus.1.mp ⟨u₂, gpuRun⟩, namedToo, ports.1.mp ⟨u₅, portRun⟩,
        queues.1.mp ⟨t, queueRun⟩⟩
    · intro consistent
      have named := fun nic listed => (consistent.nics nic listed).1
      obtain ⟨u₁, nicRun⟩ := nics.1.mpr consistent.nics
      have holds₁ := nics.2 u₁ nicRun
      have gpus := gpus_step auth holds₁ rfl first.gpus
      obtain ⟨u₂, gpuRun⟩ := gpus.1.mpr consistent.gpus
      have topology := topology_step auth d.topology (gpus.2 u₂ gpuRun) rfl
      obtain ⟨u₃, reached⟩ := topology.1
      have functions := functions_step auth (topology.2 u₃ reached) rfl named first.functions
      obtain ⟨u₄, functionRun⟩ := functions.1.mpr consistent.functions
      have ports := ports_step auth (functions.2 u₄ functionRun) rfl named first.ports
      obtain ⟨u₅, portRun⟩ := ports.1.mpr consistent.ports
      have queues := queues_step auth (ports.2 u₅ portRun) rfl named
        (fun func listed => (consistent.functions func listed).1) first.queues
      obtain ⟨t, queueRun⟩ := queues.1.mpr consistent.queues
      exact ⟨t, u₁, nicRun, u₂, gpuRun, u₃, reached, u₄, functionRun, u₅, portRun, queueRun⟩
  · rintro t ⟨u₁, nicRun, u₂, gpuRun, u₃, reached, u₄, functionRun, u₅, portRun, queueRun⟩
    have named := fun nic listed => (nics.1.mp ⟨u₁, nicRun⟩ nic listed).1
    have holds₂ := (gpus_step auth (nics.2 u₁ nicRun) rfl first.gpus).2 u₂ gpuRun
    have holds₃ := (topology_step auth d.topology holds₂ rfl).2 u₃ reached
    have functions := functions_step auth holds₃ rfl named first.functions
    have namedToo := functions.1.mp ⟨u₄, functionRun⟩
    have holds₅ := (ports_step auth (functions.2 u₄ functionRun) rfl named first.ports).2 u₅ portRun
    exact (queues_step auth holds₅ rfl named (fun func listed => (namedToo func listed).1)
      first.queues).2 t queueRun

/-! A fresh engine. -/

/-- The registry of an engine that has registered its own process. -/
def freshEngine (auth : Authority) : NicRegistry :=
  { epoch := auth.epoch
    workers := (∅ : Std.ExtTreeMap WorkerId WorkerHandle).insert auth.worker ⟨auth.worker, auth.boot⟩ }

theorem holds_freshEngine : Holds auth {} (freshEngine auth) := by
  refine ⟨⟨rfl, by simp [freshEngine]⟩, fun _ => ?_, fun _ => ?_, rfl, fun _ => ?_, fun _ => ?_, fun _ => ?_⟩
  all_goals exact Std.ExtTreeMap.getElem?_empty

/-- A fresh engine takes a first discovery exactly if it is consistent, and then holds its records. -/
theorem fresh_engine_ingests (first : First d) :
    ((∃ t, Throwing.perform (ingest d auth) (freshEngine auth) = (.ok (), t)) ↔ Consistent d) ∧
    ∀ t, Throwing.perform (ingest d auth) (freshEngine auth) = (.ok (), t) → Holds auth d t :=
  ingest_first auth first (holds_freshEngine auth)

/-- Two functions of a NIC, and a queue of a third one. -/
def orphaned : DiscoveryResult where
  nics := [{ id := ⟨7⟩, generation := ⟨1⟩ }]
  functions := [{ id := ⟨10⟩, generation := ⟨1⟩, parentNic := ⟨7⟩ },
    { id := ⟨11⟩, generation := ⟨1⟩, parentNic := ⟨7⟩ }]
  queues := [{ id := ⟨20⟩, generation := ⟨1⟩, parentFunction := ⟨12⟩, parentNic := ⟨7⟩ }]

theorem orphaned_refused :
    ¬∃ t, Throwing.perform (ingest orphaned ⟨⟨1⟩, ⟨1⟩, ⟨9⟩⟩) (freshEngine ⟨⟨1⟩, ⟨1⟩, ⟨9⟩⟩) = (.ok (), t) := by
  have first : First orphaned := by
    constructor <;> refine ⟨?_, by decide⟩ <;> simp [orphaned]
  rw [(fresh_engine_ingests ⟨⟨1⟩, ⟨1⟩, ⟨9⟩⟩ first).1]
  intro consistent
  obtain ⟨-, known, -⟩ := consistent.queues _ (List.mem_singleton_self _)
  exact absurd known (by decide)

end NicResidency.FirstDiscovery

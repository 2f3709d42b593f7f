import NicResidency.RegistryRuns

/-!
Acknowledged publications. A call that returns normally has stored its record, or has found
a duplicate. What counts as a duplicate is equal in the fields that are compared, so the
others of a published record can be lost.
-/

namespace NicResidency.Acknowledgement
open NicRegistry

/-- A record of one of the four kinds that are published at a generation. -/
inductive VersionedRecord where
  | nic (published : NicRecord)
  | function (published : FunctionRecord)
  | port (published : PortRecord)
  | queue (published : QueueRecord)

/-- The call that publishes it. -/
def VersionedRecord.mutation : VersionedRecord → Mutation
  | .nic published => .registerNic published
  | .function published => .registerFunction published
  | .port published => .registerPort published
  | .queue published => .registerQueue published

/-! Equality in every field but the freshness. -/

def sameNic (stored published : NicRecord) : Prop :=
  { stored with freshness := published.freshness } = published

def sameFunction (stored published : FunctionRecord) : Prop :=
  { stored with freshness := published.freshness } = published

def samePort (stored published : PortRecord) : Prop :=
  { stored with freshness := published.freshness } = published

def sameQueue (stored published : QueueRecord) : Prop :=
  { stored with freshness := published.freshness } = published

/-- The record is stored under its id as it was published. -/
def StoredAsPublished (s : NicRegistry) : VersionedRecord → Prop
  | .nic published => ∃ stored, s.nics[published.id]? = some stored ∧ sameNic stored published
  | .function published =>
    ∃ stored, s.functions[published.id]? = some stored ∧ sameFunction stored published
  | .port published => ∃ stored, s.ports[published.id]? = some stored ∧ samePort stored published
  | .queue published => ∃ stored, s.queues[published.id]? = some stored ∧ sameQueue stored published

/-- What the slot of the record holds at the same generation is the record itself. -/
def MeetsItself (s : NicRegistry) : VersionedRecord → Prop
  | .nic published => ∀ old, s.nics[published.id]? = some old →
      published.generation = old.generation → sameNic old published
  | .function published => ∀ old, s.functions[published.id]? = some old →
      published.generation = old.generation → sameFunction old published
  | .port published => ∀ old, s.ports[published.id]? = some old →
      published.generation = old.generation → samePort old published
  | .queue published => ∀ old, s.queues[published.id]? = some old →
      published.generation = old.generation → sameQueue old published

section
variable {α : Type} {tag : Tag} {slot : Option α} {new old : α} (generation : α → Generation tag)
  {same : α → Prop}

/-- A duplicate stays as it was stored. -/
theorem kept_iff (stored : slot = some old) (level : generation new = generation old) :
    (∃ kept, slot = some kept ∧ same kept) ↔
      ∀ old, slot = some old → generation new = generation old → same old := by
  constructor
  · intro found other present _
    obtain ⟨kept, held, agrees⟩ := found
    rwa [← Option.some.inj (held.symm.trans present)]
  · intro meets
    exact ⟨old, stored, meets old stored level⟩

/-- A record that is written over a smaller generation meets none of its own. -/
theorem written_iff (newer : ∀ old, slot = some old → generation old < generation new)
    {after : Option α} {written : α} (stored : after = some written) (agrees : same written) :
    (∃ kept, after = some kept ∧ same kept) ↔
      ∀ old, slot = some old → generation new = generation old → same old := by
  apply iff_of_true
  · exact ⟨written, stored, agrees⟩
  · intro old present level
    exact absurd level (newer old present).ne'

end

section
variable {s t : NicRegistry} {auth : Authority} {reply : Reply}

/-- An acknowledged publication is stored as published exactly when it met no other record
at its own generation. -/
theorem acknowledged_stored_iff (s t : NicRegistry) (auth : Authority) (record : VersionedRecord)
    (reply : Reply) (accepted : s.step (.mutate auth record.mutation) = (.ok reply, t)) :
    StoredAsPublished t record ↔ MeetsItself s record := by
  have transition := step_transition accepted
  cases record with
  | nic published =>
    cases transition with
    | duplicateNic _ _ old _ _ _ stored level =>
      exact kept_iff NicRecord.generation stored level
    | wroteNic _ _ _ _ _ newer =>
      exact written_iff NicRecord.generation newer
        Std.ExtTreeMap.getElem?_insert_self rfl
  | function published =>
    cases transition with
    | duplicateFunction _ _ old _ _ _ _ _ stored level =>
      exact kept_iff FunctionRecord.generation stored level
    | wroteFunction _ _ _ _ _ _ _ newer =>
      exact written_iff FunctionRecord.generation newer
        Std.ExtTreeMap.getElem?_insert_self rfl
  | port published =>
    cases transition with
    | duplicatePort _ _ old _ _ _ _ _ _ stored level =>
      exact kept_iff PortRecord.generation stored level
    | wrotePort _ _ _ _ _ _ _ _ newer =>
      exact written_iff PortRecord.generation newer
        Std.ExtTreeMap.getElem?_insert_self rfl
  | queue published =>
    cases transition with
    | duplicateQueue _ _ old _ _ _ _ _ _ _ stored level =>
      exact kept_iff QueueRecord.generation stored level
    | wroteQueue _ _ _ _ _ _ _ _ _ newer =>
      exact written_iff QueueRecord.generation newer
        Std.ExtTreeMap.getElem?_insert_self rfl

end

/-- A NIC is published with its link up, and at the same generation with its link down. -/
def linkDownRun : List Call :=
  let auth : Authority := ⟨⟨1⟩, ⟨7⟩, ⟨1⟩⟩
  let nic (linkState : LinkState) (health : HealthState) : NicRecord :=
    { id := ⟨10⟩, generation := ⟨1⟩, linkState, health, lifecycle := .available }
  [.registerWorker ⟨7⟩ ⟨1⟩, .mutate auth (.registerNic (nic .up .ready)),
    .mutate auth (.registerNic (nic .down .notReady))]

theorem linkDownRun_acknowledged_stored_iff :
    let record : VersionedRecord := .nic
      { id := ⟨10⟩, generation := ⟨1⟩, linkState := .down, health := .notReady, lifecycle := .available }
    StoredAsPublished (NicRegistry.after { epoch := ⟨1⟩ } linkDownRun) record ↔
      MeetsItself (NicRegistry.after { epoch := ⟨1⟩ } (linkDownRun.take 2)) record := by
  intro record
  exact acknowledged_stored_iff _ _ ⟨⟨1⟩, ⟨7⟩, ⟨1⟩⟩ record (.nic ⟨1⟩) rfl

/-- The second publication succeeds, and the NIC is still up. -/
theorem linkDownRun_dropped :
    ¬∀ (s t : NicRegistry) (auth : Authority) (record : VersionedRecord) (reply : Reply), s.Reachable →
      s.step (.mutate auth record.mutation) = (.ok reply, t) → StoredAsPublished t record := by
  intro never
  obtain ⟨stored, found, same⟩ := never (NicRegistry.after { epoch := ⟨1⟩ } (linkDownRun.take 2))
    (NicRegistry.after { epoch := ⟨1⟩ } linkDownRun) ⟨⟨1⟩, ⟨7⟩, ⟨1⟩⟩
    (.nic { id := ⟨10⟩, generation := ⟨1⟩, linkState := .down, health := .notReady
            lifecycle := .available })
    (.nic ⟨1⟩) ⟨⟨1⟩, _, linkDownRun.take 2, rfl, rfl⟩ rfl
  have link : ((NicRegistry.after { epoch := ⟨1⟩ } linkDownRun).nics[(⟨10⟩ : NicId)]?).map
      (·.linkState) = some .up := by decide +kernel
  rw [found, Option.map_some, congrArg NicRecord.linkState same, Option.some.injEq] at link
  cases link

end NicResidency.Acknowledgement

import NicResidency.FileFormat
import NicResidency.PersistenceRoundTrip

/-!
What is true of every file that loads. The reader checks the ids of NICs and GPUs,
the counts and the enumerations; it checks neither generations, nor the records
that the history refers to, nor the smallest format version.
-/

namespace NicResidency.AcceptedFiles
open ByteStream PersistenceStore FileFormat

/-- The number of sources in every provenance of a state is bounded. -/
structure SourcesBounded (st : PersistentState) : Prop where
  nics : ∀ n ∈ st.nics, n.provenance.sources.length ≤ 64
  capabilities : ∀ n ∈ st.nics, n.capability.provenance.sources.length ≤ 64
  gpus : ∀ g ∈ st.gpus, g.provenance.sources.length ≤ 64

/-- What a sound file has that the reader does not ask for. -/
structure Sound (st : PersistentState) : Prop where
  formatVersion : 1 ≤ st.formatVersion
  nicGenerations : ∀ n ∈ st.nics, n.generation.valid = true
  gpuGenerations : ∀ g ∈ st.gpus, g.generation.valid = true
  historyIds : ∀ r ∈ st.history, r.id.valid = true
  historyGenerations : ∀ r ∈ st.history, r.generation.valid = true
  historyNics : ∀ r ∈ st.history, ∃ n ∈ st.nics, n.id = r.nic
  historyGpus : ∀ r ∈ st.history, r.targetGpu.valid = true → ∃ g ∈ st.gpus, g.id = r.targetGpu

/-- The file spells a well-formed state: enumerations by bytes in range, ids and
generations set, references inside the file, and bounded counts. -/
structure WellFormed (data : Bytes) (st : PersistentState) : Prop where
  spelled : data ∈ file st
  nicIds : ∀ n ∈ st.nics, n.id.valid = true
  nicsDistinct : (st.nics.map (·.id)).Nodup
  gpuIds : ∀ g ∈ st.gpus, g.id.valid = true
  gpusDistinct : (st.gpus.map (·.id)).Nodup
  nicCount : st.nics.length ≤ kMaxNics
  gpuCount : st.gpus.length ≤ kMaxGpus
  historyCount : st.history.length ≤ kMaxHistory
  sourceCounts : SourcesBounded st
  supported : st.formatVersion ≤ kPersistenceFormatVersion
  sound : Sound st

theorem Checked.sourcesBounded {st : PersistentState} (checked : Checked st) : SourcesBounded st where
  nics n member := (checked.nics n member).1.sources
  capabilities n member := (checked.nics n member).1.capabilitySources
  gpus g member := (checked.gpus g member).1.sources

/-- A file that spells a checked state is well formed exactly when the state is
sound. -/
theorem wellFormed_iff {data : Bytes} {st : PersistentState} (spelled : data ∈ file st)
    (checked : Checked st) : WellFormed data st ↔ Sound st := by
  constructor
  · exact WellFormed.sound
  · intro sound
    exact {
      spelled
      nicIds := fun n member => (checked.nics n member).2
      nicsDistinct := checked.nicsDistinct
      gpuIds := fun g member => (checked.gpus g member).2
      gpusDistinct := checked.gpusDistinct
      nicCount := checked.nicCount
      gpuCount := checked.gpuCount
      historyCount := checked.historyCount
      sourceCounts := Checked.sourcesBounded checked
      supported := checked.formatVersion
      sound }

/-- A loaded file is well formed exactly when the state that its bytes spell is
sound, as far as it passes the checks of the reader. -/
theorem loaded_wellFormed_iff (data : Bytes) :
    (∀ st, load data = .ok st → WellFormed data st) ↔
      ∀ st, data ∈ file st → Checked st → Sound st := by
  constructor
  · intro wellFormed st spelled checked
    exact (wellFormed st (load_eq_ok_iff.mpr ⟨spelled, checked⟩)).sound
  · intro sound st loaded
    obtain ⟨spelled, checked⟩ := load_eq_ok_iff.mp loaded
    exact (wellFormed_iff spelled checked).mpr (sound st spelled checked)

/-- Format version 0, a NIC of generation 0, and a history record of id 0 that names
another NIC and an absent GPU. -/
def unsoundState : PersistentState :=
  { formatVersion := 0
    epoch := ⟨1⟩
    nics := [{ id := ⟨10⟩, lifecycle := .revalidationRequired }]
    history := [{ nic := ⟨11⟩, targetGpu := ⟨12⟩ }] }

/-- The file that the store writes for it. -/
def unsoundFile : Bytes :=
  ((save PersistenceRoundTrip.insertion unsoundState).toOption).getD []

theorem unsoundFile_loaded : ¬∀ st, load unsoundFile = .ok st → WellFormed unsoundFile st := by
  intro wellFormed
  have loaded : load unsoundFile = .ok unsoundState := load_of_toOption (by decide +kernel)
  have generation := (wellFormed unsoundState loaded).sound.nicGenerations _ (List.mem_singleton.mpr rfl)
  cases generation

end NicResidency.AcceptedFiles

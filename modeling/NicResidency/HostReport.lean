import NicResidency.HostDiscovery
import NicResidency.Inspection

/-!
The report of the inspection tool on a host: what the two backends find there, recorded by an engine
and printed.
-/

namespace NicResidency.HostReport
open HostDiscovery Inspection FirstDiscovery Throwing NicRegistry Json

/-- The tool with `--system --json`. -/
def inspectSystem (p : Platform) (host : Host) (nvml : Nvml) (boot : WorkerBootId) : Bytes :=
  runSystem boot ((discover p host {}).map Prod.fst)
    (if available nvml then some ((discoverGpus nvml {}).map Prod.fst) else none)

variable {p : Platform} {host : Host} {nvml : Nvml} {boot : WorkerBootId}

def toolAuthority (boot : WorkerBootId) : Authority := ⟨⟨1⟩, ⟨1⟩, boot⟩

theorem engine_eq (boot : WorkerBootId) : engine boot = freshEngine (toolAuthority boot) := by
  unfold engine registerWorker
  rw [perform_get_bind, perform_reject_bind, if_neg (by simp)]
  rfl

/-! The first ingestion. -/

theorem system_first {topology : Option TopologySnapshot} :
    First { nics := reported p host {}, topology } := by
  constructor
  case nics =>
    refine ⟨fun nic member => ?_, (List.length_take_le _ _).trans (by decide)⟩
    have listed : nic ∈ reported p host {} := member
    obtain ⟨d, pci, -, -, rfl⟩ := reported_nic listed
    rfl
  all_goals simp

/-- The discovery of the system backend is recorded exactly on such a host. -/
theorem system_recorded :
    ((ingestFound boot ((discover p host {}).map Prod.fst) (engine boot)).1 = .ok () ↔
      Discoverable p host {} ∧ Recordable p host {}) ∧
    ((ingestFound boot ((discover p host {}).map Prod.fst) (engine boot)).1 = .ok () →
      ∃ topology, hostTopology p host ⟨1⟩ 4096 = .ok topology ∧
        Holds (toolAuthority boot) { nics := reported p host {}, topology }
          (ingestFound boot ((discover p host {}).map Prod.fst) (engine boot)).2) := by
  rw [engine_eq]
  have fresh := holds_freshEngine (toolAuthority boot)
  obtain ⟨returns, result⟩ := @discover_iff p host {}
  cases found : discover p host {} with
  | error error =>
    have not : ¬Discoverable p host {} := fun able => by
      obtain ⟨_, returned⟩ := returns.mpr able
      exact nomatch found.symm.trans returned
    exact ⟨⟨nofun, fun able => absurd able.1 not⟩, nofun⟩
  | ok pair =>
    obtain ⟨d, notes⟩ := pair
    obtain ⟨topology, built, rfl⟩ := result d notes found
    have able := returns.mp ⟨_, found⟩
    obtain ⟨ingests, held⟩ := ingest_first (toolAuthority boot) system_first fresh
    have called : ingestFound boot ((Except.ok ({ nics := reported p host {}, topology }, notes) :
        Except ResidencyError (DiscoveryResult × List String)).map Prod.fst)
          (freshEngine (toolAuthority boot)) =
        perform (ingest { nics := reported p host {}, topology } (toolAuthority boot))
          (freshEngine (toolAuthority boot)) := rfl
    rw [called]
    generalize outcome : perform (ingest { nics := reported p host {}, topology } (toolAuthority boot))
      (freshEngine (toolAuthority boot)) = answer at *
    obtain ⟨answer, t⟩ := answer
    refine ⟨?_, ?_⟩
    · rw [and_iff_right able, ← @consistent_iff p host {} topology, ← ingests]
      constructor
      · rintro rfl
        exact ⟨t, rfl⟩
      · rintro ⟨t', same⟩
        exact (Prod.mk.inj same).1
    · rintro rfl
      exact ⟨topology, built, held t rfl⟩

/-! The second ingestion. -/

/-- An ingestion of accelerators only is the run of their publications. -/
theorem gpus_ingest_iff {auth : Authority} {gpus : List GpuRecord} {s t : NicRegistry} :
    perform (ingest { gpus } auth) s = (.ok (), t) ↔
      Admission.Run (FirstDiscovery.Accepts fun gpu => .mutate auth (.registerGpu gpu)) s gpus t := by
  rw [ingest_ok_iff, ← leads_iff_run]
  simp [DiscoveryResult.calls]

theorem reportedGpus_first : (∀ gpu ∈ reportedGpus nvml {}, gpu.generation = ⟨1⟩) ∧
    (reportedGpus nvml {}).length ≤ kMaxGpus := by
  refine ⟨fun gpu member => (reportedGpu_valid member).2, ?_⟩
  have listed : (reportedGpus nvml {}).length ≤ min (nvml.count.getD 0).toNat 64 :=
    (List.length_filterMap_le _ _).trans (List.length_range ..).le
  exact (listed.trans (Nat.min_le_right _ _)).trans (by decide)

/-- The accelerators are recorded if NVML tells how many there are. -/
theorem gpus_recorded {d : DiscoveryResult} {s : NicRegistry} (holds : Holds (toolAuthority boot) d s)
    (noGpus : d.gpus = []) (able : available nvml = true) :
    ((ingestFound boot ((discoverGpus nvml {}).map Prod.fst) s).1 = .ok () ↔ nvml.count ≠ none) ∧
    ((ingestFound boot ((discoverGpus nvml {}).map Prod.fst) s).1 = .ok () →
      Holds (toolAuthority boot) { d with gpus := reportedGpus nvml {} }
        (ingestFound boot ((discoverGpus nvml {}).map Prod.fst) s).2) := by
  obtain ⟨returns, result⟩ := @discoverGpus_iff nvml {}
  cases found : discoverGpus nvml {} with
  | error error =>
    have not : ¬nvml.count ≠ none := fun counted => by
      obtain ⟨_, returned⟩ := returns.mpr ⟨able, counted⟩
      exact nomatch found.symm.trans returned
    exact ⟨⟨nofun, fun counted => absurd counted not⟩, nofun⟩
  | ok pair =>
    obtain ⟨d', notes⟩ := pair
    obtain rfl := result d' notes found
    have counted := (returns.mp ⟨_, found⟩).2
    have epoch : s.epoch = ⟨1⟩ := holds.current.1.symm
    obtain ⟨runs, held⟩ := gpus_step (toolAuthority boot) holds noGpus reportedGpus_first
    obtain ⟨u, run⟩ := runs.mpr fun gpu member => (reportedGpu_valid member).1
    have called : ingestFound boot ((Except.ok (({ gpus := reportedGpus nvml {} } : DiscoveryResult),
        notes) : Except ResidencyError (DiscoveryResult × List String)).map Prod.fst) s = (.ok (), u) := by
      show perform (ingest { gpus := reportedGpus nvml {} } ⟨s.epoch, ⟨1⟩, boot⟩) s = (.ok (), u)
      rw [epoch]
      exact gpus_ingest_iff.mpr run
    rw [called]
    exact ⟨⟨fun _ => counted, fun _ => rfl⟩, fun _ => held u run⟩

/-! The report. -/

/-- The tool prints no JSON text unless the devices of the host can be discovered and recorded and
NVML answers. It then prints the report on a registry with the reported devices. -/
theorem inspect_system (p : Platform) (host : Host) (nvml : Nvml) (boot : WorkerBootId) :
    (WellFormed (inspectSystem p host nvml boot) →
      Discoverable p host {} ∧ Recordable p host {} ∧ available nvml = true ∧ nvml.count ≠ none) ∧
    (Discoverable p host {} ∧ Recordable p host {} ∧ available nvml = true ∧ nvml.count ≠ none →
      ∃ topology s, hostTopology p host ⟨1⟩ 4096 = .ok topology ∧
        Holds (toolAuthority boot)
          { nics := reported p host {}, gpus := reportedGpus nvml {}, topology } s ∧
        inspectSystem p host nvml boot = printSystem s.snapshot) := by
  obtain ⟨recorded, held⟩ := @system_recorded p host boot
  have wellFormed := system_run_wellFormed boot ((discover p host {}).map Prod.fst)
    (if available nvml then some ((discoverGpus nvml {}).map Prod.fst) else none)
  rw [inspectSystem, wellFormed]
  by_cases able : available nvml = true
  · rw [if_pos able]
    simp only [Option.some.injEq, exists_eq_left', able, true_and]
    constructor
    · rintro ⟨first, second, -⟩
      obtain ⟨topology, -, holds⟩ := held first
      have counted := (gpus_recorded holds rfl able).1.mp second
      exact ⟨(recorded.mp first).1, (recorded.mp first).2, counted⟩
    · rintro ⟨discoverable, recordable, counted⟩
      have first := recorded.mpr ⟨discoverable, recordable⟩
      obtain ⟨topology, built, holds⟩ := held first
      have second := (gpus_recorded holds rfl able).1.mpr counted
      refine ⟨topology, _, built, (gpus_recorded holds rfl able).2 second, ?_⟩
      simp only [runSystem, first, second, errorLine_ok, List.nil_append]
  · rw [if_neg able]
    constructor
    · rintro ⟨-, _, missing, -⟩
      cases missing
    · rintro ⟨-, -, there, -⟩
      exact absurd there able

end NicResidency.HostReport

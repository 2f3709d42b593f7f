import NicResidency.HostDiscovery

/-!
The ids of accelerators. NVML has none that outlive a process, so an accelerator is known by its PCI
address, and by its index where the address is zero. The registry keeps one record of an id.
-/

namespace NicResidency.AcceleratorIds
open FirstDiscovery HostDiscovery Throwing NicRegistry

section
variable {nvml : Nvml} {ctx : DiscoveryContext} {a b pci : NvmlPciInfo} {i j : Nat}

/-- An address that a bus has. -/
structure OnBus (pci : NvmlPciInfo) : Prop where
  bus : pci.bus < 256
  device : pci.device < 32
  function : busFunction pci < 8

def place (pci : NvmlPciInfo) : UInt32 × UInt32 × UInt32 × UInt32 :=
  (pci.domain, pci.bus, pci.device, busFunction pci)

/-- The parts of an address in one number. -/
def slot (pci : NvmlPciInfo) : Nat :=
  ((pci.domain.toNat * 256 + pci.bus.toNat) * 32 + pci.device.toNat) * 8 + (busFunction pci).toNat

theorem packedId_toNat (onBus : OnBus pci) : (packedId pci).toNat = slot pci := by
  have domain := pci.domain.toNat_lt
  have bus : pci.bus.toNat < 256 := onBus.bus
  have device : pci.device.toNat < 32 := onBus.device
  have function : (busFunction pci).toNat < 2 ^ 3 := onBus.function
  calc (packedId pci).toNat
    _ = pci.domain.toNat * 2 ^ 16 % 2 ^ 64 ||| pci.bus.toNat * 2 ^ 8 % 2 ^ 64 |||
        pci.device.toNat * 2 ^ 3 % 2 ^ 64 ||| (busFunction pci).toNat := by
      simp [packedId, Nat.shiftLeft_eq]
    _ = pci.domain.toNat * 2 ^ 16 ||| pci.bus.toNat * 2 ^ 8 ||| pci.device.toNat * 2 ^ 3 |||
        (busFunction pci).toNat := by
      rw [Nat.mod_eq_of_lt (by omega), Nat.mod_eq_of_lt (by omega), Nat.mod_eq_of_lt (by omega)]
    _ = (pci.domain.toNat * 256 + pci.bus.toNat) * 2 ^ 8 ||| pci.device.toNat * 2 ^ 3 |||
        (busFunction pci).toNat := by
      rw [PciAddress.shift_or (by omega), show pci.domain.toNat * 2 ^ 16 + pci.bus.toNat * 2 ^ 8 =
        (pci.domain.toNat * 256 + pci.bus.toNat) * 2 ^ 8 by omega]
    _ = ((pci.domain.toNat * 256 + pci.bus.toNat) * 32 + pci.device.toNat) * 2 ^ 3 |||
        (busFunction pci).toNat := by
      rw [PciAddress.shift_or (by omega), show (pci.domain.toNat * 256 + pci.bus.toNat) * 2 ^ 8 +
        pci.device.toNat * 2 ^ 3 =
          ((pci.domain.toNat * 256 + pci.bus.toNat) * 32 + pci.device.toNat) * 2 ^ 3 by omega]
    _ = slot pci := PciAddress.shift_or function

theorem slot_eq_iff (first : OnBus a) (second : OnBus b) : slot a = slot b ↔ place a = place b := by
  have bus : a.bus.toNat < 256 := first.bus
  have device : a.device.toNat < 32 := first.device
  have function : (busFunction a).toNat < 8 := first.function
  have bus' : b.bus.toNat < 256 := second.bus
  have device' : b.device.toNat < 32 := second.device
  have function' : (busFunction b).toNat < 8 := second.function
  simp only [slot, place, Prod.mk.injEq, ← UInt32.toNat_inj]
  omega

/-! The reported records. -/

/-- NVML has a device with this address at the index. -/
def Located (nvml : Nvml) (ctx : DiscoveryContext) (i : Nat) (pci : NvmlPciInfo) : Prop :=
  i < min (nvml.count.getD 0).toNat ctx.maxGpus ∧ (nvml.device i).handle = true ∧
    (nvml.device i).pci = some pci

theorem Located.below (located : Located nvml ctx i pci) : i < 2 ^ 32 :=
  (located.1.trans_le (Nat.min_le_left _ _)).trans (UInt32.toNat_lt _)

theorem mem_reportedGpus_iff {gpu : GpuRecord} : gpu ∈ reportedGpus nvml ctx ↔
    ∃ i pci, Located nvml ctx i pci ∧ gpuRecord ctx i (nvml.device i) pci = gpu := by
  simp only [reportedGpus, List.mem_filterMap, List.mem_range, gpuAt, Located]
  constructor
  · rintro ⟨i, listed, found⟩
    split at found
    · obtain ⟨pci, stored, rfl⟩ := Option.map_eq_some_iff.mp found
      exact ⟨i, pci, ⟨listed, ‹_›, stored⟩, rfl⟩
    · cases found
  · rintro ⟨i, pci, ⟨listed, handle, stored⟩, rfl⟩
    exact ⟨i, listed, by rw [if_pos handle, stored, Option.map_some]⟩

/-- The id of an accelerator: its address, or at address zero the number behind its index. -/
theorem gpuRecord_id (device : NvmlDevice) (onBus : OnBus pci) (below : i < 2 ^ 32) :
    (gpuRecord ctx i device pci).id.value.toNat = if slot pci = 0 then i + 1 else slot pci := by
  have packed := packedId_toNat onBus
  unfold gpuRecord
  dsimp only
  split
  next valid =>
    have set : slot pci ≠ 0 := by
      rw [← packed]
      exact fun zero => (Id.valid_iff _).mp valid (UInt64.toNat_inj.mp zero)
    rw [if_neg set]
    exact packed
  next unset =>
    have zero : packedId pci = 0 := not_not.mp fun set => unset ((Id.valid_iff _).mpr set)
    have empty : slot pci = 0 := by rw [← packed, zero, UInt64.toNat_zero]
    rw [if_pos empty]
    exact Nat.mod_eq_of_lt (by omega)

/-- Records of different indices differ. -/
theorem gpuRecord_index {device other : NvmlDevice} (below : i < 2 ^ 32) (below' : j < 2 ^ 32)
    (same : gpuRecord ctx i device a = gpuRecord ctx j other b) : i = j := by
  have cudaDevice : UInt64.ofNat i = UInt64.ofNat j :=
    congrArg (fun gpu => gpu.cudaDevice.value) same
  have numbers := congrArg UInt64.toNat cudaDevice
  rw [UInt64.toNat_ofNat', UInt64.toNat_ofNat'] at numbers
  omega

/-- Two records have one id: both are at one address, or the one at address zero has taken the
number of the other's address. -/
theorem gpuRecord_id_eq_iff {device other : NvmlDevice} (first : OnBus a) (second : OnBus b)
    (below : i < 2 ^ 32) (below' : j < 2 ^ 32) (different : i ≠ j) :
    (gpuRecord ctx i device a).id = (gpuRecord ctx j other b).id ↔
      place a = place b ∧ slot a ≠ 0 ∨ slot a = 0 ∧ slot b = i + 1 ∨ slot b = 0 ∧ slot a = j + 1 := by
  have ids : (gpuRecord ctx i device a).id = (gpuRecord ctx j other b).id ↔
      (gpuRecord ctx i device a).id.value.toNat = (gpuRecord ctx j other b).id.value.toNat := by
    rw [UInt64.toNat_inj]
    exact ⟨congrArg Id.value, fun same => congrArg Id.mk same⟩
  rw [ids, gpuRecord_id device first below, gpuRecord_id other second below', ← slot_eq_iff first second]
  split <;> split <;> omega

/-- The last record of an id is each one of them exactly if no two have the same id. -/
theorem last_of_each_iff {α κ : Type} [DecidableEq κ] {key : α → κ} {list : List α} :
    (∀ a ∈ list, (list.reverse.find? fun other => key other = key a) = some a) ↔
      ∀ a ∈ list, ∀ b ∈ list, key a = key b → a = b := by
  constructor
  · intro kept a first b second same
    have found := kept a first
    rw [same, kept b second] at found
    exact (Option.some.inj found).symm
  · intro distinct a member
    cases found : list.reverse.find? fun other => key other = key a with
    | none =>
      have absent := List.find?_eq_none.mp found a (List.mem_reverse.mpr member)
      simp at absent
    | some b =>
      have listed := List.mem_reverse.mp (List.mem_of_find?_eq_some found)
      rw [distinct b listed a member (by simpa using List.find?_some found)]

/-- A fresh engine takes what NVML reports, if the context asks for no more accelerators than the
registry has room for. Every accelerator then has a record of its own exactly if no two are at one
address other than zero, and the index of none at address zero is the number in front of another
one's address. -/
theorem accelerators_kept (auth : Authority)
    (hardware : ∀ i pci, Located nvml ctx i pci → OnBus pci) (few : ctx.maxGpus ≤ kMaxGpus) :
    ∃ t, perform (ingest { gpus := reportedGpus nvml ctx } auth) (freshEngine auth) = (.ok (), t) ∧
      ((∀ gpu ∈ reportedGpus nvml ctx, t.gpus[gpu.id]? = some gpu) ↔
        ∀ i j a b, Located nvml ctx i a → Located nvml ctx j b → i ≠ j →
          (place a = place b → slot a = 0) ∧ (slot a = 0 → slot b ≠ i + 1)) := by
  have first : First { gpus := reportedGpus nvml ctx } := by
    constructor
    case gpus =>
      refine ⟨fun gpu member => (reportedGpu_valid member).2, ?_⟩
      have listed : (reportedGpus nvml ctx).length ≤ min (nvml.count.getD 0).toNat ctx.maxGpus :=
        (List.length_filterMap_le _ _).trans (List.length_range ..).le
      exact (listed.trans (Nat.min_le_right _ _)).trans few
    all_goals simp
  have consistent : Consistent { gpus := reportedGpus nvml ctx } := by
    constructor
    case gpus => exact fun gpu member => (reportedGpu_valid member).1
    all_goals simp
  obtain ⟨ingests, held⟩ := ingest_first auth first (holds_freshEngine auth)
  obtain ⟨t, ingested⟩ := ingests.mpr consistent
  refine ⟨t, ingested, ?_⟩
  simp only [(held t ingested).gpus]
  rw [last_of_each_iff]
  constructor
  · intro distinct i j a b located located' different
    have apart : (gpuRecord ctx i (nvml.device i) a).id ≠ (gpuRecord ctx j (nvml.device j) b).id := by
      intro same
      exact different (gpuRecord_index located.below located'.below
        (distinct _ (mem_reportedGpus_iff.mpr ⟨i, a, located, rfl⟩)
          _ (mem_reportedGpus_iff.mpr ⟨j, b, located', rfl⟩) same))
    rw [Ne, gpuRecord_id_eq_iff (hardware i a located) (hardware j b located') located.below
      located'.below different, not_or, not_or, not_and_not_right, not_and] at apart
    exact ⟨apart.1, apart.2.1⟩
  · intro apart gpu member gpu' member' same
    obtain ⟨i, a, located, rfl⟩ := mem_reportedGpus_iff.mp member
    obtain ⟨j, b, located', rfl⟩ := mem_reportedGpus_iff.mp member'
    by_cases equal : i = j
    · subst equal
      rw [Option.some.inj (located.2.2.symm.trans located'.2.2)]
    · rw [gpuRecord_id_eq_iff (hardware i a located) (hardware j b located') located.below
        located'.below equal] at same
      obtain ⟨address, number⟩ := apart i j a b located located' equal
      rcases same with ⟨shared, set⟩ | ⟨zero, taken⟩ | ⟨zero, taken⟩
      · exact absurd (address shared) set
      · exact absurd taken (number zero)
      · exact absurd taken ((apart j i b a located' located (Ne.symm equal)).2 zero)

end

/-- A device at address zero, and the second function of it. -/
def zeroBus : Nvml where
  count := some 2
  device i :=
    { pci := some { domain := 0, bus := 0, device := 0
                    busId := if i = 0 then Json.chars "0000:00:00.0" else Json.chars "0000:00:00.1" } }

theorem zeroBus_onBus (i : Nat) (pci : NvmlPciInfo) (located : Located zeroBus {} i pci) : OnBus pci := by
  obtain ⟨below, -, stored⟩ := located
  have small : i < 2 := below
  interval_cases i <;> cases stored <;> exact ⟨by decide, by decide, by decide⟩

/-- The second one takes the place of the first one. -/
theorem zeroBus_lost :
    ∃ t, perform (ingest { gpus := reportedGpus zeroBus {} } ⟨⟨1⟩, ⟨1⟩, ⟨9⟩⟩)
        (freshEngine ⟨⟨1⟩, ⟨1⟩, ⟨9⟩⟩) = (.ok (), t) ∧
      ¬∀ gpu ∈ reportedGpus zeroBus {}, t.gpus[gpu.id]? = some gpu := by
  obtain ⟨t, ingested, kept⟩ := accelerators_kept ⟨⟨1⟩, ⟨1⟩, ⟨9⟩⟩ zeroBus_onBus (by decide)
  refine ⟨t, ingested, fun all => ?_⟩
  have first : Located zeroBus {} 0 _ := ⟨by decide, rfl, rfl⟩
  have second : Located zeroBus {} 1 _ := ⟨by decide, rfl, rfl⟩
  exact (kept.mp all 0 1 _ _ first second (by decide)).2 (by decide) (by decide)

end NicResidency.AcceleratorIds

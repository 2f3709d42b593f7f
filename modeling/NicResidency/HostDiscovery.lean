import NicResidency.FirstDiscovery
import NicResidency.Library.Json
import NicResidency.Library.Scan
import NicResidency.TopologyLimits

/-!
Discovery on a host. The system backend reads the network devices and their PCI locations from the
texts of the operating system, the accelerator backend asks NVML; what they answer is an input.
-/

namespace NicResidency

/-- The bounds and the sequence number of a discovery. -/
structure DiscoveryContext where
  topologyGeneration : TopologyGeneration := ⟨1⟩
  maxNics : Nat := 256
  maxGpus : Nat := 64
  maxTopologyNodes : Nat := 4096
  freshness : UInt64 := 1

namespace HostDiscovery
open Scan Throwing SystemBackend

/-! The system backend. -/

/-- What the C library and the system calls do with a text. -/
structure Platform extends Runtime where
  utf8 : Text → Bytes

/-- A device of an enumeration, with the characters that are stored for its properties. -/
structure DeviceInfo where
  desc : Option Text := none
  friendly : Option Text := none
  location : Option Text := none
  hwId : Option Text := none

structure Host where
  /-- The adapters with their friendly names, and whether they are up. -/
  adapters : Option (List (Option Text × Bool)) := none
  netDevices : Option (List DeviceInfo) := none
  enumerationError : Bool := false
  devices : Option (List DeviceInfo) := none

def toUtf8 (p : Platform) (w : Text) : Bytes := if w = [] then [] else p.utf8 w

/-- The last character is overwritten with a zero, and the text ends at the first one. -/
def regPropString : Option Text → Text
  | some data => data.dropLast.takeWhile (· != 0)
  | none => []

def locationFormat : List Directive := directives "PCI bus %u, device %u, function %u".toList

def hardwareFormat : List Directive := directives "PCI\\VEN_%x&DEV_%x&SUBSYS_%x&REV_%x".toList

def parseLocation (p : Platform) (raw : Text) : Option PciAddress :=
  if raw = [] then none
  else if ¬wide "PCI" <:+: raw then none
  else
    match scan p.toRuntime locationFormat raw with
    | [bus, dev, fn] =>
      some { segment := 0, bus := (bus &&& 0xFF).toUInt8, device := (dev &&& 0x1F).toUInt8
             function := (fn &&& 0x7).toUInt8 }
    | _ => none

/-- A hardware id of at least five characters, the fourth of which is a backslash. -/
def pciDevice (d : DeviceInfo) : Bool :=
  let hwId := regPropString d.hwId
  5 ≤ hwId.length && hwId[3]? == some 0x5C

def linkOf (host : Host) (friendly : Text) : LinkState :=
  match (host.adapters.getD []).find? fun adapter => adapter.1 == some friendly with
  | some adapter => if adapter.2 then .up else .down
  | none => .unknown

/-- The text that names a device: its friendly name, or else its description. -/
def nameOf (d : DeviceInfo) : Text :=
  if regPropString d.friendly = [] then regPropString d.desc else regPropString d.friendly

def nicRecord (p : Platform) (host : Host) (ctx : DiscoveryContext) (d : DeviceInfo)
    (pci : PciAddress) : NicRecord :=
  let found := scan p.toRuntime hardwareFormat (regPropString d.hwId)
  let ven := found.getD 0 0
  let dev := found.getD 1 0
  let subsys := found.getD 2 0
  let rev := found.getD 3 0
  { id := ⟨pci.numeric.toUInt64⟩
    generation := ⟨1⟩
    osName := toUtf8 p (nameOf d)
    osDescription := toUtf8 p (regPropString d.desc)
    pci
    vendorId := (ven &&& 0xFFFF).toUInt16
    deviceId := (dev &&& 0xFFFF).toUInt16
    subsystemVendorId := ((subsys >>> 16) &&& 0xFFFF).toUInt16
    subsystemId := (subsys &&& 0xFFFF).toUInt16
    revision := (rev &&& 0xFF).toUInt8
    deviceKind := .nic
    functionClass := .unknown
    capability :=
      { generation := ⟨1⟩, acceleratorAffinitySupported := false
        provenance := ⟨.real, [.netAdapterApi, .pci]⟩ }
    linkState := linkOf host (nameOf d)
    health := .ready
    lifecycle := .available
    provenance := ⟨.real, [.operatingSystem, .netAdapterApi]⟩
    freshness := ctx.freshness }

/-- The NICs and the notes so far. -/
structure Found where
  nics : List NicRecord := []
  notes : List String := []

def Found.visit (p : Platform) (host : Host) (ctx : DiscoveryContext) (out : Found) (d : DeviceInfo) :
    Found :=
  if ¬pciDevice d then out
  else
    match parseLocation p (regPropString d.location) with
    | none => { out with notes := out.notes ++ ["one NIC had no parseable PCI location; skipped"] }
    | some pci => { out with nics := out.nics ++ [nicRecord p host ctx d pci] }

def enumerate (p : Platform) (host : Host) (ctx : DiscoveryContext) : List DeviceInfo → Found → Found
  | [], out => out
  | d :: rest, out =>
    if out.nics.length ≥ ctx.maxNics then
      { out with notes := out.notes ++ ["NIC enumeration truncated at max_nics"] }
    else enumerate p host ctx rest (out.visit p host ctx d)

/-- The PCI address of a device. -/
def address (p : Platform) (d : DeviceInfo) : Option PciAddress :=
  if pciDevice d then parseLocation p (regPropString d.location) else none

/-- The limit is compared with the nodes of a builder that is still empty. -/
def addresses (p : Platform) (maxNodes : Nat) : List DeviceInfo → List PciAddress
  | [] => []
  | d :: rest =>
    match address p d with
    | none => addresses p maxNodes rest
    | some pci =>
      pci :: if ({} : TopologyBuilder).nodes.size ≥ maxNodes then [] else addresses p maxNodes rest

/-- The topology of the host. The walks take as much fuel as there are nodes. -/
def hostTopology (p : Platform) (host : Host) (generation : TopologyGeneration) (maxNodes : Nat) :
    Except ResidencyError (Option TopologySnapshot) :=
  match host.devices with
  | none => return none
  | some devices => do
    let g ← group (addresses p maxNodes devices)
    return g.b.build g.b.nodes.size generation

/-- The discovery, with its notes. -/
def discover (p : Platform) (host : Host) (ctx : DiscoveryContext) :
    Except ResidencyError (DiscoveryResult × List String) := do
  let notes := ["windows-system backend: REAL host enumeration"] ++
    if host.adapters.isSome then [] else ["GetAdaptersAddresses failed; link state UNKNOWN"]
  let netDevices ← match host.netDevices with
    | some netDevices => pure netDevices
    | none =>
      throw { code := .backendUnavailable
              message := "SetupDiGetClassDevs(net) failed to enumerate NICs" }
  let out := enumerate p host ctx netDevices { notes }
  if host.enumerationError ∧ out.nics = [] then
    throw { code := .backendError, message := "SetupAPI NIC enumeration error" }
  let topology ← hostTopology p host ctx.topologyGeneration ctx.maxTopologyNodes
  return ({ nics := out.nics, topology },
    out.notes ++ if topology.isSome then [] else ["no PCI topology available"])

/-! The accelerator backend. -/

structure NvmlPciInfo where
  domain : UInt32
  bus : UInt32
  device : UInt32
  busId : Bytes

/-- What NVML answers for an index; nothing where a call fails. A library without
`nvmlDeviceGetName`, which is called unchecked, is not modelled. -/
structure NvmlDevice where
  handle : Bool := true
  name : Bytes := []
  pci : Option NvmlPciInfo := none
  numaNode : Option UInt32 := none

structure Nvml where
  loaded : Bool := true
  initialised : Bool := true
  count : Option UInt32 := none
  device : Nat → NvmlDevice := fun _ => {}

def available (nvml : Nvml) : Bool := nvml.loaded && nvml.initialised

def asciiSpace (c : UInt16) : Bool := c = 0x20 ∨ (0x09 ≤ c ∧ c ≤ 0x0D)

/-- `strtoul` in base ten. A number that does not fit gives the largest one, with any sign. -/
def strtoul (text : Bytes) : UInt32 :=
  let runtime : Runtime :=
    { space := asciiSpace
      tooWide := fun negative _ => if negative then 1 else 0xFFFFFFFF }
  let units := text.map UInt8.toUInt16
  match number runtime 10 (units.dropWhile runtime.space) with
  | some (v, _) => v
  | none => 0

/-- The text behind the last dot, if there is one. -/
def behindDot (text : Bytes) : Option Bytes :=
  if 0x2E ∈ text then some (text.reverse.takeWhile (· != 0x2E)).reverse else none

/-- The function of a device is only in its bus id. -/
def busFunction (pci : NvmlPciInfo) : UInt32 :=
  match behindDot (pci.busId.takeWhile (· != 0)) with
  | some text => strtoul text
  | none => 0

def packedId (pci : NvmlPciInfo) : UInt64 :=
  pci.domain.toUInt64 <<< 16 ||| pci.bus.toUInt64 <<< 8 ||| pci.device.toUInt64 <<< 3 |||
    (busFunction pci).toUInt64

def gpuRecord (ctx : DiscoveryContext) (i : Nat) (device : NvmlDevice) (pci : NvmlPciInfo) :
    GpuRecord :=
  let id : GpuId := ⟨packedId pci⟩
  let name := device.name.takeWhile (· != 0)
  { id := if id.valid then id else ⟨UInt64.ofNat (i + 1)⟩
    generation := ⟨1⟩
    name := if name = [] then Json.chars ("gpu" ++ toString i) else name
    pci :=
      { segment := pci.domain.toUInt16, bus := (pci.bus &&& 0xFF).toUInt8
        device := (pci.device &&& 0x1F).toUInt8, function := (busFunction pci &&& 0x7).toUInt8 }
    cudaDevice := ⟨UInt64.ofNat i⟩
    cudaVerified := true
    numaNode :=
      match device.numaNode with
      | some node => if node < 0x00FFFFFF then ⟨node.toUInt64 + 1⟩ else {}
      | none => {}
    provenance := ⟨.real, [.nvml]⟩
    freshness := ctx.freshness }

def gpuAt (nvml : Nvml) (ctx : DiscoveryContext) (i : Nat) : Option GpuRecord :=
  if (nvml.device i).handle then (nvml.device i).pci.map (gpuRecord ctx i (nvml.device i)) else none

def discoverGpus (nvml : Nvml) (ctx : DiscoveryContext) :
    Except ResidencyError (DiscoveryResult × List String) := do
  if nvml.loaded = false then
    throw { code := .backendUnavailable
            message := "NVML is not available; accelerator affinity UNSUPPORTED" }
  if nvml.initialised = false then
    throw { code := .backendUnavailable, message := "NVML init failed" }
  let count ← match nvml.count with
    | some count => pure count
    | none => throw { code := .backendError, message := "NVML device count failed" }
  let gpus := (List.range (min count.toNat ctx.maxGpus)).filterMap (gpuAt nvml ctx)
  return ({ gpus }, ["nvidia-affinity backend: NVML present, " ++ toString count.toNat ++ " device(s)"])

/-! Locations. -/

section
variable {p : Platform} {raw : Text} {pci : PciAddress}

/-- A parsed location is an address that the hardware can report, on the first segment. -/
theorem parseLocation_wellFormed (parsed : parseLocation p raw = some pci) :
    pci.WellFormed ∧ pci.segment = 0 := by
  have low (v mask : UInt32) (small : mask.toNat < 256) :
      (v &&& mask).toUInt8.toNat = v.toNat &&& mask.toNat := by
    rw [UInt32.toNat_toUInt8, UInt32.toNat_and]
    exact Nat.mod_eq_of_lt (Nat.and_le_right.trans_lt small)
  unfold parseLocation at parsed
  split at parsed
  · cases parsed
  split at parsed
  · cases parsed
  split at parsed
  next bus dev fn _ =>
    obtain rfl := Option.some.inj parsed
    refine ⟨⟨?_, ?_⟩, rfl⟩
    · rw [UInt8.lt_iff_toNat_lt, low dev 0x1F (by decide)]
      exact Nat.lt_succ_of_le Nat.and_le_right
    · rw [UInt8.lt_iff_toNat_lt, low fn 0x7 (by decide)]
      exact Nat.lt_succ_of_le Nat.and_le_right
  next => cases parsed

/-- The location of a device, in the words of the operating system. -/
def locationText (bus dev fn : Nat) : Text := print locationFormat [bus, dev, fn]

theorem readable_location (usual : Usual p.toRuntime) : Readable p.toRuntime locationFormat := by
  have letter (c : UInt16) (low : 0x21 ≤ c) (high : c ≤ 0x7E) : p.space c = false :=
    usual.printed c low high
  refine ⟨letter _ (by decide) (by decide), ⟨trivial, rfl, rfl, ?_⟩⟩
  refine ⟨letter _ (by decide) (by decide), ⟨trivial, rfl, rfl, ?_⟩⟩
  exact ⟨letter _ (by decide) (by decide), ⟨trivial, rfl, trivial, trivial⟩⟩

/-- The location of a device is parsed back, with the bits that an address has room for. -/
theorem parseLocation_locationText (usual : Usual p.toRuntime) {bus dev fn : Nat}
    (small : bus < 2 ^ 32 ∧ dev < 2 ^ 32 ∧ fn < 2 ^ 32) :
    parseLocation p (locationText bus dev fn) =
      some { bus := UInt8.ofNat bus, device := UInt8.ofNat (dev % 32), function := UInt8.ofNat (fn % 8) } := by
  have read : scan p.toRuntime locationFormat (locationText bus dev fn) =
      [UInt32.ofNat bus, UInt32.ofNat dev, UInt32.ofNat fn] :=
    scan_print usual (readable_location usual) (by simpa using small) rfl
  have marked : wide "PCI" <:+: locationText bus dev fn := ⟨[], _, rfl⟩
  have some : locationText bus dev fn ≠ [] := List.cons_ne_nil _ _
  have masked (n bits : Nat) (narrow : bits ≤ 8) (mask : UInt32) (ones : mask.toNat = 2 ^ bits - 1)
      (fits : n < 2 ^ 32) : (UInt32.ofNat n &&& mask).toUInt8 = UInt8.ofNat (n % 2 ^ bits) := by
    have below : 2 ^ bits ≤ 2 ^ 8 := Nat.pow_le_pow_right (by omega) narrow
    have less := Nat.mod_lt n (Nat.two_pow_pos bits)
    apply UInt8.toNat_inj.mp
    rw [UInt32.toNat_toUInt8, UInt32.toNat_and, ones, Nat.and_two_pow_sub_one_eq_mod,
      UInt32.toNat_ofNat', UInt8.toNat_ofNat', Nat.mod_eq_of_lt fits]
  rw [parseLocation, if_neg some, if_neg (not_not.mpr marked), read]
  dsimp only
  rw [masked bus 8 le_rfl 0xFF rfl small.1, masked dev 5 (by omega) 0x1F rfl small.2.1,
    masked fn 3 (by omega) 0x7 rfl small.2.2]
  rw [show UInt8.ofNat (bus % 2 ^ 8) = UInt8.ofNat bus from UInt8.toNat_inj.mp (by simp)]
  rfl

/-- A platform with the blanks of ASCII. -/
def ascii : Platform where
  space := asciiSpace
  tooWide _ _ := 0xFFFFFFFF
  utf8 text := text.map UInt16.toUInt8

theorem usual_ascii : Usual ascii.toRuntime := by
  refine ⟨rfl, fun c low _ => decide_eq_false ?_⟩
  rintro (blank | ⟨-, control⟩)
  · rw [blank] at low
    exact absurd low (by decide)
  · exact absurd (UInt16.le_trans low control) (by decide)

theorem thirteenth_parsed :
    parseLocation ascii (locationText 13 0 1) = some { bus := 13, device := 0, function := 1 } :=
  parseLocation_locationText usual_ascii (by decide)

end

/-! Enumerations. -/

section
variable {p : Platform} {host : Host} {ctx : DiscoveryContext}

/-- The NIC of a device, if it is one. -/
def nicOf (p : Platform) (host : Host) (ctx : DiscoveryContext) (d : DeviceInfo) : Option NicRecord :=
  (address p d).map (nicRecord p host ctx d)

theorem visit_nics (out : Found) (d : DeviceInfo) :
    (out.visit p host ctx d).nics = out.nics ++ (nicOf p host ctx d).toList := by
  unfold Found.visit nicOf address
  by_cases pci : pciDevice d = true
  · rw [if_neg (not_not.mpr pci), if_pos pci]
    cases parseLocation p (regPropString d.location) with
    | none => exact (List.append_nil _).symm
    | some pci => rfl
  · rw [if_pos pci, if_neg pci]
    exact (List.append_nil _).symm

/-- The enumeration finds the NICs in their order, up to the limit. -/
theorem enumerate_nics {devices : List DeviceInfo} {out : Found} (within : out.nics.length ≤ ctx.maxNics) :
    (enumerate p host ctx devices out).nics =
      (out.nics ++ devices.filterMap (nicOf p host ctx)).take ctx.maxNics := by
  induction devices generalizing out with
  | nil => rw [enumerate, List.filterMap_nil, List.append_nil, List.take_of_length_le within]
  | cons d rest ih =>
    rw [enumerate]
    split
    next full =>
      rw [List.take_append_of_le_length full, List.take_of_length_le within]
    next free =>
      have visited := @visit_nics p host ctx out d
      rw [ih, visited, List.append_assoc]
      · cases found : nicOf p host ctx d with
        | none => rw [List.filterMap_cons_none found, Option.toList_none, List.nil_append]
        | some nic => rw [List.filterMap_cons_some found]; rfl
      · rw [visited, List.length_append]
        have one : (nicOf p host ctx d).toList.length ≤ 1 := Option.length_toList_le
        omega

/-- The NICs that a discovery reports. -/
def reported (p : Platform) (host : Host) (ctx : DiscoveryContext) : List NicRecord :=
  ((host.netDevices.getD []).filterMap (nicOf p host ctx)).take ctx.maxNics

/-- The limit on the nodes has no effect, unless it is zero. -/
theorem addresses_eq {maxNodes : Nat} (positive : 0 < maxNodes) (devices : List DeviceInfo) :
    addresses p maxNodes devices = devices.filterMap (address p) := by
  induction devices with
  | nil => rfl
  | cons d rest ih =>
    rw [addresses]
    cases found : address p d with
    | none => rw [List.filterMap_cons_none found, ih]
    | some pci =>
      have fewer : ¬({} : TopologyBuilder).nodes.size ≥ maxNodes := not_le.mpr positive
      rw [List.filterMap_cons_some found]
      dsimp only
      rw [if_neg fewer, ih]

theorem address_wellFormed {d : DeviceInfo} {pci : PciAddress} (located : address p d = some pci) :
    pci.WellFormed ∧ pci.segment = 0 := by
  unfold address at located
  split at located
  · exact parseLocation_wellFormed located
  · cases located

theorem hostTopology_ok_iff {generation : TopologyGeneration} {maxNodes : Nat} :
    (∃ topology, hostTopology p host generation maxNodes = .ok topology) ↔
      ∀ devices, host.devices = some devices →
        nodeCount (addresses p maxNodes devices) ≤ TopologyBuilder.kMaxNodes := by
  unfold hostTopology
  cases host.devices with
  | none => exact ⟨fun _ => nofun, fun _ => ⟨_, rfl⟩⟩
  | some devices =>
    simp only [Option.some.injEq, forall_eq']
    rw [← group_ok_iff]
    constructor
    · rintro ⟨topology, built⟩
      obtain ⟨g, grouped, -⟩ := ok_of_bind built
      exact ⟨g, grouped⟩
    · rintro ⟨g, grouped⟩
      rw [grouped]
      exact ⟨_, rfl⟩

/-- The devices are not cut off at the limit: all of them are in the topology, or it is not built. -/
theorem hostTopology_all {generation : TopologyGeneration} {maxNodes : Nat} {devices : List DeviceInfo}
    (positive : 0 < maxNodes) (enumerated : host.devices = some devices) :
    ((∃ topology, hostTopology p host generation maxNodes = .ok topology) ↔
      nodeCount (devices.filterMap (address p)) ≤ TopologyBuilder.kMaxNodes) ∧
    ∀ topology, hostTopology p host generation maxNodes = .ok topology →
      ∃ t, topology = some t ∧ t.nodes.size = nodeCount (devices.filterMap (address p)) ∧
        ∀ a ∈ devices.filterMap (address p), ∃ node, t.nodeForPci a = some node ∧ node.pci = a := by
  constructor
  · rw [hostTopology_ok_iff, enumerated]
    simp only [Option.some.injEq, forall_eq', addresses_eq positive]
  · intro topology returned
    unfold hostTopology at returned
    rw [enumerated] at returned
    simp only [addresses_eq positive] at returned
    obtain ⟨g, within, ended⟩ := ok_of_bind returned
    obtain rfl := Except.ok.inj ended
    obtain ⟨numbered, grouped⟩ := grouped_of_group within
    -- No walk runs out of fuel: the parents lead from a device to its switch and end there.
    obtain ⟨t, built⟩ := TopologyBuilder.build_isSome_iff.mpr fun id _ =>
      TopologySnapshot.walk_ends_of_acyclic (acyclic_grouped numbered grouped) id
    refine ⟨t, built, ?_, fun a member => ?_⟩
    · rw [(TopologyBuilder.recorded_of_build built).nodes, (counted_of_group within).nodes, nodeCount]
    · have wellFormed (a : PciAddress) (member : a ∈ devices.filterMap (address p)) : a.WellFormed := by
        obtain ⟨d, -, located⟩ := List.mem_filterMap.mp member
        exact (address_wellFormed located).1
      obtain ⟨node, resolved, -, same⟩ := exists_resolved grouped wellFormed built numbered member
      exact ⟨node, resolved, same⟩

/-- A card at the start of a bus. -/
def cardAt (bus : Nat) : DeviceInfo :=
  { location := some (locationText bus 0 0 ++ [0])
    hwId := some (wide "PCI\\VEN_15B3&DEV_101D" ++ [0]) }

def twoCards : Host := { devices := some [cardAt 1, cardAt 13] }

theorem twoCards_found : [cardAt 1, cardAt 13].filterMap (address ascii) = validated := by
  decide +kernel

/-- Both are in the topology, although the limit is one node. -/
theorem twoCards_all : ∃ t, hostTopology ascii twoCards ⟨1⟩ 1 = .ok (some t) ∧ t.nodes.size = 5 ∧
    ∀ a ∈ validated, ∃ node, t.nodeForPci a = some node ∧ node.pci = a := by
  obtain ⟨fits, all⟩ := @hostTopology_all ascii twoCards ⟨1⟩ 1 _ (by decide) rfl
  rw [twoCards_found] at fits all
  obtain ⟨topology, built⟩ := fits.mpr (by decide)
  obtain ⟨t, rfl, size, listed⟩ := all topology built
  exact ⟨t, built, size, listed⟩

/-- What a discovery needs of the host. -/
structure Discoverable (p : Platform) (host : Host) (ctx : DiscoveryContext) : Prop where
  enumerated : host.netDevices ≠ none
  noError : ¬(host.enumerationError = true ∧ reported p host ctx = [])
  fits : ∀ devices, host.devices = some devices →
    nodeCount (addresses p ctx.maxTopologyNodes devices) ≤ TopologyBuilder.kMaxNodes

/-- A discovery returns exactly on such a host, with the reported NICs and the topology. -/
theorem discover_iff :
    ((∃ found, discover p host ctx = .ok found) ↔ Discoverable p host ctx) ∧
    ∀ d notes, discover p host ctx = .ok (d, notes) →
      ∃ topology, hostTopology p host ctx.topologyGeneration ctx.maxTopologyNodes = .ok topology ∧
        d = { nics := reported p host ctx, topology } := by
  have nics (notes : List String) (devices : List DeviceInfo) :
      (enumerate p host ctx devices { notes }).nics =
        (devices.filterMap (nicOf p host ctx)).take ctx.maxNics :=
    enumerate_nics (Nat.zero_le _)
  unfold discover
  cases known : host.netDevices with
  | none =>
    refine ⟨⟨fun ⟨_, failed⟩ => (nomatch failed), fun able => absurd known able.enumerated⟩, ?_⟩
    intro d notes failed
    cases failed
  | some devices =>
    have listed : reported p host ctx = (devices.filterMap (nicOf p host ctx)).take ctx.maxNics := by
      rw [reported, known, Option.getD_some]
    simp only [pure_bind, nics, ← listed]
    by_cases broken : host.enumerationError = true ∧ reported p host ctx = []
    · rw [if_pos broken]
      refine ⟨⟨fun ⟨_, failed⟩ => (nomatch failed), fun able => absurd broken able.noError⟩, ?_⟩
      intro d notes failed
      cases failed
    · rw [if_neg broken]
      constructor
      · constructor
        · rintro ⟨found, returned⟩
          obtain ⟨topology, built, -⟩ := ok_of_bind returned
          exact ⟨by simp [known], broken, hostTopology_ok_iff.mp ⟨topology, built⟩⟩
        · intro able
          obtain ⟨topology, built⟩ := hostTopology_ok_iff.mpr able.fits
          rw [built]
          exact ⟨_, rfl⟩
      · intro d notes returned
        obtain ⟨topology, built, ended⟩ := ok_of_bind returned
        obtain ⟨rfl, -⟩ := Prod.mk.inj (Except.ok.inj ended)
        exact ⟨topology, built, rfl⟩

/-! The reported NICs. -/

theorem reported_nic {nic : NicRecord} (member : nic ∈ reported p host ctx) :
    ∃ d pci, pci.WellFormed ∧ pci.segment = 0 ∧ nic = nicRecord p host ctx d pci := by
  obtain ⟨d, -, found⟩ := List.mem_filterMap.mp (List.mem_of_mem_take member)
  obtain ⟨pci, located, rfl⟩ := Option.map_eq_some_iff.mp found
  obtain ⟨wellFormed, segment⟩ := address_wellFormed located
  exact ⟨d, pci, wellFormed, segment, rfl⟩

/-- The ids tell the addresses apart. -/
theorem reported_id_iff {nic other : NicRecord} (member : nic ∈ reported p host ctx)
    (member' : other ∈ reported p host ctx) : nic.id = other.id ↔ nic.pci = other.pci := by
  obtain ⟨d, pci, wellFormed, -, rfl⟩ := reported_nic member
  obtain ⟨d', pci', wellFormed', -, rfl⟩ := reported_nic member'
  constructor
  · intro same
    have packed : pci.numeric = pci'.numeric := UInt32.toUInt64_inj.mp (congrArg Id.value same)
    exact (PciAddress.equal_iff wellFormed wellFormed').mp (by rw [PciAddress.equal, packed, beq_self_eq_true])
  · intro same
    have addresses : pci = pci' := same
    rw [addresses]
    rfl

/-- Only a NIC at bus zero, device zero and function zero has no id. -/
theorem reported_valid_iff {nic : NicRecord} (member : nic ∈ reported p host ctx) :
    nic.id.valid = true ↔ nic.pci.valid = true := by
  obtain ⟨d, pci, wellFormed, segment, rfl⟩ := reported_nic member
  have zero : pci.numeric = 0 ↔ pci.valid = false := by
    rw [← UInt32.toNat_inj, PciAddress.numeric_toNat pci wellFormed.1 wellFormed.2, segment]
    simp [PciAddress.valid, ← UInt8.toNat_inj]
  show (⟨pci.numeric.toUInt64⟩ : NicId).valid = true ↔ pci.valid = true
  rw [Id.valid_iff, ← Bool.not_eq_false, ← zero]
  exact not_congr (UInt32.toUInt64_inj (b := 0))

/-- What the comparison of two publications looks at. -/
def nicKey (n : NicRecord) : NicRecord × UInt32 × List Bool :=
  ({ n with pci := {}, linkState := .unknown, health := .unknown, lifecycle := .discovered
            capability := {}, freshness := 0 }, n.pci.numeric,
    [n.capability.rdmaCapable, n.capability.srIovCapable, n.capability.offloadCapable,
      n.capability.localMemoryObservable, n.capability.acceleratorAffinitySupported])

theorem nicEqual_iff {a b : NicRecord} : nicEqual a b = true ↔ nicKey a = nicKey b := by
  simp only [nicEqual, nicKey, PciAddress.equal, CapabilitySet.equal, Bool.and_eq_true, beq_iff_eq,
    Prod.mk.injEq, NicRecord.mk.injEq, List.cons.injEq, and_true, true_and]
  tauto

/-- What the registry needs of the reported NICs. -/
structure Recordable (p : Platform) (host : Host) (ctx : DiscoveryContext) : Prop where
  observed : ∀ nic ∈ reported p host ctx, nic.pci.valid = true
  agree : ∀ nic ∈ reported p host ctx, ∀ other ∈ reported p host ctx, nic.pci = other.pci →
    nicEqual nic other = true

theorem consistent_iff {topology : Option TopologySnapshot} :
    FirstDiscovery.Consistent { nics := reported p host ctx, topology } ↔ Recordable p host ctx := by
  constructor
  · intro consistent
    refine ⟨fun nic member => (reported_valid_iff member).mp (consistent.nics nic member).1, ?_⟩
    intro nic member other member' same
    have level : nic.id = other.id := (reported_id_iff member member').mpr same
    have agrees := (consistent.nics nic member).2
    have agrees' := (consistent.nics other member').2
    rw [← level] at agrees'
    cases found : (reported p host ctx).find? fun known => known.id = nic.id with
    | none =>
      have absent := List.find?_eq_none.mp found nic member
      exact absurd (decide_eq_true rfl) absent
    | some first =>
      exact nicEqual_iff.mpr ((nicEqual_iff.mp (agrees first found)).trans
        (nicEqual_iff.mp (agrees' first found)).symm)
  · intro recordable
    constructor
    case nics =>
      intro nic member
      have listed : nic ∈ reported p host ctx := member
      refine ⟨(reported_valid_iff listed).mpr (recordable.observed nic listed), fun first found => ?_⟩
      have listed' : first ∈ reported p host ctx := List.mem_of_find?_eq_some found
      have level : first.id = nic.id := by simpa using List.find?_some found
      exact recordable.agree nic listed first listed' ((reported_id_iff listed listed').mp level.symm)
    all_goals simp

end

/-! The reported accelerators. -/

section
variable {nvml : Nvml} {ctx : DiscoveryContext}

def reportedGpus (nvml : Nvml) (ctx : DiscoveryContext) : List GpuRecord :=
  (List.range (min (nvml.count.getD 0).toNat ctx.maxGpus)).filterMap (gpuAt nvml ctx)

theorem discoverGpus_iff :
    ((∃ found, discoverGpus nvml ctx = .ok found) ↔ available nvml = true ∧ nvml.count ≠ none) ∧
    ∀ d notes, discoverGpus nvml ctx = .ok (d, notes) → d = { gpus := reportedGpus nvml ctx } := by
  unfold discoverGpus available reportedGpus
  cases nvml.loaded with
  | false => exact ⟨⟨fun ⟨_, failed⟩ => (nomatch failed), fun able => (nomatch able.1)⟩, nofun⟩
  | true =>
    cases nvml.initialised with
    | false => exact ⟨⟨fun ⟨_, failed⟩ => (nomatch failed), fun able => (nomatch able.1)⟩, nofun⟩
    | true =>
      cases nvml.count with
      | none => exact ⟨⟨fun ⟨_, failed⟩ => (nomatch failed), fun able => absurd rfl able.2⟩, nofun⟩
      | some count =>
        refine ⟨⟨fun _ => ⟨rfl, by simp⟩, fun _ => ⟨_, rfl⟩⟩, fun d notes returned => ?_⟩
        exact (Prod.mk.inj (Except.ok.inj returned)).1.symm

/-- Every accelerator has an id, also one at bus zero. -/
theorem reportedGpu_valid {gpu : GpuRecord} (member : gpu ∈ reportedGpus nvml ctx) :
    gpu.id.valid = true ∧ gpu.generation = ⟨1⟩ := by
  obtain ⟨i, listed, found⟩ := List.mem_filterMap.mp member
  have below : i < 2 ^ 32 :=
    ((List.mem_range.mp listed).trans_le (Nat.min_le_left _ _)).trans (UInt32.toNat_lt _)
  unfold gpuAt at found
  split at found
  · obtain ⟨pci, -, rfl⟩ := Option.map_eq_some_iff.mp found
    refine ⟨?_, rfl⟩
    unfold gpuRecord
    dsimp only
    split
    next valid => exact valid
    next =>
      rw [Id.valid_iff]
      intro zero
      have wrapped := congrArg UInt64.toNat zero
      rw [UInt64.toNat_ofNat', Nat.mod_eq_of_lt (by omega)] at wrapped
      exact absurd wrapped (Nat.succ_ne_zero i)
  · cases found

end

end HostDiscovery
end NicResidency

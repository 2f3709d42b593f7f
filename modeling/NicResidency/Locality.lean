import NicResidency.Vocabulary

/-!
PCI addresses and the named locality relationships. A locality statement keeps
its contributing factors beside the numeric cost.
-/

namespace NicResidency

/-- A PCI device address in its numeric parts. -/
structure PciAddress where
  segment : UInt16 := 0
  bus : UInt8 := 0
  device : UInt8 := 0
  function : UInt8 := 0
  deriving DecidableEq, Repr

namespace PciAddress

def fromBdf (segment bdf : UInt16) : PciAddress :=
  { segment
    bus := ((bdf >>> 8) &&& 0xFF).toUInt8
    device := ((bdf >>> 3) &&& 0x1F).toUInt8
    function := (bdf &&& 0x7).toUInt8 }

/-- Whether the address was observed. The segment does not count. -/
def valid (p : PciAddress) : Bool := p.bus != 0 || p.device != 0 || p.function != 0

/-- The packed number. The device and function parts overlap the bus when they
exceed five and three bits. -/
def numeric (p : PciAddress) : UInt32 :=
  (p.segment.toUInt32 <<< 16) ||| (p.bus.toUInt32 <<< 8) |||
    (p.device.toUInt32 <<< 3) ||| p.function.toUInt32

/-- The source's `operator==` compares packed numbers. -/
def equal (a b : PciAddress) : Bool := a.numeric == b.numeric

/-- The source's `operator<`. -/
def less (a b : PciAddress) : Bool := a.numeric < b.numeric

/-- An address that the hardware can report. -/
def WellFormed (p : PciAddress) : Prop := p.device < 32 ∧ p.function < 8

instance : DecidablePred WellFormed := fun _ => inferInstanceAs (Decidable (_ ∧ _))

/-- Numbers below a power of two fill the bits that a shift leaves free. -/
theorem shift_or {a b i : Nat} (small : b < 2 ^ i) : a * 2 ^ i ||| b = a * 2 ^ i + b := by
  rw [← Nat.shiftLeft_eq, Nat.shiftLeft_add_eq_or_of_lt small]

/-- The parts in the packed number, whatever their sizes are. -/
theorem numeric_toNat_or (p : PciAddress) : p.numeric.toNat =
    p.segment.toNat * 2 ^ 16 ||| p.bus.toNat * 2 ^ 8 ||| p.device.toNat * 2 ^ 3 |||
      p.function.toNat := by
  have seg := p.segment.toNat_lt
  have bus := p.bus.toNat_lt
  have dev := p.device.toNat_lt
  calc p.numeric.toNat
    _ = p.segment.toNat * 2 ^ 16 % 2 ^ 32 ||| p.bus.toNat * 2 ^ 8 % 2 ^ 32 |||
        p.device.toNat * 2 ^ 3 % 2 ^ 32 ||| p.function.toNat := by
      simp [numeric, Nat.shiftLeft_eq]
    _ = _ := by
      rw [Nat.mod_eq_of_lt (by omega), Nat.mod_eq_of_lt (by omega), Nat.mod_eq_of_lt (by omega)]

theorem numeric_toNat (p : PciAddress) (device : p.device < 32) (function : p.function < 8) :
    p.numeric.toNat =
      ((p.segment.toNat * 256 + p.bus.toNat) * 32 + p.device.toNat) * 8 + p.function.toNat := by
  have dev : p.device.toNat < 32 := device
  have fn : p.function.toNat < 2 ^ 3 := function
  have bus := p.bus.toNat_lt
  calc p.numeric.toNat
    _ = p.segment.toNat * 2 ^ 16 ||| p.bus.toNat * 2 ^ 8 ||| p.device.toNat * 2 ^ 3 |||
        p.function.toNat := numeric_toNat_or p
    _ = (p.segment.toNat * 256 + p.bus.toNat) * 2 ^ 8 ||| p.device.toNat * 2 ^ 3 ||| p.function.toNat := by
      rw [shift_or (by omega), show p.segment.toNat * 2 ^ 16 + p.bus.toNat * 2 ^ 8 =
        (p.segment.toNat * 256 + p.bus.toNat) * 2 ^ 8 by omega]
    _ = ((p.segment.toNat * 256 + p.bus.toNat) * 32 + p.device.toNat) * 2 ^ 3 ||| p.function.toNat := by
      rw [shift_or (by omega), show (p.segment.toNat * 256 + p.bus.toNat) * 2 ^ 8 +
        p.device.toNat * 2 ^ 3 = ((p.segment.toNat * 256 + p.bus.toNat) * 32 + p.device.toNat) * 2 ^ 3
          by omega]
    _ = _ := shift_or fn

/-- Such addresses are told apart by their packed numbers. -/
theorem equal_iff {a b : PciAddress} (first : WellFormed a) (second : WellFormed b) :
    a.equal b = true ↔ a = b := by
  rw [equal, beq_iff_eq]
  constructor
  · intro same
    have packed := congrArg UInt32.toNat same
    rw [numeric_toNat a first.1 first.2, numeric_toNat b second.1 second.2] at packed
    have device : a.device.toNat < 32 := first.1
    have function : a.function.toNat < 8 := first.2
    have device' : b.device.toNat < 32 := second.1
    have function' : b.function.toNat < 8 := second.2
    have bus := a.bus.toNat_lt
    have bus' := b.bus.toNat_lt
    cases a
    cases b
    simp only [PciAddress.mk.injEq, ← UInt16.toNat_inj, ← UInt8.toNat_inj] at *
    omega
  · rintro rfl
    rfl

section
variable (segment bdf : UInt16)

theorem bus_fromBdf : (fromBdf segment bdf).bus.toNat = bdf.toNat / 2 ^ 8 % 2 ^ 8 := by
  have mask : bdf.toNat >>> 8 &&& 255 = bdf.toNat >>> 8 % 2 ^ 8 := Nat.and_two_pow_sub_one_eq_mod _ 8
  change (bdf.toNat >>> 8 &&& 255) % 2 ^ 8 = _
  rw [mask, Nat.shiftRight_eq_div_pow, Nat.mod_mod]

theorem device_fromBdf : (fromBdf segment bdf).device.toNat = bdf.toNat / 2 ^ 3 % 2 ^ 5 := by
  have mask : bdf.toNat >>> 3 &&& 31 = bdf.toNat >>> 3 % 2 ^ 5 := Nat.and_two_pow_sub_one_eq_mod _ 5
  change (bdf.toNat >>> 3 &&& 31) % 2 ^ 8 = _
  rw [mask, Nat.shiftRight_eq_div_pow]
  omega

theorem function_fromBdf : (fromBdf segment bdf).function.toNat = bdf.toNat % 2 ^ 3 := by
  have mask : bdf.toNat &&& 7 = bdf.toNat % 2 ^ 3 := Nat.and_two_pow_sub_one_eq_mod _ 3
  change (bdf.toNat &&& 7) % 2 ^ 8 = _
  rw [mask]
  omega

theorem wellFormed_fromBdf : (fromBdf segment bdf).WellFormed := by
  have device := device_fromBdf segment bdf
  have function := function_fromBdf segment bdf
  constructor
  · change (fromBdf segment bdf).device.toNat < 32
    omega
  · change (fromBdf segment bdf).function.toNat < 8
    omega

end

/-- Every 32-bit number is the packed number of the address that it unpacks to. -/
theorem numeric_fromBdf (packed : UInt32) :
    (fromBdf (packed >>> 16).toUInt16 (packed &&& 0xFFFF).toUInt16).numeric = packed := by
  have bound := packed.toNat_lt
  have high : (packed >>> 16).toUInt16.toNat = packed.toNat / 2 ^ 16 := by
    change packed.toNat >>> 16 % 2 ^ 16 = _
    rw [Nat.shiftRight_eq_div_pow]
    omega
  have low : (packed &&& 0xFFFF).toUInt16.toNat = packed.toNat % 2 ^ 16 := by
    have mask : packed.toNat &&& 65535 = packed.toNat % 2 ^ 16 := Nat.and_two_pow_sub_one_eq_mod _ 16
    change (packed.toNat &&& 65535) % 2 ^ 16 = _
    rw [mask, Nat.mod_mod]
  obtain ⟨device, function⟩ := wellFormed_fromBdf (packed >>> 16).toUInt16 (packed &&& 0xFFFF).toUInt16
  apply UInt32.toNat_inj.mp
  rw [numeric_toNat _ device function, bus_fromBdf, device_fromBdf, function_fromBdf, low]
  change (((packed >>> 16).toUInt16.toNat * 256 + _) * 32 + _) * 8 + _ = _
  rw [high]
  omega

/-- An address that the hardware can report comes back from its packed number. -/
theorem fromBdf_numeric {p : PciAddress} (wellFormed : p.WellFormed) :
    fromBdf (p.numeric >>> 16).toUInt16 (p.numeric &&& 0xFFFF).toUInt16 = p := by
  apply (equal_iff (wellFormed_fromBdf _ _) wellFormed).mp
  rw [equal, beq_iff_eq, numeric_fromBdf]

/-- A proximity proxy by segment and bus. -/
def distanceTo (p other : PciAddress) : Int :=
  let dbus : Int := p.bus.toNat - other.bus.toNat
  let dseg : Int := p.segment.toNat - other.segment.toNat
  dseg * 1000 + dbus

def str (p : PciAddress) : String :=
  let seg := p.segment.toUInt64
  let bus := p.bus.toUInt64
  let dev := p.device.toUInt64
  let fn := p.function.toUInt64
  String.ofList
    [hexDigit ((seg >>> 12) &&& 0xF), hexDigit ((seg >>> 8) &&& 0xF),
      hexDigit ((seg >>> 4) &&& 0xF), hexDigit (seg &&& 0xF), ':',
      hexDigit ((bus >>> 4) &&& 0xF), hexDigit (bus &&& 0xF), ':',
      hexDigit ((dev >>> 4) &&& 0xF), hexDigit (dev &&& 0xF), '.', hexDigit (fn &&& 0xF)]

end PciAddress

inductive LocalityRelationship where
  | sameDevice | samePcieSwitch | sameRootComplex | sameNumaNode | remoteNuma | hostLocal
  | acceleratorLocal | unknown | unsupported
  deriving DecidableEq, Repr

def LocalityRelationship.toString : LocalityRelationship → String
  | .sameDevice => "SAME_DEVICE"
  | .samePcieSwitch => "SAME_PCIE_SWITCH"
  | .sameRootComplex => "SAME_ROOT_COMPLEX"
  | .sameNumaNode => "SAME_NUMA_NODE"
  | .remoteNuma => "REMOTE_NUMA"
  | .hostLocal => "HOST_LOCAL"
  | .acceleratorLocal => "ACCELERATOR_LOCAL"
  | .unknown => "UNKNOWN"
  | .unsupported => "UNSUPPORTED"

/-- The named contributing factors and their aggregate cost. -/
structure LocalityFactors where
  rootComplexSame : Bool := false
  pcieSwitchSame : Bool := false
  numaSame : Bool := false
  acceleratorAffine : Bool := false
  cpuLocal : Bool := false
  localMemory : Bool := false
  hostLocal : Bool := false
  acceleratorLocal : Bool := false
  directPciNeighbor : Bool := false
  cost : Int := 0
  deriving DecidableEq, Repr

/-- One locality statement about a device relative to a target domain. -/
structure Locality where
  relationship : LocalityRelationship := .unknown
  numaNode : Id .numaNode := {}
  pci : PciAddress := {}
  provenance : Provenance := {}
  factors : LocalityFactors := {}
  deriving DecidableEq, Repr

def Locality.str (l : Locality) : String :=
  "REL=" ++ l.relationship.toString ++ " NUMA=" ++
    (if l.numaNode.valid then toString l.numaNode.value else "none") ++
    " PCI=" ++ l.pci.str ++ " PROV=" ++ l.provenance.str

end NicResidency

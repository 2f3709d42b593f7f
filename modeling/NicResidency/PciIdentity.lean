import NicResidency.RegistrySteps
import NicResidency.TopologyBuilder

/-!
PCI addresses as device identities. They are compared by packed numbers, in which a
device number above 31 reaches into the bus and a function number above 7 into the
device.
-/

namespace NicResidency.PciIdentity
open PciAddress TopologyBuilder Throwing

/-! What the packed number keeps of an address. -/

/-- The address with the bits that overflow a part merged into the part above. -/
def merged (p : PciAddress) : PciAddress :=
  { segment := p.segment
    bus := p.bus ||| (p.device >>> 5)
    device := (p.device &&& (0x1F : UInt8)) ||| (p.function >>> 3)
    function := p.function &&& 0x7 }

theorem or_mul_pow (a b i : Nat) : (a ||| b) * 2 ^ i = a * 2 ^ i ||| b * 2 ^ i := by
  rw [← Nat.shiftLeft_eq, ← Nat.shiftLeft_eq, ← Nat.shiftLeft_eq, Nat.shiftLeft_or_distrib]

/-- The upper and the lower bits of a number, each at its place. -/
theorem split_or (value i j : Nat) :
    value / 2 ^ i * 2 ^ (i + j) ||| value % 2 ^ i * 2 ^ j = value * 2 ^ j := by
  calc value / 2 ^ i * 2 ^ (i + j) ||| value % 2 ^ i * 2 ^ j
    _ = (value / 2 ^ i * 2 ^ i) * 2 ^ j ||| value % 2 ^ i * 2 ^ j := by rw [Nat.pow_add, Nat.mul_assoc]
    _ = (value / 2 ^ i * 2 ^ i ||| value % 2 ^ i) * 2 ^ j := (or_mul_pow _ _ j).symm
    _ = value * 2 ^ j := by
      rw [shift_or (Nat.mod_lt _ (Nat.two_pow_pos i)), Nat.div_add_mod']

section
variable (p : PciAddress)

theorem bus_merged : (merged p).bus.toNat = p.bus.toNat ||| p.device.toNat / 2 ^ 5 := by
  change p.bus.toNat ||| (p.device.toNat >>> 5) = _
  rw [Nat.shiftRight_eq_div_pow]

theorem device_merged :
    (merged p).device.toNat = p.device.toNat % 2 ^ 5 ||| p.function.toNat / 2 ^ 3 := by
  have mask : p.device.toNat &&& 31 = p.device.toNat % 2 ^ 5 := Nat.and_two_pow_sub_one_eq_mod _ 5
  change (p.device.toNat &&& 31) ||| (p.function.toNat >>> 3) = _
  rw [mask, Nat.shiftRight_eq_div_pow]

theorem function_merged : (merged p).function.toNat = p.function.toNat % 2 ^ 3 :=
  Nat.and_two_pow_sub_one_eq_mod _ 3

theorem wellFormed_merged : (merged p).WellFormed := by
  have bound := p.function.toNat_lt
  constructor
  · change (merged p).device.toNat < 2 ^ 5
    rw [device_merged]
    exact Nat.or_lt_two_pow (Nat.mod_lt _ (by decide)) (by omega)
  · change (merged p).function.toNat < 2 ^ 3
    rw [function_merged]
    exact Nat.mod_lt _ (by decide)

/-- The packed number does not see the difference. -/
theorem numeric_merged : (merged p).numeric = p.numeric := by
  apply UInt32.toNat_inj.mp
  have device := split_or p.device.toNat 5 3
  have function := split_or p.function.toNat 3 0
  rw [Nat.pow_zero, Nat.mul_one, Nat.mul_one] at function
  calc (merged p).numeric.toNat
    _ = p.segment.toNat * 2 ^ 16 |||
        (p.bus.toNat * 2 ^ 8 ||| p.device.toNat / 2 ^ 5 * 2 ^ (5 + 3)) |||
        (p.device.toNat % 2 ^ 5 * 2 ^ 3 ||| p.function.toNat / 2 ^ 3 * 2 ^ (3 + 0)) |||
        p.function.toNat % 2 ^ 3 := by
      rw [numeric_toNat_or, bus_merged, device_merged, function_merged, or_mul_pow, or_mul_pow]
      rfl
    _ = p.segment.toNat * 2 ^ 16 ||| p.bus.toNat * 2 ^ 8 |||
        (p.device.toNat / 2 ^ 5 * 2 ^ (5 + 3) ||| p.device.toNat % 2 ^ 5 * 2 ^ 3) |||
        (p.function.toNat / 2 ^ 3 * 2 ^ (3 + 0) ||| p.function.toNat % 2 ^ 3) := by ac_rfl
    _ = p.numeric.toNat := by rw [device, function, numeric_toNat_or]

end

/-- Two addresses count as equal exactly when they are merged into one. -/
theorem equal_iff_merged (a b : PciAddress) : a.equal b = true ↔ merged a = merged b := by
  rw [← equal_iff (wellFormed_merged a) (wellFormed_merged b), PciAddress.equal, PciAddress.equal,
    numeric_merged, numeric_merged]

/-! The order of the packed numbers. -/

theorem less_iff {a b : PciAddress} : a.less b = true ↔ a.numeric < b.numeric := decide_eq_true_iff

theorem less_eq_false_iff {a b : PciAddress} : a.less b = false ↔ b.numeric ≤ a.numeric := by
  rw [PciAddress.less, decide_eq_false_iff_not, UInt32.not_lt]

/-- Addresses count as equal when neither is below the other. -/
theorem equal_iff_incomparable (a b : PciAddress) :
    a.equal b = true ↔ a.less b = false ∧ b.less a = false := by
  rw [less_eq_false_iff, less_eq_false_iff, PciAddress.equal, beq_iff_eq]
  constructor
  · intro same
    rw [same]
    exact ⟨UInt32.le_refl _, UInt32.le_refl _⟩
  · intro found
    exact UInt32.le_antisymm found.2 found.1

/-! Where addresses stand for devices. -/

theorem eq_iff_parts {a b : PciAddress} :
    a = b ↔ a.segment = b.segment ∧ a.bus = b.bus ∧ a.device = b.device ∧ a.function = b.function := by
  cases a
  cases b
  rw [PciAddress.mk.injEq]

/-- A NIC that is published again at its stored generation has an equal address. -/
theorem equal_of_republished {s t : NicRegistry} {auth : Authority} {rec old : NicRecord} {reply : Reply}
    (accepted : s.step (.mutate auth (.registerNic rec)) = (.ok reply, t))
    (stored : s.nics[rec.id]? = some old) (level : rec.generation = old.generation) :
    rec.pci.equal old.pci = true := by
  cases NicRegistry.step_transition accepted with
  | duplicateNic _ _ old' _ _ _ stored' _ agrees =>
    obtain rfl : old' = old := Option.some.inj (stored'.symm.trans stored)
    simp only [nicEqual, Bool.and_eq_true] at agrees
    tauto
  | wroteNic _ _ _ _ _ newer =>
    have later := newer old stored
    rw [level] at later
    exact absurd later (lt_irrefl _)

theorem equal_of_lookup {t : TopologySnapshot} {pci : PciAddress} {node : TopologyNode}
    (found : t.nodeForPci pci = some node) : node.pci.equal pci = true := by
  unfold TopologySnapshot.nodeForPci at found
  have holds := List.find?_some found
  exact holds

theorem equal_of_sameDevice {t : TopologySnapshot} {a b : PciAddress}
    (same : (t.localityBetween a b).relationship = .sameDevice) : a.equal b = true := by
  by_contra different
  simp only [TopologySnapshot.localityBetween, TopologySnapshot.classify, if_neg different] at same
  split_ifs at same
  split at same
  · split_ifs at same
  · cases same

/-- What the program takes for granted about two addresses. -/
structure ToldApart (a b : PciAddress) : Prop where
  equality : a.equal b = true ↔
    a.segment = b.segment ∧ a.bus = b.bus ∧ a.device = b.device ∧ a.function = b.function
  irreflexive : a.less a = false
  transitive : ∀ c, a.less b = true → b.less c = true → a.less c = true
  total : a ≠ b → a.less b = true ∨ b.less a = true
  consistent : a.equal b = true ↔ a.less b = false ∧ b.less a = false
  lookup : ∀ (t : TopologySnapshot) (node : TopologyNode),
    t.nodeForPci a = some node → node.pci = b → a = b
  duplicate : ∀ (s t : NicRegistry) (auth : Authority) (rec old : NicRecord) (reply : Reply),
    s.step (.mutate auth (.registerNic rec)) = (.ok reply, t) → s.nics[rec.id]? = some old →
      rec.generation = old.generation → rec.pci = a → old.pci = b → a = b
  sameDevice : ∀ t : TopologySnapshot, (t.localityBetween a b).relationship = .sameDevice → a = b

theorem toldApart_of_equality {a b : PciAddress} (equality : a.equal b = true ↔ a = b) :
    ToldApart a b where
  equality := equality.trans eq_iff_parts
  irreflexive := less_eq_false_iff.mpr (UInt32.le_refl _)
  transitive _ below above := less_iff.mpr (UInt32.lt_trans (less_iff.mp below) (less_iff.mp above))
  total different := by
    by_contra neither
    rw [not_or, Bool.not_eq_true, Bool.not_eq_true] at neither
    exact different (equality.mp ((equal_iff_incomparable a b).mpr neither))
  consistent := equal_iff_incomparable a b
  lookup t node found same := by
    have equal := equal_of_lookup found
    rw [same, PciAddress.equal, Bool.beq_comm] at equal
    exact equality.mp equal
  duplicate s t auth rec old reply accepted stored level := by
    rintro rfl rfl
    exact equality.mp (equal_of_republished accepted stored level)
  sameDevice t same := equality.mp (equal_of_sameDevice same)

/-- Different addresses are told apart exactly when they are not merged into one. -/
theorem toldApart_iff (a b : PciAddress) : ToldApart a b ↔ (a ≠ b → merged a ≠ merged b) := by
  constructor
  · intro apart different same
    exact different (eq_iff_parts.mpr (apart.equality.mp ((equal_iff_merged a b).mpr same)))
  · intro separate
    apply toldApart_of_equality
    rw [equal_iff_merged]
    constructor
    · intro same
      by_contra different
      exact separate different same
    · rintro rfl
      rfl

/-- Addresses that the hardware can report are told apart. -/
theorem toldApart_of_wellFormed {a b : PciAddress} (first : a.WellFormed) (second : b.WellFormed) :
    ToldApart a b :=
  toldApart_of_equality (equal_iff first second)

/-! The benchmark topology: 40 devices on the bus of each switch. -/

def synthetic : Provenance := { kind := .synthetic, sources := [.syntheticFixture] }

def kDevPerSwitch : Nat := 40

/-- A switch and its devices. The device number is counted on beyond five bits. -/
def addSwitch (swId : UInt64) (rc : PciNodeId) (bus : UInt8) (numa : NumaNodeId) (devCounter : UInt64) :
    List Staging :=
  .addNode { id := ⟨swId⟩, pci := { bus }, kind := .switch, parent := rc, numaNode := numa,
             provenance := synthetic } ::
  .addEdge ⟨swId⟩ rc ::
  (List.range kDevPerSwitch).flatMap fun d =>
    let nodeId : PciNodeId := ⟨100000 + devCounter + UInt64.ofNat d⟩
    [.addNode { id := nodeId, pci := { bus, device := UInt8.ofNat (d + 1) }, kind := .device,
                parent := ⟨swId⟩, numaNode := numa, provenance := synthetic },
      .addEdge nodeId ⟨swId⟩]

/-- The first root complex with its first switch. -/
def firstSwitch : List Staging :=
  .addNode { id := ⟨1⟩, kind := .rootComplex, provenance := synthetic } :: addSwitch 100 ⟨1⟩ 1 ⟨0⟩ 0

def firstSwitchTopology : Option TopologySnapshot := do
  let b ← (stage firstSwitch).toOption
  b.build b.nodes.size ⟨1⟩

/-- The 32nd device has the packed number of its switch: a lookup finds the switch, both
count as one device, and a NIC may move from one to the other without a conflict. -/
theorem switch_found_for_device :
    (¬∀ a b, ToldApart a b) ∧
      (firstSwitchTopology.bind fun t => t.nodes[(⟨100031⟩ : PciNodeId)]?).map (·.pci) =
        some { bus := 1, device := 32 } ∧
      (firstSwitchTopology.bind fun t => t.nodeForPci { bus := 1, device := 32 }).map (·.id) =
        some ⟨100⟩ ∧
      firstSwitchTopology.map
          (fun t => (t.localityBetween { bus := 1 } { bus := 1, device := 32 }).relationship) =
        some .sameDevice ∧
      nicEqual { pci := { bus := 1 } } { pci := { bus := 1, device := 32 } } = true := by
  refine ⟨fun apart => ?_, by decide +kernel, by decide +kernel, by decide +kernel, by decide⟩
  have parts := (apart { bus := 1 } { bus := 1, device := 32 }).equality.mp (by decide)
  exact absurd parts.2.2.1 (by decide)

end NicResidency.PciIdentity

import NicResidency.Inspection

/-!
What a report shows. Ids, generations, addresses and provenance can be read back from the text;
names only up to their escapes, and the function of an address only up to its last digit.
-/

namespace NicResidency

/-- The address without the bits that are not printed. -/
def PciAddress.shown (p : PciAddress) : PciAddress := { p with function := p.function &&& 0xF }

/-- The fields of a NIC that a report prints. -/
def NicRecord.shown (n : NicRecord) : NicRecord :=
  { id := n.id, generation := n.generation, osName := Inspection.jsonEscape n.osName,
    pci := n.pci.shown, deviceKind := n.deviceKind, numaNode := n.numaNode, linkState := n.linkState,
    provenance := n.provenance, lifecycle := n.lifecycle }

/-- The fields of an accelerator that a report prints. -/
def GpuRecord.shown (g : GpuRecord) : GpuRecord :=
  { id := g.id, name := Inspection.jsonEscape g.name, pci := g.pci.shown, cudaDevice := g.cudaDevice,
    numaNode := g.numaNode, provenance := g.provenance }

namespace ReportContents
open Json Inspection

/-! Hexadecimal texts. -/

def hexByte (nibble : UInt64) : UInt8 := UInt8.ofNat (hexDigit nibble).toNat

theorem hexByte_inj {a b : UInt64} (small : a.toNat < 16) (small' : b.toNat < 16)
    (same : hexByte a = hexByte b) : a.toNat = b.toNat := by
  have digits : ∀ i j : Fin 16, UInt8.ofNat ("0123456789abcdef".toList.getD i '0').toNat =
      UInt8.ofNat ("0123456789abcdef".toList.getD j '0').toNat → i = j := by decide +kernel
  exact Fin.mk.inj (digits ⟨a.toNat, small⟩ ⟨b.toNat, small'⟩ same)

theorem nibble_toNat (v : UInt64) : (v &&& 0xF).toNat = v.toNat % 16 := by
  rw [UInt64.toNat_and]
  exact Nat.and_two_pow_sub_one_eq_mod v.toNat 4

theorem nibble_small (v : UInt64) : (v &&& 0xF).toNat < 16 := by
  rw [nibble_toNat]
  exact Nat.mod_lt _ (by omega)

theorem nibble_inj {v w : UInt64} (same : hexByte (v &&& 0xF) = hexByte (w &&& 0xF)) :
    v.toNat % 16 = w.toNat % 16 := by
  have equal := hexByte_inj (nibble_small v) (nibble_small w) same
  rwa [nibble_toNat, nibble_toNat] at equal

/-- A number below a power of the base is its digits. -/
theorem digits_inj {n m : Nat} (k : Nat) (same : ∀ i < k, n / 16 ^ i % 16 = m / 16 ^ i % 16) :
    n % 16 ^ k = m % 16 ^ k := by
  induction k with
  | zero => simp [Nat.mod_one]
  | succ k ih =>
    rw [Nat.mod_pow_succ, Nat.mod_pow_succ, ih fun i below => same i (by omega), same k (by omega)]

theorem hex64_inj {v w : UInt64} (same : chars (hex64 v) = chars (hex64 w)) : v = w := by
  simp only [hex64, chars, String.toList_ofList, List.map_map] at same
  have nibbles := List.map_inj_left.mp same
  have digit (u : UInt64) (i : Nat) (below : i < 16) :
      (u >>> (4 * (15 - UInt64.ofNat (15 - i)))).toNat = u.toNat / 16 ^ i := by
    have amount : (4 * (15 - UInt64.ofNat (15 - i))).toNat % 64 = 4 * i := by
      interval_cases i <;> rfl
    rw [UInt64.toNat_shiftRight, amount, Nat.shiftRight_eq_div_pow, Nat.pow_mul]
  have range : (16 : Nat) ^ 16 = 2 ^ 64 := by norm_num
  have values : v.toNat % 16 ^ 16 = w.toNat % 16 ^ 16 := digits_inj 16 fun i below => by
    have equal := nibble_inj (nibbles (15 - i) (List.mem_range.mpr (by omega)))
    rwa [digit v i below, digit w i below] at equal
  rw [range, Nat.mod_eq_of_lt v.toNat_lt, Nat.mod_eq_of_lt w.toNat_lt] at values
  exact UInt64.toNat_inj.mp values

theorem id_inj {tag : Tag} {a b : Id tag} (same : chars a.str = chars b.str) : a = b := by
  obtain ⟨v⟩ := a
  obtain ⟨w⟩ := b
  obtain rfl : v = w := hex64_inj same
  rfl

@[simp] theorem PciAddress.str_shown (p : PciAddress) : p.shown.str = p.str := by
  have low : (p.function &&& 0xF).toUInt64 &&& 0xF = p.function.toUInt64 &&& 0xF := by
    apply UInt64.toNat_inj.mp
    rw [nibble_toNat, nibble_toNat, UInt8.toNat_toUInt64, UInt8.toNat_toUInt64, UInt8.toNat_and]
    exact (congrArg (· % 16) (Nat.and_two_pow_sub_one_eq_mod p.function.toNat 4)).trans (Nat.mod_mod _ _)
  simp only [PciAddress.str, PciAddress.shown, low]

theorem pci_inj {p q : PciAddress} (same : chars p.str = chars q.str) : p.shown = q.shown := by
  simp only [PciAddress.str, chars, String.toList_ofList, List.map_cons, List.map_nil,
    List.cons.injEq, true_and, and_true] at same
  obtain ⟨seg3, seg2, seg1, seg0, bus1, bus0, dev1, dev0, fn⟩ := same
  have segment : p.segment = q.segment := by
    have third := nibble_inj seg3
    have second := nibble_inj seg2
    have first := nibble_inj seg1
    have last := nibble_inj seg0
    simp [UInt64.toNat_shiftRight, Nat.shiftRight_eq_div_pow] at third second first last
    have below := p.segment.toNat_lt
    have below' := q.segment.toNat_lt
    apply UInt16.toNat_inj.mp
    omega
  have bus : p.bus = q.bus := by
    have first := nibble_inj bus1
    have last := nibble_inj bus0
    simp [UInt64.toNat_shiftRight, Nat.shiftRight_eq_div_pow] at first last
    have below := p.bus.toNat_lt
    have below' := q.bus.toNat_lt
    apply UInt8.toNat_inj.mp
    omega
  have device : p.device = q.device := by
    have first := nibble_inj dev1
    have last := nibble_inj dev0
    simp [UInt64.toNat_shiftRight, Nat.shiftRight_eq_div_pow] at first last
    have below := p.device.toNat_lt
    have below' := q.device.toNat_lt
    apply UInt8.toNat_inj.mp
    omega
  have function : p.function &&& 0xF = q.function &&& 0xF := by
    have last := nibble_inj fn
    simp at last
    apply UInt8.toNat_inj.mp
    rw [UInt8.toNat_and, UInt8.toNat_and]
    exact ((Nat.and_two_pow_sub_one_eq_mod _ 4).trans last).trans
      (Nat.and_two_pow_sub_one_eq_mod _ 4).symm
  rw [PciAddress.shown, PciAddress.shown, segment, bus, device, function]

/-! Decimal texts. -/

theorem decimal_inj {n m : Nat} (same : chars (toString n) = chars (toString m)) : n = m := by
  have back (k : Nat) : (chars (toString k)).map (fun b => Char.ofNat b.toNat) = Nat.toDigits 10 k := by
    rw [chars, Nat.toString_eq_ofList_toDigits, String.toList_ofList, List.map_map]
    refine (List.map_congr_left fun c member => ?_).trans (List.map_id _)
    have isDigit := Nat.isDigit_of_mem_toDigits (by omega) (by omega) member
    rw [Function.comp_apply, (isDigit_bounds isDigit).2.2, Char.ofNat_toNat, id]
  have digits : Nat.toDigits 10 n = Nat.toDigits 10 m := by rw [← back, same, back]
  rw [← Nat.ofDigitChars_ten_toDigits (n := n), digits, Nat.ofDigitChars_ten_toDigits]

theorem number_inj {n m : UInt64} (same : chars (toString n.toNat) = chars (toString m.toNat)) : n = m :=
  UInt64.toNat_inj.mp (decimal_inj same)

/-! Names. -/

/-- A text is found again among the names of all values. -/
theorem name_inj {α : Type} (all : List α) (name : α → String)
    (found : ∀ a, (all.find? fun b => chars (name b) == chars (name a)) = some a) {a b : α}
    (same : chars (name a) = chars (name b)) : a = b := by
  have first := found a
  rw [same, found b] at first
  exact (Option.some.inj first).symm

theorem device_inj {a b : DeviceKind} (same : chars a.toString = chars b.toString) : a = b := by
  refine name_inj [.nic, .smartNic, .dpu, .unknown, .unsupported] DeviceKind.toString ?_ same
  intro kind
  cases kind <;> rfl

theorem link_inj {a b : LinkState} (same : chars a.toString = chars b.toString) : a = b := by
  refine name_inj [.up, .down, .unknown, .unsupported] LinkState.toString ?_ same
  intro link
  cases link <;> rfl

theorem lifecycle_inj {a b : LifecycleState} (same : chars a.toString = chars b.toString) : a = b := by
  refine name_inj [.discovered, .available, .reservedForAttachment, .attached, .resident, .draining,
    .detached, .revalidationRequired, .failed, .retired] LifecycleState.toString ?_ same
  intro state
  cases state <;> rfl

theorem evidence_inj {a b : EvidenceKind} (same : chars a.toString = chars b.toString) : a = b := by
  refine name_inj [.real, .synthetic, .unsupported] EvidenceKind.toString ?_ same
  intro kind
  cases kind <;> rfl

theorem source_inj {a b : Source} (same : chars a.toString = chars b.toString) : a = b := by
  refine name_inj [.operatingSystem, .pci, .numa, .cuda, .nvml, .rdmaProvider, .verbs, .netAdapterApi,
    .vendorSdk, .dpuRuntime, .persisted, .derived, .syntheticFixture] Source.toString ?_ same
  intro source
  cases source <;> rfl

theorem chars_intercalate (sep : String) (parts : List String) :
    chars (sep.intercalate parts) = (chars sep).intercalate (parts.map chars) := by
  induction parts with
  | nil => simp [chars, List.intercalate]
  | cons part rest ih =>
    cases rest with
    | nil => simp [List.intercalate]
    | cons next rest =>
      rw [String.intercalate_cons_cons, chars_append, chars_append, ih]
      simp [List.intercalate]

/-- The name of a source neither is empty nor has a comma. -/
theorem source_name (source : Source) : chars source.toString ≠ [] ∧ 0x2C ∉ chars source.toString := by
  cases source <;> decide

theorem sources_inj {first second : List Source}
    (same : chars (",".intercalate (first.map Source.toString)) =
      chars (",".intercalate (second.map Source.toString))) : first = second := by
  rw [chars_intercalate, chars_intercalate, List.map_map, List.map_map] at same
  have split (sources : List Source) (some : sources ≠ []) :
      ((chars ",").intercalate (sources.map (chars ∘ Source.toString))).splitOn 0x2C =
        sources.map (chars ∘ Source.toString) :=
    List.splitOn_intercalate 0x2C
      (List.forall_mem_map.mpr fun source _ => (source_name source).2) (by simpa using some)
  have empty (sources : List Source)
      (none : (chars ",").intercalate (sources.map (chars ∘ Source.toString)) = []) : sources = [] := by
    by_contra some
    have parts := split sources some
    rw [none] at parts
    cases sources with
    | nil => exact some rfl
    | cons source rest => exact (source_name source).1 (List.cons.inj parts).1.symm
  by_cases none : first = []
  · subst none
    exact (empty second same.symm).symm
  · have other : second ≠ [] := by
      rintro rfl
      exact none (empty first same)
    have names := split first none
    rw [same, split second other] at names
    exact (List.map_injective_iff.mpr (fun _ _ => source_inj) names).symm

theorem provenance_inj {p q : Provenance} (same : chars p.str = chars q.str) : p = q := by
  have inside (kind : EvidenceKind) : ∀ b ∈ chars kind.toString, b != 0x5B := by
    refine List.all_eq_true.mp ?_
    cases kind <;> rfl
  have bracket : chars "[" = [0x5B] := rfl
  simp only [Provenance.str, chars_append, bracket, List.append_assoc, List.cons_append,
    List.nil_append] at same
  obtain ⟨kinds, -, behind⟩ := span_inj (inside p.kind) (inside q.kind) rfl rfl same
  obtain ⟨kind, sources⟩ := p
  obtain ⟨kind', sources'⟩ := q
  obtain rfl : kind = kind' := evidence_inj kinds
  obtain rfl : sources = sources' := sources_inj (List.append_cancel_right behind)
  rfl

/-! Records. -/

@[simp] theorem jsonEscape_jsonEscape (s : Bytes) : jsonEscape (jsonEscape s) = jsonEscape s := by
  rw [jsonEscape, jsonEscape, List.map_map]
  refine List.map_congr_left fun c _ => ?_
  rw [Function.comp_apply]
  split
  next => rfl
  next => rfl

theorem printNic_shown (n : NicRecord) : printNic n.shown = printNic n := by
  simp only [printNic, NicRecord.shown, jsonEscape_jsonEscape, PciAddress.str_shown]

theorem printGpu_shown (g : GpuRecord) : printGpu g.shown = printGpu g := by
  simp only [printGpu, GpuRecord.shown, jsonEscape_jsonEscape, PciAddress.str_shown]

theorem nicValue_inj {n m : NicRecord} (same : nicValue n = nicValue m) : n.shown = m.shown := by
  simp only [nicValue, textValue, numberValue, Value.obj.injEq, List.cons.injEq, Prod.mk.injEq,
    Value.str.injEq, Value.num.injEq, true_and, and_true] at same
  obtain ⟨id, gen, os, pci, kind, numa, link, prov, lifecycle⟩ := same
  have generation : n.generation = m.generation := congrArg Generation.mk (number_inj gen)
  have node : n.numaNode = m.numaNode := congrArg Id.mk (number_inj numa)
  rw [NicRecord.shown, NicRecord.shown, id_inj id, generation, os, pci_inj pci, device_inj kind, node,
    link_inj link, provenance_inj prov, lifecycle_inj lifecycle]

theorem gpuValue_inj {g h : GpuRecord} (same : gpuValue g = gpuValue h) : g.shown = h.shown := by
  simp only [gpuValue, textValue, numberValue, Value.obj.injEq, List.cons.injEq, Prod.mk.injEq,
    Value.str.injEq, Value.num.injEq, true_and, and_true] at same
  obtain ⟨id, name, pci, numa, cuda, prov⟩ := same
  have node : g.numaNode = h.numaNode := congrArg Id.mk (number_inj numa)
  have device : g.cudaDevice = h.cudaDevice := congrArg Id.mk (number_inj cuda)
  rw [GpuRecord.shown, GpuRecord.shown, id_inj id, name, pci_inj pci, node, device, provenance_inj prov]

/-! Summaries. -/

theorem jsonEscape_quotable {s : String} (quotable : Quotable s) : jsonEscape (chars s) = chars s := by
  refine (List.map_congr_left fun c member => ?_).trans (List.map_id _)
  have itself := quotable c member
  simp only [plain, Bool.and_eq_true, decide_eq_true_eq, bne_iff_ne] at itself
  exact if_pos ⟨itself.1.1.1, itself.1.2, itself.2⟩

/-- A decimal number ends where the text behind it starts. -/
theorem count_inj {n m : Nat} {rest rest' : Text} (follows : Follows rest) (follows' : Follows rest')
    (same : chars (toString n) ++ rest = chars (toString m) ++ rest') : n = m ∧ rest = rest' := by
  obtain ⟨numbers, behind⟩ := numerals_append_inj (number_decimal n).numerals
    (number_decimal m).numerals follows follows' same
  exact ⟨decimal_inj numbers, behind⟩

theorem follows_label (label : String) (space : (chars label).head? = some 0x20) (text : Text) :
    Follows (chars label ++ text) := by
  intro b lead
  rw [List.head?_append, space] at lead
  obtain rfl : 0x20 = b := Option.some.inj lead
  rfl

/-- A decimal number with a labelled text behind it. -/
theorem labelled_inj {n m : Nat} (label : String) (space : (chars label).head? = some 0x20)
    {rest rest' : Text} (same : chars (toString n) ++ (chars label ++ rest) =
      chars (toString m) ++ (chars label ++ rest')) : n = m ∧ rest = rest' := by
  obtain ⟨numbers, behind⟩ :=
    count_inj (follows_label label space rest) (follows_label label space rest') same
  exact ⟨numbers, List.append_cancel_left behind⟩

theorem summary_inj {first second : RegistrySnapshot}
    (same : chars first.summary = chars second.summary) :
    first.functions.size = second.functions.size ∧ first.ports.size = second.ports.size ∧
      first.queues.size = second.queues.size ∧ first.attachments.size = second.attachments.size := by
  have last (nodes : Option TopologySnapshot) : Follows (chars (nodes.elim "" fun topology =>
      " topo_nodes=" ++ toString topology.nodes.size)) := by
    cases nodes with
    | none => nofun
    | some topology =>
      rw [Option.elim_some, chars_append]
      exact follows_label " topo_nodes=" rfl _
  have lengths (id : CoordinatorEpoch) : (chars id.str).length = 16 := by
    simp [chars, Id.str, hex64]
  unfold RegistrySnapshot.summary at same
  simp only [chars_append, List.append_assoc] at same
  obtain ⟨-, epoch⟩ := List.append_inj (List.append_cancel_left same) ((lengths _).trans (lengths _).symm)
  obtain ⟨-, nics⟩ := labelled_inj " gpus=" rfl (List.append_cancel_left epoch)
  obtain ⟨-, gpus⟩ := labelled_inj " funcs=" rfl nics
  obtain ⟨functions, behind⟩ := labelled_inj " ports=" rfl gpus
  obtain ⟨ports, behind⟩ := labelled_inj " queues=" rfl behind
  obtain ⟨queues, behind⟩ := labelled_inj " attachments=" rfl behind
  obtain ⟨attachments, -⟩ := count_inj (last _) (last _) behind
  exact ⟨functions, ports, queues, attachments⟩

/-! Reports. -/

/-- What determines a value of each item determines the lists of these values. -/
theorem map_eq_of_map_eq {α β γ : Type} {f : α → β} {g : α → γ} (determines : ∀ a b, f a = f b → g a = g b)
    {first second : List α} (same : first.map f = second.map f) : first.map g = second.map g := by
  induction first generalizing second with
  | nil =>
    rw [List.map_eq_nil_iff.mp same.symm]
  | cons a first ih =>
    obtain ⟨b, rest, rfl, item, others⟩ := List.map_eq_cons_iff.mp same.symm
    rw [List.map_cons, List.map_cons, determines a b item.symm, ih others.symm]

/-- What a report on the system shows of a topology. -/
def topologyShown (topology : TopologySnapshot) : Nat × TopologyGeneration :=
  (topology.nodes.size, topology.generation)

/-- Two registries have the same report exactly if the same epoch, the same shown records, the same
numbers of other records and the same shown topology are in them. Of the function of an address
the low four bits are shown. -/
theorem system_report_eq_iff (first second : RegistrySnapshot) :
    printSystem first = printSystem second ↔
      first.epoch = second.epoch ∧
      (first.nics.toList.map fun kv => kv.2.shown) = second.nics.toList.map (fun kv => kv.2.shown) ∧
      (first.gpus.toList.map fun kv => kv.2.shown) = second.gpus.toList.map (fun kv => kv.2.shown) ∧
      (first.functions.size = second.functions.size ∧ first.ports.size = second.ports.size ∧
        first.queues.size = second.queues.size ∧ first.attachments.size = second.attachments.size) ∧
      first.topology.map topologyShown = second.topology.map topologyShown := by
  constructor
  · intro same
    have spelled := (written_system second).parses
    rw [← same] at spelled
    have values := (written_system first).parses.unique spelled
    simp only [systemValue, Value.obj.injEq, List.cons_append, List.nil_append, List.cons.injEq,
      Prod.mk.injEq, true_and, textValue, nicsValue, gpusValue, Value.str.injEq, Value.arr.injEq,
      numberValue] at values
    obtain ⟨epoch, nics, gpus, others⟩ := values
    have shownNics := map_eq_of_map_eq (fun _ _ equal => nicValue_inj equal) nics
    have shownGpus := map_eq_of_map_eq (fun _ _ equal => gpuValue_inj equal) gpus
    refine ⟨id_inj epoch, shownNics, shownGpus, ?_⟩
    have counted (summaries : jsonEscape (chars first.summary) = jsonEscape (chars second.summary)) := by
      rw [jsonEscape_quotable (quotable_summary first), jsonEscape_quotable (quotable_summary second)]
        at summaries
      exact summary_inj summaries
    cases top : first.topology with
    | none =>
      cases top' : second.topology with
      | none =>
        simp only [top, top', List.nil_append, List.cons.injEq, Prod.mk.injEq, Value.str.injEq,
          true_and, and_true] at others
        exact ⟨counted others, rfl⟩
      | some topology' =>
        simp only [top, top'] at others
        exact absurd (congrArg List.length others) (by simp)
    | some topology =>
      cases top' : second.topology with
      | none =>
        simp only [top, top'] at others
        exact absurd (congrArg List.length others) (by simp)
      | some topology' =>
        simp only [top, top', List.cons_append, List.nil_append, List.cons.injEq, Prod.mk.injEq,
          Value.str.injEq, Value.num.injEq, true_and, and_true] at others
        obtain ⟨nodes, generation, summaries⟩ := others
        have generation : topology.generation = topology'.generation :=
          congrArg Generation.mk (number_inj generation)
        refine ⟨counted summaries, ?_⟩
        rw [Option.map_some, Option.map_some, topologyShown, topologyShown, decimal_inj nodes, generation]
  · rintro ⟨epoch, nics, gpus, ⟨functions, ports, queues, attachments⟩, shown⟩
    have printedNics : printNics first = printNics second := by
      rw [printNics, printNics, map_eq_of_map_eq (fun kv kv' equal => ?_) nics]
      rw [← printNic_shown kv.2, equal, printNic_shown]
    have printedGpus : printGpus first = printGpus second := by
      rw [printGpus, printGpus, map_eq_of_map_eq (fun kv kv' equal => ?_) gpus]
      rw [← printGpu_shown kv.2, equal, printGpu_shown]
    have nicCount : first.nics.size = second.nics.size := by
      simpa using congrArg List.length nics
    have gpuCount : first.gpus.size = second.gpus.size := by
      simpa using congrArg List.length gpus
    unfold printSystem RegistrySnapshot.summary
    rw [epoch, printedNics, printedGpus, nicCount, gpuCount, functions, ports, queues, attachments]
    cases top : first.topology with
    | none =>
      cases top' : second.topology with
      | none => rfl
      | some topology' => simp [top, top'] at shown
    | some topology =>
      cases top' : second.topology with
      | none => simp [top, top'] at shown
      | some topology' =>
        simp only [top, top', Option.map_some, Option.some.injEq, topologyShown, Prod.mk.injEq] at shown
        simp only [shown.1, shown.2, Option.elim_some]

end ReportContents
end NicResidency

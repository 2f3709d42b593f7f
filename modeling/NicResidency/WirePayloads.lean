import NicResidency.Wire

/-!
The payloads of publications and registrations, built and parsed. What one side
builds the other side parses back, and nothing else is accepted.
-/

namespace NicResidency.WirePayloads
open ByteStream ByteStream.Reader FrameCodec

/-- A builder and a parser of payloads undo each other, up to what counts as the
same value. -/
structure Inverse {α : Type} (allowed : α → Prop) (same : α → α → Prop)
    (build : α → Except ResidencyError Bytes) (parse : Bytes → Outcome (Option α)) : Prop where
  parses : ∀ value, allowed value → ∃ payload parsed, build value = .ok payload ∧
    parse payload = .ok (some parsed) ∧ same value parsed
  rebuilds : ∀ payload value, payload.length ≤ kMaxFrame - kHeaderSize →
    parse payload = .ok (some value) → build value = .ok payload

/-- What the receiver has of a publication. The addresses are the same to
`operator==`, and part by part when the hardware can report them. -/
structure Arrives (sent parsed : NicPublication) : Prop where
  worker : parsed.worker = sent.worker
  boot : parsed.boot = sent.boot
  epoch : parsed.epoch = sent.epoch
  id : parsed.nic.id = sent.nic.id
  generation : parsed.nic.generation = sent.nic.generation
  numaNode : parsed.nic.numaNode = sent.nic.numaNode
  osName : parsed.nic.osName = sent.nic.osName
  pci : parsed.nic.pci.equal sent.nic.pci = true
  pciParts : sent.nic.pci.device < 32 → sent.nic.pci.function < 8 → parsed.nic.pci = sent.nic.pci

/-- The payload of a publication. -/
def publishPayload (p : NicPublication) : Except ResidencyError Bytes :=
  payloadPublishNic p.worker p.boot p.epoch p.nic

/-- The payload of a registration. -/
def registerPayload (r : WorkerRegistration) : Except ResidencyError Bytes :=
  .ok (payloadRegisterWorker r.worker r.boot r.epoch)

theorem arrives_received (w : WorkerId) (b : WorkerBootId) (e : CoordinatorEpoch)
    (nic into : NicRecord) : Arrives ⟨w, b, e, nic⟩ ⟨w, b, e, received nic into⟩ where
  worker := rfl
  boot := rfl
  epoch := rfl
  id := rfl
  generation := rfl
  numaNode := rfl
  osName := rfl
  pci := by
    change (_ == _) = true
    rw [beq_iff_eq]
    exact PciAddress.numeric_fromBdf nic.pci.numeric
  pciParts device function := PciAddress.fromBdf_numeric ⟨device, function⟩

/-- The fields of a publication in the order of its payload. -/
def publishFields (p : NicPublication) : Bytes :=
  leBytes 8 p.worker.value.toNat ++ leBytes 8 p.boot.value.toNat ++ leBytes 8 p.epoch.value.toNat ++
    leBytes 8 p.nic.id.value.toNat ++ leBytes 8 p.nic.generation.value.toNat ++
    leBytes 4 p.nic.pci.numeric.toNat ++ leBytes 8 p.nic.numaNode.value.toNat ++
    (leBytes 4 p.nic.osName.length ++ p.nic.osName)

theorem length_publishFields (p : NicPublication) :
    (publishFields p).length = 56 + p.nic.osName.length := by
  simp only [publishFields, List.length_append, length_leBytes]
  omega

theorem publishPayload_of_short {p : NicPublication} (short : p.nic.osName.length ≤ 0xFFFF) :
    publishPayload p = .ok (publishFields p) := by
  rw [publishPayload, payloadPublishNic, putStr, if_neg (not_lt.mpr short)]
  rfl

/-- An accepted payload consists of the fields of what it is parsed to. -/
theorem fields_of_parsed {payload : Bytes} {into : NicRecord} {p : NicPublication}
    (parsed : parsePublishNic payload into = .ok (some p)) : payload = publishFields p := by
  rw [parsePublishNic, parse_eq_some_iff] at parsed
  simp only [readPublishNic, reads_bind, reads_u64, reads_u32, reads_str, reads_pure] at parsed
  obtain ⟨w, _, _, rfl, ⟨b, _, _, rfl, ⟨e, _, _, rfl, ⟨id, _, _, rfl, ⟨generation, _, _, rfl,
    ⟨bdf, _, _, rfl, ⟨numaNode, _, _, rfl, ⟨osName, _, _, ⟨rfl, _⟩, ⟨rfl, rfl⟩, rfl⟩, rfl⟩, rfl⟩, rfl⟩,
    rfl⟩, rfl⟩, rfl⟩, rfl⟩ := parsed
  simp only [publishFields, PciAddress.numeric_fromBdf, List.append_nil, List.append_assoc]

theorem publish_inverse (into : NicRecord) :
    Inverse (fun p : NicPublication => p.nic.osName.length ≤ 0xFFFF) Arrives publishPayload
      (parsePublishNic · into) where
  parses p short := by
    have built := publishPayload_of_short short
    exact ⟨_, _, built, parsePublishNic_payload built into, arrives_received ..⟩
  rebuilds payload p fits parsed := by
    have fields := fields_of_parsed parsed
    have size := length_publishFields p
    have short : p.nic.osName.length ≤ 0xFFFF := by
      unfold kMaxFrame kHeaderSize at fits
      rw [fields] at fits
      omega
    rw [fields]
    exact publishPayload_of_short short

theorem register_inverse :
    Inverse (fun _ : WorkerRegistration => True) (fun sent parsed => parsed = sent) registerPayload
      parseRegisterWorker where
  parses r _ := ⟨_, r, rfl, parseRegisterWorker_eq_some_iff.mpr rfl, rfl⟩
  rebuilds payload r _ parsed := by
    rw [parseRegisterWorker_eq_some_iff.mp parsed]
    rfl

/-- Publications and registrations come back from their payloads, and every payload
that a frame can hold and a parser accepts is the one that is built again. -/
theorem payloads_inverse :
    (∀ into, Inverse (fun p : NicPublication => p.nic.osName.length ≤ 0xFFFF) Arrives publishPayload
      (parsePublishNic · into)) ∧
    Inverse (fun _ : WorkerRegistration => True) (fun sent parsed => parsed = sent) registerPayload
      parseRegisterWorker :=
  ⟨publish_inverse, register_inverse⟩

/-- A publication of a real adapter. -/
def adapter : NicPublication :=
  { worker := ⟨7⟩
    boot := ⟨1⟩
    epoch := ⟨1⟩
    nic := { id := ⟨10⟩, generation := ⟨1⟩, osName := [101, 116, 104, 48], pci := ⟨0, 1, 31, 7⟩ } }

theorem adapter_inverse :
    (∃ payload parsed, publishPayload adapter = .ok payload ∧
      parsePublishNic payload {} = .ok (some parsed) ∧ parsed.nic.pci = ⟨0, 1, 31, 7⟩) ∧
    registerPayload ⟨⟨0⟩, ⟨0⟩, ⟨0⟩⟩ = .ok (List.replicate 24 0) := by
  obtain ⟨publish, register⟩ := payloads_inverse
  obtain ⟨payload, parsed, built, accepted, arrives⟩ := (publish {}).parses adapter (by decide)
  have zeros := register.rebuilds (List.replicate 24 0) ⟨⟨0⟩, ⟨0⟩, ⟨0⟩⟩ (by decide) (by decide +kernel)
  exact ⟨⟨payload, parsed, built, accepted, arrives.pciParts (by decide) (by decide)⟩, zeros⟩

end NicResidency.WirePayloads

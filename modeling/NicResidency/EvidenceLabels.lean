import NicResidency.SharedAncestors
import NicResidency.Policy

/-!
The evidence label of a locality beside the evidence it rests on. The label is read
from the two endpoints alone, and is REAL unless both are synthetic.
-/

namespace NicResidency.EvidenceLabels
open Relation TopologySnapshot TopologyBuilder ResidencyPolicy

variable (t : TopologySnapshot) (a b : PciAddress)

/-- One step from a node to its stored parent, which a root complex does not take. -/
def Above (node parent : TopologyNode) : Prop :=
  node.kind ≠ .rootComplex ∧ node.parent.valid = true ∧ t.nodes[node.parent]? = some parent

/-- The node is matched for an address or lies above such a node, up to the root
complex. -/
def DependsOn (node : TopologyNode) : Prop :=
  ∃ endpoint, (t.nodeForPci a = some endpoint ∨ t.nodeForPci b = some endpoint) ∧
    ReflTransGen (Above t) endpoint node

/-- Every node that the answer depends on was observed. -/
def AllReal : Prop := ∀ node, DependsOn t a b node → node.provenance.kind = .real

def BothSynthetic : Prop :=
  ∃ na nb, t.nodeForPci a = some na ∧ t.nodeForPci b = some nb ∧
    na.provenance.kind = .synthetic ∧ nb.provenance.kind = .synthetic

theorem label_real_iff : (t.localityBetween a b).provenance.kind = .real ↔ ¬BothSynthetic t a b := by
  show (derivedProvenance (t.nodeForPci a) (t.nodeForPci b)).kind = .real ↔ _
  unfold BothSynthetic
  cases t.nodeForPci a with
  | none => simp [derivedProvenance]
  | some na =>
    cases t.nodeForPci b with
    | none => simp [derivedProvenance]
    | some nb =>
      by_cases both : na.provenance.kind = .synthetic ∧ nb.provenance.kind = .synthetic
      · simp [derivedProvenance, both]
      · simp [derivedProvenance, both]

/-- Without a topology the records alone are compared, and their evidence is not asked
for. -/
theorem label_of_records {reg : RegistrySnapshot} (none : reg.topology = none) (nic : NicRecord)
    (gpu : Option GpuRecord) (numa : NumaNodeId) :
    (localityOf reg nic gpu numa).provenance.kind = .real := by
  cases gpu with
  | none => rfl
  | some gpu =>
    have base : (baseLocality reg nic gpu numa).provenance.kind = .real := by
      unfold baseLocality
      rw [none]
    show (localityToGpu reg nic gpu numa).provenance.kind = .real
    unfold localityToGpu
    split <;> exact base

/-- A locality is labelled REAL only on REAL evidence exactly when both endpoints are
synthetic or all the evidence is REAL. Without a topology, the locality of a synthetic
NIC is never labelled otherwise. -/
theorem real_only_iff (reg : RegistrySnapshot) (nic : NicRecord) (gpu : GpuId) (numa : NumaNodeId) :
    (((t.localityBetween a b).provenance.kind = .real → AllReal t a b) ↔
      BothSynthetic t a b ∨ AllReal t a b) ∧
    ((reg.topology = none → nic.provenance.synthetic = true →
        (localityOf reg nic (gpuRecord reg gpu) numa).provenance.kind ≠ .real) ↔
      ¬(reg.topology = none ∧ nic.provenance.synthetic = true)) := by
  constructor
  · rw [label_real_iff, Classical.or_iff_not_imp_left]
  · constructor
    · rintro never ⟨none, synthetic⟩
      exact never none synthetic (label_of_records none nic (gpuRecord reg gpu) numa)
    · intro other none synthetic
      exact absurd ⟨none, synthetic⟩ other

/-- Two observed devices below a synthetic switch, a synthetic device, and two that the
backend does not support. -/
def mixedEvidence : List Staging :=
  [.addNode { id := ⟨1⟩, kind := .switch, provenance := { kind := .synthetic } },
    .addNode { id := ⟨2⟩, pci := { bus := 1 }, kind := .device, parent := ⟨1⟩, provenance := { kind := .real } },
    .addNode { id := ⟨3⟩, pci := { bus := 2 }, kind := .device, parent := ⟨1⟩, provenance := { kind := .real } },
    .addNode { id := ⟨4⟩, pci := { bus := 3 }, kind := .device, provenance := { kind := .synthetic } },
    .addNode { id := ⟨5⟩, pci := { bus := 4 }, kind := .device, provenance := { kind := .unsupported } },
    .addNode { id := ⟨6⟩, pci := { bus := 5 }, kind := .device, provenance := { kind := .unsupported } }]

/-- A NIC from a synthetic backend, and no topology. -/
def syntheticNic : RegistrySnapshot where
  nics := (∅ : Std.ExtTreeMap NicId NicRecord).insert ⟨1⟩
    { id := ⟨1⟩, provenance := { kind := .synthetic } }

/-- All three answers are labelled REAL, and so is what a decision says about the
synthetic NIC. -/
theorem mixedEvidence_real :
    ∃ b t, stage mixedEvidence = .ok b ∧ b.build b.nodes.size ⟨1⟩ = some t ∧
      ((t.localityBetween { bus := 1 } { bus := 2 }).relationship = .samePcieSwitch ∧
        (t.localityBetween { bus := 1 } { bus := 2 }).provenance.kind = .real ∧
        ∃ node, DependsOn t { bus := 1 } { bus := 2 } node ∧ node.provenance.kind = .synthetic) ∧
      (t.localityBetween { bus := 3 } { bus := 1 }).provenance.kind = .real ∧
      (t.localityBetween { bus := 4 } { bus := 5 }).provenance.kind = .real ∧
      (({} : ResidencyPolicy).decide syntheticNic {} {} {} {}).evaluated.map (·.localitySummary) =
        ["REL=UNKNOWN NUMA=none PCI=0000:00:00.0 PROV=REAL[NUMA,DERIVED]"] := by
  refine ⟨_, _, rfl, rfl, ⟨by decide, by decide, _, ⟨_, .inl rfl, .single ⟨?_, ?_, rfl⟩⟩, ?_⟩, by decide,
    by decide, by decide +kernel⟩
  · decide
  · decide
  · decide

end NicResidency.EvidenceLabels

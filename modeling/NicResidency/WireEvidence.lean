import NicResidency.Wire
import NicResidency.WorkerEvidence

/-!
Evidence kinds on the wire. A publication carries no provenance, and the receiver
labels every record that it parses as real.
-/

namespace NicResidency.WireEvidence
open StateMachine NicRegistry Selection WorkerEvidence FrameCodec

/-- Whenever a registration writes the record, no policy that refuses synthetic
evidence selects it. -/
def KeptOut (nic : NicRecord) : Prop :=
  ∀ epoch calls auth (policy : ResidencyPolicy) gpu numa endpoint workload,
    writesNic nic.id (Event.at step (NicRegistry.after { epoch } calls)
      (.mutate auth (.registerNic nic))) = true →
    policy.allowSynthetic = false →
    ¬Selects (policy.decide (NicRegistry.after { epoch }
      (calls ++ [.mutate auth (.registerNic nic)])).snapshot gpu numa endpoint workload) nic.id

/-- The parsed record has the evidence kind of the published one, and is kept out
of strict selections unless that kind is real. -/
def SameEvidence (w : WorkerId) (b : WorkerBootId) (e : CoordinatorEpoch) (nic : NicRecord) : Prop :=
  ∀ into publication, carry w b e nic into = .ok (some publication) →
    publication.nic.provenance.kind = nic.provenance.kind ∧
      (nic.provenance.kind ≠ .real → KeptOut publication.nic)

/-- The evidence kind survives the wire exactly when it is real, apart from the
records whose name is too long for a frame. -/
theorem sameEvidence_iff (w : WorkerId) (b : WorkerBootId) (e : CoordinatorEpoch) (nic : NicRecord) :
    SameEvidence w b e nic ↔ nic.provenance.kind = .real ∨ kMaxOsName < nic.osName.length := by
  constructor
  · intro same
    by_contra fails
    obtain ⟨notReal, fits⟩ := not_or.mp fails
    have carried := carry_of_fits w b e nic {} (not_lt.mp fits)
    exact notReal (same {} _ carried).1.symm
  · intro found into publication carried
    obtain real | long := found
    · by_cases fits : nic.osName.length ≤ kMaxOsName
      · rw [carry_of_fits w b e nic into fits] at carried
        cases carried
        exact ⟨real.symm, fun notReal => absurd real notReal⟩
      · exact absurd carried (carry_of_too_long w b e nic into (not_le.mp fits) publication)
    · exact absurd carried (carry_of_too_long w b e nic into long publication)

/-- A fixture that is never to be presented as real. -/
def syntheticNic : NicRecord :=
  { id := ⟨10⟩
    generation := ⟨1⟩
    osName := [101, 116, 104, 48]
    lifecycle := .available
    provenance := ⟨.synthetic, [.syntheticFixture]⟩ }

/-- The fixture arrives as real evidence, and the default policy selects it. -/
theorem syntheticNic_upgraded :
    ¬SameEvidence ⟨7⟩ ⟨1⟩ ⟨1⟩ syntheticNic ∧
    ∃ publication, carry ⟨7⟩ ⟨1⟩ ⟨1⟩ syntheticNic {} = .ok (some publication) ∧
      Selects (({} : ResidencyPolicy).decide (NicRegistry.after { epoch := ⟨1⟩ }
        [.registerWorker ⟨7⟩ ⟨1⟩, .mutate ⟨⟨1⟩, ⟨7⟩, ⟨1⟩⟩ (.registerNic publication.nic)]).snapshot
        ⟨0⟩ ⟨0⟩ ⟨0⟩ ⟨0⟩) ⟨10⟩ := by
  have carried := carry_of_fits ⟨7⟩ ⟨1⟩ ⟨1⟩ syntheticNic {} (by decide)
  refine ⟨fun same => ?_, _, carried, rfl, by decide +kernel⟩
  have kinds := (same {} _ carried).1
  cases kinds

end NicResidency.WireEvidence

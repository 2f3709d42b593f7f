import NicResidency.WorkerEvidence

/-!
Coordinator restarts. A restart leaves the NIC records as they are, so a NIC that
was admissible before it is selected again without new evidence. The law that
only evidence from after a restart is selected holds exactly in the runs whose
restarts meet no admissible NIC.
-/

namespace NicResidency.Restart
open StateMachine VersionedSlot NicRegistry Selection WorkerEvidence

/-- The event writes the record of the NIC under the given epoch or a later one. -/
def WritesUnder (n : NicId) (epoch : CoordinatorEpoch) (event : RegistryEvent) : Prop :=
  writesNic n event = true ∧ epoch.value ≤ event.pre.epoch.value ∧
    ∃ auth rec, event.input = .mutate auth (.registerNic rec) ∧ auth.epoch = event.pre.epoch

/-- After every accepted restart of the run, at any later time and under every
policy and target, a NIC is selected only when its record was written since. -/
def FreshAfterRestarts (s : NicRegistry) (calls : List Call) : Prop :=
  ∀ earlier newEpoch later rest, calls = earlier ++ .coordinatorRestart newEpoch :: later ++ rest →
    accepted (Event.at step (s.after earlier) (.coordinatorRestart newEpoch)) = true →
    ∀ (policy : ResidencyPolicy) gpu numa endpoint workload n,
      Selects (policy.decide (s.after (earlier ++ .coordinatorRestart newEpoch :: later)).snapshot
        gpu numa endpoint workload) n →
      ∃ event ∈ (s.after (earlier ++ [.coordinatorRestart newEpoch])).history later,
        WritesUnder n newEpoch event

/-- No policy could select a NIC of this registry. -/
def NoneAdmissible (s : NicRegistry) : Prop :=
  ∀ (n : NicId) (nic : NicRecord), s.nics[n]? = some nic → ¬Admissible nic

section
variable {s t : NicRegistry} {c : Call} {outcome : Except ResidencyError Reply}

/-- The epoch never goes back. -/
theorem epoch_le (transition : Transition s c outcome t) : s.epoch.value ≤ t.epoch.value := by
  cases transition with
  | restarted newEpoch later => exact UInt64.le_of_lt later
  | _ => exact UInt64.le_refl _

theorem restarted_state (transition : Transition s c outcome t)
    (restarted : restarts ⟨s, c, outcome, t⟩ = true) :
    ∃ newEpoch, c = .coordinatorRestart newEpoch ∧ t = restart newEpoch s := by
  unfold restarts at restarted
  cases transition with
  | refused c => cases c <;> cases restarted
  | restarted newEpoch => exact ⟨newEpoch, rfl, rfl⟩
  | _ => cases restarted

/-- A NIC becomes admissible only by a write under the current epoch. -/
theorem admissible_gained (transition : Transition s c outcome t) {n : NicId}
    (inadmissible : ∀ nic, s.nics[n]? = some nic → ¬Admissible nic) {nic : NicRecord}
    (reached : t.nics[n]? = some nic) (admissible : Admissible nic) :
    writesNic n ⟨s, c, outcome, t⟩ = true ∧
      ∃ auth rec, c = .mutate auth (.registerNic rec) ∧ auth.epoch = s.epoch := by
  have ⟨writes, auth, rec, called, current⟩ := writes_of_gained transition Admissible
    (fun _ never => nomatch never.lifecycle)
    (fun _ good => ⟨good.valid, good.supported, good.lifecycle⟩) inadmissible reached admissible
  exact ⟨writes, auth, rec, called, current.1⟩

/-- What holds of a NIC from a restart until its record is written again. -/
def Demoted (n : NicId) (epoch : CoordinatorEpoch) (s : NicRegistry) : Prop :=
  (∀ nic, s.nics[n]? = some nic → ¬Admissible nic) ∧ epoch.value ≤ s.epoch.value

theorem demoted_transition (transition : Transition s c outcome t) {n : NicId}
    {epoch : CoordinatorEpoch} (demoted : Demoted n epoch s) :
    Demoted n epoch t ∨ WritesUnder n epoch ⟨s, c, outcome, t⟩ := by
  obtain ⟨inadmissible, reachedEpoch⟩ := demoted
  by_cases gained : ∃ nic, t.nics[n]? = some nic ∧ Admissible nic
  · obtain ⟨nic, reached, admissible⟩ := gained
    have ⟨writes, authorised⟩ := admissible_gained transition inadmissible reached admissible
    exact .inr ⟨writes, reachedEpoch, authorised⟩
  · exact .inl ⟨fun nic reached admissible => gained ⟨nic, reached, admissible⟩,
      UInt64.le_trans reachedEpoch (epoch_le transition)⟩

end

theorem step_restart {s : NicRegistry} {newEpoch : CoordinatorEpoch}
    (restarted : restarts (Event.at step s (.coordinatorRestart newEpoch)) = true) :
    (s.step (.coordinatorRestart newEpoch)).2 = restart newEpoch s := by
  obtain ⟨_, same, reached⟩ := restarted_state (at_transition s _) restarted
  cases same
  exact reached

theorem demoted_run {s : NicRegistry} {n : NicId} {epoch : CoordinatorEpoch} (demoted : Demoted n epoch s)
    (later : List Call) :
    Demoted n epoch (s.after later) ∨ ∃ event ∈ s.history later, WritesUnder n epoch event :=
  latch (Demoted n epoch) (fun _ => True) (WritesUnder n epoch)
    (fun s c demoted _ => demoted_transition (at_transition s c) demoted)
    demoted later (fun _ _ => trivial)

/-- Only evidence from after a restart is selected, exactly when no accepted
restart of the run meets a NIC that some policy could select. -/
theorem fresh_after_restarts_iff (epoch : CoordinatorEpoch) (calls : List Call) :
    FreshAfterRestarts { epoch } calls ↔
      ∀ event ∈ NicRegistry.history { epoch } calls, restarts event = true →
        NoneAdmissible event.pre := by
  constructor
  · intro fresh event member restarted n nic stored admissible
    obtain ⟨earlier, c, rest, rfl, rfl⟩ := (mem_events_iff step { epoch } calls event).mp member
    obtain ⟨newEpoch, rfl, -⟩ := restarted_state (at_transition _ c) restarted
    -- the registry right after the restart still holds the record
    have still : (NicRegistry.after { epoch } (earlier ++ [.coordinatorRestart newEpoch])).nics[n]? =
        some nic := by
      rw [after_concat, step_restart restarted]
      exact stored
    have closed := References.referenceClosed_after (References.referenceClosed_created epoch)
      (earlier ++ [.coordinatorRestart newEpoch])
    have written := fresh earlier newEpoch [] rest (by simp) restarted _ ⟨0⟩ ⟨0⟩ ⟨0⟩ ⟨0⟩ n
      (admissible_selected closed still admissible)
    simp only [events_nil, List.not_mem_nil, false_and, exists_false] at written
  · intro none earlier newEpoch later rest split ok policy gpu numa endpoint workload n selects
    subst split
    have restarted := none (Event.at step (NicRegistry.after { epoch } earlier)
      (.coordinatorRestart newEpoch)) (by simp) ok
    have demoted : Demoted n newEpoch
        (NicRegistry.after { epoch } (earlier ++ [.coordinatorRestart newEpoch])) := by
      rw [after_concat, step_restart ok]
      exact ⟨restarted n, UInt64.le_refl _⟩
    rcases demoted_run demoted later with ⟨inadmissible, -⟩ | written
    · obtain ⟨nic, stored, admissible⟩ := selects_stored selects
      rw [← after_append, List.append_assoc] at inadmissible
      exact absurd admissible (inadmissible nic stored)
    · exact written

/-- A NIC is published, and the coordinator restarts. -/
def restartedRun : List Call :=
  [.registerWorker ⟨7⟩ ⟨1⟩,
    .mutate ⟨⟨1⟩, ⟨7⟩, ⟨1⟩⟩ (.registerNic
      { id := ⟨10⟩, generation := ⟨1⟩, lifecycle := .available, provenance := ⟨.real, []⟩ }),
    .coordinatorRestart ⟨2⟩]

/-- The default policy selects the NIC on the evidence from before the restart. -/
theorem restartedRun_not_fresh : ¬FreshAfterRestarts { epoch := ⟨1⟩ } restartedRun := by
  intro fresh
  have written := fresh (restartedRun.take 2) ⟨2⟩ [] [] rfl (by decide +kernel)
    {} ⟨0⟩ ⟨0⟩ ⟨0⟩ ⟨0⟩ ⟨10⟩ ⟨rfl, by decide +kernel⟩
  simp only [events_nil, List.not_mem_nil, false_and, exists_false] at written

end NicResidency.Restart

import NicResidency.AuthorityFencing
import NicResidency.Coordinator
import NicResidency.FileFormat
import NicResidency.PersistenceRoundTrip

/-!
The epochs of a coordinator and of its restarts. A restart reads the epoch that the
first process has saved, and saves none of its own. So all restarts that get as far as
their registry take the same epoch.
-/

namespace NicResidency.CoordinatorRestarts
open ByteStream Throwing StateMachine NicRegistry PersistenceStore Coordinator
open FrameCodec (NicPublication)

/-! Runs. -/

/-- The frames of worker A and worker B that a restart finds. -/
abbrev Frames := Option Bytes × Option Bytes

/-- A restarted process, which leaves its files to the next one. -/
def restart (disk : Disk) (frames : Frames) : Process × Disk :=
  let process := runRestart { disk with workerA := frames.1, workerB := frames.2 }
  (process, process.disk)

/-- The first process and the restarted ones. -/
def processes (first : Process) (restarts : List Frames) : List Process :=
  first :: (events restart first.disk restarts).map (·.outcome)

/-- The epochs that the processes take, one after the other. -/
def epochs (first : Process) (restarts : List Frames) : List CoordinatorEpoch :=
  (processes first restarts).filterMap Process.epoch

/-- The later epoch is higher, and under it every change by the earlier one is rejected
as stale. -/
def Fences (earlier later : CoordinatorEpoch) : Prop :=
  earlier.value < later.value ∧
    ∀ s : NicRegistry, s.epoch = later →
      ∀ (worker : WorkerId) (boot : WorkerBootId) (mutation : Mutation),
        ∃ error : ResidencyError, error.code = .staleEpoch ∧
          s.step (.mutate ⟨earlier, worker, boot⟩ mutation) = (.error error, s)

def nextEpoch (state : Option Bytes) : CoordinatorEpoch := ⟨(recovery state).epoch.value + 1⟩

/-- A restart on these files gets as far as its registry: a NIC is recovered, the frame
of worker B is readable, and the next epoch does not wrap to zero. -/
def opens (state workerB : Option Bytes) : Bool :=
  (recovery state).ok && !(recovery state).nics.isEmpty && (decodeWorkerFrame workerB).publication.isSome &&
    (nextEpoch state).valid

theorem fences_of_lt {earlier later : CoordinatorEpoch} (less : earlier.value < later.value) :
    Fences earlier later := by
  refine ⟨less, fun s current worker boot mutation => ?_⟩
  have stale : earlier ≠ s.epoch := by
    rintro rfl
    rw [current] at less
    exact UInt64.lt_irrefl _ less
  have refused : (s.refusal ⟨earlier, worker, boot⟩).code = .staleEpoch := by
    unfold refusal
    rw [if_pos stale]
  exact ⟨_, refused, AuthorityFencing.step_unauthorised (fun authorised => stale authorised.1) _⟩

theorem fences_iff {earlier later : CoordinatorEpoch} :
    Fences earlier later ↔ earlier.value < later.value :=
  ⟨And.left, fences_of_lt⟩

/-! What a running process keeps. -/

section
variable {α : Type} {files : Disk → Prop} {epoch : CoordinatorEpoch}

theorem epoch_kept {s t : NicRegistry} {c : Call} {outcome : Except ResidencyError Reply}
    (transition : Transition s c outcome t) (other : ∀ newEpoch, c ≠ .coordinatorRestart newEpoch) :
    t.epoch = s.epoch := by
  cases transition with
  | restarted newEpoch => exact absurd rfl (other newEpoch)
  | _ => rfl

/-- A method of the registry keeps the epoch when it is one of its calls. -/
theorem keeps_epoch_of_call {method : RegistryM α} {c : Call} {reply : α → Reply}
    (same : call c = reply <$> method) (other : ∀ newEpoch, c ≠ .coordinatorRestart newEpoch) :
    Keeps (fun s => s.epoch = epoch) method := by
  intro s current
  have kept : (perform (call c) s).2.epoch = s.epoch := epoch_kept (step_transition (c := c) rfl) other
  rw [same, perform_map] at kept
  exact kept.trans current

theorem keeps_registerWorker (worker : WorkerId) (boot : WorkerBootId) :
    Keeps (fun s => s.epoch = epoch) (registerWorker worker boot) :=
  keeps_epoch_of_call (c := .registerWorker worker boot) rfl fun _ => nofun

theorem keeps_registerNic (nic : NicRecord) (auth : Authority) :
    Keeps (fun s => s.epoch = epoch) (registerNic nic auth) :=
  keeps_epoch_of_call (c := .mutate auth (.registerNic nic)) rfl fun _ => nofun

theorem keeps_publishResidency (residency : ResidencyRecord) (auth : Authority) :
    Keeps (fun s => s.epoch = epoch) (publishResidency residency auth) :=
  keeps_epoch_of_call (c := .mutate auth (.publishResidency residency)) rfl fun _ => nofun

theorem perform_onRegistry (method : RegistryM α) (running : Running) :
    perform (onRegistry method) running =
      ((perform method running.registry).1,
        { running with registry := (perform method running.registry).2 }) := by
  rw [onRegistry, perform_get_bind]
  rcases perform method running.registry with ⟨outcome, registry⟩
  cases outcome <;> rfl

theorem perform_attempt (method : RegistryM α) (running : Running) :
    (perform (attempt method) running).2 =
      { running with registry := (perform method running.registry).2 } := by
  rw [attempt, perform_get_bind]
  rcases perform method running.registry with ⟨outcome, registry⟩
  rfl

/-- The process has such files, and a registry of this epoch. -/
structure At (files : Disk → Prop) (epoch : CoordinatorEpoch) (running : Running) : Prop where
  files : files running.disk
  current : running.registry.epoch = epoch

theorem keeps_note (key value : String) : Keeps (At files epoch) (note key value) :=
  keeps_modify fun _ held => ⟨held.files, held.current⟩

theorem keeps_onRegistry {method : RegistryM α} (kept : Keeps (fun s => s.epoch = epoch) method) :
    Keeps (At files epoch) (onRegistry method) := by
  intro running held
  rw [perform_onRegistry]
  exact ⟨held.files, kept _ held.current⟩

theorem keeps_attempt {method : RegistryM α} (kept : Keeps (fun s => s.epoch = epoch) method) :
    Keeps (At files epoch) (attempt method) := by
  intro running held
  rw [perform_attempt]
  exact ⟨held.files, kept _ held.current⟩

theorem keeps_noting {key value : String} {rest : RunningM α} (kept : Keeps (At files epoch) rest) :
    Keeps (At files epoch) (note key value >>= fun _ => rest) :=
  keeps_bind (keeps_note key value) fun _ => kept

theorem keeps_decideFor (numa : NumaNodeId) (worker : WorkerId) :
    Keeps (At files epoch) (decideFor numa worker) :=
  keeps_bind keeps_get fun _ => keeps_pure _

theorem keeps_replayStale (a : Option NicPublication) : Keeps (At files epoch) (replayStale a) := by
  unfold replayStale
  cases a with
  | none => exact keeps_pure none
  | some stale => exact keeps_attempt (keeps_registerNic stale.nic _)

theorem keeps_noteHistory (newEpoch : CoordinatorEpoch) :
    Keeps (At files epoch) (noteHistory newEpoch) := by
  unfold noteHistory
  refine keeps_bind keeps_get fun running => keeps_bind (keeps_ofExcept _) fun loaded => ?_
  cases loaded.history with
  | nil => exact keeps_note _ _
  | cons old rest => exact keeps_noting (keeps_noting (keeps_noting (keeps_note _ _)))

theorem keeps_noteLive : Keeps (At files epoch) noteLive := by
  unfold noteLive
  refine keeps_bind keeps_get fun running => ?_
  cases running.registry.residencies.getLast? with
  | none => exact keeps_pure _
  | some live => exact keeps_noting (keeps_note _ _)

/-- A restarted process neither writes the state file nor changes its epoch. -/
theorem keeps_serveRestart (newEpoch : CoordinatorEpoch) (recovered : NicRecord) (a : DecodedFrame)
    (b : NicPublication) : Keeps (At files epoch) (serveRestart newEpoch recovered a b) := by
  have registers (nic : NicRecord) (auth : Authority) :
      Keeps (At files epoch) (discard (onRegistry (registerNic nic auth))) :=
    keeps_map _ (keeps_onRegistry (keeps_registerNic nic auth))
  unfold serveRestart
  apply keeps_bind (keeps_replayStale a.publication)
  intro stale
  apply keeps_noting
  apply keeps_noting
  apply keeps_bind (keeps_onRegistry (keeps_registerWorker b.worker b.boot))
  intro _
  apply keeps_bind (keeps_attempt (keeps_registerWorker a.worker a.boot))
  intro takeover
  apply keeps_noting
  apply keeps_bind (registers recovered _)
  intro _
  apply keeps_bind (keeps_decideFor _ _)
  intro pre
  apply keeps_noting
  apply keeps_noting
  apply keeps_noting
  apply keeps_bind (registers b.nic _)
  intro _
  apply keeps_bind (keeps_map _ (keeps_onRegistry (keeps_publishResidency _ _)))
  intro _
  apply keeps_bind (keeps_decideFor _ _)
  intro post
  apply keeps_noting
  apply keeps_noting
  apply keeps_noting
  apply keeps_noting
  apply keeps_bind (keeps_noteHistory newEpoch)
  intro _
  exact keeps_ite keeps_noteLive (keeps_pure _)

theorem save_returned {routine : SortRoutine} {st : PersistentState} {running left : Running}
    (returned : perform (saveState routine st) running = (.ok (), left)) :
    ∃ file, save routine st = .ok file ∧
      left = { running with disk := { running.disk with state := some file } } := by
  obtain ⟨file, middle, called, returned⟩ := returned_of_bind returned
  cases saved : save routine st with
  | error error =>
    rw [saved] at called
    cases called
  | ok written =>
    rw [saved] at called
    cases called
    cases returned
    exact ⟨file, rfl, rfl⟩

/-- The first process changes the state file only, by what it saves. -/
theorem first_returned {routine : SortRoutine} {published : NicPublication} {running left : Running}
    (current : running.registry.epoch = epoch)
    (returned : perform (serveFirst routine published) running = (.ok (), left)) :
    left.registry.epoch = epoch ∧
      ∃ file, save routine (firstState published) = .ok file ∧ left.disk.state = some file := by
  let auth : Authority := ⟨published.epoch, published.worker, published.boot⟩
  have start : At (fun _ => True) epoch running := ⟨trivial, current⟩
  unfold serveFirst at returned
  obtain ⟨_, _, called, returned⟩ := returned_of_bind returned
  have registered := (keeps_onRegistry (keeps_registerWorker _ _)).reached start called
  obtain ⟨_, _, called, returned⟩ := returned_of_bind returned
  have stored := (keeps_map _ (keeps_onRegistry (keeps_registerNic published.nic auth))).reached
    registered called
  obtain ⟨_, _, called, returned⟩ := returned_of_bind returned
  have resident := (keeps_map _ (keeps_onRegistry
    (keeps_publishResidency (firstResidency published) auth))).reached stored called
  obtain ⟨_, decided, called, returned⟩ := returned_of_bind returned
  have chosen := (keeps_decideFor _ _).reached resident called
  obtain ⟨_, saved, called, returned⟩ := returned_of_bind returned
  obtain ⟨file, encoded, written⟩ := save_returned called
  have durable : At (fun disk => disk.state = some file) epoch saved := by
    rw [written]
    exact ⟨rfl, chosen.current⟩
  -- only the results are written after the save
  have noted := (keeps_noting <| keeps_noting <| keeps_noting <| keeps_noting <| keeps_noting <|
    keeps_noting <| keeps_noting <| keeps_noting <| keeps_note _ _).reached durable returned
  exact ⟨noted.current, file, encoded, noted.files⟩

end

/-! Processes. -/

section
variable {report : Disk → Results → Disk} {disk : Disk} {results : Results} {epoch : CoordinatorEpoch}
  {rest : RunningM Unit}

/-- Either the registry refuses the epoch, or the rest runs on a new registry. -/
theorem serve_cases (report : Disk → Results → Disk) (disk : Disk) (results : Results)
    (epoch : CoordinatorEpoch) (rest : RunningM Unit) :
    (epoch.valid = false ∧
        ∃ notes, serve report disk results epoch rest = { disk := report disk notes }) ∨
      ∃ outcome left notes, epoch.valid = true ∧
        perform rest { disk, registry := { epoch }, results } = (outcome, left) ∧
        serve report disk results epoch rest =
          { disk := report left.disk notes, registry := some left.registry, blocked := outcome.isOk } := by
  unfold serve create
  cases valid : epoch.valid with
  | false => exact .inl ⟨rfl, _, rfl⟩
  | true =>
    right
    rcases called : perform rest { disk, registry := { epoch }, results } with ⟨outcome, left⟩
    cases outcome with
    | ok value =>
      refine ⟨.ok value, left, left.results, rfl, rfl, ?_⟩
      simp only [if_true, called]
      rfl
    | error error =>
      refine ⟨.error error, left, threw left.results error, rfl, rfl, ?_⟩
      simp only [if_true, called]
      rfl

/-- The process takes its epoch exactly when it is valid. -/
theorem serve_epoch (kept : Keeps (At (fun _ => True) epoch) rest) :
    (serve report disk results epoch rest).epoch = if epoch.valid then some epoch else none := by
  obtain ⟨invalid, _, ended⟩ | ⟨outcome, left, _, valid, called, ended⟩ :=
    serve_cases report disk results epoch rest
  · rw [ended, invalid]
    rfl
  · rw [ended, valid]
    exact congrArg some (kept.reached ⟨trivial, rfl⟩ called).current

/-- The process leaves the state file that the rest leaves. -/
theorem serve_state {state : Option Bytes}
    (same : ∀ disk results, (report disk results).state = disk.state)
    (kept : Keeps (At (fun disk => disk.state = state) epoch) rest) (start : disk.state = state) :
    (serve report disk results epoch rest).disk.state = state := by
  obtain ⟨_, _, ended⟩ | ⟨outcome, left, _, _, called, ended⟩ :=
    serve_cases report disk results epoch rest
  · rw [ended]
    exact (same _ _).trans start
  · rw [ended]
    exact (same _ _).trans (kept.reached ⟨start, rfl⟩ called).files

end

/-- A first process that blocks has saved the state of the frame of worker A, and has
taken its epoch. -/
theorem first_saved {routine : SortRoutine} {disk : Disk}
    (blocked : (runFirst routine disk).blocked = true) :
    ∃ published file, (runFirst routine disk).epoch = some published.epoch ∧
      save routine (firstState published) = .ok file ∧
      (runFirst routine disk).disk.state = some file := by
  unfold runFirst at *
  cases decoded : (decodeWorkerFrame disk.workerA).publication with
  | none =>
    rw [decoded] at blocked
    cases blocked
  | some published =>
    rw [decoded] at blocked
    dsimp only at *
    obtain ⟨_, _, ended⟩ | ⟨outcome, left, _, _, called, ended⟩ :=
      serve_cases (fun disk results => { disk with firstResult := some results }) disk
        ((∅ : Results).insert "phase" "first") published.epoch (serveFirst routine published)
    · rw [ended] at blocked
      cases blocked
    · rw [ended] at blocked ⊢
      cases outcome with
      | error error => cases blocked
      | ok value =>
        obtain ⟨current, file, saved, state⟩ := first_returned rfl called
        exact ⟨published, file, congrArg some current, saved, state⟩

/-! The saved epoch. -/

theorem recover_eq (file : Option Bytes) : recover file = .ok (recovery file) := by
  unfold recovery
  split
  · assumption
  · exact absurd ‹_› (recover_ne_error file _)

/-- What is recovered was loaded. -/
theorem recovery_loaded {data : Bytes} (ok : (recovery (some data)).ok = true) :
    ∃ st, load data = .ok st ∧ (recovery (some data)).epoch = st.epoch := by
  have recovered := recover_eq (some data)
  unfold recover at recovered
  dsimp only at recovered
  cases loaded : load data with
  | ok st =>
    rw [loaded] at recovered
    refine ⟨st, rfl, ?_⟩
    rw [← Except.ok.inj recovered]
  | error fault =>
    rw [loaded] at recovered
    cases fault with
    | outOfBounds => cases recovered
    | thrown error =>
      rw [← Except.ok.inj recovered] at ok
      cases ok

/-- The file has this epoch behind its magic string and its version. -/
def Stamped (data : Bytes) (epoch : CoordinatorEpoch) : Prop :=
  ∃ version rest, version.length = 4 ∧
    data = kMagicBox ++ (version ++ (leBytes 8 epoch.value.toNat ++ rest))

theorem Stamped.unique {data : Bytes} {epoch other : CoordinatorEpoch} (first : Stamped data epoch)
    (second : Stamped data other) : epoch = other := by
  obtain ⟨version, rest, size, rfl⟩ := first
  obtain ⟨otherVersion, otherRest, otherSize, same⟩ := second
  have behindMagic := List.append_cancel_left same
  have behindVersion := (List.append_inj behindMagic (size.trans otherSize.symm)).2
  have words := (List.append_inj behindVersion (by simp)).1
  have values := congrArg leValue words
  rw [leValue_leBytes epoch.value.toNat_lt, leValue_leBytes other.value.toNat_lt] at values
  exact Id.value_inj.mp (UInt64.toNat_inj.mp values)

theorem stamped_payload (version : UInt32) (epoch : CoordinatorEpoch) (rest sum : Bytes) :
    Stamped (kMagicBox ++ (leBytes 4 version.toNat ++ (leBytes 8 epoch.value.toNat ++ rest)) ++ sum)
      epoch :=
  ⟨leBytes 4 version.toNat, rest ++ sum, length_leBytes .., by simp only [List.append_assoc]⟩

theorem stamped_of_save {routine : SortRoutine} {st : PersistentState} {data : Bytes}
    (saved : save routine st = .ok data) : Stamped data st.epoch := by
  obtain ⟨payload, serialized, written⟩ := ok_of_bind saved
  obtain ⟨nics, _, serialized⟩ := ok_of_bind serialized
  obtain ⟨gpus, _, serialized⟩ := ok_of_bind serialized
  obtain ⟨history, _, serialized⟩ := ok_of_bind serialized
  have fields : payload = leBytes 4 st.formatVersion.toNat ++ (leBytes 8 st.epoch.value.toNat ++
      (leBytes 4 (policyFlags st.policy).toNat ++ leBytes 8 st.policy.freshnessLimit.toNat ++
        nics ++ gpus ++ history)) := by
    rw [← Except.ok.inj serialized]
    simp only [List.append_assoc]
  rw [← Except.ok.inj written, fields]
  exact stamped_payload ..

theorem stamped_of_load {data : Bytes} {st : PersistentState} (loaded : load data = .ok st) :
    Stamped data st.epoch := by
  obtain ⟨⟨body, spelled, rfl⟩, -⟩ := FileFormat.load_eq_ok_iff.mp loaded
  obtain ⟨version, rfl, _, ⟨epoch, rfl, rest, -, rfl⟩, rfl⟩ := mem_mul.mp spelled
  exact stamped_payload ..

/-- The recovered epoch is the saved one. -/
theorem epoch_recovered {routine : SortRoutine} {st : PersistentState} {data : Bytes}
    (saved : save routine st = .ok data) (ok : (recovery (some data)).ok = true) :
    (recovery (some data)).epoch = st.epoch := by
  obtain ⟨found, loaded, same⟩ := recovery_loaded ok
  calc
    (recovery (some data)).epoch = found.epoch := same
    _ = st.epoch := (stamped_of_load loaded).unique (stamped_of_save saved)

/-! Restarts. -/

/-- A restart leaves the state file as it is. -/
theorem restart_state (disk : Disk) (frames : Frames) : (restart disk frames).2.state = disk.state := by
  unfold restart runRestart
  dsimp only
  split
  · rfl
  · split
    · rfl
    · split
      · rfl
      · exact serve_state (fun _ _ => rfl) (keeps_serveRestart _ _ _ _) rfl

/-- The epoch that a restart takes is determined by the state file. -/
theorem restart_epoch (disk : Disk) (frames : Frames) :
    (restart disk frames).1.epoch =
      if opens disk.state frames.2 then some (nextEpoch disk.state) else none := by
  unfold restart runRestart opens
  dsimp only
  cases recovered : (recovery disk.state).ok with
  | false => rfl
  | true =>
    cases nics : (recovery disk.state).nics with
    | nil => rfl
    | cons nic others =>
      cases decoded : (decodeWorkerFrame frames.2).publication with
      | none => rfl
      | some b =>
        rw [if_neg (by decide)]
        exact serve_epoch (keeps_serveRestart _ _ _ _)

/-- All restarts that get as far as their registry take one epoch. -/
theorem epochs_restarts (disk : Disk) (restarts : List Frames) :
    ((events restart disk restarts).map (·.outcome)).filterMap Process.epoch =
      List.replicate (restarts.filter fun frames => opens disk.state frames.2).length
        (nextEpoch disk.state) := by
  induction restarts generalizing disk with
  | nil => rfl
  | cons frames later ih =>
    have rest := ih (restart disk frames).2
    rw [restart_state] at rest
    rw [events_cons, List.map_cons, Event.at_outcome, List.filter_cons]
    cases opened : opens disk.state frames.2 with
    | false =>
      have epoch := restart_epoch disk frames
      rw [opened, if_neg (by decide)] at epoch
      rw [List.filterMap_cons_none epoch, rest, if_neg (by decide)]
    | true =>
      have epoch := restart_epoch disk frames
      rw [opened, if_pos rfl] at epoch
      rw [List.filterMap_cons_some epoch, rest, if_pos rfl, List.length_cons, List.replicate_succ]

/-- The next epoch is higher unless it wraps to zero. -/
theorem lt_nextEpoch {state : Option Bytes} (valid : (nextEpoch state).valid = true) :
    (recovery state).epoch.value < (nextEpoch state).value := by
  unfold nextEpoch at valid ⊢
  simp only [Id.valid, bne_iff_ne, ne_eq, ← UInt64.toNat_inj, UInt64.toNat_add] at valid
  rw [UInt64.lt_iff_toNat_lt, UInt64.toNat_add]
  have bound := (recovery state).epoch.value.toNat_lt
  simp only [UInt64.toNat_ofNat] at valid ⊢
  omega

/-- A restart that takes an epoch fences the process that saved the file. -/
theorem saved_fenced {routine : SortRoutine} {st : PersistentState} {file : Bytes}
    {workerB : Option Bytes}
    (saved : save routine st = .ok file) (opened : opens (some file) workerB = true) :
    Fences st.epoch (nextEpoch (some file)) := by
  simp only [opens, Bool.and_eq_true] at opened
  obtain ⟨⟨⟨ok, _⟩, _⟩, valid⟩ := opened
  apply fences_of_lt
  rw [← epoch_recovered saved ok]
  exact lt_nextEpoch valid

/-- The epochs of the processes increase, so that every later process rejects what comes
under an earlier epoch, exactly when at most one restart gets as far as its registry. -/
theorem epochs_fence_iff (routine : SortRoutine) (disk : Disk)
    (saved : (runFirst routine disk).blocked = true) (restarts : List Frames) :
    (epochs (runFirst routine disk) restarts).Pairwise Fences ↔
      (restarts.filter fun frames => opens (runFirst routine disk).disk.state frames.2).length ≤ 1 := by
  obtain ⟨published, file, taken, encoded, written⟩ := first_saved saved
  have run : epochs (runFirst routine disk) restarts = published.epoch ::
      List.replicate (restarts.filter fun frames => opens (some file) frames.2).length
        (nextEpoch (some file)) := by
    rw [epochs, processes, List.filterMap_cons_some taken, epochs_restarts, written]
  have first : ∀ later ∈ List.replicate
      (restarts.filter fun frames => opens (some file) frames.2).length (nextEpoch (some file)),
      Fences published.epoch later := by
    intro later member
    obtain ⟨some_opened, rfl⟩ := List.mem_replicate.mp member
    obtain ⟨frames, opened⟩ := List.exists_mem_of_length_pos (Nat.pos_of_ne_zero some_opened)
    exact saved_fenced encoded (List.mem_filter.mp opened).2
  have same : ¬Fences (nextEpoch (some file)) (nextEpoch (some file)) := by
    rw [fences_iff]
    exact UInt64.lt_irrefl _
  rw [run, written, List.pairwise_cons, List.pairwise_replicate, or_iff_left same]
  exact and_iff_right first

/-- The frame of a worker that publishes one NIC. -/
def workerFrame (worker boot epoch generation : UInt64) : Option Bytes :=
  (FrameCodec.payloadPublishNic ⟨worker⟩ ⟨boot⟩ ⟨epoch⟩ { id := ⟨10⟩, generation := ⟨generation⟩ } >>=
    FrameCodec.encode .publishNic).toOption

/-- The first process, with a worker of epoch 1. -/
def firstRun : Process :=
  runFirst PersistenceRoundTrip.insertion { workerA := workerFrame 1 1 1 1 }

/-- The worker has a new incarnation before each restart. -/
def freshFrames : Frames := (workerFrame 1 1 1 1, workerFrame 1 2 2 2)

theorem firstRun_blocked : firstRun.blocked = true := by decide +kernel

theorem firstRun_fenced :
    firstRun.blocked = true ∧ (epochs firstRun [freshFrames]).Pairwise Fences :=
  ⟨firstRun_blocked, (epochs_fence_iff PersistenceRoundTrip.insertion _ firstRun_blocked
    [freshFrames]).mpr (by decide +kernel)⟩

/-- The second restart takes the epoch of the first one. -/
theorem secondRestart_unfenced :
    firstRun.blocked = true ∧ epochs firstRun [freshFrames, freshFrames] = [⟨1⟩, ⟨2⟩, ⟨2⟩] ∧
      ¬(epochs firstRun [freshFrames, freshFrames]).Pairwise Fences := by
  have taken : epochs firstRun [freshFrames, freshFrames] = [⟨1⟩, ⟨2⟩, ⟨2⟩] := by decide +kernel
  refine ⟨firstRun_blocked, taken, fun fenced => ?_⟩
  rw [taken] at fenced
  have later := (List.pairwise_cons.mp fenced).2
  have reused := (List.pairwise_cons.mp later).1 ⟨2⟩ (List.mem_singleton.mpr rfl)
  exact absurd reused.1 (by decide)

end NicResidency.CoordinatorRestarts

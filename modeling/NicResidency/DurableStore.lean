import NicResidency.Coordinator
import NicResidency.Library.AtomicReplace
import NicResidency.Library.StateMachine
import NicResidency.PersistenceRoundTrip

/-!
The store on a disk. Every call to the system may fail and the process may be killed in
any of them; what the store's operations are run with says what becomes of each call.
-/

namespace NicResidency.DurableStore
open AtomicReplace StateMachine Throwing PersistenceRoundTrip

abbrev StoreFiles := Files String UInt8

abbrev StoreM := Session String UInt8 ResidencyError

def tmp (path : String) : String := path ++ ".tmp"

def backendError (message detail : String) : ResidencyError :=
  { code := .backendError, message, detail }

def fileNotFound (path : String) : ResidencyError :=
  { code := .notFound, message := "persistence file not found", detail := path }

/-- Serialize, write a temporary file, and let it take the place of the file. -/
def save (routine : SortRoutine) (path : String) (st : PersistentState) : StoreM Unit :=
  match PersistenceStore.save routine st with
  | .error error => throw (.threw error)
  | .ok file =>
    replace path (tmp path) file
      (backendError "cannot open persistence temp file" (tmp path))
      (backendError "persistence write failed" (tmp path))
      (backendError "persistence atomic replace failed" path)

/-- A file that opens is read to its end. -/
def openRead (path : String) : StoreM (Option Bytes) := do
  let opened ← call id fun _ => id
  let world ← get
  return if opened then world.files path else none

def «exists» (path : String) : StoreM Bool := do
  let file ← openRead path
  return file.isSome

/-- The state in the bytes of a file. No read leaves the bytes. -/
def parse (data : Bytes) : Except ResidencyError PersistentState :=
  match loaded : PersistenceStore.load data with
  | .ok st => .ok st
  | .error (.thrown error) => .error error
  | .error .outOfBounds => absurd loaded (PersistenceStore.load_ne_outOfBounds data)

def load (path : String) : StoreM PersistentState := do
  let file ← openRead path
  match file with
  | none => throw (.threw (fileNotFound path))
  | some data =>
    match parse data with
    | .ok st => return st
    | .error error => throw (.threw error)

def recoveredState (st : PersistentState) : RecoveryResult where
  ok := true
  epoch := st.epoch
  nics := st.nics
  gpus := st.gpus
  policy := st.policy
  historicalDecisions := st.history.length
  message := "recovered durable identity; dynamic evidence requires revalidation"

def recover (path : String) : StoreM RecoveryResult := do
  let there ← «exists» path
  if there then
    tryCatch (recoveredState <$> load path) fun
      | .killed => throw .killed
      | .threw error => return { message := "recovery failed: " ++ error.message }
  else return { message := "no persisted state" }

/-! A process after the other on the same disk. -/

inductive Operation where
  | save (routine : SortRoutine) (st : PersistentState)
  | load
  | recover
  | exists

inductive Result where
  | saved
  | loaded (st : PersistentState)
  | recovered (result : RecoveryResult)
  | there (found : Bool)

/-- An operation, and what becomes of its calls to the system. -/
structure Attempt where
  operation : Operation
  answers : List Answer := []

def operate (path : String) : Operation → StoreM Result
  | .save routine st => (fun _ => Result.saved) <$> save routine path st
  | .load => Result.loaded <$> load path
  | .recover => Result.recovered <$> recover path
  | .exists => Result.there <$> «exists» path

def step (path : String) (files : StoreFiles) (attempt : Attempt) :
    Except (Stop ResidencyError) Result × StoreFiles :=
  let (outcome, reached) := perform (operate path attempt.operation) ⟨files, attempt.answers⟩
  (outcome, reached.files)

abbrev StoreEvent := Event StoreFiles Attempt (Except (Stop ResidencyError) Result)

/-- A save of the state came to its end, and its process lives. -/
def Returned (event : StoreEvent) : Prop := event.outcome = .ok .saved

/-- The event is a save of this state into this file, and may have replaced the file: it
has returned, or was killed. -/
structure Writes (event : StoreEvent) (routine : SortRoutine) (st : PersistentState)
    (file : Bytes) : Prop where
  asked : event.input.operation = .save routine st
  written : PersistenceStore.save routine st = .ok file
  reached : Returned event ∨ event.outcome = .error .killed

/-- The last save that may have replaced the file: no save behind it has returned. -/
def LastWrite (history : List StoreEvent) (routine : SortRoutine) (st : PersistentState)
    (file : Bytes) : Prop :=
  ∃ before event after, history = before ++ event :: after ∧ Writes event routine st file ∧
    ∀ later ∈ after, ¬Returned later

/-- What a file holds after a history: what it held before, when no save has returned, or
all that a last write has written. -/
def Holds (path : String) (start : StoreFiles) (history : List StoreEvent) (file : Option Bytes) :
    Prop :=
  (file = start path ∧ ∀ event ∈ history, ¬Returned event) ∨
    ∃ routine st data, file = some data ∧ LastWrite history routine st data

section
variable {path : String} {files : StoreFiles} {world reached : World String UInt8} {α : Type}

theorem tmp_ne (path : String) : tmp path ≠ path := by
  intro same
  have longer := congrArg String.length same
  have four : ".tmp".length = 4 := rfl
  rw [tmp, String.length_append, four] at longer
  omega

/-! Reading. -/

theorem keeps_openRead : Keeps (fun world => world.files = files) (openRead path) := by
  intro world held
  cases called : perform (openRead path) world with
  | mk outcome reached =>
    obtain ⟨rest, done | ⟨left, failed | ⟨-, rfl⟩⟩⟩ := call_cases called
    · cases done
      exact held
    · cases failed
      exact held
    · exact held

theorem keeps_load : Keeps (fun world => world.files = files) (load path) := by
  refine keeps_bind keeps_openRead (fun file => ?_)
  cases file with
  | none => exact keeps_throw _
  | some data =>
    cases parsed : parse data with
    | ok st => simpa only [parsed] using keeps_pure st
    | error error => simpa only [parsed] using keeps_throw _

theorem keeps_recover : Keeps (fun world => world.files = files) (recover path) := by
  refine keeps_bind (keeps_bind keeps_openRead fun _ => keeps_pure _) (fun there => ?_)
  cases there with
  | false => exact keeps_pure _
  | true =>
    refine keeps_tryCatch (keeps_map _ keeps_load) (fun stop => ?_)
    cases stop with
    | killed => exact keeps_throw _
    | threw error => exact keeps_pure _

/-- A file that is opened gives its bytes; it may also fail to open. -/
theorem openRead_cases {next : Option Bytes → StoreM α} {outcome : Except (Stop ResidencyError) α}
    (called : perform (openRead path >>= next) world = (outcome, reached)) :
    outcome = .error .killed ∨ ∃ rest file, (file = world.files path ∨ file = none) ∧
      perform (next file) ⟨world.files, rest⟩ = (outcome, reached) := by
  rw [openRead, bind_assoc] at called
  obtain ⟨rest, done | ⟨left, failed | ⟨killed, -⟩⟩⟩ := call_cases called
  · exact .inr ⟨rest, _, .inl rfl, done⟩
  · exact .inr ⟨rest, none, .inr rfl, failed⟩
  · exact .inl killed

/-- What a load can come to. -/
theorem load_cases {outcome : Except (Stop ResidencyError) PersistentState}
    (called : perform (load path) world = (outcome, reached)) :
    outcome = .error .killed ∨ outcome = .error (.threw (fileNotFound path)) ∨
      ∃ data, world.files path = some data ∧ outcome = (parse data).mapError .threw := by
  rcases openRead_cases called with killed | ⟨rest, file, opened, later⟩
  · exact .inl killed
  · cases file with
    | none =>
      cases later
      exact .inr (.inl rfl)
    | some data =>
      have found : world.files path = some data := (by simpa using opened : some data = world.files path).symm
      refine .inr (.inr ⟨data, found, ?_⟩)
      cases parsed : parse data with
      | ok st =>
        simp only [parsed] at later
        cases later
        rfl
      | error error =>
        simp only [parsed] at later
        cases later
        rfl

/-- Undisturbed, a load gives what is in the file. -/
theorem load_undisturbed {data : Bytes} {st : PersistentState} (found : files path = some data)
    (parsed : parse data = .ok st) : perform (load path) ⟨files, []⟩ = (.ok st, ⟨files, []⟩) := by
  rw [load, openRead, bind_assoc, perform_call_nil]
  simp only [bind_assoc, perform_get_bind, if_true, pure_bind, id_eq, found, parsed, perform_pure]

theorem recover_undisturbed {data : Bytes} {st : PersistentState} (found : files path = some data)
    (parsed : parse data = .ok st) :
    perform (recover path) ⟨files, []⟩ = (.ok (recoveredState st), ⟨files, []⟩) := by
  rw [recover, «exists», openRead, bind_assoc, bind_assoc, perform_call_nil]
  simp only [bind_assoc, perform_get_bind, if_true, pure_bind, id_eq, found, Option.isSome_some]
  rw [perform_tryCatch, perform_map, load_undisturbed found parsed]
  rfl

/-! Saving. -/

/-- What a save can come to. -/
theorem save_cases {routine : SortRoutine} {st : PersistentState}
    {outcome : Except (Stop ResidencyError) Unit}
    (called : perform (save routine path st) world = (outcome, reached)) :
    (∃ error, PersistenceStore.save routine st = .error error ∧
      outcome = .error (.threw error) ∧ reached = world) ∨
    ∃ file, PersistenceStore.save routine st = .ok file ∧
      Replacement path (tmp path) file
        [backendError "cannot open persistence temp file" (tmp path),
          backendError "persistence write failed" (tmp path),
          backendError "persistence atomic replace failed" path]
        world.files outcome reached.files := by
  unfold save at called
  split at called
  next error refused =>
    cases called
    exact .inl ⟨error, refused, rfl, rfl⟩
  next file written => exact .inr ⟨file, written, replace_cases (tmp_ne path) called⟩

/-! One operation. -/

/-- Only a save changes a file. -/
theorem step_files (attempt : Attempt) (reading : ∀ routine st, attempt.operation ≠ .save routine st) :
    (step path files attempt).2 = files := by
  have kept : Keeps (fun world => world.files = files) (operate path attempt.operation) := by
    cases operation : attempt.operation with
    | save routine st => exact absurd operation (reading routine st)
    | load => exact keeps_map _ keeps_load
    | recover => exact keeps_map _ keeps_recover
    | «exists» => exact keeps_map _ (keeps_bind keeps_openRead fun _ => keeps_pure _)
  exact kept ⟨files, attempt.answers⟩ rfl

theorem step_save {attempt : Attempt} {routine : SortRoutine} {st : PersistentState}
    (asked : attempt.operation = .save routine st) :
    ∃ outcome reached, perform (save routine path st) ⟨files, attempt.answers⟩ = (outcome, reached) ∧
      step path files attempt = (outcome.map fun _ => .saved, reached.files) := by
  refine ⟨_, _, rfl, ?_⟩
  rw [step, asked, operate, perform_map]
  rfl

/-- An operation on a store touches the file and its temporary file only. -/
theorem step_elsewhere (attempt : Attempt) {other : String} (notPath : other ≠ path)
    (notTmp : other ≠ tmp path) : (step path files attempt).2 other = files other := by
  cases operation : attempt.operation with
  | save routine st =>
    obtain ⟨outcome, reached, called, stepped⟩ := step_save operation
    rw [stepped]
    rcases save_cases called with ⟨_, -, -, rfl⟩ | ⟨_, -, replacement⟩
    · rfl
    · exact replacement.elsewhere other notPath notTmp
  | load | recover | «exists» => rw [step_files attempt (by simp [operation])]

/-- After an operation the file is what it was, or all that a save has written that returned
or was killed. -/
theorem step_cases (path : String) (files : StoreFiles) (attempt : Attempt) :
    let event := Event.at (step path) files attempt
    (event.post path = files path ∧ ¬Returned event) ∨
      ∃ routine st file, event.post path = some file ∧ Writes event routine st file := by
  intro event
  cases operation : attempt.operation with
  | save routine st =>
    obtain ⟨outcome, reached, called, stepped⟩ := step_save operation
    have ended : event.outcome = outcome.map fun _ => .saved := congrArg Prod.fst stepped
    have left : event.post = reached.files := congrArg Prod.snd stepped
    have unreturned (stop : Stop ResidencyError) (stopped : outcome = .error stop) :
        ¬Returned event := by
      intro returned
      rw [Returned, ended, stopped] at returned
      cases returned
    rw [left]
    rcases save_cases called with ⟨error, -, threw, rfl⟩ | ⟨file, written, replacement⟩
    · exact .inl ⟨rfl, unreturned _ threw⟩
    · cases same : outcome with
      | ok value =>
        refine .inr ⟨routine, st, file, replacement.returned same, operation, written, .inl ?_⟩
        rw [Returned, ended, same]
        rfl
      | error stop =>
        cases stop with
        | threw error => exact .inl ⟨(replacement.threw error same).2, unreturned _ same⟩
        | killed =>
          rcases replacement.killed same with old | new
          · exact .inl ⟨old, unreturned _ same⟩
          · refine .inr ⟨routine, st, file, new, operation, written, .inr ?_⟩
            rw [ended, same]
            rfl
  | load | recover | «exists» =>
    refine .inl ⟨congrFun (step_files attempt (by simp [operation])) path, ?_⟩
    intro returned
    have outcome : (perform (operate path attempt.operation) ⟨files, attempt.answers⟩).1 =
        .ok .saved := returned
    rw [operation, operate, perform_map] at outcome
    cases read : (perform _ _ : Except (Stop ResidencyError) _ × World String UInt8).1 <;>
      rw [read] at outcome <;> cases outcome

/-- The coordinator is modelled with saves that nothing disturbs. -/
theorem saveState_undisturbed (routine : SortRoutine) (st : PersistentState)
    {running : Coordinator.Running} (state : files path = running.disk.state) :
    let (outcome, reached) := perform (save routine path st) ⟨files, []⟩
    (perform (Coordinator.saveState routine st) running).1.mapError .threw = outcome ∧
      (perform (Coordinator.saveState routine st) running).2 =
        { running with disk := { running.disk with state := reached.files path } } := by
  rw [Coordinator.saveState, perform_bind]
  cases written : PersistenceStore.save routine st with
  | error error =>
    simp only [save, written, perform_throw, state]
    exact ⟨rfl, rfl⟩
  | ok file =>
    simp only [save, written, replace_undisturbed (tmp_ne path), Function.update_of_ne (tmp_ne path).symm,
      Function.update_self]
    exact ⟨rfl, rfl⟩

end

/-- The history is continued by an operation that leaves the file as it is. -/
theorem Holds.continued {path : String} {start : StoreFiles} {history : List StoreEvent}
    {file : Option Bytes} {event : StoreEvent} (holds : Holds path start history file)
    (quiet : ¬Returned event) : Holds path start (history ++ [event]) file := by
  rcases holds with ⟨same, none⟩ | ⟨routine, st, data, found, before, write, after, rfl, writes, later⟩
  · refine .inl ⟨same, ?_⟩
    simpa [or_imp, forall_and] using ⟨none, quiet⟩
  · refine .inr ⟨routine, st, data, found, before, write, after ++ [event], by simp, writes, ?_⟩
    simpa [or_imp, forall_and] using ⟨later, quiet⟩

/-- The file is not torn, and the other files are as they were. -/
structure Intact (path : String) (start : StoreFiles) (history : List StoreEvent)
    (reached : StoreFiles) : Prop where
  holds : Holds path start history (reached path)
  elsewhere : ∀ other, other ≠ path → other ≠ tmp path → reached other = start other

theorem intact_step {path : String} {start reached : StoreFiles} {history : List StoreEvent}
    (intact : Intact path start history reached) (attempt : Attempt) :
    Intact path start (history ++ [Event.at (step path) reached attempt])
      (step path reached attempt).2 where
  holds := by
    rcases step_cases path reached attempt with ⟨same, quiet⟩ | ⟨routine, st, data, found, writes⟩
    · have kept : (step path reached attempt).2 path = reached path := same
      rw [kept]
      exact intact.holds.continued quiet
    · exact .inr ⟨routine, st, data, found, history, _, [], rfl, writes, by simp⟩
  elsewhere other notPath notTmp := by
    rw [step_elsewhere attempt notPath notTmp]
    exact intact.elsewhere other notPath notTmp

theorem intact_after (path : String) (files : StoreFiles) (attempts : List Attempt) :
    Intact path files (events (step path) files attempts) (exec (step path) files attempts) :=
  history_invariant (Intact path files) (fun _ => True)
    (fun _ _ attempt intact _ => intact_step intact attempt)
    ⟨.inl ⟨rfl, by simp⟩, fun _ _ _ => rfl⟩ attempts (fun _ _ => trivial)

/-- What a load returns was in the file. -/
theorem loaded_stored {path : String} {files : StoreFiles} {answers : List Answer} {st : PersistentState}
    (returned : (step path files { operation := .load, answers }).1 = .ok (.loaded st)) :
    ∃ data, files path = some data ∧ parse data = .ok st := by
  cases called : perform (load path) ⟨files, answers⟩ with
  | mk outcome reached =>
    have ended : (outcome.map Result.loaded) = .ok (.loaded st) := by
      rw [step, operate, perform_map, called] at returned
      exact returned
    rcases load_cases called with rfl | rfl | ⟨data, found, rfl⟩
    · cases ended
    · cases ended
    · refine ⟨data, found, ?_⟩
      cases parsed : parse data with
      | ok st' =>
        rw [parsed] at ended
        cases ended
        rfl
      | error error =>
        rw [parsed] at ended
        cases ended

/-- Whatever fails in whichever operations, and in whichever of their calls the processes are
killed: the file is never torn. It holds what it held, as long as no save has returned, or
the whole of what a save wrote that returned or was killed, with no returned save behind
it. What a load then returns, disturbed or not, was parsed from that. Other files are not
touched. -/
theorem crash_safe (path : String) (files : StoreFiles) (attempts : List Attempt) :
    Intact path files (events (step path) files attempts) (exec (step path) files attempts) ∧
    ∀ answers st,
      (step path (exec (step path) files attempts) { operation := .load, answers }).1 =
        .ok (.loaded st) →
      ∃ data, Holds path files (events (step path) files attempts) (some data) ∧
        parse data = .ok st := by
  have intact := intact_after path files attempts
  refine ⟨intact, fun answers st returned => ?_⟩
  obtain ⟨data, found, parsed⟩ := loaded_stored returned
  have held := intact.holds
  rw [found] at held
  exact ⟨data, held, parsed⟩

/-- A state that fits into the store and has only numbers that the reader gives back. -/
structure Restorable (st : PersistentState) : Prop where
  fits : Persistable st
  safe : Safe st

/-- A file that such a state was written into gives the state back. -/
theorem parse_written {routine : SortRoutine} {st : PersistentState} (restorable : Restorable st)
    {file : Bytes} (written : PersistenceStore.save routine st = .ok file) :
    ∃ loaded, parse file = .ok loaded ∧ Restores st loaded := by
  obtain ⟨data, wrote, loads⟩ :=
    loads_reread routine restorable.fits.writable restorable.fits.admissible restorable.safe.lengths
  obtain rfl : file = data := Except.ok.inj (written.symm.trans wrote)
  rw [rereadState_of_safe routine restorable.safe] at loads
  refine ⟨restored routine st, ?_, restores_restored routine st⟩
  unfold parse
  split
  next st' loaded => rw [Except.ok.inj (loaded.symm.trans loads)]
  next error refused => cases refused.symm.trans loads
  next faulty => cases faulty.symm.trans loads

/-- Once a save has returned, whatever fails or is killed afterwards: a load and a recovery
that are not disturbed succeed, and they restore the state of a save that returned or was
killed, with no returned save behind it. -/
theorem saved_state_survives (path : String) (files : StoreFiles) (attempts : List Attempt)
    (restorable : ∀ attempt ∈ attempts, ∀ routine st, attempt.operation = .save routine st →
      Restorable st)
    (saved : ∃ event ∈ events (step path) files attempts, Returned event) :
    ∃ routine st data loaded, LastWrite (events (step path) files attempts) routine st data ∧
      Restores st loaded ∧
      (step path (exec (step path) files attempts) { operation := .load }).1 = .ok (.loaded loaded) ∧
      (step path (exec (step path) files attempts) { operation := .recover }).1 =
        .ok (.recovered (recoveredState loaded)) := by
  obtain ⟨event, member, returned⟩ := saved
  rcases (intact_after path files attempts).holds with ⟨-, none⟩ | ⟨routine, st, data, found, last⟩
  · exact absurd returned (none event member)
  · obtain ⟨before, write, after, split, writes, later⟩ := last
    have listed : write ∈ events (step path) files attempts := by rw [split]; simp
    obtain ⟨first, attempt, rest, rfl, rfl⟩ := (mem_events_iff (step path) files _ write).mp listed
    obtain ⟨loaded, parsed, restores⟩ :=
      parse_written (restorable attempt (by simp) routine st writes.asked) writes.written
    refine ⟨routine, st, data, loaded, ⟨before, _, after, split, writes, later⟩, restores, ?_, ?_⟩
    · rw [step, operate, perform_map, load_undisturbed found parsed]
      rfl
    · rw [step, operate, perform_map, recover_undisturbed found parsed]
      rfl

/-- A save, one that is killed while it writes, and one that cannot rename. -/
def tornSaves : List Attempt :=
  [{ operation := .save insertion { epoch := ⟨3⟩ } },
    { operation := .save insertion { epoch := ⟨4⟩ }, answers := [.done, .kills 5] },
    { operation := .save insertion { epoch := ⟨5⟩ }, answers := [.done, .done, .fails 0] }]

theorem epochOnly_restorable (epoch : CoordinatorEpoch) : Restorable { epoch } where
  fits :=
    { formatVersion := rfl
      nics := by simp
      nicsDistinct := by simp
      nicCount := by simp
      gpus := by simp
      gpusDistinct := by simp
      gpuCount := by simp
      history := by simp
      historyCount := by simp }
  safe := { nics := by simp, gpus := by simp, history := by simp }

theorem tornSaves_survived : ∃ routine st data loaded,
    LastWrite (events (step "state") (fun _ => none) tornSaves) routine st data ∧
      Restores st loaded ∧
      (step "state" (exec (step "state") (fun _ => none) tornSaves) { operation := .load }).1 =
        .ok (.loaded loaded) ∧
      (step "state" (exec (step "state") (fun _ => none) tornSaves) { operation := .recover }).1 =
        .ok (.recovered (recoveredState loaded)) := by
  refine saved_state_survives "state" _ tornSaves ?_ ⟨_, List.mem_cons_self, rfl⟩
  simp only [tornSaves, List.forall_mem_cons, List.not_mem_nil, false_implies, implies_true, and_true]
  refine ⟨?_, ?_, ?_⟩ <;> rintro routine st ⟨rfl⟩ <;> exact epochOnly_restorable _

end NicResidency.DurableStore

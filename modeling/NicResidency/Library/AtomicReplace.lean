import NicResidency.Library.Throwing

/-!
Replacing a file by way of a temporary one, while any call to the system may fail and
the process may be killed in any of them. Whatever happens, the target holds the old
content or the whole new one.
-/

namespace AtomicReplace
open Throwing

variable {κ β ε α : Type}

/-- What the system makes of a call: it is done, it fails, or the process is killed in it.
A write that is not done leaves so many of its bytes. -/
inductive Answer where
  | done
  | fails (left : Nat)
  | kills (left : Nat)

abbrev Files (κ β : Type) := κ → Option (List β)

/-- The files, and the answers to the calls to come. A call without an answer is done. -/
structure World (κ β : Type) where
  files : Files κ β
  answers : List Answer := []

/-- How a method ends early. -/
inductive Stop (ε : Type) where
  | killed
  | threw (error : ε)

abbrev Session (κ β ε : Type) := Method (World κ β) (Stop ε)

/-- A call that changes the files in one way when it is done, and in another when not. -/
def call (finish : Files κ β → Files κ β) (part : Nat → Files κ β → Files κ β) :
    Session κ β ε Bool := do
  let world ← get
  match world.answers with
  | [] =>
    modify fun world => { world with files := finish world.files }
    return true
  | .done :: rest =>
    modify fun world => ⟨finish world.files, rest⟩
    return true
  | .fails left :: rest =>
    modify fun world => ⟨part left world.files, rest⟩
    return false
  | .kills left :: rest =>
    modify fun world => ⟨part left world.files, rest⟩
    throw .killed

/-- A point at which the process may be killed. -/
def point : Session κ β ε Unit := do
  let _ ← call id fun _ => id
  return ()

section
variable [DecidableEq κ]

def openTruncated (temp : κ) : Session κ β ε Bool :=
  call (fun files => Function.update files temp (some [])) fun _ => id

/-- Write and flush. -/
def write (temp : κ) (content : List β) : Session κ β ε Bool :=
  call (fun files => Function.update files temp (some content))
    fun left files => Function.update files temp (some (content.take left))

/-- The target is replaced in one step. -/
def rename (temp target : κ) : Session κ β ε Bool :=
  call (fun files => Function.update (Function.update files target (files temp)) temp none)
    fun _ => id

def remove (temp : κ) : Session κ β ε Bool :=
  call (fun files => Function.update files temp none) fun _ => id

def replace (target temp : κ) (content : List β) (notOpened notWritten notReplaced : ε) :
    Session κ β ε Unit := do
  let opened ← openTruncated temp
  reject (opened = false) (.threw notOpened)
  let written ← write temp content
  reject (written = false) (.threw notWritten)
  let renamed ← rename temp target
  if renamed then point
  else
    let _ ← remove temp
    throw (.threw notReplaced)

end

/-! What a call can do. -/

section
variable {finish : Files κ β → Files κ β} {part : Nat → Files κ β → Files κ β}
  {next : Bool → Session κ β ε α} {world reached : World κ β} {outcome : Except (Stop ε) α}

theorem perform_call_nil (files : Files κ β) :
    perform (call finish part >>= next) ⟨files, []⟩ = perform (next true) ⟨finish files, []⟩ := rfl

/-- The method goes on after a call that is done or fails, and ends in one that kills. -/
theorem call_cases (called : perform (call finish part >>= next) world = (outcome, reached)) :
    ∃ rest, perform (next true) ⟨finish world.files, rest⟩ = (outcome, reached) ∨
      ∃ left, perform (next false) ⟨part left world.files, rest⟩ = (outcome, reached) ∨
        outcome = .error .killed ∧ reached = ⟨part left world.files, rest⟩ := by
  obtain ⟨files, answers⟩ := world
  cases answers with
  | nil => exact ⟨[], .inl called⟩
  | cons first rest =>
    cases first with
    | done => exact ⟨rest, .inl called⟩
    | fails left => exact ⟨rest, .inr ⟨left, .inl called⟩⟩
    | kills left =>
      cases called
      exact ⟨rest, .inr ⟨left, .inr ⟨rfl, rfl⟩⟩⟩

/-- After a point the files are the same, and the method has returned or was killed. -/
theorem point_cases {outcome : Except (Stop ε) Unit}
    (called : perform point world = (outcome, reached)) :
    (outcome = .ok () ∨ outcome = .error .killed) ∧ reached.files = world.files := by
  obtain ⟨rest, done | ⟨left, failed | ⟨killed, rfl⟩⟩⟩ := call_cases called
  · cases done
    exact ⟨.inl rfl, rfl⟩
  · cases failed
    exact ⟨.inl rfl, rfl⟩
  · exact ⟨.inr killed, rfl⟩

end

section
variable [DecidableEq κ] {target temp : κ} {content : List β}
  {notOpened notWritten notReplaced : ε} {world reached : World κ β}
  {outcome : Except (Stop ε) Unit}

/-- The temporary file is as it was, or gone, or begins the new content. -/
def LeftOver (before after : Option (List β)) (content : List β) : Prop :=
  after = before ∨ after = none ∨ ∃ left, after = some (content.take left)

/-- What a replacement can come to: it returned and the target is new, it threw and the
target is old, or it was killed and the target is one or the other. -/
structure Replacement (target temp : κ) (content : List β) (errors : List ε)
    (before : Files κ β) (outcome : Except (Stop ε) Unit) (after : Files κ β) : Prop where
  elsewhere : ∀ other, other ≠ target → other ≠ temp → after other = before other
  leftOver : LeftOver (before temp) (after temp) content
  returned : outcome = .ok () → after target = some content
  threw : ∀ error, outcome = .error (.threw error) → error ∈ errors ∧ after target = before target
  killed : outcome = .error .killed →
    after target = before target ∨ after target = some content

/-- A replacement that ends before the target is touched. -/
theorem Replacement.early {errors : List ε} {before : Files κ β} (apart : temp ≠ target)
    (file : Option (List β)) (leftOver : LeftOver (before temp) file content)
    (stopped : outcome = .error .killed ∨ ∃ error ∈ errors, outcome = .error (.threw error)) :
    Replacement target temp content errors before outcome (Function.update before temp file) where
  elsewhere other _ notTemp := Function.update_of_ne notTemp ..
  leftOver := by rwa [Function.update_self]
  returned ok := by
    rcases stopped with killed | ⟨error, -, threw⟩
    · cases ok.symm.trans killed
    · cases ok.symm.trans threw
  threw error threw := by
    rcases stopped with killed | ⟨other, listed, same⟩
    · cases threw.symm.trans killed
    · cases threw.symm.trans same
      exact ⟨listed, Function.update_of_ne apart.symm ..⟩
  killed _ := .inl (Function.update_of_ne apart.symm ..)

theorem Replacement.untouched {errors : List ε} {before : Files κ β} (apart : temp ≠ target)
    (stopped : outcome = .error .killed ∨ ∃ error ∈ errors, outcome = .error (.threw error)) :
    Replacement target temp content errors before outcome before := by
  have still : Replacement target temp content errors before outcome
      (Function.update before temp (before temp)) := .early apart _ (.inl rfl) stopped
  rwa [Function.update_eq_self] at still

/-- A replacement that ends after the target is replaced. -/
theorem Replacement.late {errors : List ε} {before : Files κ β} (apart : temp ≠ target)
    (stopped : outcome = .ok () ∨ outcome = .error .killed) :
    Replacement target temp content errors before outcome
      (Function.update (Function.update before target (some content)) temp none) where
  elsewhere other notTarget notTemp := by
    rw [Function.update_of_ne notTemp, Function.update_of_ne notTarget]
  leftOver := .inr (.inl (Function.update_self ..))
  returned _ := by rw [Function.update_of_ne apart.symm, Function.update_self]
  threw error threw := by
    rcases stopped with ok | killed
    · cases threw.symm.trans ok
    · cases threw.symm.trans killed
  killed _ := .inr (by rw [Function.update_of_ne apart.symm, Function.update_self])

/-- The written file takes the place of the target. -/
theorem renamed_eq (apart : temp ≠ target) (files : Files κ β) :
    Function.update (Function.update (Function.update files temp (some content)) target
      (Function.update files temp (some content) temp)) temp none =
        Function.update (Function.update files target (some content)) temp none := by
  rw [Function.update_self, Function.update_comm apart, Function.update_idem]

theorem replace_cases (apart : temp ≠ target)
    (called : perform (replace target temp content notOpened notWritten notReplaced) world =
      (outcome, reached)) :
    Replacement target temp content [notOpened, notWritten, notReplaced] world.files outcome
      reached.files := by
  obtain ⟨rest, opened | ⟨left, failed | ⟨killed, rfl⟩⟩⟩ := call_cases called
  case inr.inl =>
    rw [perform_reject_bind, if_pos rfl] at failed
    cases failed
    exact .untouched apart (.inr ⟨notOpened, by simp, rfl⟩)
  case inr.inr => exact .untouched apart (.inl killed)
  rw [perform_reject_bind, if_neg Bool.true_eq_false.mp] at opened
  obtain ⟨rest, wrote | ⟨left, failed | ⟨killed, rfl⟩⟩⟩ := call_cases opened
  case inr.inl =>
    rw [perform_reject_bind, if_pos rfl] at failed
    cases failed
    rw [Function.update_idem]
    exact .early apart _ (.inr (.inr ⟨left, rfl⟩)) (.inr ⟨notWritten, by simp, rfl⟩)
  case inr.inr =>
    rw [Function.update_idem]
    exact .early apart _ (.inr (.inr ⟨left, rfl⟩)) (.inl killed)
  have whole : LeftOver (world.files temp) (some content) content :=
    .inr (.inr ⟨content.length, by rw [List.take_length]⟩)
  rw [perform_reject_bind, if_neg Bool.true_eq_false.mp, Function.update_idem] at wrote
  obtain ⟨rest, renamed | ⟨left, failed | ⟨killed, rfl⟩⟩⟩ := call_cases wrote
  case inr.inr => exact .early apart _ whole (.inl killed)
  · rw [if_pos rfl] at renamed
    obtain ⟨ended, same⟩ := point_cases renamed
    rw [same]
    change Replacement target temp content _ world.files outcome (Function.update (Function.update
      (Function.update world.files temp (some content)) target
        (Function.update world.files temp (some content) temp)) temp none)
    rw [renamed_eq apart]
    exact .late apart ended
  · rw [if_neg Bool.false_eq_true.mp] at failed
    obtain ⟨rest, removed | ⟨left, kept | ⟨killed, rfl⟩⟩⟩ := call_cases failed
    · cases removed
      change Replacement target temp content _ world.files _
        (Function.update (Function.update world.files temp (some content)) temp none)
      rw [Function.update_idem]
      exact .early apart _ (.inr (.inl rfl)) (.inr ⟨notReplaced, by simp, rfl⟩)
    · cases kept
      exact .early apart _ whole (.inr ⟨notReplaced, by simp, rfl⟩)
    · exact .early apart _ whole (.inl killed)

/-- Undisturbed, the replacement returns. -/
theorem replace_undisturbed (apart : temp ≠ target) (files : Files κ β) :
    perform (replace target temp content notOpened notWritten notReplaced) ⟨files, []⟩ =
      (.ok (), ⟨Function.update (Function.update files target (some content)) temp none, []⟩) := by
  rw [← renamed_eq apart]
  unfold replace openTruncated write rename
  rw [perform_call_nil, perform_reject_bind, if_neg Bool.true_eq_false.mp, perform_call_nil,
    perform_reject_bind, if_neg Bool.true_eq_false.mp, perform_call_nil, if_pos rfl,
    Function.update_idem]
  rfl

end

end AtomicReplace

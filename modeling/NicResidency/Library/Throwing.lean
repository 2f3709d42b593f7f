import Mathlib

/-!
Methods of an object that return a value or throw. As with an exception, the
changes made before a throw stay, so a method that checks first and writes last
has to be shown to keep the state when it throws.
-/

namespace Throwing

variable {σ ε α β : Type}

/-- A method on a state `σ` that returns an `α` or throws an `ε`. -/
abbrev Method (σ ε α : Type) := ExceptT ε (StateM σ) α

/-- Call a method: its outcome and the state it leaves. -/
def perform (method : Method σ ε α) (state : σ) : Except ε α × σ :=
  (ExceptT.run method).run state

/-- Throw when a condition holds. -/
def reject (condition : Prop) [Decidable condition] (error : ε) : Method σ ε Unit :=
  if condition then throw error else pure ()

@[simp] theorem perform_pure (value : α) (state : σ) :
    perform (pure value : Method σ ε α) state = (.ok value, state) := rfl

@[simp] theorem perform_throw (error : ε) (state : σ) :
    perform (throw error : Method σ ε α) state = (.error error, state) := rfl

@[simp] theorem perform_modify (change : σ → σ) (state : σ) :
    perform (modify change : Method σ ε Unit) state = (.ok (), change state) := rfl

theorem perform_bind (method : Method σ ε α) (next : α → Method σ ε β) (state : σ) :
    perform (method >>= next) state =
      match perform method state with
      | (.ok value, reached) => perform (next value) reached
      | (.error error, reached) => (.error error, reached) := by
  simp only [perform, ExceptT.run, StateT.run, bind, ExceptT.bind, ExceptT.mk, StateT.bind]
  rcases method state with ⟨outcome, reached⟩
  cases outcome <;> rfl

theorem perform_ite (condition : Prop) [Decidable condition] (yes no : Method σ ε α) (state : σ) :
    perform (if condition then yes else no) state =
      if condition then perform yes state else perform no state := by
  split <;> rfl

/-! One rule for each kind of statement a method is written with. -/

@[simp] theorem perform_get_bind (next : σ → Method σ ε β) (state : σ) :
    perform (get >>= next) state = perform (next state) state := rfl

@[simp] theorem perform_modify_bind (change : σ → σ) (next : Unit → Method σ ε β) (state : σ) :
    perform ((modify change : Method σ ε Unit) >>= next) state =
      perform (next ()) (change state) := rfl

@[simp] theorem perform_reject_bind (condition : Prop) [Decidable condition] (error : ε)
    (next : Unit → Method σ ε β) (state : σ) :
    perform (reject condition error >>= next) state =
      if condition then (.error error, state) else perform (next ()) state := by
  by_cases stop : condition
  · simp only [reject, if_pos stop, perform_bind, perform_throw]
  · simp only [reject, if_neg stop, perform_bind, perform_pure]

theorem perform_tryCatch (method : Method σ ε α) (handler : ε → Method σ ε α) (state : σ) :
    perform (tryCatch method handler) state =
      match perform method state with
      | (.ok value, reached) => (.ok value, reached)
      | (.error error, reached) => perform (handler error) reached := by
  simp only [perform, ExceptT.run, StateT.run, tryCatch, tryCatchThe, MonadExceptOf.tryCatch,
    ExceptT.tryCatch, ExceptT.mk, bind, StateT.bind]
  rcases method state with ⟨outcome, reached⟩
  cases outcome <;> rfl

/-! Inversion: how a call of a method written with these statements came to its
outcome. -/

/-- Either the guard threw, or it was passed and the rest of the method ran. -/
theorem reject_cases {condition : Prop} [Decidable condition] {error : ε}
    {next : Unit → Method σ ε β} {state reached : σ} {outcome : Except ε β}
    (called : perform (reject condition error >>= next) state = (outcome, reached)) :
    (outcome = .error error ∧ reached = state) ∨
      (¬condition ∧ perform (next ()) state = (outcome, reached)) := by
  by_cases stop : condition
  · simp only [perform_reject_bind, if_pos stop, Prod.mk.injEq] at called
    exact .inl ⟨called.1.symm, called.2.symm⟩
  · simp only [perform_reject_bind, if_neg stop] at called
    exact .inr ⟨stop, called⟩

/-- A value that is passed on through a function is the value of the method. -/
theorem perform_map (change : α → β) (method : Method σ ε α) (state : σ) :
    perform (change <$> method) state =
      ((perform method state).1.map change, (perform method state).2) := by
  rw [map_eq_pure_bind, perform_bind]
  rcases perform method state with ⟨outcome, reached⟩
  cases outcome <;> rfl

theorem perform_discard (method : Method σ ε α) (state : σ) :
    perform (discard method) state =
      ((perform method state).1.map fun _ => PUnit.unit, (perform method state).2) :=
  perform_map _ method state

theorem map_cases {method : Method σ ε α} {change : α → β} {state reached : σ}
    {outcome : Except ε β}
    (called : perform (change <$> method) state = (outcome, reached)) :
    ∃ first, perform method state = (first, reached) ∧ outcome = first.map change := by
  rw [perform_map, Prod.mk.injEq] at called
  exact ⟨_, Prod.ext rfl called.2, called.1.symm⟩

theorem bind_eq_ok_iff {first : Except ε α} {next : α → Except ε β} {result : β} :
    (first >>= next) = .ok result ↔ ∃ value, first = .ok value ∧ next value = .ok result := by
  cases first with
  | error failure =>
    refine iff_of_false (nomatch ·) ?_
    intro found
    obtain ⟨value, absent, -⟩ := found
    cases absent
  | ok value =>
    simp only [Except.ok.injEq, exists_eq_left']
    rfl

/-- What returned after another computation, which then returned too. -/
theorem ok_of_bind {first : Except ε α} {next : α → Except ε β} {result : β}
    (returned : (first >>= next) = .ok result) :
    ∃ value, first = .ok value ∧ next value = .ok result := bind_eq_ok_iff.mp returned

/-- What returned after another method, which then returned too. -/
theorem returned_of_bind {method : Method σ ε α} {next : α → Method σ ε β} {state reached : σ}
    {result : β} (called : perform (method >>= next) state = (.ok result, reached)) :
    ∃ value middle, perform method state = (.ok value, middle) ∧
      perform (next value) middle = (.ok result, reached) := by
  rw [perform_bind] at called
  cases first : perform method state with
  | mk outcome middle =>
    rw [first] at called
    cases outcome with
    | error error => cases called
    | ok value => exact ⟨value, middle, rfl, called⟩

/-! Invariants: what a method leaves in place, whether it returns or throws. -/

def Keeps (inv : σ → Prop) (method : Method σ ε α) : Prop :=
  ∀ state, inv state → inv (perform method state).2

section
variable {inv : σ → Prop}

theorem Keeps.reached {method : Method σ ε α} {state reached : σ} {outcome : Except ε α}
    (kept : Keeps inv method) (holds : inv state)
    (called : perform method state = (outcome, reached)) : inv reached := by
  have after := kept state holds
  rwa [called] at after

theorem keeps_pure (value : α) : Keeps inv (pure value : Method σ ε α) := fun _ holds => holds

theorem keeps_throw (error : ε) : Keeps inv (throw error : Method σ ε α) := fun _ holds => holds

theorem keeps_get : Keeps inv (get : Method σ ε σ) := fun _ holds => holds

theorem keeps_modify {change : σ → σ} (kept : ∀ state, inv state → inv (change state)) :
    Keeps inv (modify change : Method σ ε Unit) := kept

theorem keeps_bind {method : Method σ ε α} {next : α → Method σ ε β} (first : Keeps inv method)
    (rest : ∀ value, Keeps inv (next value)) : Keeps inv (method >>= next) := by
  intro state holds
  have middle := first state holds
  rw [perform_bind]
  cases called : perform method state with
  | mk outcome reached =>
    rw [called] at middle
    cases outcome with
    | ok value => exact rest value reached middle
    | error error => exact middle

theorem keeps_map {method : Method σ ε α} (change : α → β) (first : Keeps inv method) :
    Keeps inv (change <$> method) := by
  intro state holds
  rw [perform_map]
  exact first state holds

theorem keeps_tryCatch {method : Method σ ε α} {handler : ε → Method σ ε α}
    (first : Keeps inv method) (rest : ∀ error, Keeps inv (handler error)) :
    Keeps inv (tryCatch method handler) := by
  intro state holds
  have middle := first state holds
  rw [perform_tryCatch]
  cases called : perform method state with
  | mk outcome reached =>
    rw [called] at middle
    cases outcome with
    | ok value => exact middle
    | error error => exact rest error reached middle

theorem keeps_ofExcept (outcome : Except ε α) : Keeps inv (ofExcept outcome : Method σ ε α) := by
  cases outcome with
  | ok value => exact keeps_pure value
  | error error => exact keeps_throw error

theorem keeps_ite {condition : Prop} [Decidable condition] {yes no : Method σ ε α}
    (first : Keeps inv yes) (second : Keeps inv no) : Keeps inv (if condition then yes else no) := by
  split
  · exact first
  · exact second

end

end Throwing

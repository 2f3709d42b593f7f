import Mathlib

/-!
Deterministic machines that answer every input with an outcome and a next
state. A run keeps one event for each input, with the states around it, so that
a law about a whole history can be stated about the list of its events.
-/

namespace StateMachine

variable {σ ι ω : Type*}

/-- One performed input with the states before and after it. -/
structure Event (σ ι ω : Type*) where
  pre : σ
  input : ι
  outcome : ω
  post : σ

/-- The event of performing one input in one state. -/
def Event.at (step : σ → ι → ω × σ) (state : σ) (input : ι) : Event σ ι ω :=
  ⟨state, input, (step state input).1, (step state input).2⟩

@[simp] theorem Event.at_pre (step : σ → ι → ω × σ) (state : σ) (input : ι) :
    (Event.at step state input).pre = state := rfl

@[simp] theorem Event.at_input (step : σ → ι → ω × σ) (state : σ) (input : ι) :
    (Event.at step state input).input = input := rfl

@[simp] theorem Event.at_outcome (step : σ → ι → ω × σ) (state : σ) (input : ι) :
    (Event.at step state input).outcome = (step state input).1 := rfl

@[simp] theorem Event.at_post (step : σ → ι → ω × σ) (state : σ) (input : ι) :
    (Event.at step state input).post = (step state input).2 := rfl

/-- The state after a list of inputs. -/
def exec (step : σ → ι → ω × σ) : σ → List ι → σ
  | state, [] => state
  | state, input :: rest => exec step (step state input).2 rest

/-- The history of a list of inputs. -/
def events (step : σ → ι → ω × σ) : σ → List ι → List (Event σ ι ω)
  | _, [] => []
  | state, input :: rest => Event.at step state input :: events step (step state input).2 rest

section
variable (step : σ → ι → ω × σ)

@[simp] theorem exec_nil (state : σ) : exec step state [] = state := rfl

@[simp] theorem exec_cons (state : σ) (input : ι) (rest : List ι) :
    exec step state (input :: rest) = exec step (step state input).2 rest := rfl

@[simp] theorem events_nil (state : σ) : events step state [] = [] := rfl

@[simp] theorem events_cons (state : σ) (input : ι) (rest : List ι) :
    events step state (input :: rest) =
      Event.at step state input :: events step (step state input).2 rest := rfl

@[simp] theorem exec_append (state : σ) (first second : List ι) :
    exec step state (first ++ second) = exec step (exec step state first) second := by
  induction first generalizing state with
  | nil => rfl
  | cons input rest ih => simp only [List.cons_append, exec_cons, ih]

@[simp] theorem events_append (state : σ) (first second : List ι) :
    events step state (first ++ second) =
      events step state first ++ events step (exec step state first) second := by
  induction first generalizing state with
  | nil => rfl
  | cons input rest ih => simp only [List.cons_append, events_cons, exec_cons, ih]

/-- Every event of a run is the event of one of its inputs, in the state which
the inputs before it reach. -/
theorem mem_events_iff (state : σ) (inputs : List ι) (event : Event σ ι ω) :
    event ∈ events step state inputs ↔
      ∃ before input after, inputs = before ++ input :: after ∧
        event = Event.at step (exec step state before) input := by
  constructor
  · intro member
    induction inputs generalizing state with
    | nil => simp at member
    | cons input rest ih =>
      rcases List.mem_cons.mp member with first | later
      · exact ⟨[], input, rest, rfl, first⟩
      · obtain ⟨before, next, after, split, same⟩ := ih _ later
        exact ⟨input :: before, next, after, by simp [split], by simpa using same⟩
  · intro found
    obtain ⟨before, input, after, rfl, rfl⟩ := found
    simp

end

section
variable {step : σ → ι → ω × σ}

/-- What one step preserves, under a condition on its event, a run preserves
whose events all meet the condition. -/
theorem invariant_exec (inv : σ → Prop) (allowed : Event σ ι ω → Prop)
    (preserved : ∀ state input, inv state → allowed (Event.at step state input) →
      inv (step state input).2)
    {state : σ} (start : inv state) (inputs : List ι)
    (met : ∀ event ∈ events step state inputs, allowed event) :
    inv (exec step state inputs) := by
  induction inputs generalizing state with
  | nil => exact start
  | cons input rest ih =>
    have head := met _ (List.mem_cons_self ..)
    exact ih (preserved state input start head)
      (fun event member => met event (List.mem_cons_of_mem _ member))

/-- An invariant that ties the state to the history behind it. The step case
appends the event of the step to the history. -/
theorem history_invariant (inv : List (Event σ ι ω) → σ → Prop) (allowed : Event σ ι ω → Prop)
    (preserved : ∀ history state input, inv history state → allowed (Event.at step state input) →
      inv (history ++ [Event.at step state input]) (step state input).2)
    {state : σ} (start : inv [] state) (inputs : List ι)
    (met : ∀ event ∈ events step state inputs, allowed event) :
    inv (events step state inputs) (exec step state inputs) := by
  suffices general : ∀ history state, inv history state →
      (∀ event ∈ events step state inputs, allowed event) →
      inv (history ++ events step state inputs) (exec step state inputs) by
    simpa using general [] state start met
  clear start met state
  induction inputs with
  | nil =>
    intro history state start _
    simpa using start
  | cons input rest ih =>
    intro history state start met
    have head := met _ (List.mem_cons_self ..)
    have tail := ih _ _ (preserved history state input start head)
      (fun event member => met event (List.mem_cons_of_mem _ member))
    simpa using tail

/-- A reflexive and transitive relation that holds across each step holds across
a run. -/
theorem relation_exec (rel : σ → σ → Prop) (reflexive : ∀ state, rel state state)
    (transitive : ∀ {a b c}, rel a b → rel b c → rel a c) (allowed : Event σ ι ω → Prop)
    (across : ∀ state input, allowed (Event.at step state input) → rel state (step state input).2)
    (state : σ) (inputs : List ι) (met : ∀ event ∈ events step state inputs, allowed event) :
    rel state (exec step state inputs) :=
  invariant_exec (fun reached => rel state reached) allowed
    (fun _ _ so_far head => transitive so_far (across _ _ head)) (reflexive state) inputs met

/-- Two snapshots of a run, in one order or the other. -/
theorem relation_snapshots (rel : σ → σ → Prop) (reflexive : ∀ state, rel state state)
    (transitive : ∀ {a b c}, rel a b → rel b c → rel a c) (allowed : Event σ ι ω → Prop)
    (across : ∀ state input, allowed (Event.at step state input) → rel state (step state input).2)
    (state : σ) {inputs first second : List ι} (one : first <+: inputs) (two : second <+: inputs)
    (met : ∀ event ∈ events step state inputs, allowed event) :
    rel (exec step state first) (exec step state second) ∨
      rel (exec step state second) (exec step state first) := by
  have later {early late : List ι} (shorter : early <+: late) (inside : late <+: inputs) :
      rel (exec step state early) (exec step state late) := by
    obtain ⟨between, rfl⟩ := shorter
    obtain ⟨rest, rfl⟩ := inside
    rw [exec_append]
    refine relation_exec rel reflexive transitive allowed across _ between (fun event member => ?_)
    exact met event (by simp [member])
  rcases List.prefix_or_prefix_of_prefix one two with shorter | shorter
  · exact .inl (later shorter two)
  · exact .inr (later shorter one)

/-- A condition that only some kind of event can end still holds after a run,
unless the run has an event of that kind. -/
theorem latch (held : σ → Prop) (allowed releases : Event σ ι ω → Prop)
    (kept : ∀ state input, held state → allowed (Event.at step state input) →
      held (step state input).2 ∨ releases (Event.at step state input))
    {state : σ} (start : held state) (inputs : List ι)
    (met : ∀ event ∈ events step state inputs, allowed event) :
    held (exec step state inputs) ∨ ∃ event ∈ events step state inputs, releases event := by
  induction inputs generalizing state with
  | nil => exact .inl start
  | cons input rest ih =>
    have head := met _ (List.mem_cons_self ..)
    rcases kept state input start head with still | release
    · rcases ih still (fun event member => met event (List.mem_cons_of_mem _ member)) with
        done | ⟨event, member, release⟩
      · exact .inl done
      · exact .inr ⟨event, List.mem_cons_of_mem _ member, release⟩
    · exact .inr ⟨_, List.mem_cons_self .., release⟩

end

/-! Conditions on all states of a run. -/

section
variable {step : σ → ι → ω × σ} {cond : σ → Prop}

/-- The condition holds in every state of the run, the first one included. -/
def Throughout (step : σ → ι → ω × σ) (cond : σ → Prop) (state : σ) (inputs : List ι) : Prop :=
  ∀ before rest, inputs = before ++ rest → cond (exec step state before)

theorem throughout_nil (state : σ) : Throughout step cond state [] ↔ cond state := by
  constructor
  · intro throughout
    exact throughout [] [] rfl
  · intro holds before rest split
    obtain ⟨rfl, -⟩ := List.append_eq_nil_iff.mp split.symm
    exact holds

theorem throughout_cons (state : σ) (input : ι) (rest : List ι) :
    Throughout step cond state (input :: rest) ↔
      cond state ∧ Throughout step cond (step state input).2 rest := by
  constructor
  · intro throughout
    exact ⟨throughout [] (input :: rest) rfl,
      fun before after split => throughout (input :: before) after (by rw [split, List.cons_append])⟩
  · intro holds before after split
    obtain ⟨head, tail⟩ := holds
    cases before with
    | nil => exact head
    | cons first before =>
      obtain ⟨rfl, behind⟩ := List.cons.inj split
      exact tail before after behind

/-- A condition that a step with an allowed event keeps exactly when the event spares it
holds throughout exactly those runs of allowed events that all spare it. -/
theorem throughout_iff_of_allowed (allowed spares : Event σ ι ω → Prop)
    (exact_step : ∀ state input, cond state → allowed (Event.at step state input) →
      (cond (step state input).2 ↔ spares (Event.at step state input)))
    {state : σ} (start : cond state) (inputs : List ι)
    (met : ∀ event ∈ events step state inputs, allowed event) :
    Throughout step cond state inputs ↔ ∀ event ∈ events step state inputs, spares event := by
  induction inputs generalizing state with
  | nil => simp [throughout_nil, start]
  | cons input rest ih =>
    rw [events_cons, List.forall_mem_cons] at met
    obtain ⟨head, later⟩ := met
    rw [throughout_cons, events_cons, List.forall_mem_cons, ← exact_step state input start head]
    constructor
    · intro holds
      obtain ⟨-, tail⟩ := holds
      have next := tail [] rest rfl
      exact ⟨next, (ih next later).mp tail⟩
    · intro spared
      obtain ⟨next, tail⟩ := spared
      exact ⟨start, (ih next later).mpr tail⟩

theorem throughout_iff (spares : Event σ ι ω → Prop)
    (exact_step : ∀ state input, cond state →
      (cond (step state input).2 ↔ spares (Event.at step state input)))
    {state : σ} (start : cond state) (inputs : List ι) :
    Throughout step cond state inputs ↔ ∀ event ∈ events step state inputs, spares event :=
  throughout_iff_of_allowed (fun _ => True) spares (fun s input held _ => exact_step s input held)
    start inputs (fun _ _ => trivial)

end

/-! The inputs that a predicate of the state before them selects can be deleted
from a run without a trace when they change nothing. -/

section
variable (step : σ → ι → ω × σ) (idle : σ → ι → Bool)

/-- Delete every input that is idle in the state in which the run performs it. -/
def prune : σ → List ι → List ι
  | _, [] => []
  | state, input :: rest =>
      if idle state input then prune (step state input).2 rest
      else input :: prune (step state input).2 rest

variable {step idle}

theorem exec_prune (still : ∀ state input, idle state input = true → (step state input).2 = state)
    (state : σ) (inputs : List ι) :
    exec step state (prune step idle state inputs) = exec step state inputs := by
  induction inputs generalizing state with
  | nil => rfl
  | cons input rest ih =>
    by_cases quiet : idle state input = true
    · simp only [prune, if_pos quiet, exec_cons, still state input quiet, ih]
    · simp only [prune, if_neg quiet, exec_cons, ih]

/-- The pruned run performs the remaining inputs in the same states and with the
same outcomes. -/
theorem events_prune (still : ∀ state input, idle state input = true → (step state input).2 = state)
    (state : σ) (inputs : List ι) :
    events step state (prune step idle state inputs) =
      (events step state inputs).filter (fun event => !idle event.pre event.input) := by
  induction inputs generalizing state with
  | nil => rfl
  | cons input rest ih =>
    by_cases quiet : idle state input = true
    · simp [prune, quiet, still state input quiet, ih]
    · simp [prune, quiet, ih]

end

/-! The most recent event of a kind. -/

/-- The last event of a history that satisfies a test. -/
def latest (test : Event σ ι ω → Bool) (history : List (Event σ ι ω)) : Option (Event σ ι ω) :=
  history.reverse.find? test

@[simp] theorem latest_nil (test : Event σ ι ω → Bool) :
    latest test ([] : List (Event σ ι ω)) = none := rfl

@[simp] theorem latest_append_singleton (test : Event σ ι ω → Bool) (history : List (Event σ ι ω))
    (event : Event σ ι ω) :
    latest test (history ++ [event]) = if test event then some event else latest test history := by
  by_cases hit : test event = true <;> simp [latest, hit]

end StateMachine

import NicResidency.Library.StateMachine
import NicResidency.Library.Throwing

/-!
Machines that several parties share. When every input either leaves a party's view of
the state alone or acts on the view as it acts on the whole state, a run shows the party
what the machine shows it on its view with the inputs of the others deleted.
-/

namespace Noninterference
open StateMachine Throwing

section
variable {σ ι ω δ : Type*}

/-- What one step of a machine has to do for the views of the parties to be independent.
A step whose outcome is not `complete` is not answered for. -/
structure Unwinding (step : σ → ι → ω × σ) (inv : σ → Prop) (allowed : ι → Prop)
    (concerns : δ → ι → Bool) (view : δ → σ → σ) (complete : ω → Prop) : Prop where
  kept : ∀ state input, inv state → allowed input → inv (step state input).2
  hidden : ∀ party state input, inv state → allowed input → concerns party input = false →
    view party (step state input).2 = view party state
  seen : ∀ party state input, inv state → allowed input → concerns party input = true →
    complete (step state input).1 →
      step (view party state) input = ((step state input).1, view party (step state input).2)

/-- An event with the states around it replaced by views of them. -/
def viewed (view : σ → σ) (event : Event σ ι ω) : Event σ ι ω :=
  ⟨view event.pre, event.input, event.outcome, view event.post⟩

variable {step : σ → ι → ω × σ} {inv : σ → Prop} {allowed : ι → Prop} {concerns : δ → ι → Bool}
  {view : δ → σ → σ} {complete : ω → Prop}

/-- The party's own run and the shared run, seen by the party, are the same. -/
theorem Unwinding.private_run (unwinding : Unwinding step inv allowed concerns view complete)
    (party : δ) {state : σ} (start : inv state) (inputs : List ι)
    (met : ∀ input ∈ inputs, allowed input)
    (completed : ∀ event ∈ events step state inputs,
      concerns party event.input = true → complete event.outcome) :
    exec step (view party state) (inputs.filter (concerns party)) =
        view party (exec step state inputs) ∧
      events step (view party state) (inputs.filter (concerns party)) =
        ((events step state inputs).filter (fun event => concerns party event.input)).map
          (viewed (view party)) := by
  induction inputs generalizing state with
  | nil => exact ⟨rfl, rfl⟩
  | cons input rest ih =>
    rw [List.forall_mem_cons] at met
    obtain ⟨fits, later⟩ := met
    rw [events_cons, List.forall_mem_cons] at completed
    obtain ⟨head, tail⟩ := completed
    have onward := ih (unwinding.kept state input start fits) later tail
    by_cases own : concerns party input = true
    · have same := unwinding.seen party state input start fits own (head own)
      simp only [List.filter_cons, events_cons, exec_cons, Event.at_input, own, if_true, same,
        List.map_cons]
      refine ⟨onward.1, ?_⟩
      rw [onward.2]
      simp only [Event.at, viewed, same]
    · have foreign : concerns party input = false := by simpa using own
      simp only [List.filter_cons, events_cons, exec_cons, Event.at_input, foreign,
        Bool.false_eq_true, if_false]
      rwa [unwinding.hidden party state input start fits foreign] at onward

/-- Two orders in which every party finds its own inputs in the same order look the same
to every party. -/
theorem Unwinding.interleaving (unwinding : Unwinding step inv allowed concerns view complete)
    {state : σ} (start : inv state) {first second : List ι}
    (reordered : ∀ party, first.filter (concerns party) = second.filter (concerns party))
    (metFirst : ∀ input ∈ first, allowed input) (metSecond : ∀ input ∈ second, allowed input)
    (completedFirst : ∀ event ∈ events step state first, complete event.outcome)
    (completedSecond : ∀ event ∈ events step state second, complete event.outcome) (party : δ) :
    view party (exec step state first) = view party (exec step state second) ∧
      ((events step state first).filter (fun event => concerns party event.input)).map
          (viewed (view party)) =
        ((events step state second).filter (fun event => concerns party event.input)).map
          (viewed (view party)) := by
  have one := unwinding.private_run party start first metFirst
    (fun event member _ => completedFirst event member)
  have two := unwinding.private_run party start second metSecond
    (fun event member _ => completedSecond event member)
  rw [reordered party] at one
  exact ⟨one.1.symm.trans two.1, one.2.symm.trans two.2⟩

end

/-! Methods that do on the image of a state what others do on the state, except where
those throw an error of a kind that is not answered for. -/

section
variable {σ ε α β : Type}

/-- The outcome is not an error of the given kind. -/
def Spares (kind : ε → Prop) (outcome : Except ε α) : Prop :=
  ∀ error, outcome = .error error → ¬kind error

def Mirrors (image : σ → σ) (kind : ε → Prop) (small large : Method σ ε α) (state : σ) : Prop :=
  Spares kind (perform large state).1 →
    perform small (image state) = ((perform large state).1, image (perform large state).2)

variable {image : σ → σ} {kind : ε → Prop} {state : σ}

theorem mirrors_pure (value : α) : Mirrors image kind (pure value) (pure value) state :=
  fun _ => rfl

theorem mirrors_throw (error : ε) :
    Mirrors image kind (throw error : Method σ ε α) (throw error) state := fun _ => rfl

theorem mirrors_modify {small large : σ → σ} (same : small (image state) = image (large state)) :
    Mirrors image kind (modify small) (modify large) state := by
  intro _
  rw [perform_modify, perform_modify, same]

theorem mirrors_get_bind {small large : σ → Method σ ε β}
    (next : Mirrors image kind (small (image state)) (large state) state) :
    Mirrors image kind (get >>= small) (get >>= large) state := next

theorem mirrors_modify_bind {small large : σ → σ} {next next' : Unit → Method σ ε β}
    (same : small (image state) = image (large state))
    (later : Mirrors image kind (next ()) (next' ()) (large state)) :
    Mirrors image kind (modify small >>= next) (modify large >>= next') state := by
  intro spared
  rw [perform_modify_bind, perform_modify_bind, same]
  exact later spared

/-- A guard with the same verdict on the image. -/
theorem mirrors_reject_bind {small large : Prop} [Decidable small] [Decidable large] {error : ε}
    {next next' : Unit → Method σ ε β} (same : small ↔ large)
    (later : ¬large → Mirrors image kind (next ()) (next' ()) state) :
    Mirrors image kind (reject small error >>= next) (reject large error >>= next') state := by
  intro spared
  rw [perform_reject_bind] at spared ⊢
  rw [perform_reject_bind]
  by_cases stop : large
  · rw [if_pos stop, if_pos (same.mpr stop)]
  · rw [if_neg stop] at spared ⊢
    rw [if_neg (fun held => stop (same.mp held))]
    exact later stop spared

/-- A guard that may stop the method on the whole state only. -/
theorem mirrors_limit_bind {small large : Prop} [Decidable small] [Decidable large] {error : ε}
    {next next' : Unit → Method σ ε β} (limit : kind error) (weaker : small → large)
    (later : ¬large → Mirrors image kind (next ()) (next' ()) state) :
    Mirrors image kind (reject small error >>= next) (reject large error >>= next') state := by
  intro spared
  rw [perform_reject_bind] at spared ⊢
  rw [perform_reject_bind]
  by_cases stop : large
  · rw [if_pos stop] at spared
    exact absurd limit (spared error rfl)
  · rw [if_neg stop] at spared ⊢
    rw [if_neg (fun held => stop (weaker held))]
    exact later stop spared

theorem mirrors_map (change : α → β) {small large : Method σ ε α}
    (same : Mirrors image kind small large state) :
    Mirrors image kind (change <$> small) (change <$> large) state := by
  intro spared
  rw [perform_map] at spared ⊢
  rw [perform_map]
  have inner : Spares kind (perform large state).1 := by
    intro error threw
    exact spared error (by rw [threw]; rfl)
  rw [same inner]

end

end Noninterference

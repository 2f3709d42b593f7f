import Mathlib

/-!
Chains of references. Every element leads to at most one next element, and a chase
follows these references until it comes to an element that leads nowhere. Without
a cycle every chase ends; chases that meet go on together.
-/

namespace Ancestry
open Relation

variable {α β : Type*} (next : α → Option α)

/-- Follow the references, at most so many, and collect what is visited. An element
that leads nowhere is not visited. -/
def chase (visit : β → α → β) : Nat → α → β → Option β
  | 0, a, found => if (next a).isSome then none else some found
  | fuel + 1, a, found =>
    match next a with
    | none => some found
    | some b => chase visit fuel b (visit found a)

/-- The elements that a chase visits, in order. -/
inductive Trail : α → List α → Prop where
  | stop {a : α} : next a = none → Trail a []
  | step {a b : α} {rest : List α} : next a = some b → Trail b rest → Trail a (a :: rest)

/-- One reference leads from the first element to the second. -/
def Link (a b : α) : Prop := next a = some b

instance [DecidableEq α] : DecidableRel (Link next) :=
  fun a b => inferInstanceAs (Decidable (next a = some b))

/-- No references lead from an element back to it. -/
def Acyclic : Prop := ∀ a, ¬TransGen (Link next) a a

variable {next} {a b c : α} {trail other : List α}

theorem Trail.unique (first : Trail next a trail) (second : Trail next a other) : trail = other := by
  induction first generalizing other with
  | stop ended =>
    cases second with
    | stop => rfl
    | step leads => simp [ended] at leads
  | step leads _ ih =>
    cases second with
    | stop ended => simp [leads] at ended
    | step leads' rest =>
      rw [leads, Option.some.injEq] at leads'
      subst leads'
      rw [ih rest]

/-- With enough fuel a chase collects its trail. -/
theorem Trail.chase_eq {visit : β → α → β} {fuel : Nat} {found : β} (trails : Trail next a trail)
    (enough : trail.length ≤ fuel) : chase next visit fuel a found = some (trail.foldl visit found) := by
  induction trails generalizing fuel found with
  | stop ended => cases fuel <;> simp [chase, ended]
  | step leads _ ih =>
    cases fuel with
    | zero => simp at enough
    | succ fuel =>
      simp only [chase, leads]
      exact ih (Nat.le_of_succ_le_succ enough)

theorem trail_of_chase {visit : β → α → β} {fuel : Nat} {found result : β}
    (ends : chase next visit fuel a found = some result) :
    ∃ trail, Trail next a trail ∧ trail.length ≤ fuel := by
  induction fuel generalizing a found with
  | zero =>
    cases leads : next a with
    | none => exact ⟨[], .stop leads, le_rfl⟩
    | some b => simp [chase, leads] at ends
  | succ fuel ih =>
    cases leads : next a with
    | none => exact ⟨[], .stop leads, Nat.zero_le _⟩
    | some b =>
      simp only [chase, leads] at ends
      obtain ⟨rest, trails, short⟩ := ih ends
      exact ⟨a :: rest, .step leads trails, Nat.succ_le_succ short⟩

/-- What lies ahead has a shorter trail. -/
theorem Trail.shorter (trails : Trail next a trail) (ahead : TransGen (Link next) a b) :
    ∃ rest, Trail next b rest ∧ rest.length < trail.length := by
  induction ahead with
  | single leads =>
    cases trails with
    | stop ended => simp [Link, ended] at leads
    | step leads' rest =>
      rw [Link, leads', Option.some.injEq] at leads
      subst leads
      exact ⟨_, rest, Nat.lt_succ_self _⟩
  | tail _ leads ih =>
    obtain ⟨rest, trails', less⟩ := ih
    cases trails' with
    | stop ended => simp [Link, ended] at leads
    | step leads' rest' =>
      rw [Link, leads', Option.some.injEq] at leads
      subst leads
      exact ⟨_, rest', (Nat.lt_succ_self _).trans less⟩

theorem Trail.no_return (trails : Trail next a trail) : ¬TransGen (Link next) a a := by
  intro back
  obtain ⟨rest, trails', less⟩ := trails.shorter back
  rw [trails.unique trails'] at less
  exact lt_irrefl _ less

/-- References that always lead to something smaller lead to no cycle. -/
theorem acyclic_of_decreasing (size : α → Nat) (smaller : ∀ a b, next a = some b → size b < size a) :
    Acyclic next := by
  have ahead {a b : α} (leads : TransGen (Link next) a b) : size b < size a := by
    induction leads with
    | single leads => exact smaller _ _ leads
    | tail _ leads ih => exact (smaller _ _ leads).trans ih
  exact fun a back => lt_irrefl _ (ahead back)

/-- From any visited element the chase goes on in the same way. -/
theorem Trail.split (trails : Trail next a trail) (visited : c ∈ trail) :
    ∃ before rest, trail = before ++ rest ∧ Trail next c rest ∧ c ∈ rest := by
  induction trails with
  | stop => simp at visited
  | @step a b rest leads trails ih =>
    rcases List.mem_cons.mp visited with rfl | later
    · exact ⟨[], c :: rest, rfl, .step leads trails, visited⟩
    · obtain ⟨before, rest', rfl, trails', member⟩ := ih later
      exact ⟨a :: before, rest', rfl, trails', member⟩

/-- The visited elements are those that lie ahead and lead somewhere. -/
theorem Trail.mem_iff (trails : Trail next a trail) :
    c ∈ trail ↔ ReflTransGen (Link next) a c ∧ (next c).isSome = true := by
  induction trails with
  | @stop a ended =>
    simp only [List.not_mem_nil, false_iff, not_and]
    intro ahead
    rcases ahead.cases_head with rfl | ⟨b, leads, -⟩
    · simp [ended]
    · simp [Link, ended] at leads
  | @step a b rest leads _ ih =>
    rw [List.mem_cons, ih]
    constructor
    · rintro (rfl | ⟨ahead, further⟩)
      · exact ⟨.refl, by simp [leads]⟩
      · exact ⟨.head leads ahead, further⟩
    · rintro ⟨ahead, further⟩
      rcases ahead.cases_head with rfl | ⟨b', leads', ahead'⟩
      · exact .inl rfl
      · rw [Link, leads, Option.some.injEq] at leads'
        subst leads'
        exact .inr ⟨ahead', further⟩

theorem Trail.nodup (trails : Trail next a trail) : trail.Nodup := by
  induction trails with
  | stop => exact List.nodup_nil
  | @step a b rest leads trails ih =>
    refine List.nodup_cons.mpr ⟨fun again => ?_, ih⟩
    have ahead := (trails.mem_iff.mp again).1
    exact (Trail.step leads trails).no_return (.head' leads ahead)

/-- A trail visits no more elements than there are. -/
theorem Trail.length_le (trails : Trail next a trail) (elements : Finset α)
    (all : ∀ c, (next c).isSome = true → c ∈ elements) : trail.length ≤ elements.card := by
  classical
  rw [← List.toFinset_card_of_nodup trails.nodup]
  apply Finset.card_le_card
  intro c visited
  exact all c (trails.mem_iff.mp (List.mem_toFinset.mp visited)).2

/-- Without a cycle every chase through finitely many elements ends. -/
theorem Acyclic.exists_trail (acyclic : Acyclic next) (elements : Finset α)
    (all : ∀ c, (next c).isSome = true → c ∈ elements) (a : α) : ∃ trail, Trail next a trail := by
  have wellFounded : WellFounded fun x y : elements => TransGen (Link next) y.1 x.1 := by
    have transitive : IsTrans elements fun x y => TransGen (Link next) y.1 x.1 :=
      ⟨fun _ _ _ first second => second.trans first⟩
    have irreflexive : Std.Irrefl fun x y : elements => TransGen (Link next) y.1 x.1 :=
      ⟨fun x => acyclic x.1⟩
    exact Finite.wellFounded_of_trans_of_irrefl _
  have inside : ∀ x : elements, ∃ trail, Trail next x.1 trail := by
    intro x
    induction x using wellFounded.induction with
    | _ x ih =>
      cases leads : next x.1 with
      | none => exact ⟨[], .stop leads⟩
      | some b =>
        cases further : next b with
        | none => exact ⟨[x.1], .step leads (.stop further)⟩
        | some =>
          obtain ⟨trail, trails⟩ := ih ⟨b, all b (by simp [further])⟩ (.single leads)
          exact ⟨x.1 :: trail, .step leads trails⟩
  cases leads : next a with
  | none => exact ⟨[], .stop leads⟩
  | some b => exact inside ⟨a, all a (by simp [leads])⟩

/-! The last element of a kind on a trail. -/

/-- The last element with a property, or the given one. -/
def latest (property : α → Bool) (start : α) (trail : List α) : α :=
  trail.foldl (fun found c => if property c then c else found) start

variable {property : α → Bool} {start : α}

theorem latest_append (before rest : List α) :
    latest property start (before ++ rest) = latest property (latest property start before) rest :=
  List.foldl_append ..

theorem latest_mem (property : α → Bool) (start : α) (trail : List α) :
    latest property start trail = start ∨
      latest property start trail ∈ trail ∧ property (latest property start trail) = true := by
  induction trail generalizing start with
  | nil => exact .inl rfl
  | cons c rest ih =>
    have steps : latest property start (c :: rest) =
        latest property (if property c then c else start) rest := rfl
    rw [steps]
    rcases ih (if property c then c else start) with same | ⟨member, holds⟩
    · rw [same]
      by_cases here : property c = true
      · rw [if_pos here]
        exact .inr ⟨List.mem_cons_self .., here⟩
      · rw [if_neg here]
        exact .inl rfl
    · exact .inr ⟨List.mem_cons_of_mem _ member, holds⟩

/-- Once an element has the property, the start no longer counts. -/
theorem latest_of_mem (first second : α) (member : c ∈ trail) (holds : property c = true) :
    latest property first trail = latest property second trail := by
  induction trail generalizing first second with
  | nil => cases member
  | cons d rest ih =>
    change latest property (if property d then d else first) rest =
      latest property (if property d then d else second) rest
    rcases List.mem_cons.mp member with rfl | later
    · rw [if_pos holds, if_pos holds]
    · exact ih _ _ later

theorem latest_visited (start : α) (member : c ∈ trail) (holds : property c = true) :
    latest property start trail ∈ trail := by
  rw [latest_of_mem start c member holds]
  rcases latest_mem property c trail with same | ⟨visited, -⟩
  · rw [same]
    exact member
  · exact visited

/-- Two trails have the same last element with a property exactly when they share
one. -/
theorem latest_shared (outside : next start = none) (first : Trail next a trail)
    (second : Trail next b other) :
    latest property start trail ≠ start ∧
        latest property start trail = latest property start other ↔
      ∃ c ∈ trail, c ∈ other ∧ property c = true := by
  constructor
  · rintro ⟨found, same⟩
    obtain ⟨member, holds⟩ := (latest_mem property start trail).resolve_left found
    rw [same] at found
    have member' := ((latest_mem property start other).resolve_left found).1
    exact ⟨_, member, same ▸ member', holds⟩
  · rintro ⟨c, member, member', holds⟩
    obtain ⟨before, rest, rfl, trails, ahead⟩ := first.split member
    obtain ⟨before', rest', rfl, trails', -⟩ := second.split member'
    obtain rfl := trails.unique trails'
    rw [latest_append, latest_append]
    refine ⟨?_, latest_of_mem _ _ ahead holds⟩
    intro missing
    have visited := latest_visited (latest property start before) ahead holds
    rw [missing, trails.mem_iff] at visited
    simp [outside] at visited

/-! The nearest element of a kind. -/

variable (next property start) in
/-- An element with the property that a chase from the first one visits. -/
def Ahead (a c : α) : Prop := ReflTransGen (Link next) a c ∧ (next c).isSome = true ∧ property c = true

variable (next property start) in
/-- The element ahead with all the others ahead of it, or the given one when there is
none. -/
def Nearest (a c : α) : Prop :=
  Ahead next property a c ∧ (∀ d, Ahead next property a d → ReflTransGen (Link next) c d) ∨
    c = start ∧ ∀ d, ¬Ahead next property a d

variable (next property) in
/-- No two elements with the property lie ahead. -/
def Unnested (a : α) : Prop := ∀ c d, Ahead next property a c → Ahead next property a d → c = d

/-- An element with the property is the nearest to itself. -/
theorem nearest_self (leads : (next a).isSome = true) (holds : property a = true) :
    Nearest next property start a a :=
  .inl ⟨⟨.refl, leads, holds⟩, fun _ ahead => ahead.1⟩

theorem ahead_step_iff (leads : next a = some b) (fails : property a = false) :
    Ahead next property a d ↔ Ahead next property b d := by
  unfold Ahead
  refine and_congr_left fun kept => ⟨fun there => ?_, fun there => .head leads there⟩
  rcases there.cases_head with rfl | ⟨b', leads', onward⟩
  · rw [fails] at kept
    cases kept.2
  · rw [Link, leads, Option.some.injEq] at leads'
    rwa [leads']

/-- Without the property, an element has the nearest one of the element that it leads to. -/
theorem nearest_step_iff (leads : next a = some b) (fails : property a = false) :
    Nearest next property start a c ↔ Nearest next property start b c := by
  simp only [Nearest, ahead_step_iff leads fails]

theorem Trail.ahead_iff (trails : Trail next a trail) :
    Ahead next property a c ↔ c ∈ trail ∧ property c = true := by
  rw [Ahead, ← and_assoc, trails.mem_iff]

/-- The last element with the property lies ahead of every other one. -/
theorem Trail.latest_ahead (trails : Trail next a trail) (ahead : Ahead next property a c) :
    ReflTransGen (Link next) c (latest property start trail) := by
  obtain ⟨member, holds⟩ := trails.ahead_iff.mp ahead
  obtain ⟨before, rest, rfl, onward, again⟩ := trails.split member
  rw [latest_append]
  exact (onward.mem_iff.mp (latest_visited _ again holds)).1

theorem Trail.latest_holds (trails : Trail next a trail) (outside : next start = none)
    (ahead : Ahead next property a c) : Ahead next property a (latest property start trail) := by
  obtain ⟨member, holds⟩ := trails.ahead_iff.mp ahead
  have visited := latest_visited start member holds
  have leads := (trails.mem_iff.mp visited).2
  rcases latest_mem property start trail with same | found
  · rw [same, outside] at leads
    cases leads
  · exact trails.ahead_iff.mpr found

theorem Trail.antisymm (trails : Trail next a trail) {b : α} (there : ReflTransGen (Link next) a b)
    (back : ReflTransGen (Link next) b a) : a = b := by
  rcases reflTransGen_iff_eq_or_transGen.mp there with same | ahead
  · exact same.symm
  · exact (trails.no_return (ahead.trans_left back)).elim

/-- The last element with a property is the nearest one exactly when there are no
two. -/
theorem nearest_latest_iff (outside : next start = none) (trails : Trail next a trail) :
    Nearest next property start a (latest property start trail) ↔ Unnested next property a := by
  constructor
  · intro nearest
    rcases nearest with ⟨-, first⟩ | ⟨-, none⟩
    · have same (c : α) (ahead : Ahead next property a c) : c = latest property start trail := by
        obtain ⟨_, _, -, onward, -⟩ := trails.split (trails.ahead_iff.mp ahead).1
        exact onward.antisymm (trails.latest_ahead ahead) (first c ahead)
      intro c d ahead ahead'
      rw [same c ahead, same d ahead']
    · intro c _ ahead
      exact (none c ahead).elim
  · intro unnested
    by_cases none : ∀ d, ¬Ahead next property a d
    · refine .inr ⟨?_, none⟩
      rcases latest_mem property start trail with same | found
      · exact same
      · exact (none _ (trails.ahead_iff.mpr found)).elim
    · rw [not_forall_not] at none
      obtain ⟨c, ahead⟩ := none
      have found := trails.latest_holds outside ahead
      refine .inl ⟨found, fun d ahead' => ?_⟩
      rw [unnested _ d found ahead']

/-! Chases after a renaming of the elements. -/

section
variable {γ : Type*} {next' : γ → Option γ} {rename : α → γ}

theorem Trail.map (renamed : ∀ a, next' (rename a) = (next a).map rename) (trails : Trail next a trail) :
    Trail next' (rename a) (trail.map rename) := by
  induction trails with
  | @stop a ended => exact .stop (by rw [renamed, ended]; rfl)
  | @step a b rest leads _ ih => exact .step (by rw [renamed, leads]; rfl) ih

theorem latest_map {property' : γ → Bool} (same : ∀ a, property' (rename a) = property a) (start : α)
    (trail : List α) :
    latest property' (rename start) (trail.map rename) = rename (latest property start trail) := by
  induction trail generalizing start with
  | nil => rfl
  | cons c rest ih =>
    show latest property' (if property' (rename c) then rename c else rename start) (rest.map rename) = _
    rw [same, ← apply_ite rename]
    exact ih _

end

end Ancestry

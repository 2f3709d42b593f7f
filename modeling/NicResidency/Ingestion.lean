import NicResidency.AcceptedCalls
import NicResidency.Contents
import NicResidency.Library.OrderedMap
import NicResidency.References

/-!
The ingestion of a discovery: one publication after the other, in the order in which the
kinds of records refer to one another.
-/

namespace NicResidency
open StateMachine Throwing NicRegistry

/-- What a backend has found. -/
structure DiscoveryResult where
  nics : List NicRecord := []
  functions : List FunctionRecord := []
  ports : List PortRecord := []
  queues : List QueueRecord := []
  gpus : List GpuRecord := []
  /-- Absent when it is not available. -/
  topology : Option TopologySnapshot := none

/-- The publications of an ingestion, in their order. -/
def DiscoveryResult.calls (d : DiscoveryResult) (auth : Authority) : List Call :=
  d.nics.map (fun nic => Call.mutate auth (.registerNic nic)) ++
  (d.gpus.map (fun gpu => Call.mutate auth (.registerGpu gpu)) ++
  (d.topology.toList.map (fun top => Call.mutate auth (.setTopology top)) ++
  (d.functions.map (fun func => Call.mutate auth (.registerFunction func)) ++
  (d.ports.map (fun port => Call.mutate auth (.registerPort port)) ++
  d.queues.map (fun q => Call.mutate auth (.registerQueue q))))))

namespace DiscoveryResult
variable {d : DiscoveryResult} {auth : Authority} {c : Call}

theorem mem_calls : c ∈ d.calls auth ↔
    (∃ nic ∈ d.nics, .mutate auth (.registerNic nic) = c) ∨
    (∃ gpu ∈ d.gpus, .mutate auth (.registerGpu gpu) = c) ∨
    (∃ top ∈ d.topology, .mutate auth (.setTopology top) = c) ∨
    (∃ func ∈ d.functions, .mutate auth (.registerFunction func) = c) ∨
    (∃ port ∈ d.ports, .mutate auth (.registerPort port) = c) ∨
    ∃ q ∈ d.queues, .mutate auth (.registerQueue q) = c := by
  simp only [DiscoveryResult.calls, List.mem_append, List.mem_map, Option.mem_toList,
    Option.mem_def]

theorem nic_mem_calls {nic : NicRecord} (listed : nic ∈ d.nics) :
    .mutate auth (.registerNic nic) ∈ d.calls auth :=
  mem_calls.mpr (.inl ⟨nic, listed, rfl⟩)

theorem gpu_mem_calls {gpu : GpuRecord} (listed : gpu ∈ d.gpus) :
    .mutate auth (.registerGpu gpu) ∈ d.calls auth :=
  mem_calls.mpr (.inr (.inl ⟨gpu, listed, rfl⟩))

theorem function_mem_calls {func : FunctionRecord} (listed : func ∈ d.functions) :
    .mutate auth (.registerFunction func) ∈ d.calls auth :=
  mem_calls.mpr (.inr (.inr (.inr (.inl ⟨func, listed, rfl⟩))))

theorem port_mem_calls {port : PortRecord} (listed : port ∈ d.ports) :
    .mutate auth (.registerPort port) ∈ d.calls auth :=
  mem_calls.mpr (.inr (.inr (.inr (.inr (.inl ⟨port, listed, rfl⟩)))))

theorem queue_mem_calls {q : QueueRecord} (listed : q ∈ d.queues) :
    .mutate auth (.registerQueue q) ∈ d.calls auth :=
  mem_calls.mpr (.inr (.inr (.inr (.inr (.inr ⟨q, listed, rfl⟩)))))

end DiscoveryResult

namespace NicRegistry

/-- The ingestion into the registry of an engine. The first error ends it. -/
def ingest (d : DiscoveryResult) (auth : Authority) : RegistryM Unit := do
  d.nics.forM fun nic => discard (registerNic nic auth)
  d.gpus.forM fun gpu => registerGpu gpu auth
  d.topology.forM fun top => setTopology top auth
  d.functions.forM fun func => discard (registerFunction func auth)
  d.ports.forM fun port => discard (registerPort port auth)
  d.queues.forM fun q => discard (registerQueue q auth)

/-- The calls are all accepted and lead from one registry to the other. -/
def Leads (s : NicRegistry) (calls : List Call) (t : NicRegistry) : Prop :=
  (∀ event ∈ s.history calls, accepted event = true) ∧ s.after calls = t

section
variable {s t : NicRegistry}

theorem leads_nil : Leads s [] t ↔ s = t := by
  constructor
  · exact And.right
  · intro same
    exact ⟨by simp, same⟩

theorem leads_cons {c : Call} {rest : List Call} :
    Leads s (c :: rest) t ↔ ∃ reply u, Transition s c (.ok reply) u ∧ Leads u rest t := by
  constructor
  · intro leads
    obtain ⟨all, reached⟩ := leads
    simp only [events_cons, List.forall_mem_cons] at all
    obtain ⟨taken, later⟩ := all
    have transition := at_transition s c
    cases answer : (s.step c).1 with
    | error error => rw [accepted, Event.at_outcome, answer] at taken; cases taken
    | ok reply =>
      rw [Event.at_outcome, answer] at transition
      exact ⟨reply, _, transition, later, reached⟩
  · intro leads
    obtain ⟨reply, u, transition, later, reached⟩ := leads
    have called := step_of_accepted transition
    refine ⟨?_, ?_⟩
    · simp only [events_cons, List.forall_mem_cons, called]
      exact ⟨by rw [accepted, Event.at_outcome, called]; rfl, later⟩
    · simp only [exec_cons, called]
      exact reached

theorem leads_append {first second : List Call} :
    Leads s (first ++ second) t ↔ ∃ u, Leads s first u ∧ Leads u second t := by
  constructor
  · intro leads
    obtain ⟨all, reached⟩ := leads
    simp only [events_append, List.forall_mem_append] at all
    rw [after_append] at reached
    exact ⟨_, ⟨all.1, rfl⟩, all.2, reached⟩
  · intro leads
    obtain ⟨u, ⟨taken, rfl⟩, later, rfl⟩ := leads
    refine ⟨?_, after_append s first second⟩
    simp only [events_append, List.forall_mem_append]
    exact ⟨taken, later⟩

/-- Where one of the calls is made, and what is left to do after it. -/
theorem leads_member {calls : List Call} {c : Call} (leads : Leads s calls t) (member : c ∈ calls) :
    ∃ before after q reply p, calls = before ++ c :: after ∧ Leads s before q ∧
      Transition q c (.ok reply) p ∧ Leads p after t := by
  obtain ⟨before, after, rfl⟩ := List.append_of_mem member
  obtain ⟨q, first, rest⟩ := leads_append.mp leads
  obtain ⟨reply, p, transition, last⟩ := leads_cons.mp rest
  exact ⟨before, after, q, reply, p, rfl, first, transition, last⟩

/-- Calls that are accepted and change nothing lead nowhere. -/
theorem leads_still {calls : List Call}
    (still : ∀ c ∈ calls, ∃ reply, Transition s c (.ok reply) s) : Leads s calls s := by
  induction calls with
  | nil => exact leads_nil.mpr rfl
  | cons c rest ih =>
    rw [List.forall_mem_cons] at still
    obtain ⟨⟨reply, first⟩, later⟩ := still
    exact leads_cons.mpr ⟨reply, s, first, ih later⟩

/-! An ingestion that returns is the run of its publications. -/

section
variable {α β : Type} {method : α → RegistryM Unit} {publication : α → Call}

/-- The method makes the call and drops the reply. -/
def Makes (method : α → RegistryM Unit) (publication : α → Call) : Prop :=
  ∀ entry s, perform (method entry) s =
    ((s.step (publication entry)).1.map fun _ => (), (s.step (publication entry)).2)

theorem Makes.ok_iff (makes : Makes method publication) {entry : α} {next : Unit → RegistryM β}
    {result : β} :
    perform (method entry >>= next) s = (.ok result, t) ↔
      ∃ reply u, Transition s (publication entry) (.ok reply) u ∧
        perform (next ()) u = (.ok result, t) := by
  rw [perform_bind, makes entry s]
  cases called : s.step (publication entry) with
  | mk outcome u =>
    cases outcome with
    | error error =>
      refine iff_of_false (nomatch ·) ?_
      intro returned
      obtain ⟨reply, u, transition, -⟩ := returned
      rw [step_of_accepted transition] at called
      cases called
    | ok reply =>
      constructor
      · intro returned
        exact ⟨reply, u, step_transition called, returned⟩
      · intro returned
        obtain ⟨reply', u', transition, returned⟩ := returned
        rw [step_of_accepted transition] at called
        cases called
        exact returned

theorem Makes.forM_ok_iff (makes : Makes method publication) (entries : List α)
    {next : Unit → RegistryM β} {result : β} :
    perform (entries.forM method >>= next) s = (.ok result, t) ↔
      ∃ u, Leads s (entries.map publication) u ∧ perform (next ()) u = (.ok result, t) := by
  induction entries generalizing s with
  | nil =>
    rw [List.map_nil]
    simp only [leads_nil, exists_eq_left']
    rfl
  | cons entry rest ih =>
    show perform ((method entry >>= fun _ => rest.forM method) >>= next) s = _ ↔ _
    rw [bind_assoc, makes.ok_iff, List.map_cons]
    constructor
    · intro returned
      obtain ⟨reply, u, transition, returned⟩ := returned
      obtain ⟨v, later, returned⟩ := ih.mp returned
      exact ⟨v, leads_cons.mpr ⟨reply, u, transition, later⟩, returned⟩
    · intro returned
      obtain ⟨v, leads, returned⟩ := returned
      obtain ⟨reply, u, transition, later⟩ := leads_cons.mp leads
      exact ⟨reply, u, transition, ih.mpr ⟨v, later, returned⟩⟩

theorem makes_discard {γ : Type} {wrap : γ → Reply} {auth : Authority} (publish : α → RegistryM γ)
    (mutation : α → Mutation) (calls : ∀ entry, mutate auth (mutation entry) = wrap <$> publish entry) :
    Makes (fun entry => discard (publish entry)) (fun entry => .mutate auth (mutation entry)) := by
  intro entry s
  rw [perform_discard, step, call, calls, perform_map]
  cases (perform (publish entry) s).1 <;> rfl

theorem makes_plain {auth : Authority} (publish : α → RegistryM Unit) (mutation : α → Mutation)
    (calls : ∀ entry, mutate auth (mutation entry) = (fun _ => Reply.done) <$> publish entry) :
    Makes publish (fun entry => .mutate auth (mutation entry)) := by
  intro entry s
  rw [step, call, calls, perform_map]
  rcases perform (publish entry) s with ⟨outcome, reached⟩
  cases outcome <;> rfl

end

theorem ingest_ok_iff {d : DiscoveryResult} {auth : Authority} :
    perform (ingest d auth) s = (.ok (), t) ↔ Leads s (d.calls auth) t := by
  have nics := makes_discard (registerNic · auth) .registerNic fun _ => rfl
  have gpus := makes_plain (registerGpu · auth) .registerGpu fun _ => rfl
  have topology := makes_plain (setTopology · auth) .setTopology fun _ => rfl
  have functions := makes_discard (registerFunction · auth) .registerFunction fun _ => rfl
  have ports := makes_discard (registerPort · auth) .registerPort fun _ => rfl
  have queues := makes_discard (registerQueue · auth) .registerQueue fun _ => rfl
  have single : d.topology.forM (fun top => setTopology top auth) =
      d.topology.toList.forM fun top => setTopology top auth := by
    cases d.topology with
    | none => rfl
    | some top => exact (bind_pure (setTopology top auth)).symm
  have last : d.queues.forM (fun q => discard (registerQueue q auth)) =
      d.queues.forM (fun q => discard (registerQueue q auth)) >>= fun _ => pure () :=
    (bind_pure _).symm
  simp only [ingest, DiscoveryResult.calls, leads_append]
  rw [single, last]
  simp only [nics.forM_ok_iff, gpus.forM_ok_iff, topology.forM_ok_iff, functions.forM_ok_iff,
    ports.forM_ok_iff, queues.forM_ok_iff, perform_pure, Prod.mk.injEq, true_and,
    exists_eq_right]

end

end NicRegistry

end NicResidency

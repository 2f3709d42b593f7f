import NicResidency.AcceptedCalls
import NicResidency.Library.OrderedMap
import NicResidency.Revalidation
import NicResidency.WorkerEvidence

/-!
Room for revalidation. A publication asks for room before it looks its id up, so a registry
that is at its limit accepts no newer record of the resources which it holds either.
-/

namespace NicResidency.RevalidationRoom
open StateMachine VersionedSlot NicRegistry

/-- A record of one of the three kinds that can require revalidation. -/
inductive RenewedRecord where
  | nic (renewed : NicRecord)
  | function (renewed : FunctionRecord)
  | queue (renewed : QueueRecord)

/-- The call that publishes it. -/
def RenewedRecord.mutation : RenewedRecord → Mutation
  | .nic renewed => .registerNic renewed
  | .function renewed => .registerFunction renewed
  | .queue renewed => .registerQueue renewed

/-- The stored resource requires revalidation, and the record is of its next generation. -/
def Follows (s : NicRegistry) : RenewedRecord → Prop
  | .nic renewed => ∃ old, s.nics[renewed.id]? = some old ∧ old.lifecycle = .revalidationRequired ∧
      renewed.generation.value.toNat = old.generation.value.toNat + 1
  | .function renewed => ∃ old, s.functions[renewed.id]? = some old ∧
      old.lifecycle = .revalidationRequired ∧
      renewed.generation.value.toNat = old.generation.value.toNat + 1
  | .queue renewed => ∃ old, s.queues[renewed.id]? = some old ∧ old.lifecycle = .revalidationRequired ∧
      renewed.generation.value.toNat = old.generation.value.toNat + 1

/-- The record is the stored one. -/
def Renewed (s : NicRegistry) : RenewedRecord → Prop
  | .nic renewed => s.nics[renewed.id]? = some { renewed with freshness := 0 }
  | .function renewed => s.functions[renewed.id]? = some renewed
  | .queue renewed => s.queues[renewed.id]? = some renewed

/-- The kind of the record is below its limit, and the parents it names are registered. -/
def HasRoom (s : NicRegistry) : RenewedRecord → Prop
  | .nic _ => s.nics.size < kMaxNics
  | .function renewed => s.functions.size < kMaxFunctions ∧ renewed.parentNic.valid = true ∧
      renewed.parentNic ∈ s.nics
  | .queue renewed => s.queues.size < kMaxQueues ∧ renewed.parentFunction.valid = true ∧
      renewed.parentNic.valid = true ∧ renewed.parentFunction ∈ s.functions ∧
      renewed.parentNic ∈ s.nics

/-- The call succeeds and stores its record. -/
def Revalidates (s : NicRegistry) (auth : Authority) (record : RenewedRecord) : Prop :=
  ∃ reply t, s.step (.mutate auth record.mutation) = (.ok reply, t) ∧ Renewed t record

/-! Stored ids are not null. -/

section
variable {s t : NicRegistry} {c : Call} {outcome : Except ResidencyError Reply}

theorem accepted_nic_valid (transition : Transition s c outcome t) {n : NicRecord}
    (accepts : Accepts ⟨s, c, outcome, t⟩ (.registerNic n)) : n.id.valid = true := by
  obtain ⟨auth, rfl, -, ok⟩ := accepts
  cases transition with
  | refused | refusedNic => cases ok
  | duplicateNic _ _ _ _ valid | wroteNic _ _ _ valid => exact valid

theorem accepted_function_valid (transition : Transition s c outcome t) {f : FunctionRecord}
    (accepts : Accepts ⟨s, c, outcome, t⟩ (.registerFunction f)) : f.id.valid = true := by
  obtain ⟨auth, rfl, -, ok⟩ := accepts
  cases transition with
  | refused => cases ok
  | duplicateFunction _ _ _ _ valid | wroteFunction _ _ _ valid => exact valid

theorem accepted_queue_valid (transition : Transition s c outcome t) {q : QueueRecord}
    (accepts : Accepts ⟨s, c, outcome, t⟩ (.registerQueue q)) : q.id.valid = true := by
  obtain ⟨auth, rfl, -, ok⟩ := accepts
  cases transition with
  | refused => cases ok
  | duplicateQueue _ _ _ _ valid | wroteQueue _ _ _ valid => exact valid

end

structure IdsValid (s : NicRegistry) : Prop where
  nics : ∀ (id : NicId) n, s.nics[id]? = some n → id.valid = true
  functions : ∀ (id : FunctionId) f, s.functions[id]? = some f → id.valid = true
  queues : ∀ (id : QueueId) q, s.queues[id]? = some q → id.valid = true

theorem idsValid_step (s : NicRegistry) (c : Call) (valid : IdsValid s) : IdsValid (s.step c).2 where
  nics id := by
    have transition := at_transition s c
    refine (nic_change transition id).holds_after (fun _ => id.valid = true) (valid.nics id) ?_
      (fun _ _ _ known => known)
    intro _ wrote
    obtain ⟨rec, accepts, rfl, -⟩ := wrote
    exact accepted_nic_valid transition accepts
  functions id := by
    have transition := at_transition s c
    refine (function_change transition id).holds_after (fun _ => id.valid = true)
      (valid.functions id) ?_ (fun _ _ _ known => known)
    intro _ wrote
    obtain ⟨accepts, rfl⟩ := wrote
    exact accepted_function_valid transition accepts
  queues id := by
    have transition := at_transition s c
    refine (queue_change transition id).holds_after (fun _ => id.valid = true) (valid.queues id) ?_
      (fun _ _ _ known => known)
    intro _ wrote
    obtain ⟨accepts, rfl⟩ := wrote
    exact accepted_queue_valid transition accepts

theorem reachable_idsValid {s : NicRegistry} (reachable : s.Reachable) : IdsValid s := by
  obtain ⟨epoch, created, calls, made, rfl⟩ := reachable
  rw [create_ok made]
  refine invariant_exec IdsValid (fun _ => True) (fun s c valid _ => idsValid_step s c valid) ?_ calls
    (fun _ _ => trivial)
  constructor <;> simp

/-! One renewed record. -/

section
variable {s : NicRegistry} {auth : Authority} {record : RenewedRecord}

/-- A record of the next generation is newer than the stored one. -/
theorem newer_of_follows {α : Type} {tag : Tag} {slot : Option α} {old new : α}
    (generation : α → Generation tag) (stored : slot = some old)
    (next : (generation new).value.toNat = (generation old).value.toNat + 1) :
    ∀ other, slot = some other → generation other < generation new := by
  intro other found
  obtain rfl : old = other := Option.some.inj (stored.symm.trans found)
  show (generation old).value.toNat < (generation new).value.toNat
  omega

theorem revalidates_of_room (valid : IdsValid s) (current : s.Authorised auth)
    (follows : Follows s record) (room : HasRoom s record) : Revalidates s auth record := by
  cases record with
  | nic renewed =>
    obtain ⟨old, stored, -, next⟩ := follows
    have newer := newer_of_follows NicRecord.generation stored next
    exact ⟨_, _, step_of_accepted (.wroteNic auth renewed current (valid.nics _ old stored) room newer
      (by simp [stored])), Std.ExtTreeMap.getElem?_insert_self⟩
  | function renewed =>
    obtain ⟨old, stored, -, next⟩ := follows
    obtain ⟨room, parent, parentKnown⟩ := room
    have newer := newer_of_follows FunctionRecord.generation stored next
    exact ⟨_, _, step_of_accepted (.wroteFunction auth renewed current (valid.functions _ old stored)
      parent parentKnown room newer (by simp [stored])), Std.ExtTreeMap.getElem?_insert_self⟩
  | queue renewed =>
    obtain ⟨old, stored, -, next⟩ := follows
    obtain ⟨room, parentFunction, parent, functionKnown, parentKnown⟩ := room
    have newer := newer_of_follows QueueRecord.generation stored next
    exact ⟨_, _, step_of_accepted (.wroteQueue auth renewed current (valid.queues _ old stored)
      parentFunction parent functionKnown parentKnown room newer (by simp [stored])),
      Std.ExtTreeMap.getElem?_insert_self⟩

theorem room_of_accepted {reply : Reply} {t : NicRegistry}
    (accepted : s.step (.mutate auth record.mutation) = (.ok reply, t)) : HasRoom s record := by
  have transition := step_transition accepted
  cases record with
  | nic =>
    cases transition with
    | duplicateNic _ _ _ _ _ room | wroteNic _ _ _ _ room => exact room
  | function =>
    cases transition with
    | duplicateFunction _ _ _ _ _ parent parentKnown room
    | wroteFunction _ _ _ _ parent parentKnown room => exact ⟨room, parent, parentKnown⟩
  | queue =>
    cases transition with
    | duplicateQueue _ _ _ _ _ parentFunction parent functionKnown parentKnown room
    | wroteQueue _ _ _ _ parentFunction parent functionKnown parentKnown room =>
      exact ⟨room, parentFunction, parent, functionKnown, parentKnown⟩

/-- A resource that requires revalidation is revalidated by the next generation exactly when
its kind is not at its limit and the parents of the record are there. -/
theorem revalidates_iff (s : NicRegistry) (reachable : s.Reachable) (auth : Authority)
    (current : s.Authorised auth) (record : RenewedRecord) (follows : Follows s record) :
    Revalidates s auth record ↔ HasRoom s record := by
  constructor
  · intro revalidates
    obtain ⟨reply, t, accepted, -⟩ := revalidates
    exact room_of_accepted accepted
  · exact revalidates_of_room (reachable_idsValid reachable) current follows

end

theorem republished_revalidates_iff :
    let s := NicRegistry.after { epoch := ⟨1⟩ } (Revalidation.republishedRun.take 4)
    let record : RenewedRecord := .nic { id := ⟨10⟩, generation := ⟨2⟩, lifecycle := .available }
    Revalidates s ⟨⟨1⟩, ⟨7⟩, ⟨2⟩⟩ record ↔ HasRoom s record := by
  intro s record
  have demoted : (s.nics[(⟨10⟩ : NicId)]?).map (fun n => (n.lifecycle, n.generation)) =
      some (.revalidationRequired, ⟨1⟩) := by decide +kernel
  obtain ⟨old, stored, same⟩ := Option.map_eq_some_iff.mp demoted
  obtain ⟨lifecycle, generation⟩ := Prod.mk.inj same
  refine revalidates_iff s ⟨⟨1⟩, _, Revalidation.republishedRun.take 4, rfl, rfl⟩ _ (by decide +kernel)
    record ⟨old, stored, lifecycle, ?_⟩
  rw [generation]
  decide

/-! A registry that is full of NICs. -/

def numbered (i : Nat) : NicRecord :=
  { id := ⟨UInt64.ofNat (i + 1)⟩, generation := ⟨1⟩, lifecycle := .available }

def publishNumbered (i : Nat) : Call := .mutate ⟨⟨1⟩, ⟨7⟩, ⟨1⟩⟩ (.registerNic (numbered i))

/-- What publishing the first NICs of the numbering leaves. -/
structure Filled (count : Nat) (s : NicRegistry) : Prop where
  authorised : s.Authorised ⟨⟨1⟩, ⟨7⟩, ⟨1⟩⟩
  size : s.nics.size = count
  inside : ∀ id ∈ s.nics, id.value.toNat ≤ count
  first : 0 < count → s.nics[(⟨1⟩ : NicId)]? = some (numbered 0)
  noted : 0 < count → ⟨1⟩ ∈ s.publishedBy ⟨7⟩

theorem numbered_value {i : Nat} (small : i < kMaxNics) : (numbered i).id.value.toNat = i + 1 := by
  show (UInt64.ofNat (i + 1)).toNat = i + 1
  have word : UInt64.size = 2 ^ 64 := rfl
  unfold kMaxNics at small
  exact UInt64.toNat_ofNat_of_lt (by omega)

theorem filled_step {s : NicRegistry} {count : Nat} (filled : Filled count s)
    (small : count < kMaxNics) : Filled (count + 1) (s.step (publishNumbered count)).2 := by
  have value := numbered_value small
  have absent : (numbered count).id ∉ s.nics := by
    intro present
    have bound := filled.inside _ present
    omega
  have accepted := step_of_accepted (.wroteNic ⟨⟨1⟩, ⟨7⟩, ⟨1⟩⟩ (numbered count) filled.authorised
    (by rw [Id.valid_iff]; intro zero; rw [zero] at value; simp at value)
    (filled.size ▸ small)
    (by intro old stored; exact absurd (OrderedMap.mem_of_stored stored) absent)
    (fun _ => rfl))
  rw [publishNumbered, accepted]
  exact {
    authorised := filled.authorised
    size := by
      show (s.nics.insert (numbered count).id _).size = count + 1
      rw [OrderedMap.size_insert_new absent, filled.size]
    inside := by
      intro id present
      rcases Std.ExtTreeMap.mem_insert.mp present with same | earlier
      · obtain rfl : (numbered count).id = id := Std.LawfulEqOrd.eq_of_compare same
        exact value.le
      · exact (filled.inside id earlier).trans (Nat.le_succ count)
    first := by
      intro _
      show (s.nics.insert (numbered count).id _)[(⟨1⟩ : NicId)]? = _
      rw [Std.ExtTreeMap.getElem?_insert]
      rcases Nat.eq_zero_or_pos count with rfl | positive
      · rfl
      · rw [if_neg, filled.first positive]
        intro same
        have same : (numbered count).id = ⟨1⟩ := Std.LawfulEqOrd.eq_of_compare same
        rw [same] at value
        have value : 1 = count + 1 := value
        omega
    noted := by
      intro _
      rcases Nat.eq_zero_or_pos count with rfl | positive
      · exact WorkerEvidence.publishedBy_note_self ⟨7⟩ ⟨1⟩
      · exact WorkerEvidence.publishedBy_notePublisher _ _ _ _ (filled.noted positive) }

/-- A worker that publishes the first NICs of the numbering. -/
def fill (count : Nat) : List Call :=
  .registerWorker ⟨7⟩ ⟨1⟩ :: (List.range count).map publishNumbered

theorem filled_fill {count : Nat} (small : count ≤ kMaxNics) :
    Filled count (NicRegistry.after { epoch := ⟨1⟩ } (fill count)) := by
  induction count with
  | zero =>
    refine ⟨by decide +kernel, by decide +kernel, ?_, by simp, by simp⟩
    intro id present
    exact absurd present Std.ExtTreeMap.not_mem_empty
  | succ count ih =>
    have filled := ih (Nat.le_of_succ_le small)
    have last : fill (count + 1) = fill count ++ [publishNumbered count] := by
      simp [fill, List.range_succ]
    rw [last, after_concat]
    exact filled_step filled small

/-- The worker dies, and its next incarnation registers. -/
def succession : List Call := [.workerRetired ⟨7⟩ ⟨1⟩, .registerWorker ⟨7⟩ ⟨2⟩]

/-- The NICs are all there, and the first one requires revalidation. -/
theorem filled_succession {s : NicRegistry} (filled : Filled kMaxNics s) :
    (s.after succession).Authorised ⟨⟨1⟩, ⟨7⟩, ⟨2⟩⟩ ∧ (s.after succession).nics.size = kMaxNics ∧
      (s.after succession).nics[(⟨1⟩ : NicId)]? = some (numbered 0).requireRevalidation := by
  obtain ⟨epoch, boot⟩ := filled.authorised
  have died : s.step (.workerRetired ⟨7⟩ ⟨1⟩) = (.ok .done, retireWorker ⟨7⟩ ⟨1⟩ s) := by
    apply step_of_accepted
    refine .retiredWorker ⟨7⟩ ⟨1⟩ (fun handle found => ?_)
    rw [found] at boot
    exact Option.some.inj boot
  have free : ∀ handle, (retireWorker ⟨7⟩ ⟨1⟩ s).workers[(⟨7⟩ : WorkerId)]? = some handle →
      handle.boot = ⟨2⟩ := by
    intro handle found
    simp [retireWorker] at found
  rw [NicRegistry.after, succession, exec_cons, exec_cons, exec_nil, died, step_registerWorker free]
  refine ⟨⟨epoch, ?_⟩, ?_, ?_⟩
  · simp
  · show (s.nics.map _).size = kMaxNics
    rw [Std.ExtTreeMap.size_map, filled.size]
  · show (s.nics.map _)[(⟨1⟩ : NicId)]? = _
    rw [Std.ExtTreeMap.getElem?_map, filled.first (by decide), Option.map_some,
      if_pos (filled.noted (by decide))]

/-- The NIC of a dead worker cannot be revalidated in a full registry. -/
theorem fullRun_locked_out :
    ¬∀ (s : NicRegistry) (auth : Authority) (record : RenewedRecord), s.Reachable → s.Authorised auth →
      Follows s record → Revalidates s auth record := by
  intro always
  obtain ⟨current, full, stored⟩ := filled_succession (filled_fill le_rfl)
  have reachable : NicRegistry.Reachable
      ((NicRegistry.after { epoch := ⟨1⟩ } (fill kMaxNics)).after succession) :=
    ⟨⟨1⟩, _, fill kMaxNics ++ succession, rfl, (after_append _ _ _).symm⟩
  obtain ⟨reply, t, accepted, -⟩ := always _ ⟨⟨1⟩, ⟨7⟩, ⟨2⟩⟩ (.nic { numbered 0 with generation := ⟨2⟩ })
    reachable current ⟨_, stored, rfl, rfl⟩
  have room : _ < kMaxNics := room_of_accepted accepted
  omega

end NicResidency.RevalidationRoom

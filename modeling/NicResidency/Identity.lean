import Mathlib

/-!
Typed identities and generation counters. An id of one category is a different
type from an id of another; both are 64-bit values and zero is the null value.
-/

namespace NicResidency

/-- The identity categories. -/
inductive Tag where
  | nic | port | function | queue | gpu | device | numaNode | pciNode | endpoint
  | residency | worker | workerBoot | coordinatorEpoch | topology | capability
  | policy | decision | attachment
  deriving DecidableEq, Repr

/-- One of the sixteen digits of a hexadecimal rendering. -/
def hexDigit (nibble : UInt64) : Char :=
  "0123456789abcdef".toList.getD nibble.toNat '0'

/-- An unsigned 64-bit value as fixed-width hexadecimal. -/
def hex64 (v : UInt64) : String :=
  String.ofList ((List.range 16).map fun i =>
    hexDigit ((v >>> (4 * (15 - UInt64.ofNat i))) &&& 0xF))

/-- A stable, typed opaque identifier. -/
structure Id (tag : Tag) where
  value : UInt64 := 0
  deriving DecidableEq, Repr, Inhabited

namespace Id
variable {tag : Tag}

def valid (id : Id tag) : Bool := id.value != 0

def str (id : Id tag) : String := hex64 id.value

@[simp] theorem valid_iff (id : Id tag) : id.valid = true ↔ id.value ≠ 0 := by
  simp [valid]

@[simp] theorem valid_default : (({} : Id tag)).valid = false := rfl

theorem value_inj {a b : Id tag} : a.value = b.value ↔ a = b := by
  cases a
  cases b
  rw [Id.mk.injEq]

/-- Only the null id is invalid. -/
theorem valid_iff_ne (id : Id tag) : id.valid = true ↔ id ≠ {} :=
  (valid_iff id).trans (not_congr value_inj)

instance : Ord (Id tag) := ⟨fun a b => compare a.value b.value⟩

instance : Std.TransOrd (Id tag) where
  eq_swap {a b} := @Std.OrientedCmp.eq_swap UInt64 compare _ a.value b.value
  isLE_trans {a b c} := @Std.TransCmp.isLE_trans UInt64 compare _ a.value b.value c.value

instance : Std.LawfulEqOrd (Id tag) where
  eq_of_compare same := value_inj.mp (Std.LawfulEqOrd.eq_of_compare (α := UInt64) same)

end Id

/-- A typed generation counter. -/
structure Generation (tag : Tag) where
  value : UInt64 := 0
  deriving DecidableEq, Repr, Inhabited

namespace Generation
variable {tag : Tag}

def valid (g : Generation tag) : Bool := g.value != 0

/-- The counter is 64 bits wide and wraps. -/
def next (g : Generation tag) : Generation tag := ⟨g.value + 1⟩

def str (g : Generation tag) : String := toString g.value

theorem value_injective : Function.Injective (fun g : Generation tag => g.value.toNat) := by
  intro a b same
  cases a
  cases b
  simpa using UInt64.toNat_inj.mp same

instance : LinearOrder (Generation tag) := LinearOrder.lift' _ value_injective

@[simp] theorem next_value (g : Generation tag) : g.next.value = g.value + 1 := rfl

/-- The largest 64-bit counter value, the one that wraps. -/
def last : Generation tag := ⟨0xFFFFFFFFFFFFFFFF⟩

theorem le_last (g : Generation tag) : g ≤ last := Nat.le_pred_of_lt g.value.toNat_lt

end Generation

end NicResidency

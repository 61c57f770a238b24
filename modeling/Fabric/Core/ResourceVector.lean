import Fabric.Core.Basic
import Mathlib.Data.Fintype.Basic
import Mathlib.Algebra.Group.Pi.Basic
import Mathlib.Algebra.Order.Pi
import Mathlib.Tactic.DeriveFintype

/-!
# Resource vectors

`checked.hpp` and the `ResourceVector` of `resource.hpp`: twelve unsigned 64-bit quantities
with checked and saturating componentwise arithmetic. `quantities` reads a vector as exact
natural numbers; every operation gets one lemma that says what it does to them
(`tryAdd_eq_some_iff`, `trySub_eq_some_iff`, `quantities_satAdd`, `quantities_satSub`,
`fitsIn_iff`), and the accounting proofs only use these.
-/

namespace Fabric

/-! ## Checked arithmetic -/

/-- The largest unsigned 64-bit number. -/
def maxU64 : UInt64 := 0xFFFFFFFFFFFFFFFF

/-- `checked_add`: the sum, unless it overflows. -/
def checkedAdd (a b : UInt64) : Option UInt64 := if b > maxU64 - a then none else some (a + b)

/-- `checked_sub`: the difference, unless it underflows. -/
def checkedSub (a b : UInt64) : Option UInt64 := if b > a then none else some (a - b)

/-- `checked_mul`: the product, unless it overflows. -/
def checkedMul (a b : UInt64) : Option UInt64 :=
  if a ≠ 0 ∧ b > maxU64 / a then none else some (a * b)

/-- `sat_add`: the sum, at most the largest number. -/
def satAdd (a b : UInt64) : UInt64 := if b > maxU64 - a then maxU64 else a + b

/-- `sat_sub`: the difference, at least zero. -/
def satSub (a b : UInt64) : UInt64 := if a ≥ b then a - b else 0

@[simp] theorem toNat_maxU64 : maxU64.toNat = 2 ^ 64 - 1 := rfl

theorem toNat_maxU64_sub (a : UInt64) : (maxU64 - a).toNat = 2 ^ 64 - 1 - a.toNat := by
  have := a.toNat_lt
  rw [UInt64.toNat_sub_of_le _ _ (by rw [UInt64.le_iff_toNat_le, toNat_maxU64]; omega),
    toNat_maxU64]

theorem checkedAdd_eq_some_iff {a b c : UInt64} :
    checkedAdd a b = some c ↔ c.toNat = a.toNat + b.toNat := by
  have ha := a.toNat_lt
  have hb := b.toNat_lt
  have hc := c.toNat_lt
  have hsum := UInt64.toNat_add a b
  simp only [checkedAdd, gt_iff_lt, UInt64.lt_iff_toNat_lt, toNat_maxU64_sub]
  split_ifs with h
  · exact ⟨nofun, fun _ => by omega⟩
  · rw [Option.some.injEq, ← UInt64.toNat_inj]
    omega

theorem checkedSub_eq_some_iff {a b c : UInt64} :
    checkedSub a b = some c ↔ a.toNat = c.toNat + b.toNat := by
  simp only [checkedSub, gt_iff_lt, UInt64.lt_iff_toNat_lt]
  split_ifs with h
  · exact ⟨nofun, fun _ => by omega⟩
  · rw [Option.some.injEq, ← UInt64.toNat_inj,
      UInt64.toNat_sub_of_le _ _ (UInt64.le_iff_toNat_le.mpr (by omega))]
    omega

theorem toNat_satAdd (a b : UInt64) :
    (satAdd a b).toNat = min (a.toNat + b.toNat) (2 ^ 64 - 1) := by
  have ha := a.toNat_lt
  have hb := b.toNat_lt
  have hsum := UInt64.toNat_add a b
  simp only [satAdd, gt_iff_lt, UInt64.lt_iff_toNat_lt, toNat_maxU64_sub]
  split_ifs with h
  · rw [toNat_maxU64]
    omega
  · omega

theorem toNat_satSub (a b : UInt64) : (satSub a b).toNat = a.toNat - b.toNat := by
  simp only [satSub, ge_iff_le, UInt64.le_iff_toNat_le]
  split_ifs with h
  · exact UInt64.toNat_sub_of_le _ _ (UInt64.le_iff_toNat_le.mpr h)
  · simp only [UInt64.toNat_zero]
    omega

/-! ## Dimensions -/

/-- The bounded dimension set `ResourceId`, without the sentinel `Count`. -/
inductive ResourceId
  | acceleratorMemory
  | hostMemory
  | pinnedHostMemory
  | persistentCache
  | acceleratorCompute
  | cpuSupport
  | transferBandwidth
  | executionSlots
  | sequenceSlots
  | modelResidency
  | kvCapacity
  | tensorState
  deriving DecidableEq

namespace ResourceId

/-- The dimensions in the order of their numbers, as the loops over them run. -/
def all : List ResourceId :=
  [acceleratorMemory, hostMemory, pinnedHostMemory, persistentCache, acceleratorCompute,
    cpuSupport, transferBandwidth, executionSlots, sequenceSlots, modelResidency, kvCapacity,
    tensorState]

@[simp] theorem mem_all (id : ResourceId) : id ∈ all := by cases id <;> decide

instance : Fintype ResourceId := ⟨⟨all, by decide⟩, mem_all⟩

/-- `resource_name`. -/
def name : ResourceId → String
  | acceleratorMemory => "accelerator_memory"
  | hostMemory => "host_memory"
  | pinnedHostMemory => "pinned_host_memory"
  | persistentCache => "persistent_cache"
  | acceleratorCompute => "accelerator_compute"
  | cpuSupport => "cpu_support"
  | transferBandwidth => "transfer_bandwidth"
  | executionSlots => "execution_slots"
  | sequenceSlots => "sequence_slots"
  | modelResidency => "model_residency"
  | kvCapacity => "kv_capacity"
  | tensorState => "tensor_state"

end ResourceId

/-! ## Vectors -/

/-- `ResourceVector`: one unsigned 64-bit quantity in each dimension. -/
@[ext] structure ResourceVector where
  get : ResourceId → UInt64

namespace ResourceVector

instance : DecidableEq ResourceVector := fun a b =>
  decidable_of_iff (∀ i, a.get i = b.get i) ⟨fun h => ResourceVector.ext (funext h),
    fun h _ => h ▸ rfl⟩

def zero : ResourceVector := ⟨fun _ => 0⟩

instance : Inhabited ResourceVector := ⟨zero⟩

def set (v : ResourceVector) (id : ResourceId) (x : UInt64) : ResourceVector :=
  ⟨fun i => if i = id then x else v.get i⟩

def isZero (v : ResourceVector) : Bool := ResourceId.all.all fun i => v.get i == 0

/-- Combine two vectors by a checked operation; one failing dimension fails the whole. -/
def tryMap₂ (op : UInt64 → UInt64 → Option UInt64) (v w : ResourceVector) :
    Option ResourceVector :=
  if ∀ i, (op (v.get i) (w.get i)).isSome then
    some ⟨fun i => (op (v.get i) (w.get i)).getD 0⟩
  else none

/-- `try_add`: the sums, or nothing when one of them overflows. -/
def tryAdd : ResourceVector → ResourceVector → Option ResourceVector := tryMap₂ checkedAdd

/-- `try_sub`: the differences, or nothing when one of them underflows. -/
def trySub : ResourceVector → ResourceVector → Option ResourceVector := tryMap₂ checkedSub

def fitsIn (v limit : ResourceVector) : Bool :=
  ResourceId.all.all fun i => decide (v.get i ≤ limit.get i)

def satAdd (v w : ResourceVector) : ResourceVector :=
  ⟨fun i => Fabric.satAdd (v.get i) (w.get i)⟩

def satSub (v w : ResourceVector) : ResourceVector :=
  ⟨fun i => Fabric.satSub (v.get i) (w.get i)⟩

/-- The quantities as exact natural numbers. -/
def quantities (v : ResourceVector) : ResourceId → ℕ := fun i => (v.get i).toNat

@[simp] theorem quantities_apply (v : ResourceVector) (i : ResourceId) :
    v.quantities i = (v.get i).toNat := rfl

@[simp] theorem quantities_zero : zero.quantities = 0 := rfl

theorem quantities_lt (v : ResourceVector) (i : ResourceId) : v.quantities i < 2 ^ 64 :=
  (v.get i).toNat_lt

theorem quantities_injective : Function.Injective quantities := by
  intro v w h
  exact ResourceVector.ext (funext fun i => UInt64.toNat_inj.mp (congrFun h i))

theorem quantities_satAdd (v w : ResourceVector) (i : ResourceId) :
    (v.satAdd w).quantities i = min (v.quantities i + w.quantities i) (2 ^ 64 - 1) :=
  toNat_satAdd _ _

theorem quantities_satSub (v w : ResourceVector) (i : ResourceId) :
    (v.satSub w).quantities i = v.quantities i - w.quantities i := toNat_satSub _ _

theorem fitsIn_iff {v w : ResourceVector} : v.fitsIn w = true ↔ v.quantities ≤ w.quantities := by
  simp [fitsIn, Pi.le_def, UInt64.le_iff_toNat_le]

theorem tryMap₂_eq_some_iff {op : UInt64 → UInt64 → Option UInt64} {v w u : ResourceVector} :
    tryMap₂ op v w = some u ↔ ∀ i, op (v.get i) (w.get i) = some (u.get i) := by
  unfold tryMap₂
  constructor
  · intro h i
    split_ifs at h with hall
    obtain rfl := Option.some.inj h
    obtain ⟨c, hc⟩ := Option.isSome_iff_exists.mp (hall i)
    simp [hc]
  · intro h
    simp [h]

/-- `try_add` succeeds exactly when no exact sum leaves the range, and returns the sums. -/
theorem tryAdd_eq_some_iff {v w u : ResourceVector} :
    v.tryAdd w = some u ↔ u.quantities = v.quantities + w.quantities := by
  rw [tryAdd, tryMap₂_eq_some_iff, funext_iff]
  exact forall_congr' fun _ => checkedAdd_eq_some_iff

/-- `try_sub` succeeds exactly when no dimension goes below zero, and returns the
differences. -/
theorem trySub_eq_some_iff {v w u : ResourceVector} :
    v.trySub w = some u ↔ v.quantities = u.quantities + w.quantities := by
  rw [trySub, tryMap₂_eq_some_iff, funext_iff]
  exact forall_congr' fun _ => checkedSub_eq_some_iff

theorem trySub_le {v w u : ResourceVector} (h : v.trySub w = some u) :
    u.quantities ≤ v.quantities := by
  rw [trySub_eq_some_iff.mp h]
  exact fun i => Nat.le_add_right _ _

/-- A vector of exact quantities inside the range is the reading of some vector. -/
theorem exists_quantities_eq {q : ResourceId → ℕ} (h : ∀ i, q i < 2 ^ 64) :
    ∃ v : ResourceVector, v.quantities = q :=
  ⟨⟨fun i => UInt64.ofNat (q i)⟩, funext fun i => UInt64.toNat_ofNat_of_lt' (h i)⟩

theorem exists_trySub {v w : ResourceVector} (h : w.quantities ≤ v.quantities) :
    ∃ u, v.trySub w = some u := by
  obtain ⟨u, hu⟩ := exists_quantities_eq (q := v.quantities - w.quantities)
    fun i => (Nat.sub_le _ _).trans_lt (v.quantities_lt i)
  refine ⟨u, trySub_eq_some_iff.mpr ?_⟩
  rw [hu]
  exact funext fun i => (Nat.sub_add_cancel (h i)).symm

theorem exists_tryAdd {v w : ResourceVector}
    (h : ∀ i, v.quantities i + w.quantities i < 2 ^ 64) : ∃ u, v.tryAdd w = some u := by
  obtain ⟨u, hu⟩ := exists_quantities_eq (q := v.quantities + w.quantities) h
  exact ⟨u, tryAdd_eq_some_iff.mpr hu⟩

end ResourceVector

end Fabric

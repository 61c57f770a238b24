import Fabric.Reservation.Restore

/-!
# The accounting probe

`verify_accounting` of `reservation.hpp` adds up the table anew and compares: the sums with the
cached ones, their total with the ceiling. Under the accounting the sums always agree, so the
probe is about the ceiling alone (`verifyAccounting_iff`). The ceiling is a setting, and the
operations that free capacity keep what is below it there.
-/

namespace Fabric.ReservationManager

open Support

/-- One turn of the loop in `verify_accounting`: the demand of a live entry joins the sum of its
status. -/
def tally (sums : ResourceVector × ResourceVector) (r : ResourceReservation) :
    Option (ResourceVector × ResourceVector) :=
  match r.status with
  | .reserved => (sums.1.tryAdd r.demand).map fun n => (n, sums.2)
  | .committed => (sums.2.tryAdd r.demand).map fun n => (sums.1, n)
  | .released | .expired | .rolledBack => some sums

/-- `verify_accounting`: recompute the sums from the table and compare. -/
def verifyAccounting (m : ReservationManager) : Bool :=
  (m.saved.foldlM tally (.zero, .zero)).any fun sums =>
    decide (sums.1 = m.reservedSum) && decide (sums.2 = m.usedSum) &&
      (sums.1.satAdd sums.2).fitsIn m.ceiling

/-- The live demand is under the ceiling in every dimension. -/
def Covered (m : ReservationManager) : Prop :=
  ∀ i, m.reservedSum.quantities i + m.usedSum.quantities i ≤ (m.dimCeiling i).toNat

variable {m m' : ReservationManager}

/-! ## The loop -/

theorem exists_tally (sums : ResourceVector × ResourceVector) (r : ResourceReservation)
    (hreserved : ∀ i, sums.1.quantities i + r.demandAs .reserved i < 2 ^ 64)
    (hused : ∀ i, sums.2.quantities i + r.demandAs .committed i < 2 ^ 64) :
    ∃ sums', tally sums r = some sums' ∧
      sums'.1.quantities = sums.1.quantities + r.demandAs .reserved ∧
      sums'.2.quantities = sums.2.quantities + r.demandAs .committed := by
  have hzero : ∀ st, r.status ≠ st → r.demandAs st = 0 := fun _ =>
    ResourceReservation.demandAs_of_ne
  cases hs : r.status with
  | reserved =>
    rw [ResourceReservation.demandAs_of_eq hs] at hreserved ⊢
    rw [hzero .committed (by simp [hs]), add_zero]
    obtain ⟨v, hv⟩ := ResourceVector.exists_tryAdd hreserved
    exact ⟨(v, sums.2), by simp [tally, hs, hv], ResourceVector.tryAdd_eq_some_iff.mp hv, rfl⟩
  | committed =>
    rw [ResourceReservation.demandAs_of_eq hs] at hused ⊢
    rw [hzero .reserved (by simp [hs]), add_zero]
    obtain ⟨v, hv⟩ := ResourceVector.exists_tryAdd hused
    exact ⟨(sums.1, v), by simp [tally, hs, hv], rfl, ResourceVector.tryAdd_eq_some_iff.mp hv⟩
  | released | expired | rolledBack =>
    rw [hzero .reserved (by simp [hs]), hzero .committed (by simp [hs]), add_zero, add_zero]
    exact ⟨sums, by simp [tally, hs], rfl, rfl⟩

/-- The loop returns the exact sums of a list when they are in range. -/
theorem exists_foldlM_tally (list : List ResourceReservation)
    (sums : ResourceVector × ResourceVector)
    (hreserved : ∀ i, sums.1.quantities i + listDemand list .reserved i < 2 ^ 64)
    (hused : ∀ i, sums.2.quantities i + listDemand list .committed i < 2 ^ 64) :
    ∃ sums', list.foldlM tally sums = some sums' ∧
      sums'.1.quantities = sums.1.quantities + listDemand list .reserved ∧
      sums'.2.quantities = sums.2.quantities + listDemand list .committed := by
  induction list generalizing sums with
  | nil => exact ⟨sums, rfl, by simp [listDemand], by simp [listDemand]⟩
  | cons r list ih =>
    simp only [listDemand_cons, ← add_assoc, Pi.add_apply] at hreserved hused ⊢
    obtain ⟨sums₁, h₁, hres₁, huse₁⟩ := exists_tally sums r
      (fun i => (Nat.le_add_right _ _).trans_lt (hreserved i))
      fun i => (Nat.le_add_right _ _).trans_lt (hused i)
    obtain ⟨sums₂, h₂, hres₂, huse₂⟩ := ih sums₁ (hres₁ ▸ hreserved) (huse₁ ▸ hused)
    refine ⟨sums₂, ?_, by rw [hres₂, hres₁], by rw [huse₂, huse₁]⟩
    rw [List.foldlM_cons, h₁]
    exact h₂

/-- Under the accounting the probe answers whether the live demand is under the ceiling. -/
theorem verifyAccounting_iff (hm : m.Accounting) : m.verifyAccounting = true ↔ m.Covered := by
  have hzero : ∀ i, ResourceVector.zero.quantities i = 0 := fun _ => rfl
  obtain ⟨sums, hsums, hreserved, hused⟩ := exists_foldlM_tally m.saved (.zero, .zero)
    (fun i => by
      rw [hzero, zero_add, ← demandOf_eq_listDemand, ← hm.reserved]
      exact m.reservedSum.quantities_lt i)
    fun i => by
      rw [hzero, zero_add, ← demandOf_eq_listDemand, ← hm.used]
      exact m.usedSum.quantities_lt i
  rw [ResourceVector.quantities_zero, zero_add, ← demandOf_eq_listDemand] at hreserved hused
  have hres : sums.1 = m.reservedSum :=
    ResourceVector.quantities_injective (hreserved.trans hm.reserved.symm)
  have huse : sums.2 = m.usedSum :=
    ResourceVector.quantities_injective (hused.trans hm.used.symm)
  have hprobe : m.verifyAccounting = (m.reservedSum.satAdd m.usedSum).fitsIn m.ceiling := by
    rw [verifyAccounting, hsums]
    simp [hres, huse]
  rw [hprobe, ResourceVector.fitsIn_iff, Pi.le_def]
  refine forall_congr' fun i => ?_
  have hb := hm.bounded i
  have hc : m.ceiling.quantities i = (m.dimCeiling i).toNat := rfl
  rw [ResourceVector.quantities_satAdd, hc]
  omega

/-! ## What keeps the live demand covered -/

/-- A manager that frees capacity and keeps its settings stays covered. -/
theorem Covered.shrink (h : m.Covered) (htotal : m'.total = m.total)
    (hmode : m'.overcommitMode = m.overcommitMode)
    (hallowance : m'.overcommitAllowance = m.overcommitAllowance)
    (hle : ∀ i, m'.reservedSum.quantities i + m'.usedSum.quantities i ≤
      m.reservedSum.quantities i + m.usedSum.quantities i) : m'.Covered := by
  intro i
  have hceiling : m'.dimCeiling i = m.dimCeiling i := by
    rw [dimCeiling, dimCeiling, htotal, hmode, hallowance]
  rw [hceiling]
  exact (hle i).trans (h i)

theorem Covered.commit (h : m.Covered) (hm : m.Accounting) (now : TimePoint) (id : ReservationId)
    (ar : AdmissionRequestId) (gen : AdmissionGeneration) : (m.commit now id ar gen).2.Covered := by
  rcases commit_cases hm now id ar gen with ⟨s, heq, -, -⟩ | ⟨r, r2, -, -, -, hsub, heq⟩ |
    ⟨r, r2, u2, -, -, -, hsub, hadd, heq⟩
  · rw [heq]
    exact h
  · rw [heq]
    refine h.shrink rfl rfl rfl fun i => ?_
    exact Nat.add_le_add_right (ResourceVector.trySub_le hsub i) _
  · rw [heq]
    refine h.shrink rfl rfl rfl fun i => ?_
    have hr := congrFun (ResourceVector.trySub_eq_some_iff.mp hsub) i
    have hu := congrFun (ResourceVector.tryAdd_eq_some_iff.mp hadd) i
    simp only [Pi.add_apply] at hr hu ⊢
    omega

theorem Covered.rollback (h : m.Covered) (hm : m.Accounting) (id : ReservationId) :
    (m.rollback id).2.Covered := by
  rcases rollback_cases hm id with ⟨s, heq, -, -⟩ | ⟨r, r2, -, -, hsub, heq⟩
  · rw [heq]
    exact h
  · rw [heq]
    refine h.shrink rfl rfl rfl fun i => ?_
    exact Nat.add_le_add_right (ResourceVector.trySub_le hsub i) _

theorem Covered.release (h : m.Covered) (hm : m.Accounting) (id : ReservationId) :
    (m.release id).2.Covered := by
  rcases release_cases hm id with ⟨-, heq⟩ | ⟨r, -, -, heq⟩ | ⟨r, r2, u2, -, hcase, heq⟩
  · rw [heq]
    exact h
  · rw [heq]
    exact h
  · rw [heq]
    refine h.shrink rfl rfl rfl fun i => ?_
    rcases hcase with ⟨-, hsub, rfl⟩ | ⟨-, hsub, rfl⟩ | ⟨-, rfl, rfl⟩
    · exact Nat.add_le_add_right (ResourceVector.trySub_le hsub i) _
    · exact Nat.add_le_add_left (ResourceVector.trySub_le hsub i) _
    · exact le_rfl

end Fabric.ReservationManager

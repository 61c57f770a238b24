import Fabric.Engine.Settings
import Fabric.Engine.Soundness
import Fabric.Support.Rational

/-!
# Admission is monotone

A request that is admitted is still admitted when the snapshot total is larger and its deadline
later (`admits_mono`). A larger total also raises the margin that is kept free, but by no more
than the availability; it lowers the share of the capacity that fairness compares; and it leaves
the reservation more room.
-/

namespace Fabric

open Support Support.Checks

/-! ## Margins -/

/-- What is left above a share of a quantity grows with the quantity. -/
theorem sub_share_mono (q : ℚ) {a b : ℕ} (hab : a ≤ b) (s : ℕ) :
    a - (⌊a * q⌋₊ + s) ≤ b - (⌊b * q⌋₊ + s) := by
  rcases le_total q 0 with hneg | hpos
  · -- A negative share is rounded to zero.
    rw [Nat.floor_of_nonpos (mul_nonpos_of_nonneg_of_nonpos (Nat.cast_nonneg a) hneg),
      Nat.floor_of_nonpos (mul_nonpos_of_nonneg_of_nonpos (Nat.cast_nonneg b) hneg)]
    exact Nat.sub_le_sub_right hab _
  rcases le_total q 1 with hle | hge
  · have hstep : (b : ℚ) * q ≤ a * q + (b - a : ℕ) := by
      rw [Nat.cast_sub hab]
      have hshare : ((b : ℚ) - a) * q ≤ (b - a) * 1 :=
        mul_le_mul_of_nonneg_left hle (sub_nonneg.mpr (Nat.cast_le.mpr hab))
      linarith
    have hfloor : ⌊(b : ℚ) * q⌋₊ ≤ ⌊(a : ℚ) * q⌋₊ + (b - a) := by
      rw [← Nat.floor_add_natCast (by positivity)]
      exact Nat.floor_mono hstep
    omega
  · -- A share of one or more leaves nothing.
    have hall : a ≤ ⌊(a : ℚ) * q⌋₊ :=
      Nat.le_floor (le_mul_of_one_le_right (Nat.cast_nonneg a) hge)
    omega

variable {F : Type} [Double F]

/-- The product of a quantity and the ratio is taken exactly and rounded down. -/
def ExactRatio (ratio : F) : Prop :=
  ∃ q : ℚ, ∀ a : UInt64, (Double.toUInt64 (Double.ofUInt64 a * ratio)).toNat = ⌊a.toNat * q⌋₊

variable (F) in
/-- A quotient that is not over the limit of fairness is not over it with a larger divisor. -/
def MonotoneQuotient : Prop :=
  ∀ w a b : UInt64, 0 < a → a ≤ b →
    (Double.ofUInt64 w / Double.ofUInt64 b : F) > 0.60 →
    (Double.ofUInt64 w / Double.ofUInt64 a : F) > 0.60

/-! ## Two states and two requests -/

/-- `w` is at least as large as `v`, and zero in the same dimensions. -/
structure ResourceVector.Enlarges (w v : ResourceVector) : Prop where
  le : v.quantities ≤ w.quantities
  zero : ∀ i, w.get i = 0 ↔ v.get i = 0

/-- The same deadline or a later one. -/
def NotEarlier : Option Nanoseconds → Option Nanoseconds → Prop
  | none, none => True
  | some budget, some budget' => budget ≤ budget'
  | _, _ => False

namespace AdmissionFabric

/-- The engine with another total in its snapshot. The manager has a copy of the total, in every
reachable engine the same (`total_after`). -/
def withTotal (f : AdmissionFabric F) (total : ResourceVector) : AdmissionFabric F :=
  { f with
    snapshot := { f.snapshot with total }
    reservations := f.reservations.setTotal total }

/-- The predicted durations, which are quotients of counts by positive rates, are not negative, and
their sum is a 64-bit number of nanoseconds. -/
def DurationFits (f : AdmissionFabric F) (d : AdmissionDescriptor F) : Prop :=
  0 ≤ (f.predictor.predictDuration d).transfer.toInt ∧
  0 ≤ (f.predictor.predictDuration d).expected.toInt ∧
  (queueDelay (f.snapshot.pressure .acceleratorMemory)).toInt +
      (f.predictor.predictDuration d).transfer.toInt +
      (f.predictor.predictDuration d).expected.toInt + (milliseconds 1).toInt < 2 ^ 63

end AdmissionFabric

/-! ## Capacity -/

namespace ReservationManager

variable {m : ReservationManager} {total : ResourceVector}

theorem dimCeiling_mono (h : total.Enlarges m.total) (i : ResourceId) :
    (m.dimCeiling i).toNat ≤ ((m.setTotal total).dimCeiling i).toNat := by
  show _ ≤ (if total.get i = 0 then kUnbounded else _).toNat
  unfold dimCeiling
  by_cases hzero : m.total.get i = 0
  · rw [if_pos hzero, if_pos ((h.zero i).mpr hzero)]
  · rw [if_neg hzero, if_neg (mt (h.zero i).mp hzero), toNat_satAdd, toNat_satAdd]
    have hle : (m.total.get i).toNat ≤ (total.get i).toNat := h.le i
    show min _ _ ≤ min ((total.get i).toNat + _) _
    exact min_le_min_right _ (Nat.add_le_add_right hle _)

theorem availability_mono (h : total.Enlarges m.total) (i : ResourceId) :
    m.availability.quantities i ≤ (m.setTotal total).availability.quantities i := by
  rw [quantities_availability, quantities_availability]
  exact Nat.sub_le_sub_right (dimCeiling_mono h i) _

/-- A reservation that passes its checks passes them under a larger total. -/
theorem reserveCheck_mono (h : total.Enlarges m.total) {rid : ReservationId}
    {demand next : ResourceVector} (hcheck : m.reserveCheck rid demand = .ok next) :
    (m.setTotal total).reserveCheck rid demand = .ok next := by
  obtain ⟨hnew, hpos, hadd, hle⟩ := reserveCheck_eq_ok_iff.mp hcheck
  exact reserveCheck_eq_ok_iff.mpr
    ⟨hnew, hpos, hadd, fun i => (hle i).trans (dimCeiling_mono h i)⟩

end ReservationManager

namespace AdmissionFabric

variable {f : AdmissionFabric F} {now : TimePoint} {d : AdmissionDescriptor F}
  {pol : AdmissionPolicy F} {total : ResourceVector} {deadline : Option Nanoseconds}

/-- The margin grows by no more than the availability. -/
theorem effectiveAvailability_mono (h : total.Enlarges f.reservations.total)
    (hratio : ExactRatio pol.safetyHeadroomRatio) (i : ResourceId) :
    (f.effectiveAvailability pol).quantities i ≤
      ((f.withTotal total).effectiveAvailability pol).quantities i := by
  obtain ⟨q, hproduct⟩ := hratio
  have havail : f.reservations.availability.quantities i ≤
      (f.withTotal total).reservations.availability.quantities i :=
    ReservationManager.availability_mono h i
  have hlimit := (f.withTotal total).reservations.availability.quantities_lt i
  have hshare := sub_share_mono q havail (pol.absoluteSafetyMargin.quantities i)
  rw [quantities_effectiveAvailability, quantities_effectiveAvailability, AdmissionPolicy.ratioPart,
    AdmissionPolicy.ratioPart, hproduct, hproduct]
  simp only [ResourceVector.quantities_apply] at havail hlimit hshare ⊢
  omega

/-! ## The deadline -/

theorem predictedTotal_eq (f : AdmissionFabric F) (d : AdmissionDescriptor F)
    (dur : DurationPrediction F) : (f.evaluateSlo d dur).predictedTotal =
      queueDelay (f.snapshot.pressure .acceleratorMemory) + dur.transfer + dur.expected +
        milliseconds 1 := by
  unfold evaluateSlo
  cases d.deadline with
  | none => rfl
  | some budget =>
    simp only
    split_ifs <;> rfl

theorem queueDelay_nonneg (p : PressureLevel) : 0 ≤ (queueDelay p).toInt := by
  cases p with
  | undeclared => exact le_refl 0
  | _ => decide

theorem toInt_add_of_lt {a b : Nanoseconds} (ha : 0 ≤ a.toInt) (hb : 0 ≤ b.toInt)
    (h : a.toInt + b.toInt < 2 ^ 63) : (a + b).toInt = a.toInt + b.toInt := by
  rw [Int64.toInt_add, Int.bmod_eq_of_le]
  · omega
  · omega

/-- A sum of delays that fits is exact. -/
theorem toInt_delays {queue transfer expected : Nanoseconds} (hqueue : 0 ≤ queue.toInt)
    (htransfer : 0 ≤ transfer.toInt) (hexpected : 0 ≤ expected.toInt)
    (hfits : queue.toInt + transfer.toInt + expected.toInt + 1000000 < 2 ^ 63) :
    (queue + transfer + expected + milliseconds 1).toInt =
      queue.toInt + transfer.toInt + expected.toInt + 1000000 := by
  have hone : (milliseconds 1).toInt = 1000000 := by decide
  have h₁ : (queue + transfer).toInt = _ := toInt_add_of_lt hqueue htransfer (by omega)
  have h₂ : (queue + transfer + expected).toInt = _ :=
    toInt_add_of_lt (by omega) hexpected (by omega)
  have h₃ : (queue + transfer + expected + milliseconds 1).toInt = _ :=
    toInt_add_of_lt (by omega) (by omega) (by omega)
  rw [h₃, h₂, h₁, hone]

/-- The predicted total does not wrap. -/
theorem predictedTotal_nonneg (h : f.DurationFits d) :
    0 ≤ (f.evaluateSlo d (f.predictor.predictDuration d)).predictedTotal := by
  obtain ⟨htransfer, hexpected, hsum⟩ := h
  have hqueue := queueDelay_nonneg (f.snapshot.pressure .acceleratorMemory)
  have hone : (milliseconds 1).toInt = 1000000 := by decide
  rw [hone] at hsum
  rw [predictedTotal_eq, Int64.le_iff_toInt_le, toInt_delays hqueue htransfer hexpected hsum,
    Int64.toInt_zero]
  omega

/-- A later deadline leaves more time. -/
theorem slack_mono {total budget budget' : Nanoseconds} (htotal : 0 ≤ total) (hpos : 0 < budget)
    (hle : budget ≤ budget') (h : 0 < budget - total) : 0 < budget' - total := by
  have hlt := Int64.lt_iff_toInt_lt.mp (total_lt_of_slack hpos h)
  have hnonneg := Int64.le_iff_toInt_le.mp htotal
  have hbudget := Int64.le_iff_toInt_le.mp hle
  have hmax := budget'.toInt_lt
  rw [Int64.lt_iff_toInt_lt, Int64.toInt_sub, Int.bmod_eq_of_le]
  · simp only [Int64.toInt_zero] at hnonneg ⊢
    omega
  · simp only [Int64.toInt_zero] at hnonneg
    omega
  · simp only [Int64.toInt_zero] at hnonneg
    omega

/-- With a deadline the verdict passes exactly when there is time left. -/
theorem verdict_passes_iff {budget : Nanoseconds} (hbudget : d.deadline = some budget)
    (dur : DurationPrediction F) :
    ((f.evaluateSlo d dur).verdict ≠ .infeasible ∧ (f.evaluateSlo d dur).verdict ≠ .unknown) ↔
      0 < budget - (f.evaluateSlo d dur).predictedTotal := by
  rw [predictedTotal_eq]
  unfold evaluateSlo
  simp only [hbudget]
  split_ifs with hslack
  · exact iff_of_false (fun h => h.1 rfl) (Int64.not_lt.mpr hslack)
  · exact iff_of_true ⟨nofun, nofun⟩ (Int64.not_le.mp hslack)
  · exact iff_of_true ⟨nofun, nofun⟩ (Int64.not_le.mp hslack)

theorem verdict_mono (hvalid : d.validate.isOk = true) (hfit : f.DurationFits d)
    (hlater : NotEarlier d.deadline deadline)
    (h : (f.evaluateSlo d (f.predictor.predictDuration d)).verdict ≠ .infeasible ∧
      (f.evaluateSlo d (f.predictor.predictDuration d)).verdict ≠ .unknown) :
    (f.evaluateSlo { d with deadline } (f.predictor.predictDuration d)).verdict ≠ .infeasible ∧
      (f.evaluateSlo { d with deadline } (f.predictor.predictDuration d)).verdict ≠ .unknown := by
  cases hbudget : d.deadline with
  | none =>
    cases deadline with
    | none =>
      obtain ⟨⟩ := d
      obtain rfl : _ = none := hbudget
      exact h
    | some budget' =>
      rw [hbudget] at hlater
      exact hlater.elim
  | some budget =>
    rw [hbudget] at hlater
    cases deadline with
    | none => exact hlater.elim
    | some budget' =>
      have hslack := (verdict_passes_iff hbudget _).mp h
      rw [verdict_passes_iff rfl, predictedTotal_eq]
      rw [← predictedTotal_eq f d]
      exact slack_mono (predictedTotal_nonneg hfit) ((bounds_of_valid hvalid).2.2 budget hbudget)
        hlater hslack

/-! ## Fairness -/

theorem prepared_fairness (f : AdmissionFabric F) (now : TimePoint) (d : AdmissionDescriptor F)
    (pol : AdmissionPolicy F) : (f.prepared now d pol).fairness = f.fairness := by
  obtain ⟨record, hprep⟩ := f.exists_prepared_eq now d pol
  rw [hprep]
  rfl

/-- The deferred records that count as small do not depend on the request that is entered. -/
theorem pendingSmall_prepared (f : AdmissionFabric F) (now : TimePoint)
    (d : AdmissionDescriptor F) (pol : AdmissionPolicy F) (total : ResourceVector)
    (deadline : Option Nanoseconds) :
    ((f.withTotal total).prepared now { d with deadline } pol).pendingSmall =
      (f.prepared now d pol).pendingSmall := by
  rcases Option.eq_none_or_eq_some (f.requests.find? d.admissionRequestId) with
    hfind | ⟨record, hfind⟩
  · -- A record that is being evaluated is not deferred.
    simp only [prepared, pendingSmall, transition, bindOvercommit, withTotal, countEvaluation, hfind,
      Option.getD_none, if_true]
    exact congrArg Nat.toUInt32 (OrdMap.countP_insert_congr _ rfl)
  · simp only [prepared, pendingSmall, transition, bindOvercommit, withTotal, countEvaluation, hfind,
      Option.getD_some]
    split_ifs <;> rfl

theorem shouldDeferLarge_mono {pending : UInt32} {share share' : F} {starving : Bool}
    (hshare : share' > 0.60 → share > 0.60)
    (h : FairnessController.shouldDeferLarge pol pending share starving = false) :
    FairnessController.shouldDeferLarge pol pending share' starving = false := by
  unfold FairnessController.shouldDeferLarge at h ⊢
  split_ifs at h ⊢
  · rfl
  · rfl
  · rw [decide_eq_false_iff_not] at h ⊢
    exact fun hlarge => h ⟨hshare hlarge.1, hlarge.2⟩

/-- A larger total makes the request a smaller share of what is available. -/
theorem deferForFairness_mono (hquotient : MonotoneQuotient F)
    (htotal : total.Enlarges f.reservations.total) {demand : ResourceVector}
    (hle : demand.quantities .acceleratorMemory ≤
      (f.bindOvercommit pol).reservations.availability.quantities .acceleratorMemory)
    (h : (f.prepared now d pol).deferForFairness now pol d demand = false) :
    ((f.withTotal total).prepared now { d with deadline } pol).deferForFairness now pol
      { d with deadline } demand = false := by
  have hmono := ReservationManager.availability_mono (m := (f.bindOvercommit pol).reservations)
    htotal .acceleratorMemory
  unfold deferForFairness at h ⊢
  rw [pendingSmall_prepared, prepared_fairness, prepared_reservations]
  rw [prepared_fairness, prepared_reservations] at h
  refine shouldDeferLarge_mono (fun hlarge => ?_) h
  change (if (((f.bindOvercommit pol).reservations.setTotal total).availability.get
      .acceleratorMemory) > 0 ∧ demand.get .acceleratorMemory > 0 then _ else _) > (0.60 : F)
    at hlarge
  change (if (f.bindOvercommit pol).reservations.availability.get .acceleratorMemory > 0 ∧
    demand.get .acceleratorMemory > 0 then _ else _) > (0.60 : F)
  have havail : (f.bindOvercommit pol).reservations.availability.get .acceleratorMemory ≤
      ((f.bindOvercommit pol).reservations.setTotal total).availability.get .acceleratorMemory :=
    UInt64.le_iff_toNat_le.mpr hmono
  by_cases hwanted : demand.get .acceleratorMemory > 0
  · have hpos : (f.bindOvercommit pol).reservations.availability.get .acceleratorMemory > 0 :=
      UInt64.lt_of_lt_of_le hwanted (UInt64.le_iff_toNat_le.mpr hle)
    rw [if_pos ⟨hpos, hwanted⟩]
    rw [if_pos ⟨UInt64.lt_of_lt_of_le hpos havail, hwanted⟩] at hlarge
    exact hquotient _ _ _ hpos havail hlarge
  · rw [if_neg fun h => hwanted h.2] at hlarge ⊢
    exact hlarge

/-! ## The evaluation -/

theorem clears_mono (hquotient : MonotoneQuotient F)
    (htotal : total.Enlarges f.reservations.total) (hratio : ExactRatio pol.safetyHeadroomRatio)
    (hlater : NotEarlier d.deadline deadline)
    (hvalid : ({ d with deadline } : AdmissionDescriptor F).validate.isOk = true)
    (hfit : f.DurationFits d) (h : f.Clears now pol d) :
    (f.withTotal total).Clears now pol { d with deadline } where
  valid := hvalid
  isOpen := h.isOpen
  capability := h.capability
  snapshot := h.snapshot
  quota := h.quota
  verdict := verdict_mono h.valid hfit hlater h.verdict
  fits := by
    have hfits := ResourceVector.fitsIn_iff.mp h.fits
    exact ResourceVector.fitsIn_iff.mpr fun i =>
      (hfits i).trans (effectiveAvailability_mono (f := f.bindOvercommit pol) htotal hratio i)
  fairness := by
    refine deferForFairness_mono hquotient htotal ?_ h.fairness
    refine (ResourceVector.fitsIn_iff.mp h.fits .acceleratorMemory).trans ?_
    rw [quantities_effectiveAvailability]
    exact Nat.sub_le _ _
  reserves := by
    obtain ⟨next, hnext⟩ := h.reserves
    exact ⟨next, ReservationManager.reserveCheck_mono (m := (f.bindOvercommit pol).reservations)
      htotal hnext⟩

/-- A larger total and a later deadline keep a request admitted. -/
theorem admits_mono (hquotient : MonotoneQuotient F)
    (htotal : total.Enlarges f.reservations.total)
    (hratio : ∀ base, f.policy.latest = some base →
      ExactRatio (base.effective d).safetyHeadroomRatio)
    (hlater : NotEarlier d.deadline deadline)
    (hvalid : ({ d with deadline } : AdmissionDescriptor F).validate.isOk = true)
    (hfit : f.DurationFits d) (h : (f.evaluate now d).1.outcome = .admitted) :
    ((f.withTotal total).evaluate now { d with deadline }).1.outcome = .admitted := by
  obtain ⟨base, hpol, hclears⟩ := admissible_iff.mp (admits_iff.mp h)
  exact admits_iff.mpr (admissible_iff.mpr
    ⟨base, hpol, clears_mono hquotient htotal (hratio base hpol) hlater hvalid hfit hclears⟩)

end AdmissionFabric

/-! ## Exact arithmetic -/

theorem exactRatio_rat {q : ℚ} (hq : q ≤ 1) : ExactRatio q := by
  refine ⟨q, fun a => ?_⟩
  show (UInt64.ofNat ⌊(a.toNat : ℚ) * q⌋₊).toNat = _
  rw [UInt64.toNat_ofNat', Nat.mod_eq_of_lt]
  have hle : ⌊(a.toNat : ℚ) * q⌋₊ ≤ ⌊(a.toNat : ℚ)⌋₊ :=
    Nat.floor_mono (mul_le_of_le_one_right (Nat.cast_nonneg _) hq)
  rw [Nat.floor_natCast] at hle
  exact hle.trans_lt a.toNat_lt

theorem monotoneQuotient_rat : MonotoneQuotient ℚ := by
  intro w a b hpos hle h
  refine lt_of_lt_of_le h ?_
  show (w.toNat : ℚ) / b.toNat ≤ w.toNat / a.toNat
  have hpos : 0 < a.toNat := UInt64.lt_iff_toNat_lt.mp hpos
  exact div_le_div_of_nonneg_left (Nat.cast_nonneg _) (Nat.cast_pos.mpr hpos)
    (Nat.cast_le.mpr (UInt64.le_iff_toNat_le.mp hle))

namespace Sample

/-- A request with half a second. -/
def hurried : AdmissionDescriptor ℚ :=
  { admissionRequestId := ⟨1⟩
    requestId := ⟨1⟩
    attemptId := ⟨1⟩
    tenantId := ⟨1⟩
    modelId := ⟨1⟩
    modelRevision := ⟨1⟩
    policyGeneration := ⟨1⟩
    deadline := some (milliseconds 500) }

/-- A policy and capacity for one request. -/
def spare : List (EngineCall ℚ) :=
  [⟨0, .installPolicy {}⟩, ⟨0, .setSnapshot (snapshot 1000000000)⟩]

end Sample

namespace AdmissionFabric

theorem admits_mono_hurried :
    ((((engine ℚ).after Sample.spare).withTotal (Sample.snapshot 2000000000).total).evaluate 0
      { Sample.hurried with deadline := some (milliseconds 800) }).1.outcome = .admitted := by
  refine admits_mono monotoneQuotient_rat ⟨fun i => ?_, fun i => ?_⟩ (fun base hbase => ?_) ?_ ?_ ?_ ?_
  · cases i <;> decide +kernel
  · cases i <;> decide +kernel
  · have hlatest : ((engine ℚ).after Sample.spare).policy.latest.all
        (fun base => decide ((base.effective Sample.hurried).safetyHeadroomRatio ≤ 1)) = true := by
      decide +kernel
    rw [hbase] at hlatest
    exact exactRatio_rat (of_decide_eq_true hlatest)
  · show milliseconds 500 ≤ milliseconds 800
    decide
  · decide +kernel
  · unfold DurationFits
    decide +kernel
  · decide +kernel

end AdmissionFabric

end Fabric

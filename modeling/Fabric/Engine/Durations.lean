import Fabric.Engine.Monotone
import Fabric.Prediction.Footprint

/-!
# Predicted durations

A duration is the quotient of a count and a rate, at most `10 ^ 12` seconds, in nanoseconds. Signed
64-bit counts end at `9.2 * 10 ^ 9` seconds, and nothing checks the sums either: durations and totals
are what they should be exactly when the exact total fits (`durations_hold_iff`). The transfer is
part of the execution and is added once more (`counted_once_iff`).
-/

namespace Fabric

open Support

variable {F : Type} [Double F]

/-- The parts of a duration. -/
structure Times (α : Type) where
  prefill : α
  decode : α
  transfer : α

/-- The request with other counts of output tokens. -/
def AdmissionDescriptor.withOutput (d : AdmissionDescriptor F) (expected cap : UInt64) :
    AdmissionDescriptor F :=
  { d with
    expectedOutputTokens := expected
    maxOutputTokens := cap }

/-! ## The parts -/

/-- The seconds for a count at a rate; none without a count or a rate. -/
def secondsAt (count : UInt64) (rate : F) : F :=
  if count > 0 ∧ rate > 0.0 then Double.ofUInt64 count / rate else 0.0

namespace WorkloadPredictor

/-- The parts of a duration as `predict_duration` converts them. -/
def times (w : WorkloadPredictor F) (d : AdmissionDescriptor F) : Times Nanoseconds :=
  match w.usableProfile d with
  | some p =>
    { prefill := fromSeconds (secondsAt d.inputTokens p.prefillTokensPerSec)
      decode := fromSeconds (secondsAt d.expectedOutputTokens
        (w.effectiveDecodeRate (w.descriptorKey d) p.decodeTokensPerSec))
      transfer := fromSeconds (secondsAt p.transferBytesPerSequence p.transferBytesPerSec) }
  | none =>
    { prefill := fromSeconds
        (if d.inputTokens > 0 then Double.ofUInt64 d.inputTokens / 1000.0 else (0.0 : F))
      decode := fromSeconds
        (if d.expectedOutputTokens > 0 then Double.ofUInt64 d.expectedOutputTokens / 40.0
        else (0.0 : F))
      transfer := 0 }

variable (w : WorkloadPredictor F) (d : AdmissionDescriptor F)

theorem prefill_predictDuration : (w.predictDuration d).prefill = (w.times d).prefill := by
  unfold predictDuration times
  cases w.usableProfile d <;> rfl

theorem decode_predictDuration : (w.predictDuration d).decode = (w.times d).decode := by
  unfold predictDuration times
  cases w.usableProfile d <;> rfl

theorem transfer_predictDuration : (w.predictDuration d).transfer = (w.times d).transfer := by
  unfold predictDuration times
  cases w.usableProfile d <;> rfl

/-- The expected duration has the transfer in it. -/
theorem expected_predictDuration : (w.predictDuration d).expected =
    (w.times d).prefill + (w.times d).decode + (w.times d).transfer := by
  unfold predictDuration times
  cases w.usableProfile d with
  | none => exact (Int64.add_zero _).symm
  | some p => rfl

end WorkloadPredictor

/-! ## The verdict -/

namespace AdmissionFabric

variable {f : AdmissionFabric F} {d : AdmissionDescriptor F} {budget : Nanoseconds}

/-- The feasibility of a request with its predicted duration. -/
def predictedSlo (f : AdmissionFabric F) (d : AdmissionDescriptor F) : SloFeasibility F :=
  f.evaluateSlo d (f.predictor.predictDuration d)

/-- With a deadline the verdict is infeasible when no time is left. -/
theorem verdict_infeasible_iff (hbudget : d.deadline = some budget) :
    (f.predictedSlo d).verdict = .infeasible ↔ budget - (f.predictedSlo d).predictedTotal ≤ 0 := by
  rw [predictedSlo, predictedTotal_eq]
  unfold evaluateSlo
  simp only [hbudget]
  split_ifs with hslack
  · exact iff_of_true rfl hslack
  · exact iff_of_false nofun hslack
  · exact iff_of_false nofun hslack

theorem verdict_of_no_deadline (hnone : d.deadline = none) :
    (f.predictedSlo d).verdict ≠ .infeasible := by
  unfold predictedSlo evaluateSlo
  simp only [hnone]
  split <;> nofun

/-- No time is left when the deadline is at most the total, as long as the difference fits. -/
theorem slack_nonpos_iff {total : Nanoseconds} (htotal : 0 ≤ total.toInt)
    (hfits : -2 ^ 63 ≤ budget.toInt - total.toInt) :
    budget - total ≤ 0 ↔ budget.toInt ≤ total.toInt := by
  have hlt := budget.toInt_lt
  rw [Int64.le_iff_toInt_le, Int64.toInt_sub, Int.bmod_eq_of_le (by omega) (by omega)]
  simp only [Int64.toInt_zero]
  omega

/-! ## Each part once -/

/-- Queue and reservation delay, prefill, decode and transfer, each once. -/
def timeOnce (f : AdmissionFabric F) (d : AdmissionDescriptor F) : ℤ :=
  (queueDelay (f.snapshot.pressure .acceleratorMemory)).toInt + (milliseconds 1).toInt +
    (f.predictor.times d).prefill.toInt + (f.predictor.times d).decode.toInt +
    (f.predictor.times d).transfer.toInt

/-- No conversion and no sum of the evaluation overflows. -/
structure NoOverflow (f : AdmissionFabric F) (d : AdmissionDescriptor F) (budget : Nanoseconds) :
    Prop where
  prefill : 0 ≤ (f.predictor.times d).prefill.toInt
  decode : 0 ≤ (f.predictor.times d).decode.toInt
  transfer : 0 ≤ (f.predictor.times d).transfer.toInt
  total : f.timeOnce d + (f.predictor.times d).transfer.toInt < 2 ^ 63
  slack : -2 ^ 63 ≤ budget.toInt - (f.timeOnce d + (f.predictor.times d).transfer.toInt)

/-- The predicted total has the transfer in it twice. -/
theorem toInt_predictedTotal (h : f.NoOverflow d budget) :
    (f.predictedSlo d).predictedTotal.toInt =
      f.timeOnce d + (f.predictor.times d).transfer.toInt := by
  have hqueue := queueDelay_nonneg (f.snapshot.pressure .acceleratorMemory)
  have hone : (milliseconds 1).toInt = 1000000 := by decide
  obtain ⟨hprefill, hdecode, htransfer, htotal, -⟩ := h
  rw [predictedSlo, predictedTotal_eq, WorkloadPredictor.transfer_predictDuration,
    WorkloadPredictor.expected_predictDuration]
  rw [timeOnce, hone] at htotal ⊢
  have h₁ : ((f.predictor.times d).prefill + (f.predictor.times d).decode).toInt = _ :=
    toInt_add_of_lt hprefill hdecode (by omega)
  have h₂ : ((f.predictor.times d).prefill + (f.predictor.times d).decode +
      (f.predictor.times d).transfer).toInt = _ :=
    toInt_add_of_lt (by omega) htransfer (by omega)
  rw [toInt_delays hqueue htransfer (by omega) (by omega), h₂, h₁]
  omega

/-- The verdict counts every part once, unless the deadline lies between the total with one transfer
and the total with two. -/
theorem counted_once_iff (hbudget : d.deadline = some budget) (h : f.NoOverflow d budget) :
    ((f.predictedSlo d).verdict = .infeasible ↔
        budget.toInt ≤ f.timeOnce d) ↔
      ¬ (f.timeOnce d < budget.toInt ∧
        budget.toInt ≤ f.timeOnce d + (f.predictor.times d).transfer.toInt) := by
  have htotal := toInt_predictedTotal h
  have hslack := h.slack
  have htransfer := h.transfer
  have hqueue := queueDelay_nonneg (f.snapshot.pressure .acceleratorMemory)
  have hnonneg : 0 ≤ f.timeOnce d := by
    have hone : (milliseconds 1).toInt = 1000000 := by decide
    have hprefill := h.prefill
    have hdecode := h.decode
    rw [timeOnce]
    omega
  rw [verdict_infeasible_iff hbudget, slack_nonpos_iff (by omega) (by omega), htotal]
  omega

end AdmissionFabric

namespace Sample

/-- A request with ten seconds. -/
def patient (input output : UInt64) : AdmissionDescriptor F :=
  { work input output output with deadline := some (seconds 10) }

/-- A profile that needs a second for the transfer. -/
def shipped : PredictionProfile F :=
  { modelId := ⟨1⟩
    revision := ⟨1⟩
    backend := ascii "cuda"
    prefillTokensPerSec := 1000.0
    decodeTokensPerSec := 100.0
    transferBytesPerSequence := 1000000
    transferBytesPerSec := 1000000.0 }

end Sample

namespace AdmissionFabric

theorem counted_once_iff_shipped :
    ((((engine Binary64).after [⟨0, .registerProfile Sample.shipped⟩]).predictedSlo
        (Sample.patient 0 100)).verdict = .infeasible ↔
      (seconds 10).toInt ≤ ((engine Binary64).after
        [⟨0, .registerProfile Sample.shipped⟩]).timeOnce (Sample.patient 0 100)) ↔
    ¬ (((engine Binary64).after [⟨0, .registerProfile Sample.shipped⟩]).timeOnce
          (Sample.patient 0 100) < (seconds 10).toInt ∧
        (seconds 10).toInt ≤ ((engine Binary64).after
            [⟨0, .registerProfile Sample.shipped⟩]).timeOnce (Sample.patient 0 100) +
          (((engine Binary64).after [⟨0, .registerProfile Sample.shipped⟩]).predictor.times
            (Sample.patient 0 100)).transfer.toInt) :=
  counted_once_iff rfl ⟨by decide +kernel, by decide +kernel, by decide +kernel, by decide +kernel,
    by decide +kernel⟩

/-- A request that takes nine seconds and a half, one of them for the transfer, is infeasible within
ten seconds. -/
theorem counted_once_fails :
    ((engine Binary64).after [⟨0, .registerProfile Sample.shipped⟩]).NoOverflow
        (Sample.patient 0 850) (seconds 10) ∧
      ((engine Binary64).after [⟨0, .registerProfile Sample.shipped⟩]).timeOnce
        (Sample.patient 0 850) < (seconds 10).toInt ∧
      (((engine Binary64).after [⟨0, .registerProfile Sample.shipped⟩]).predictedSlo
        (Sample.patient 0 850)).verdict = .infeasible :=
  ⟨⟨by decide +kernel, by decide +kernel, by decide +kernel, by decide +kernel, by decide +kernel⟩,
    by decide +kernel, by decide +kernel⟩

end AdmissionFabric

/-! ## Exact times -/

/-- The nanoseconds for a count at a rate, at most `10 ^ 12` seconds of them. -/
def exactTime (count : UInt64) (rate : ℚ) : ℕ :=
  ⌊min (secondsAt count rate) (10 ^ 12) * 10 ^ 9⌋₊

namespace WorkloadPredictor

/-- The times of a request: by its profile and what was learned of its decode rate, or else by 1000
and 40 tokens per second. -/
def exactTimes (w : WorkloadPredictor ℚ) (d : AdmissionDescriptor ℚ) : Times ℕ :=
  match w.usableProfile d with
  | some p =>
    { prefill := exactTime d.inputTokens p.prefillTokensPerSec
      decode := exactTime d.expectedOutputTokens
        (w.effectiveDecodeRate (w.descriptorKey d) p.decodeTokensPerSec)
      transfer := exactTime p.transferBytesPerSequence p.transferBytesPerSec }
  | none =>
    { prefill := exactTime d.inputTokens 1000
      decode := exactTime d.expectedOutputTokens 40
      transfer := 0 }

end WorkloadPredictor

theorem secondsAt_nonneg (count : UInt64) (rate : ℚ) : 0 ≤ secondsAt count rate := by
  have hzero : (0.0 : ℚ) = 0 := by norm_num
  unfold secondsAt
  split_ifs with h
  · rw [hzero] at h
    exact div_nonneg (Nat.cast_nonneg _) h.2.le
  · exact hzero.ge

/-- The conversion keeps a time exactly when it fits. -/
theorem toInt_fromSeconds_iff (count : UInt64) (rate : ℚ) :
    (fromSeconds (secondsAt count rate)).toInt = exactTime count rate ↔
      exactTime count rate < 2 ^ 63 := by
  have hnonneg := secondsAt_nonneg count rate
  have hconvert : fromSeconds (secondsAt count rate) = .ofInt (exactTime count rate) := by
    have hzero : (0.0 : ℚ) = 0 := by norm_num
    have hcap : (if secondsAt count rate > 1e12 then 1e12 else secondsAt count rate) =
        min (secondsAt count rate) (10 ^ 12) := by
      have hlimit : (1e12 : ℚ) = 10 ^ 12 := by norm_num
      rw [hlimit]
      split_ifs with h
      · exact (min_eq_right h.le).symm
      · exact (min_eq_left (not_lt.mp h)).symm
    rw [fromSeconds, if_neg (by rw [hzero]; simp [hnonneg, Double.isFinite]), hcap]
    show Int64.ofInt ⌊_ * (1e9 : ℚ)⌋ = _
    have hbillion : (1e9 : ℚ) = 10 ^ 9 := by norm_num
    rw [hbillion, exactTime, Int.natCast_floor_eq_floor]
    positivity
  rw [hconvert]
  generalize exactTime count rate = n
  constructor
  · intro h
    have hlt := (Int64.ofInt n).toInt_lt
    omega
  · intro h
    have hsize : Int64.size = 2 ^ 64 := rfl
    rw [Int64.toInt_ofInt, hsize]
    exact Int.bmod_eq_of_le (by omega) (by omega)

/-- More takes no less time. -/
theorem exactTime_mono {count count' : UInt64} (hle : count ≤ count') (rate : ℚ) :
    exactTime count rate ≤ exactTime count' rate := by
  refine Nat.floor_mono (mul_le_mul_of_nonneg_right (min_le_min_right _ ?_) (by norm_num))
  have hnonneg := secondsAt_nonneg count' rate
  have hzero : (0.0 : ℚ) = 0 := by norm_num
  unfold secondsAt at hnonneg ⊢
  by_cases h : count > 0 ∧ rate > 0.0
  · have hpos : 0 ≤ rate := hzero.symm.trans_le h.2.le
    rw [if_pos h, if_pos ⟨UInt64.lt_of_lt_of_le h.1 hle, h.2⟩]
    exact div_le_div_of_nonneg_right (Nat.cast_le.mpr (UInt64.le_iff_toNat_le.mp hle)) hpos
  · rw [if_neg h]
    exact hzero.trans_le hnonneg

namespace WorkloadPredictor

variable {w : WorkloadPredictor ℚ} {d : AdmissionDescriptor ℚ}

/-- The three conversions keep the exact times. -/
structure TimesKept (w : WorkloadPredictor ℚ) (d : AdmissionDescriptor ℚ) : Prop where
  prefill : (w.predictDuration d).prefill.toInt = (w.exactTimes d).prefill
  decode : (w.predictDuration d).decode.toInt = (w.exactTimes d).decode
  transfer : (w.predictDuration d).transfer.toInt = (w.exactTimes d).transfer

theorem timesKept_iff : w.TimesKept d ↔ (w.exactTimes d).prefill < 2 ^ 63 ∧
    (w.exactTimes d).decode < 2 ^ 63 ∧ (w.exactTimes d).transfer < 2 ^ 63 := by
  have hkeep : w.TimesKept d ↔ (w.times d).prefill.toInt = (w.exactTimes d).prefill ∧
      (w.times d).decode.toInt = (w.exactTimes d).decode ∧
      (w.times d).transfer.toInt = (w.exactTimes d).transfer := by
    rw [← prefill_predictDuration, ← decode_predictDuration, ← transfer_predictDuration]
    exact ⟨fun h => ⟨h.prefill, h.decode, h.transfer⟩, fun h => ⟨h.1, h.2.1, h.2.2⟩⟩
  rw [hkeep]
  unfold times exactTimes
  cases w.usableProfile d with
  | some p =>
    exact and_congr (toInt_fromSeconds_iff _ _)
      (and_congr (toInt_fromSeconds_iff _ _) (toInt_fromSeconds_iff _ _))
  | none =>
    -- The rates of a cold start are positive constants.
    have hprefill := toInt_fromSeconds_iff d.inputTokens 1000
    have hdecode := toInt_fromSeconds_iff d.expectedOutputTokens 40
    have hseconds : ∀ count : UInt64, secondsAt count (1000 : ℚ) =
        if count > 0 then Double.ofUInt64 count / 1000.0 else 0.0 := fun count => by
      have h : (1000 : ℚ) > 0.0 := by norm_num
      have hlit : (1000.0 : ℚ) = 1000 := by norm_num
      simp only [secondsAt, h, and_true, hlit]
    have hseconds' : ∀ count : UInt64, secondsAt count (40 : ℚ) =
        if count > 0 then Double.ofUInt64 count / 40.0 else 0.0 := fun count => by
      have h : (40 : ℚ) > 0.0 := by norm_num
      have hlit : (40.0 : ℚ) = 40 := by norm_num
      simp only [secondsAt, h, and_true, hlit]
    rw [hseconds] at hprefill
    rw [hseconds'] at hdecode
    exact and_congr hprefill (and_congr hdecode (iff_of_true rfl (Nat.two_pow_pos 63)))

end WorkloadPredictor

/-! ## Sums that wrap -/

/-- A sum is exact up to a multiple of `2 ^ 64`. -/
theorem exists_toInt_add (a b : Nanoseconds) :
    ∃ k : ℤ, (a + b).toInt = a.toInt + b.toInt - 2 ^ 64 * k := by
  refine ⟨(a.toInt + b.toInt).bdiv (2 ^ 64), ?_⟩
  rw [Int64.toInt_add]
  have hdiv := Int.bmod_add_bdiv (a.toInt + b.toInt) (2 ^ 64)
  omega

namespace AdmissionFabric

/-- An expected duration is no less than its parts exactly when their sum fits. -/
theorem parts_le_iff {a b c : Nanoseconds} (ha : 0 ≤ a.toInt) (hb : 0 ≤ b.toInt)
    (hc : 0 ≤ c.toInt) :
    (0 ≤ a + b + c ∧ a ≤ a + b + c ∧ b ≤ a + b + c ∧ c ≤ a + b + c) ↔
      a.toInt + b.toInt + c.toInt < 2 ^ 63 := by
  have hlt := c.toInt_lt
  have hlt' := (a + b + c).toInt_lt
  simp only [Int64.le_iff_toInt_le, Int64.toInt_zero]
  constructor
  · rintro ⟨hnonneg, hage, hbge, hcge⟩
    obtain ⟨k, hk⟩ := exists_toInt_add a b
    obtain ⟨m, hm⟩ := exists_toInt_add (a + b) c
    omega
  · intro hfits
    have h₁ : (a + b).toInt = _ := toInt_add_of_lt ha hb (by omega)
    have h₂ : (a + b + c).toInt = _ := toInt_add_of_lt (by omega) hc (by omega)
    omega

theorem queueDelay_le (p : PressureLevel) : (queueDelay p).toInt ≤ 200000000 := by
  cases p with
  | undeclared => exact (by decide : (milliseconds 0).toInt ≤ 200000000)
  | _ => decide

/-- A total is no less than its delays exactly when their sum fits: the queue delay is small. -/
theorem delays_le_iff {queue transfer expected : Nanoseconds} (hqueue : 0 ≤ queue.toInt)
    (hsmall : queue.toInt ≤ 200000000) (htransfer : 0 ≤ transfer.toInt)
    (hexpected : 0 ≤ expected.toInt) :
    (0 ≤ queue + transfer + expected + milliseconds 1 ∧
        queue ≤ queue + transfer + expected + milliseconds 1 ∧
        transfer ≤ queue + transfer + expected + milliseconds 1 ∧
        expected ≤ queue + transfer + expected + milliseconds 1 ∧
        milliseconds 1 ≤ queue + transfer + expected + milliseconds 1) ↔
      queue.toInt + transfer.toInt + expected.toInt + 1000000 < 2 ^ 63 := by
  have hone : (milliseconds 1).toInt = 1000000 := by decide
  have hlt := transfer.toInt_lt
  have hlt' := (queue + transfer + expected + milliseconds 1).toInt_lt
  simp only [Int64.le_iff_toInt_le, Int64.toInt_zero, hone]
  constructor
  · rintro ⟨hnonneg, hqueueGe, htransferGe, hexpectedGe, honeGe⟩
    obtain ⟨k, hk⟩ := exists_toInt_add queue transfer
    obtain ⟨m, hm⟩ := exists_toInt_add (queue + transfer) expected
    obtain ⟨n, hn⟩ := exists_toInt_add (queue + transfer + expected) (milliseconds 1)
    omega
  · intro hfits
    have hsum := toInt_delays hqueue htransfer hexpected hfits
    omega

end AdmissionFabric

/-- The expected duration is not negative, and no less than its parts. -/
def DurationPrediction.PartsLe (dur : DurationPrediction F) : Prop :=
  0 ≤ dur.expected ∧ dur.prefill ≤ dur.expected ∧ dur.decode ≤ dur.expected ∧
    dur.transfer ≤ dur.expected

/-- The predicted total is not negative, and no less than its parts. -/
def SloFeasibility.PartsLe (s : SloFeasibility F) : Prop :=
  0 ≤ s.predictedTotal ∧ s.predictedQueueDelay ≤ s.predictedTotal ∧
    s.predictedTransferDelay ≤ s.predictedTotal ∧ s.predictedExecutionDuration ≤ s.predictedTotal ∧
    s.predictedReservationDelay ≤ s.predictedTotal

namespace AdmissionFabric

theorem partsLe_evaluateSlo_iff (f : AdmissionFabric F) (d : AdmissionDescriptor F)
    (dur : DurationPrediction F) : (f.evaluateSlo d dur).PartsLe ↔
      0 ≤ queueDelay (f.snapshot.pressure .acceleratorMemory) + dur.transfer + dur.expected +
          milliseconds 1 ∧
        queueDelay (f.snapshot.pressure .acceleratorMemory) ≤
          queueDelay (f.snapshot.pressure .acceleratorMemory) + dur.transfer + dur.expected +
            milliseconds 1 ∧
        dur.transfer ≤ queueDelay (f.snapshot.pressure .acceleratorMemory) + dur.transfer +
          dur.expected + milliseconds 1 ∧
        dur.expected ≤ queueDelay (f.snapshot.pressure .acceleratorMemory) + dur.transfer +
          dur.expected + milliseconds 1 ∧
        milliseconds 1 ≤ queueDelay (f.snapshot.pressure .acceleratorMemory) + dur.transfer +
          dur.expected + milliseconds 1 := by
  rw [SloFeasibility.PartsLe, predictedTotal_eq]
  unfold evaluateSlo
  cases d.deadline with
  | none => exact Iff.rfl
  | some budget =>
    simp only
    split_ifs <;> exact Iff.rfl

variable {f : AdmissionFabric ℚ} {d : AdmissionDescriptor ℚ}

/-- The expected duration is exact when the sum of the exact times fits. -/
theorem toInt_expected {w : WorkloadPredictor ℚ} (hkept : w.TimesKept d)
    (hfits : ((w.exactTimes d).prefill : ℤ) + (w.exactTimes d).decode +
      (w.exactTimes d).transfer < 2 ^ 63) : (w.predictDuration d).expected.toInt =
        (w.exactTimes d).prefill + (w.exactTimes d).decode + (w.exactTimes d).transfer := by
  obtain ⟨hprefill, hdecode, htransfer⟩ := hkept
  rw [WorkloadPredictor.prefill_predictDuration] at hprefill
  rw [WorkloadPredictor.decode_predictDuration] at hdecode
  rw [WorkloadPredictor.transfer_predictDuration] at htransfer
  rw [WorkloadPredictor.expected_predictDuration]
  have h₁ : ((w.times d).prefill + (w.times d).decode).toInt = _ :=
    toInt_add_of_lt (by omega) (by omega) (by omega)
  have h₂ : ((w.times d).prefill + (w.times d).decode + (w.times d).transfer).toInt = _ :=
    toInt_add_of_lt (by omega) (by omega) (by omega)
  rw [h₂, h₁, hprefill, hdecode, htransfer]

/-- The converted times are the exact ones, and no sum of times is negative or less than one of its
parts. -/
structure DurationsHold (f : AdmissionFabric ℚ) (d : AdmissionDescriptor ℚ) : Prop where
  kept : f.predictor.TimesKept d
  expected : (f.predictor.predictDuration d).PartsLe
  total : (f.predictedSlo d).PartsLe

/-- The exact total, with the transfer in it twice, as the code adds it. -/
def exactTotal (f : AdmissionFabric ℚ) (d : AdmissionDescriptor ℚ) : ℤ :=
  (queueDelay (f.snapshot.pressure .acceleratorMemory)).toInt +
    (f.predictor.exactTimes d).transfer + ((f.predictor.exactTimes d).prefill +
      (f.predictor.exactTimes d).decode + (f.predictor.exactTimes d).transfer) + 1000000

/-- The durations hold exactly when the exact total fits. -/
theorem durationsHold_iff : f.DurationsHold d ↔ f.exactTotal d < 2 ^ 63 := by
  have hqueue := queueDelay_nonneg (f.snapshot.pressure .acceleratorMemory)
  have hsmall := queueDelay_le (f.snapshot.pressure .acceleratorMemory)
  have hexpected : f.predictor.TimesKept d → ((f.predictor.predictDuration d).PartsLe ↔
      ((f.predictor.exactTimes d).prefill : ℤ) + (f.predictor.exactTimes d).decode +
        (f.predictor.exactTimes d).transfer < 2 ^ 63) := by
    rintro ⟨hprefill, hdecode, htransfer⟩
    rw [← hprefill, ← hdecode, ← htransfer, ← parts_le_iff (by omega) (by omega) (by omega),
      DurationPrediction.PartsLe, WorkloadPredictor.expected_predictDuration]
    rw [← WorkloadPredictor.prefill_predictDuration, ← WorkloadPredictor.decode_predictDuration,
      ← WorkloadPredictor.transfer_predictDuration]
  constructor
  · rintro ⟨hkept, hparts, htotal⟩
    have hsum := (hexpected hkept).mp hparts
    have htransfer := hkept.transfer
    have hexact := toInt_expected hkept hsum
    have hdelays := (delays_le_iff hqueue hsmall (by omega) (by omega)).mp
      ((partsLe_evaluateSlo_iff f d _).mp htotal)
    rw [hexact, htransfer] at hdelays
    exact hdelays
  · intro hfits
    rw [exactTotal] at hfits
    have hkept : f.predictor.TimesKept d :=
      WorkloadPredictor.timesKept_iff.mpr ⟨by omega, by omega, by omega⟩
    have hexact := toInt_expected hkept (by omega)
    have htransfer := hkept.transfer
    refine ⟨hkept, (hexpected hkept).mpr (by omega), (partsLe_evaluateSlo_iff f d _).mpr ?_⟩
    exact (delays_le_iff hqueue hsmall (by omega) (by omega)).mpr (by omega)

/-! ## More output -/

/-- A total that fits is exact. -/
theorem toInt_predictedTotal_of_lt (hfits : f.exactTotal d < 2 ^ 63) :
    (f.predictedSlo d).predictedTotal.toInt = f.exactTotal d := by
  have hqueue := queueDelay_nonneg (f.snapshot.pressure .acceleratorMemory)
  have hkept := (durationsHold_iff.mpr hfits).kept
  rw [exactTotal] at hfits ⊢
  have hexpected := toInt_expected hkept (by omega)
  have htransfer := hkept.transfer
  rw [predictedSlo, predictedTotal_eq, toInt_delays hqueue (by omega) (by omega) (by omega),
    hexpected, htransfer]

/-- More output tokens take no less time. -/
theorem exactTotal_mono {e m : UInt64} (hle : d.expectedOutputTokens ≤ e) :
    f.exactTotal d ≤ f.exactTotal (d.withOutput e m) := by
  have hprofile : f.predictor.usableProfile (d.withOutput e m) = f.predictor.usableProfile d := rfl
  have hkey : f.predictor.descriptorKey (d.withOutput e m) = f.predictor.descriptorKey d := rfl
  have hinput : (d.withOutput e m).inputTokens = d.inputTokens := rfl
  have houtput : (d.withOutput e m).expectedOutputTokens = e := rfl
  unfold exactTotal WorkloadPredictor.exactTimes
  rw [hprofile, hkey, hinput, houtput]
  cases f.predictor.usableProfile d with
  | none =>
    have hmono := exactTime_mono hle 40
    simp only
    omega
  | some p =>
    have hmono := exactTime_mono hle
      (f.predictor.effectiveDecodeRate (f.predictor.descriptorKey d) p.decodeTokensPerSec)
    simp only
    omega

/-- More output tokens leave an infeasible request infeasible, as long as the totals fit. -/
theorem infeasible_mono (hvalid : d.validate.isOk = true) {e m : UInt64}
    (hle : d.expectedOutputTokens ≤ e) (hfits : f.exactTotal (d.withOutput e m) < 2 ^ 63)
    (h : (f.predictedSlo d).verdict = .infeasible) :
    (f.predictedSlo (d.withOutput e m)).verdict = .infeasible := by
  have hmono : f.exactTotal d ≤ _ := exactTotal_mono (m := m) hle
  have htotal := toInt_predictedTotal_of_lt (hmono.trans_lt hfits)
  have htotal' := toInt_predictedTotal_of_lt hfits
  have hqueue := queueDelay_nonneg (f.snapshot.pressure .acceleratorMemory)
  have hnonneg : 0 ≤ f.exactTotal d := by
    rw [exactTotal]
    omega
  cases hbudget : d.deadline with
  | none => exact absurd h (verdict_of_no_deadline hbudget)
  | some budget =>
    have hpos := Int64.lt_iff_toInt_lt.mp ((bounds_of_valid hvalid).2.2 budget hbudget)
    rw [Int64.toInt_zero] at hpos
    rw [verdict_infeasible_iff hbudget, slack_nonpos_iff (by omega) (by omega), htotal] at h
    have hbudget' : (d.withOutput e m).deadline = some budget := hbudget
    rw [verdict_infeasible_iff hbudget', slack_nonpos_iff (by omega) (by omega), htotal']
    omega

/-- For two requests that differ in the output only, durations hold and the verdict does not turn
exactly when both exact totals fit. -/
theorem durations_hold_iff (hvalid : d.validate.isOk = true) {e m : UInt64}
    (hle : d.expectedOutputTokens ≤ e) :
    (f.DurationsHold d ∧ f.DurationsHold (d.withOutput e m) ∧
        ((f.predictedSlo d).verdict = .infeasible →
          (f.predictedSlo (d.withOutput e m)).verdict = .infeasible)) ↔
      f.exactTotal d < 2 ^ 63 ∧ f.exactTotal (d.withOutput e m) < 2 ^ 63 := by
  constructor
  · rintro ⟨hholds, hholds', -⟩
    exact ⟨durationsHold_iff.mp hholds, durationsHold_iff.mp hholds'⟩
  · rintro ⟨hfits, hfits'⟩
    exact ⟨durationsHold_iff.mpr hfits, durationsHold_iff.mpr hfits',
      infeasible_mono hvalid hle hfits'⟩

theorem durations_hold_iff_patient :
    (((engine ℚ).after []).DurationsHold (Sample.patient 0 100) ∧
        ((engine ℚ).after []).DurationsHold ((Sample.patient 0 100).withOutput 400 400) ∧
        ((((engine ℚ).after []).predictedSlo (Sample.patient 0 100)).verdict = .infeasible →
          (((engine ℚ).after []).predictedSlo
            ((Sample.patient 0 100).withOutput 400 400)).verdict = .infeasible)) ↔
      ((engine ℚ).after []).exactTotal (Sample.patient 0 100) < 2 ^ 63 ∧
        ((engine ℚ).after []).exactTotal ((Sample.patient 0 100).withOutput 400 400) < 2 ^ 63 :=
  durations_hold_iff (by decide +kernel) (by decide +kernel)

/-- `2 ^ 40` input tokens are infeasible within ten seconds, until the output raises the time above
`2 ^ 63` nanoseconds. -/
theorem durations_hold_fails :
    (Sample.patient (F := ℚ) 1099511627776 1000).validate.isOk = true ∧
      ((Sample.patient (F := ℚ) 1099511627776 1000).withOutput 360000000000
        360000000000).validate.isOk = true ∧
      (((engine ℚ).after []).predictor.predictDuration ((Sample.patient 1099511627776 1000).withOutput
        360000000000 360000000000)).expected < 0 ∧
      (((engine ℚ).after []).predictedSlo (Sample.patient 1099511627776 1000)).verdict =
        .infeasible ∧
      (((engine ℚ).after []).predictedSlo ((Sample.patient 1099511627776 1000).withOutput
        360000000000 360000000000)).verdict = .feasible := by
  decide +kernel

end AdmissionFabric

end Fabric

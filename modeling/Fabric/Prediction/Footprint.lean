import Fabric.Prediction.Predictor

/-!
# Footprints over the natural numbers

What `predict_memory` works out for a profile, without the limit of 64 bits: the products are
saturated (`kvBytes`, `tensorBytes`), the learned scale and the margins are shares in thousandths
(`share`), and the sums are exact (`exactPeak`, `exactSustained`). The footprint of the code has
these parts, and its sums are the exact ones modulo `2 ^ 64` (`peakSum_predictMemory`,
`toNat_peak`).
-/

namespace Fabric

open Support

variable {F : Type} [Double F]

/-! ## Products and shares -/

/-- A checked product is there exactly when 64 bits hold it. -/
theorem checkedMul_eq (a b : UInt64) :
    checkedMul a b = if a.toNat * b.toNat < 2 ^ 64 then some (a * b) else none := by
  have hfits : (a ≠ 0 ∧ b > maxU64 / a) ↔ ¬ a.toNat * b.toNat < 2 ^ 64 := by
    rw [gt_iff_lt, UInt64.lt_iff_toNat_lt, UInt64.toNat_div, toNat_maxU64]
    constructor
    · rintro ⟨hne, hlt⟩
      have hpos : 0 < a.toNat := Nat.pos_of_ne_zero fun h => hne (UInt64.toNat_inj.mp h)
      have hover := (Nat.div_lt_iff_lt_mul hpos).mp hlt
      rw [Nat.mul_comm] at hover
      omega
    · intro hover
      have hne : a ≠ 0 := by
        rintro rfl
        simp at hover
      have hpos : 0 < a.toNat := Nat.pos_of_ne_zero fun h => hne (UInt64.toNat_inj.mp h)
      refine ⟨hne, (Nat.div_lt_iff_lt_mul hpos).mpr ?_⟩
      rw [Nat.mul_comm]
      omega
  unfold checkedMul
  by_cases h : a.toNat * b.toNat < 2 ^ 64
  · rw [if_pos h, if_neg (mt hfits.mp (not_not.mpr h))]
  · rw [if_neg h, if_pos (hfits.mpr h)]

theorem toNat_multiplyChecked (a b : UInt64) :
    (multiplyChecked a b).toNat = min (a.toNat * b.toNat) (2 ^ 64 - 1) := by
  rw [multiplyChecked, checkedMul_eq]
  split_ifs with h
  · rw [Option.getD_some, UInt64.toNat_mul, Nat.mod_eq_of_lt h]
    omega
  · rw [Option.getD_none, toNat_maxU64]
    omega

theorem toNat_max (a b : UInt64) : (max a b).toNat = max a.toNat b.toNat := by
  show (if a ≤ b then b else a).toNat = _
  split_ifs with h
  · exact (max_eq_right (UInt64.le_iff_toNat_le.mp h)).symm
  · exact (max_eq_left (UInt64.lt_iff_toNat_lt.mp (UInt64.not_le.mp h)).le).symm

/-- A ratio in thousandths, as `rat_of` truncates it. -/
def thousandths (ratio : F) : ℕ :=
  if ratio ≤ 0.0 then 0 else (Double.toUInt64 (ratio * 1000.0)).toNat

/-- So many thousandths of a quantity, rounded down; the largest number when the product does not
fit. -/
def share (n t : ℕ) : ℕ := if n * t < 2 ^ 64 then n * t / 1000 else 2 ^ 64 - 1

theorem toNat_ratOf (base : UInt64) (ratio : F) :
    (ratOf base ratio).toNat = share base.toNat (thousandths ratio) := by
  unfold ratOf thousandths
  by_cases hratio : ratio ≤ 0.0
  · simp [hratio, share]
  by_cases hbase : base = 0
  · simp [hbase, share]
  rw [if_neg (by simp [hratio, hbase]), if_neg hratio, checkedMul_eq, share]
  split_ifs with h
  · show (base * _ / 1000).toNat = _
    rw [UInt64.toNat_div, UInt64.toNat_mul, Nat.mod_eq_of_lt h]
    rfl
  · rfl

theorem share_eq_of_lt {n t : ℕ} (h : n * t < 2 ^ 64) : share n t = n * t / 1000 := if_pos h

/-- A larger share of a larger quantity is larger, also where it saturates. -/
theorem share_mono {n m s t : ℕ} (hn : n ≤ m) (ht : s ≤ t) : share n s ≤ share m t := by
  have hmul : n * s ≤ m * t := Nat.mul_le_mul hn ht
  unfold share
  split_ifs with hs hm
  · exact Nat.div_le_div_right hmul
  · have := Nat.div_le_self (n * s) 1000
    omega
  · omega
  · exact le_refl _

/-! ## Sums of a footprint -/

namespace MemoryFootprint

/-- The summands of `base`, added exactly. -/
def baseSum (fp : MemoryFootprint) : ℕ :=
  fp.fixedModel.toNat + fp.requestLocal.toNat + fp.kvGrowth.toNat + fp.tensorState.toNat +
    fp.workspace.toNat + fp.staging.toNat

/-- The summands of `peak`, added exactly. -/
def peakSum (fp : MemoryFootprint) : ℕ :=
  fp.baseSum + fp.safetyMargin.toNat + fp.fragmentationAllowance.toNat

/-- The summands of `sustained`, added exactly. -/
def sustainedSum (fp : MemoryFootprint) : ℕ :=
  fp.fixedModel.toNat + fp.tensorState.toNat + fp.staging.toNat

theorem toNat_base (fp : MemoryFootprint) : fp.base.toNat = fp.baseSum % 2 ^ 64 := by
  simp only [base, baseSum, UInt64.toNat_add]
  omega

theorem toNat_peak (fp : MemoryFootprint) : fp.peak.toNat = fp.peakSum % 2 ^ 64 := by
  simp only [peak, peakSum, UInt64.toNat_add, toNat_base]
  omega

theorem toNat_sustained (fp : MemoryFootprint) :
    fp.sustained.toNat = fp.sustainedSum % 2 ^ 64 := by
  simp only [sustained, sustainedSum, UInt64.toNat_add]
  omega

/-- Replace the margins by shares of the base. -/
def withMargins (fp : MemoryFootprint) (safety fragmentation : F) : MemoryFootprint :=
  { fp with
    safetyMargin := ratOf fp.base safety
    fragmentationAllowance := ratOf fp.base fragmentation }

/-- Scale the variable part. -/
def scale (fp : MemoryFootprint) (ratio : F) : MemoryFootprint :=
  { fp with
    kvGrowth := ratOf fp.kvGrowth ratio
    tensorState := ratOf fp.tensorState ratio
    staging := ratOf fp.staging ratio }

end MemoryFootprint

/-! ## Exact sizes -/

/-- The output tokens that a request may produce: its cap, or else its expectation. -/
def AdmissionDescriptor.outputCap (d : AdmissionDescriptor F) : UInt64 :=
  if d.maxOutputTokens ≠ 0 then d.maxOutputTokens else d.expectedOutputTokens

/-- A base with its margins, which are shares of what 64 bits keep of the base. -/
def addMargins (base safety fragmentation : ℕ) : ℕ :=
  base + share (base % 2 ^ 64) safety + share (base % 2 ^ 64) fragmentation

/-- The sum after the margins are set, in terms of the base before. -/
theorem MemoryFootprint.peakSum_withMargins (fp : MemoryFootprint) (safety fragmentation : F) :
    (fp.withMargins safety fragmentation).peakSum =
      addMargins fp.baseSum (thousandths safety) (thousandths fragmentation) := by
  show fp.baseSum + (ratOf fp.base safety).toNat + (ratOf fp.base fragmentation).toNat = _
  rw [toNat_ratOf, toNat_ratOf, toNat_base]
  rfl

/-- A size under a learned scale. -/
def scaled (scale : Option ℕ) (n : ℕ) : ℕ := scale.elim n (share n)

namespace PredictionProfile

variable (p : PredictionProfile F) (d : AdmissionDescriptor F) (scale : Option ℕ)

def kvBytes : ℕ :=
  min (p.perTokenKvBytes.toNat * (d.inputTokens.toNat + d.expectedOutputTokens.toNat)) (2 ^ 64 - 1)

def tensorBytes : ℕ :=
  min (p.perTokenTensorBytes.toNat * (d.inputTokens.toNat + d.outputCap.toNat)) (2 ^ 64 - 1)

/-- The part of the base that is not scaled. -/
def fixedBytes : ℕ :=
  p.fixedBaseMemory.toNat + p.perRequestOverhead.toNat + p.workspaceBytes.toNat

/-- The base of a footprint: the sizes of the profile and the tokens of the request, under a
learned scale in thousandths. -/
def exactBase : ℕ :=
  p.fixedBytes + scaled scale (p.kvBytes d) + scaled scale (p.tensorBytes d) +
    scaled scale p.stagingBytes.toNat

/-- The base and its margins: the ratios of the profile, or 10% and 5% after scaling. -/
def exactPeak : ℕ :=
  match scale with
  | none => addMargins (p.exactBase d none) (thousandths p.safetyMarginRatio)
      (thousandths p.fragmentationRatio)
  | some t => addMargins (p.exactBase d (some t)) (thousandths (0.10 : F)) (thousandths (0.05 : F))

def exactSustained : ℕ :=
  p.fixedBaseMemory.toNat + scaled scale (p.tensorBytes d) + scaled scale p.stagingBytes.toNat

end PredictionProfile

namespace WorkloadPredictor

/-- The factor that is learned from an observed peak: its ratio to the predicted one, between 0.8
and 2. -/
def learnedFactor (F : Type) [Double F] (peak before : UInt64) : F :=
  Double.min 2.0 (Double.max 0.8 (Double.ofUInt64 peak / Double.ofUInt64 before))

/-- The factor that was learned for a key, from the last observed peak. -/
def learnedRatio (w : WorkloadPredictor F) (key : ByteString) (before : UInt64) : Option F :=
  (w.learn.find? key).bind fun st =>
    if st.count = 0 ∨ st.lastPeakVram = 0 ∨ before = 0 then none
    else some (learnedFactor F st.lastPeakVram before)

/-- The learned scale of a request in thousandths. It rests on what 64 bits keep of the peak
without it. -/
def learnedScale (w : WorkloadPredictor F) (p : PredictionProfile F) (d : AdmissionDescriptor F) :
    Option ℕ :=
  (w.learnedRatio (w.descriptorKey d) (p.exactPeak d none).toUInt64).map thousandths

end WorkloadPredictor

/-! ## The footprint of the code -/

variable {w : WorkloadPredictor F} {p : PredictionProfile F} {d : AdmissionDescriptor F}

/-- The token counts of a valid request are at most `2 ^ 40`. -/
theorem AdmissionDescriptor.tokens_le (hvalid : d.validate.isOk = true) :
    d.inputTokens.toNat ≤ 2 ^ 40 ∧ d.expectedOutputTokens.toNat ≤ 2 ^ 40 ∧
      d.outputCap.toNat ≤ 2 ^ 40 := by
  have hchecks := (firstFailure_isOk_iff (by decide)).mp hvalid
  simp only [AdmissionDescriptor.checks, List.forall_mem_cons] at hchecks
  obtain ⟨-, -, -, -, -, -, -, -, hinput, houtput, hmax, -⟩ := hchecks
  have hlimit : ((1 : UInt64) <<< 40).toNat = 2 ^ 40 := by decide
  have hle : ∀ n : UInt64, decide (n > (1 : UInt64) <<< 40) = false → n.toNat ≤ 2 ^ 40 := by
    intro n hn
    rw [← hlimit]
    exact UInt64.le_iff_toNat_le.mp (UInt64.not_lt.mp (of_decide_eq_false hn))
  refine ⟨hle _ hinput, hle _ houtput, ?_⟩
  unfold outputCap
  split_ifs
  · exact hle _ hmax
  · exact hle _ houtput

/-- The sums of the token counts do not wrap. -/
structure AdmissionDescriptor.TokensFit (d : AdmissionDescriptor F) : Prop where
  expected : d.inputTokens.toNat + d.expectedOutputTokens.toNat < 2 ^ 64
  cap : d.inputTokens.toNat + d.outputCap.toNat < 2 ^ 64

theorem AdmissionDescriptor.tokensFit_of_valid (hvalid : d.validate.isOk = true) :
    d.TokensFit := by
  obtain ⟨hinput, houtput, hcap⟩ := AdmissionDescriptor.tokens_le hvalid
  exact ⟨by omega, by omega⟩

omit [Double F] in
theorem AdmissionDescriptor.TokensFit.toNat_expected (h : d.TokensFit) :
    (d.inputTokens + d.expectedOutputTokens).toNat =
      d.inputTokens.toNat + d.expectedOutputTokens.toNat := by
  rw [UInt64.toNat_add, Nat.mod_eq_of_lt h.expected]

omit [Double F] in
theorem AdmissionDescriptor.TokensFit.toNat_cap (h : d.TokensFit) :
    (d.inputTokens + d.outputCap).toNat = d.inputTokens.toNat + d.outputCap.toNat := by
  rw [UInt64.toNat_add, Nat.mod_eq_of_lt h.cap]

namespace WorkloadPredictor

theorem kvGrowth_profileFootprint (htokens : d.TokensFit) :
    (profileFootprint p d).kvGrowth.toNat = p.kvBytes d := by
  show (multiplyChecked _ _).toNat = _
  rw [toNat_multiplyChecked, htokens.toNat_expected]
  rfl

theorem tensorState_profileFootprint (htokens : d.TokensFit) :
    (profileFootprint p d).tensorState.toNat = p.tensorBytes d := by
  show (multiplyChecked _ (d.inputTokens + d.outputCap)).toNat = _
  rw [toNat_multiplyChecked, htokens.toNat_cap]
  rfl

theorem baseSum_profileFootprint (htokens : d.TokensFit) :
    (profileFootprint p d).baseSum = p.exactBase d none := by
  rw [MemoryFootprint.baseSum, kvGrowth_profileFootprint htokens,
    tensorState_profileFootprint htokens]
  show p.fixedBaseMemory.toNat + p.perRequestOverhead.toNat + p.kvBytes d + p.tensorBytes d +
    p.workspaceBytes.toNat + p.stagingBytes.toNat = p.fixedBytes + p.kvBytes d + p.tensorBytes d +
      p.stagingBytes.toNat
  rw [PredictionProfile.fixedBytes]
  omega

theorem peakSum_profileFootprint (htokens : d.TokensFit) :
    (profileFootprint p d).peakSum = p.exactPeak d none := by
  rw [PredictionProfile.exactPeak, ← baseSum_profileFootprint htokens]
  exact MemoryFootprint.peakSum_withMargins (profileFootprint p d) p.safetyMarginRatio
    p.fragmentationRatio

theorem toUInt64_exactPeak (htokens : d.TokensFit) :
    (p.exactPeak d none).toUInt64 = (profileFootprint p d).peak := by
  rw [← UInt64.toNat_inj, MemoryFootprint.toNat_peak, peakSum_profileFootprint htokens]
  exact UInt64.toNat_ofNat'

/-- `apply_learned_adjustment` as a scale and new margins. -/
theorem applyLearnedAdjustment_eq (w : WorkloadPredictor F) (key : ByteString)
    (fp : MemoryFootprint) : w.applyLearnedAdjustment key fp =
      match w.learnedRatio key fp.peak with
      | none => fp
      | some ratio => (fp.scale ratio).withMargins (0.10 : F) (0.05 : F) := by
  unfold applyLearnedAdjustment learnedRatio
  cases w.learn.find? key with
  | none => rfl
  | some st =>
    simp only [Option.bind_some]
    show (if st.count = 0 ∨ st.lastPeakVram = 0 ∨ fp.peak = 0 then fp else _) = _
    split_ifs <;> rfl

theorem footprint_predictMemory (h : w.usableProfile d = some p) :
    (w.predictMemory d).footprint =
      w.applyLearnedAdjustment (w.descriptorKey d) (profileFootprint p d) := by
  simp only [predictMemory, h]

/-- The scale in terms of the ratio that the code takes. -/
theorem learnedScale_eq (htokens : d.TokensFit) : w.learnedScale p d =
    (w.learnedRatio (w.descriptorKey d) (profileFootprint p d).peak).map thousandths := by
  rw [learnedScale, toUInt64_exactPeak htokens]

theorem kvGrowth_predictMemory (htokens : d.TokensFit)
    (h : w.usableProfile d = some p) :
    (w.predictMemory d).footprint.kvGrowth.toNat =
      scaled (w.learnedScale p d) (p.kvBytes d) := by
  rw [footprint_predictMemory h, w.applyLearnedAdjustment_eq, learnedScale_eq htokens]
  cases w.learnedRatio (w.descriptorKey d) (profileFootprint p d).peak with
  | none => exact kvGrowth_profileFootprint htokens
  | some ratio =>
    show (ratOf _ ratio).toNat = share _ _
    rw [toNat_ratOf, kvGrowth_profileFootprint htokens]

theorem tensorState_predictMemory (htokens : d.TokensFit)
    (h : w.usableProfile d = some p) :
    (w.predictMemory d).footprint.tensorState.toNat =
      scaled (w.learnedScale p d) (p.tensorBytes d) := by
  rw [footprint_predictMemory h, w.applyLearnedAdjustment_eq, learnedScale_eq htokens]
  cases w.learnedRatio (w.descriptorKey d) (profileFootprint p d).peak with
  | none => exact tensorState_profileFootprint htokens
  | some ratio =>
    show (ratOf _ ratio).toNat = share _ _
    rw [toNat_ratOf, tensorState_profileFootprint htokens]

/-- The parts of the predicted peak add up to the exact one. -/
theorem peakSum_predictMemory (htokens : d.TokensFit)
    (h : w.usableProfile d = some p) :
    (w.predictMemory d).footprint.peakSum = p.exactPeak d (w.learnedScale p d) := by
  rw [footprint_predictMemory h, w.applyLearnedAdjustment_eq, learnedScale_eq htokens]
  cases w.learnedRatio (w.descriptorKey d) (profileFootprint p d).peak with
  | none => exact peakSum_profileFootprint htokens
  | some ratio =>
    show (((profileFootprint p d).scale ratio).withMargins (0.10 : F) (0.05 : F)).peakSum = _
    rw [MemoryFootprint.peakSum_withMargins]
    refine congrArg (fun base => addMargins base _ _) ?_
    show p.fixedBaseMemory.toNat + p.perRequestOverhead.toNat +
      (ratOf (profileFootprint p d).kvGrowth ratio).toNat +
      (ratOf (profileFootprint p d).tensorState ratio).toNat + p.workspaceBytes.toNat +
      (ratOf p.stagingBytes ratio).toNat = p.fixedBytes + share (p.kvBytes d) (thousandths ratio) +
        share (p.tensorBytes d) (thousandths ratio) + share p.stagingBytes.toNat (thousandths ratio)
    rw [toNat_ratOf, toNat_ratOf, toNat_ratOf, kvGrowth_profileFootprint htokens,
      tensorState_profileFootprint htokens, PredictionProfile.fixedBytes]
    omega

theorem sustainedSum_predictMemory (htokens : d.TokensFit)
    (h : w.usableProfile d = some p) :
    (w.predictMemory d).footprint.sustainedSum = p.exactSustained d (w.learnedScale p d) := by
  rw [MemoryFootprint.sustainedSum, tensorState_predictMemory htokens h, footprint_predictMemory h,
    w.applyLearnedAdjustment_eq, learnedScale_eq htokens]
  cases w.learnedRatio (w.descriptorKey d) (profileFootprint p d).peak with
  | none => rfl
  | some ratio =>
    show p.fixedBaseMemory.toNat + scaled (some (thousandths ratio)) (p.tensorBytes d) +
      (ratOf p.stagingBytes ratio).toNat = _
    rw [toNat_ratOf]
    rfl

/-! ## The demand -/

theorem acceleratorMemory_predictDemand (w : WorkloadPredictor F) (d : AdmissionDescriptor F) :
    (w.predictDemand d).get .acceleratorMemory = (w.predictMemory d).footprint.peak := by
  unfold predictDemand
  cases w.usableProfile d with
  | none => rfl
  | some p =>
    simp only
    split_ifs <;> rfl

theorem kvCapacity_predictDemand (w : WorkloadPredictor F) (d : AdmissionDescriptor F) :
    (w.predictDemand d).get .kvCapacity = (w.predictMemory d).footprint.kvGrowth := by
  unfold predictDemand
  cases w.usableProfile d with
  | none => rfl
  | some p =>
    simp only
    split_ifs <;> rfl

theorem hostMemory_predictDemand_of_none (h : w.usableProfile d = none) :
    (w.predictDemand d).get .hostMemory = (w.predictMemory d).footprint.sustained := by
  simp only [predictDemand, h]
  rfl

theorem hostMemory_predictDemand (h : w.usableProfile d = some p) :
    ((w.predictDemand d).get .hostMemory).toNat =
      max (w.predictMemory d).footprint.sustained.toNat p.hostMemoryBytes.toNat := by
  unfold predictDemand
  simp only [h]
  by_cases hzero : p.hostMemoryBytes = 0
  · rw [if_neg (not_not.mpr hzero), hzero, UInt64.toNat_zero, Nat.max_zero]
    rfl
  · rw [if_pos hzero]
    exact toNat_max _ _

end WorkloadPredictor

/-- A request for the first revision of model 1. -/
def Sample.work (input expected cap : UInt64) : AdmissionDescriptor F :=
  { admissionRequestId := ⟨1⟩
    requestId := ⟨1⟩
    attemptId := ⟨1⟩
    tenantId := ⟨1⟩
    modelId := ⟨1⟩
    modelRevision := ⟨1⟩
    policyGeneration := ⟨1⟩
    inputTokens := input
    expectedOutputTokens := expected
    maxOutputTokens := cap }

end Fabric

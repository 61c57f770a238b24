import Fabric.Prediction.Margins
import Fabric.Support.Average

/-!
# Learned decode rates

What is learned of the decode rate is the exponential average of the ratios of the observed rates to
the profile's, between 0.2 and 5 (`learnedEma_observeAll`). It keeps the effective rate between the
observed ones when the profile has a rate. Without one every ratio counts as 0.2, and that becomes
the effective rate (`within_evidence_iff`).
-/

namespace Fabric

open Support

namespace WorkloadPredictor

variable {w : WorkloadPredictor ℚ} {p : PredictionProfile ℚ} {d : AdmissionDescriptor ℚ}

/-- The average that was learned for a key; zero if none was. -/
def learnedEma (w : WorkloadPredictor ℚ) (key : ByteString) : ℚ :=
  ((w.learn.find? key).getD {}).decodeEma

/-- A valid observation of completed work with a rate, that goes to a key. -/
def Counts (w : WorkloadPredictor ℚ) (key : ByteString) (o : Observation) : Prop :=
  o.validate.isOk = true ∧ o.kind = .completed ∧ 0 < o.executionDuration ∧ 0 < o.outputTokens ∧
    w.observedKey o = key

instance (w : WorkloadPredictor ℚ) (key : ByteString) : DecidablePred (w.Counts key) :=
  fun o => inferInstanceAs (Decidable (o.validate.isOk = true ∧ o.kind = .completed ∧
    0 < o.executionDuration ∧ 0 < o.outputTokens ∧ w.observedKey o = key))

/-- The observed decode rates of a key. -/
def observedRates (w : WorkloadPredictor ℚ) (key : ByteString) (obs : List Observation) : List ℚ :=
  (obs.filter (w.Counts key)).map Observation.decodeTokensPerSec

/-- The ratio of an observed rate to the profile's, as it is learned. -/
def learnedRateRatio (rate observed : ℚ) : ℚ :=
  Double.min 5.0 (Double.max 0.2 (if rate > 0.0 then observed / rate else 0.0))

/-! ## What an observation teaches -/

theorem decodeTokensPerSec_pos {o : Observation} (hduration : 0 < o.executionDuration)
    (houtput : 0 < o.outputTokens) : 0 < (o.decodeTokensPerSec : ℚ) := by
  have hns : 0 < o.executionDuration.toInt := Int64.lt_iff_toInt_lt.mp hduration
  have htokens : 0 < o.outputTokens.toNat := UInt64.lt_iff_toNat_lt.mp houtput
  have hrate : (o.decodeTokensPerSec : ℚ) =
      o.outputTokens.toNat / (o.executionDuration.toInt / 1e9) := if_neg (by
    rintro (hle | hzero)
    · exact absurd hduration (Int64.not_lt.mpr hle)
    · simp [hzero] at htokens)
  rw [hrate]
  have hns' : (0 : ℚ) < o.executionDuration.toInt := Int.cast_pos.mpr hns
  have htokens' : (0 : ℚ) < o.outputTokens.toNat := Nat.cast_pos.mpr htokens
  positivity

/-- The average moves by four tenths towards the ratio of an observation that has a rate. -/
theorem decodeEma_learnFrom {key : ByteString} (hprof : w.profs.find? key = some p)
    (st : LearnedState ℚ) (o : Observation) : (w.learnFrom key st o).decodeEma =
      if o.kind = .completed ∧ 0 < o.executionDuration ∧ 0 < o.outputTokens then
        smooth 0.4 st.decodeEma (learnedRateRatio p.decodeTokensPerSec o.decodeTokensPerSec)
      else st.decodeEma := by
  have hzero : (0.0 : ℚ) = 0 := by norm_num
  have hkeep : (0.6 : ℚ) = 1 - 0.4 := by norm_num
  unfold learnFrom
  simp only [hprof]
  by_cases hkind : o.kind = .completed
  · rw [if_neg (not_not.mpr hkind)]
    by_cases hrate : 0 < o.executionDuration ∧ 0 < o.outputTokens
    · have hpositive : o.executionDuration > 0 ∧ o.outputTokens > 0 ∧
          (o.decodeTokensPerSec : ℚ) > 0.0 :=
        ⟨hrate.1, hrate.2, hzero.trans_lt (decodeTokensPerSec_pos hrate.1 hrate.2)⟩
      have hmoves : o.kind = .completed ∧ 0 < o.executionDuration ∧ 0 < o.outputTokens :=
        ⟨hkind, hrate⟩
      rw [if_pos hpositive, if_pos hmoves, smooth, ← hkeep, ← hzero]
      rfl
    · have hnone : ¬ (o.executionDuration > 0 ∧ o.outputTokens > 0 ∧
          (o.decodeTokensPerSec : ℚ) > 0.0) := fun h => hrate ⟨h.1, h.2.1⟩
      have hstays : ¬ (o.kind = .completed ∧ 0 < o.executionDuration ∧ 0 < o.outputTokens) :=
        fun h => hrate h.2
      rw [if_neg hnone, if_neg hstays]
  · have hstays : ¬ (o.kind = .completed ∧ 0 < o.executionDuration ∧ 0 < o.outputTokens) :=
      fun h => hkind h.1
    rw [if_pos hkind, if_neg hstays]

/-- An observation moves the average of a key exactly when it counts. -/
theorem learnedEma_observe {key : ByteString} (hprof : w.profs.find? key = some p)
    (o : Observation) : (w.observe o).learnedEma key =
      if w.Counts key o then
        smooth 0.4 (w.learnedEma key)
          (learnedRateRatio p.decodeTokensPerSec o.decodeTokensPerSec)
      else w.learnedEma key := by
  by_cases hvalid : o.validate.isOk = true
  · rw [learnedEma, find?_learn_observe hvalid]
    by_cases hkey : key = w.observedKey o
    · rw [if_pos hkey, Option.getD_some, decodeEma_learnFrom hprof]
      refine if_congr ?_ rfl rfl
      exact ⟨fun h => ⟨hvalid, h.1, h.2.1, h.2.2, hkey.symm⟩, fun h => ⟨h.2.1, h.2.2.1, h.2.2.2.1⟩⟩
    · rw [if_neg hkey, if_neg fun h => hkey h.2.2.2.2.symm]
      rfl
  · rw [if_neg fun h => hvalid h.1, observe, if_pos (Bool.eq_false_iff.mpr hvalid)]

/-- What counts depends on the profiles alone. -/
theorem counts_congr {w' : WorkloadPredictor ℚ} (h : w'.profs = w.profs) (key : ByteString)
    (o : Observation) : w'.Counts key o ↔ w.Counts key o := by
  rw [Counts, Counts, observedKey, observedKey, resolveKey_congr h]

/-- The learned average is that of the ratios of the observed rates. -/
theorem learnedEma_observeAll {key : ByteString} (hprof : w.profs.find? key = some p)
    (obs : List Observation) : (w.observeAll obs).learnedEma key =
      smoothAll 0.4 (w.learnedEma key)
        ((w.observedRates key obs).map (learnedRateRatio p.decodeTokensPerSec)) := by
  induction obs generalizing w with
  | nil => rfl
  | cons o obs ih =>
    have hprofs := profs_observe w o
    have hrates : (w.observe o).observedRates key obs = w.observedRates key obs := by
      unfold observedRates
      exact congrArg (List.map _) (List.filter_congr fun o' _ =>
        decide_eq_decide.mpr (counts_congr hprofs key o'))
    refine (ih (hprofs.symm ▸ hprof)).trans ?_
    rw [hrates, learnedEma_observe hprof, observedRates, observedRates, List.filter_cons]
    by_cases hcounts : w.Counts key o
    · rw [if_pos hcounts, if_pos (decide_eq_true hcounts)]
      rfl
    · rw [if_neg hcounts, if_neg (by simpa using hcounts)]

/-! ## The effective rate -/

/-- A rate within a fifth of and five times the profile's rate, if it has one. -/
def clampRate (rate observed : ℚ) : ℚ :=
  if rate > 0 then min (5 * rate) (max (0.2 * rate) observed) else observed

/-- A rate between the smallest and the largest of the observed ones. -/
def WithinEvidence (rate : ℚ) (observed : List ℚ) (effective : ℚ) : Prop :=
  (∃ lo ∈ observed, clampRate rate lo ≤ effective) ∧ ∃ hi ∈ observed, effective ≤ clampRate rate hi

theorem decodeRateTps_predictDuration (hprof : w.usableProfile d = some p) :
    (w.predictDuration d).decodeRateTps =
      w.effectiveDecodeRate (w.descriptorKey d) p.decodeTokensPerSec := by
  simp only [predictDuration, hprof]

theorem effectiveDecodeRate_of_pos {key : ByteString} (h : 0 < w.learnedEma key) (rate : ℚ) :
    w.effectiveDecodeRate key rate =
      if rate > 0 then rate * w.learnedEma key else w.learnedEma key := by
  have hzero : (0.0 : ℚ) = 0 := by norm_num
  unfold effectiveDecodeRate learnedEma at *
  cases hlearn : w.learn.find? key with
  | none =>
    rw [hlearn, Option.getD_none] at h
    exact absurd h (hzero.symm ▸ lt_irrefl _)
  | some st =>
    rw [hlearn, Option.getD_some] at h
    simp only [Option.getD_some]
    rw [hzero, if_neg (not_le.mpr h)]

theorem learnedRateRatio_eq (rate observed : ℚ) : learnedRateRatio rate observed =
    min 5 (max 0.2 (if rate > 0 then observed / rate else 0)) := by
  have hzero : (0.0 : ℚ) = 0 := by norm_num
  have hfive : (5.0 : ℚ) = 5 := by norm_num
  rw [learnedRateRatio, Double.min_rat, Double.max_rat, hzero, hfive]

theorem learnedRateRatio_pos (rate observed : ℚ) : 0 < learnedRateRatio rate observed := by
  rw [learnedRateRatio_eq]
  exact lt_min (by norm_num) (lt_max_of_lt_left (by norm_num))

/-- With a rate the learned ratio stands for the clamped rate. -/
theorem mul_learnedRateRatio {rate : ℚ} (h : 0 < rate) (observed : ℚ) :
    rate * learnedRateRatio rate observed = clampRate rate observed := by
  rw [learnedRateRatio_eq, clampRate, if_pos h, if_pos h, mul_min_of_nonneg _ _ h.le,
    mul_max_of_nonneg _ _ h.le, mul_div_cancel₀ _ h.ne', mul_comm rate 5, mul_comm rate 0.2]

/-- Without a rate every observed rate is learned as 0.2. -/
theorem learnedRateRatio_of_not_pos {rate : ℚ} (h : ¬ 0 < rate) (observed : ℚ) :
    learnedRateRatio rate observed = 0.2 := by
  rw [learnedRateRatio_eq, if_neg h]
  norm_num

/-- The effective rate after observations, of which some count. -/
theorem withinEvidence_iff (hw : w.Keyed) (hprof : w.usableProfile d = some p)
    (hfresh : w.learnedEma (w.descriptorKey d) ≤ 0) {obs : List Observation}
    (hne : w.observedRates (w.descriptorKey d) obs ≠ []) :
    WithinEvidence p.decodeTokensPerSec (w.observedRates (w.descriptorKey d) obs)
        ((w.observeAll obs).predictDuration d).decodeRateTps ↔
      0 < p.decodeTokensPerSec ∨
        (∃ r ∈ w.observedRates (w.descriptorKey d) obs, r ≤ 0.2) ∧
          ∃ r ∈ w.observedRates (w.descriptorKey d) obs, 0.2 ≤ r := by
  obtain ⟨hfind, hkey, -, -⟩ := hw.usable hprof
  have hprofs := profs_observeAll w obs
  have hsame : (w.observeAll obs).descriptorKey d = w.descriptorKey d := resolveKey_congr hprofs _ _
  have hema : (w.observeAll obs).learnedEma (w.descriptorKey d) = _ :=
    learnedEma_observeAll (hkey ▸ hfind) obs
  rw [decodeRateTps_predictDuration ((usableProfile_congr hprofs d).trans hprof), hsame]
  generalize w.observedRates (w.descriptorKey d) obs = rates at hne hema ⊢
  have hratios : rates.map (learnedRateRatio p.decodeTokensPerSec) ≠ [] := by simpa using hne
  obtain ⟨_, hloRatio, _, hhiRatio, hge, hle⟩ := smoothAll_between (a := (0.4 : ℚ)) (by norm_num)
    (by norm_num) hfresh hratios
  obtain ⟨lo, hlo, rfl⟩ := List.mem_map.mp hloRatio
  obtain ⟨hi, hhi, rfl⟩ := List.mem_map.mp hhiRatio
  rw [← hema] at hge hle
  rw [effectiveDecodeRate_of_pos ((learnedRateRatio_pos _ _).trans_le hge)]
  by_cases hrate : 0 < p.decodeTokensPerSec
  · refine iff_of_true ⟨⟨lo, hlo, ?_⟩, ⟨hi, hhi, ?_⟩⟩ (.inl hrate)
    · rw [if_pos hrate, ← mul_learnedRateRatio hrate]
      exact mul_le_mul_of_nonneg_left hge hrate.le
    · rw [if_pos hrate, ← mul_learnedRateRatio hrate]
      exact mul_le_mul_of_nonneg_left hle hrate.le
  · rw [learnedRateRatio_of_not_pos hrate] at hge hle
    have hclamp : ∀ r, clampRate p.decodeTokensPerSec r = r := fun r => if_neg hrate
    rw [if_neg hrate, le_antisymm hle hge, WithinEvidence]
    simp only [hclamp, hrate, false_or]

/-- In a reachable predictor that learned no rate for a profile yet, the effective rate after
observations lies within what they report exactly when the profile has a rate, or some report no
more and some no less than 0.2 tokens per second. -/
theorem within_evidence_iff (h : List (PredictorCall ℚ))
    (hprof : ((machine ℚ).after h).usableProfile d = some p)
    (hfresh : ((machine ℚ).after h).learnedEma (((machine ℚ).after h).descriptorKey d) ≤ 0)
    {obs : List Observation}
    (hne : ((machine ℚ).after h).observedRates (((machine ℚ).after h).descriptorKey d) obs ≠ []) :
    WithinEvidence p.decodeTokensPerSec
        (((machine ℚ).after h).observedRates (((machine ℚ).after h).descriptorKey d) obs)
        ((((machine ℚ).after h).observeAll obs).predictDuration d).decodeRateTps ↔
      0 < p.decodeTokensPerSec ∨
        (∃ r ∈ ((machine ℚ).after h).observedRates (((machine ℚ).after h).descriptorKey d) obs,
          r ≤ 0.2) ∧
        ∃ r ∈ ((machine ℚ).after h).observedRates (((machine ℚ).after h).descriptorKey d) obs,
          0.2 ≤ r :=
  withinEvidence_iff (keyed_after h) hprof hfresh hne

end WorkloadPredictor

namespace Sample

/-- A profile with a decode rate of its own. -/
def steady (rate : ℚ) : PredictionProfile ℚ :=
  { modelId := ⟨1⟩
    revision := ⟨1⟩
    backend := ascii "cuda"
    decodeTokensPerSec := rate }

/-- A hundred tokens in a second. -/
def swift : Observation :=
  { id := ⟨1⟩
    modelId := ⟨1⟩
    modelRevision := ⟨1⟩
    backend := ascii "cuda"
    executionDuration := seconds 1
    outputTokens := 100 }

end Sample

namespace WorkloadPredictor

theorem within_evidence_iff_steady :
    WithinEvidence 50
        (((machine ℚ).after [.registerProfile (Sample.steady 50)]).observedRates
          (((machine ℚ).after [.registerProfile (Sample.steady 50)]).descriptorKey
            (Sample.work 0 100 100)) [Sample.swift])
        ((((machine ℚ).after [.registerProfile (Sample.steady 50)]).observeAll
          [Sample.swift]).predictDuration (Sample.work 0 100 100)).decodeRateTps ↔
      0 < (50 : ℚ) ∨
        (∃ r ∈ ((machine ℚ).after [.registerProfile (Sample.steady 50)]).observedRates
          (((machine ℚ).after [.registerProfile (Sample.steady 50)]).descriptorKey
            (Sample.work 0 100 100)) [Sample.swift], r ≤ 0.2) ∧
        ∃ r ∈ ((machine ℚ).after [.registerProfile (Sample.steady 50)]).observedRates
          (((machine ℚ).after [.registerProfile (Sample.steady 50)]).descriptorKey
            (Sample.work 0 100 100)) [Sample.swift], 0.2 ≤ r :=
  within_evidence_iff (p := { Sample.steady 50 with generation := 2 })
    [.registerProfile (Sample.steady 50)] rfl (by decide +kernel) (by decide +kernel)

/-- Without a rate in the profile, a hundred tokens in a second are learned as 0.2 tokens per
second. -/
theorem within_evidence_fails :
    Sample.swift.validate.isOk = true ∧
      ((machine ℚ).after [.registerProfile (Sample.steady 0)]).observedRates
        (((machine ℚ).after [.registerProfile (Sample.steady 0)]).descriptorKey
          (Sample.work 0 100 100)) [Sample.swift] = [100] ∧
      ((((machine ℚ).after [.registerProfile (Sample.steady 0)]).observeAll
        [Sample.swift]).predictDuration (Sample.work 0 100 100)).decodeRateTps = 0.2 ∧
      ¬ WithinEvidence 0 [100] 0.2 := by
  refine ⟨by decide +kernel, by decide +kernel, by decide +kernel, ?_⟩
  rintro ⟨⟨r, hr, hle⟩, -⟩
  obtain rfl := List.mem_singleton.mp hr
  norm_num [clampRate] at hle

end WorkloadPredictor

end Fabric

import Fabric.Prediction.Margins
import Fabric.Prediction.Sums

/-!
# More tokens

The predicted demand does not fall when a request asks for more tokens, as long as its exact sums fit
and the learned scale does not fall either (`more_tokens_never_lower`). The scale is the last observed
peak over the predicted one, so a larger prediction may lower it.
-/

namespace Fabric

open Support

variable {F : Type} [Double F]

/-- The second request differs from the first in its token counts only, and asks for no fewer
tokens. -/
structure AdmissionDescriptor.MoreTokens (d d' : AdmissionDescriptor F) : Prop where
  same : d' = { d with
    inputTokens := d'.inputTokens
    expectedOutputTokens := d'.expectedOutputTokens
    maxOutputTokens := d'.maxOutputTokens }
  input : d.inputTokens ≤ d'.inputTokens
  expected : d.expectedOutputTokens ≤ d'.expectedOutputTokens
  cap : d.maxOutputTokens ≤ d'.maxOutputTokens
  capped : d.maxOutputTokens = 0 ↔ d'.maxOutputTokens = 0

namespace AdmissionDescriptor.MoreTokens

variable {d d' : AdmissionDescriptor F} (h : d.MoreTokens d')

include h

omit [Double F] in
theorem outputCap_le : d.outputCap.toNat ≤ d'.outputCap.toNat := by
  unfold outputCap
  by_cases hcap : d.maxOutputTokens = 0
  · rw [if_neg (not_not.mpr hcap), if_neg (not_not.mpr (h.capped.mp hcap))]
    exact UInt64.le_iff_toNat_le.mp h.expected
  · rw [if_pos hcap, if_pos (mt h.capped.mpr hcap)]
    exact UInt64.le_iff_toNat_le.mp h.cap

theorem usableProfile_eq (w : WorkloadPredictor F) : w.usableProfile d' = w.usableProfile d := by
  rw [h.same]
  rfl

theorem descriptorKey_eq (w : WorkloadPredictor F) : w.descriptorKey d' = w.descriptorKey d := by
  rw [h.same]
  rfl

theorem kvBytes_le (p : PredictionProfile F) : p.kvBytes d ≤ p.kvBytes d' :=
  min_le_min_right _ (Nat.mul_le_mul_left _ (Nat.add_le_add (UInt64.le_iff_toNat_le.mp h.input)
    (UInt64.le_iff_toNat_le.mp h.expected)))

theorem tensorBytes_le (p : PredictionProfile F) : p.tensorBytes d ≤ p.tensorBytes d' :=
  min_le_min_right _ (Nat.mul_le_mul_left _ (Nat.add_le_add (UInt64.le_iff_toNat_le.mp h.input)
    h.outputCap_le))

end AdmissionDescriptor.MoreTokens

namespace WorkloadPredictor

variable {w : WorkloadPredictor F} {p : PredictionProfile F} {d d' : AdmissionDescriptor F}

/-- Dimensions that do not depend on the token counts. -/
def TokenFree (i : ResourceId) : Prop :=
  i ≠ .acceleratorMemory ∧ i ≠ .hostMemory ∧ i ≠ .kvCapacity ∧ i ≠ .tensorState

theorem pinnedStaging_predictMemory (w : WorkloadPredictor F) (d : AdmissionDescriptor F) :
    (w.predictMemory d).footprint.pinnedStaging =
      (w.usableProfile d).elim 0 PredictionProfile.pinnedStagingBytes := by
  cases hprof : w.usableProfile d with
  | none =>
    rw [footprint_predictMemory_of_none hprof]
    rfl
  | some p =>
    rw [footprint_predictMemory hprof, applyLearnedAdjustment_eq]
    cases w.learnedRatio (w.descriptorKey d) (profileFootprint p d).peak <;> rfl

/-- What does not depend on the token counts is the same for both requests. -/
theorem predictDemand_of_tokenFree (h : d.MoreTokens d') {i : ResourceId} (hi : TokenFree i) :
    (w.predictDemand d').get i = (w.predictDemand d).get i := by
  have hpinned : (w.predictMemory d').footprint.pinnedStaging =
      (w.predictMemory d).footprint.pinnedStaging := by
    rw [pinnedStaging_predictMemory, pinnedStaging_predictMemory, h.usableProfile_eq w]
  obtain ⟨haccelerator, hhost, hkv, htensor⟩ := hi
  unfold predictDemand
  rw [h.usableProfile_eq w]
  cases w.usableProfile d with
  | none => simp only [ResourceVector.set, haccelerator, hhost, hkv, htensor, hpinned, if_false]
  | some p =>
    simp only
    split_ifs
    · simp only [ResourceVector.set, haccelerator, hhost, hkv, htensor, hpinned, if_false]
    · simp only [ResourceVector.set, haccelerator, hhost, hkv, htensor, hpinned, if_false]

theorem tensorState_predictDemand (w : WorkloadPredictor F) (d : AdmissionDescriptor F) :
    (w.predictDemand d).get .tensorState = (w.predictMemory d).footprint.tensorState := by
  unfold predictDemand
  cases w.usableProfile d with
  | none => rfl
  | some p =>
    simp only
    split_ifs <;> rfl

/-- The demand grows with the parts and the sums of the footprint that it is built from. -/
theorem predictDemand_le (h : d.MoreTokens d')
    (hpeak : (w.predictMemory d).footprint.peak ≤ (w.predictMemory d').footprint.peak)
    (hsustained : (w.predictMemory d).footprint.sustained ≤ (w.predictMemory d').footprint.sustained)
    (hkv : (w.predictMemory d).footprint.kvGrowth ≤ (w.predictMemory d').footprint.kvGrowth)
    (htensor :
      (w.predictMemory d).footprint.tensorState ≤ (w.predictMemory d').footprint.tensorState)
    (i : ResourceId) : (w.predictDemand d).get i ≤ (w.predictDemand d').get i := by
  by_cases hfree : TokenFree i
  · rw [predictDemand_of_tokenFree h hfree]
    exact UInt64.le_refl _
  have hdep : i = .acceleratorMemory ∨ i = .hostMemory ∨ i = .kvCapacity ∨ i = .tensorState := by
    by_contra hother
    push Not at hother
    exact hfree hother
  rcases hdep with rfl | rfl | rfl | rfl
  · rw [acceleratorMemory_predictDemand, acceleratorMemory_predictDemand]
    exact hpeak
  · cases hprof : w.usableProfile d with
    | none =>
      rw [hostMemory_predictDemand_of_none hprof,
        hostMemory_predictDemand_of_none ((h.usableProfile_eq w).trans hprof)]
      exact hsustained
    | some p =>
      rw [UInt64.le_iff_toNat_le, hostMemory_predictDemand hprof,
        hostMemory_predictDemand ((h.usableProfile_eq w).trans hprof)]
      exact max_le_max_right _ (UInt64.le_iff_toNat_le.mp hsustained)
  · rw [kvCapacity_predictDemand, kvCapacity_predictDemand]
    exact hkv
  · rw [tensorState_predictDemand, tensorState_predictDemand]
    exact htensor

/-! ## Cold starts -/

theorem coldFootprint_le (h : d.MoreTokens d') (hvalid : d.validate.isOk = true)
    (hvalid' : d'.validate.isOk = true) :
    (coldFootprint F d).kvGrowth ≤ (coldFootprint F d').kvGrowth := by
  have htotal : d.inputTokens + d.outputCap ≤ d'.inputTokens + d'.outputCap := by
    rw [UInt64.le_iff_toNat_le, (AdmissionDescriptor.tokensFit_of_valid hvalid).toNat_cap,
      (AdmissionDescriptor.tokensFit_of_valid hvalid').toNat_cap]
    exact Nat.add_le_add (UInt64.le_iff_toNat_le.mp h.input) h.outputCap_le
  have hsize : ∀ total total' : UInt64, total ≤ total' →
      multiplyChecked 8 (if total = 0 then 1 else total) ≤
        multiplyChecked 8 (if total' = 0 then 1 else total') := by
    intro total total' hle
    rw [UInt64.le_iff_toNat_le, toNat_multiplyChecked, toNat_multiplyChecked]
    refine min_le_min_right _ (Nat.mul_le_mul_left _ (UInt64.le_iff_toNat_le.mp ?_))
    split_ifs with hzero hzero' hzero'
    · exact UInt64.le_refl 1
    · rw [UInt64.le_iff_toNat_le]
      exact Nat.pos_of_ne_zero fun hnat => hzero' (UInt64.toNat_inj.mp hnat)
    · rw [UInt64.le_iff_toNat_le, hzero'] at hle
      exact absurd (UInt64.toNat_inj.mp (Nat.le_zero.mp hle)) hzero
    · exact hle
  exact hsize _ _ htotal

theorem baseSum_coldFootprint_le
    (hkv : (coldFootprint F d).kvGrowth ≤ (coldFootprint F d').kvGrowth) :
    (coldFootprint F d).baseSum ≤ (coldFootprint F d').baseSum ∧
      (coldFootprint F d).sustainedSum ≤ (coldFootprint F d').sustainedSum := by
  have hfixed : (coldFootprint F d).fixedModel = (coldFootprint F d').fixedModel := rfl
  have hlocal : (coldFootprint F d).requestLocal = (coldFootprint F d').requestLocal := rfl
  have hworkspace : (coldFootprint F d).workspace = (coldFootprint F d').workspace := rfl
  have hstaging : (coldFootprint F d).staging = (coldFootprint F d').staging := rfl
  have htensor : ∀ e : AdmissionDescriptor F,
      (coldFootprint F e).tensorState = (coldFootprint F e).kvGrowth := fun _ => rfl
  have hle := UInt64.le_iff_toNat_le.mp hkv
  rw [MemoryFootprint.baseSum, MemoryFootprint.baseSum, MemoryFootprint.sustainedSum,
    MemoryFootprint.sustainedSum, htensor, htensor, hfixed, hlocal, hworkspace, hstaging]
  omega

/-- Without a profile, more tokens never lower the demand. -/
theorem predictDemand_le_of_none (h : d.MoreTokens d') (hvalid : d.validate.isOk = true)
    (hvalid' : d'.validate.isOk = true) (hsafety : thousandths (0.15 : F) ≤ 1000)
    (hfragmentation : thousandths (0.08 : F) ≤ 1000) (hprof : w.usableProfile d = none)
    (i : ResourceId) : (w.predictDemand d).get i ≤ (w.predictDemand d').get i := by
  have hkv := coldFootprint_le h hvalid hvalid'
  obtain ⟨hbaseLe, hsustainedLe⟩ := baseSum_coldFootprint_le hkv
  obtain ⟨hpeak, hsustained⟩ := coldFootprint_sums hvalid hsafety hfragmentation
  obtain ⟨hpeak', hsustained'⟩ := coldFootprint_sums hvalid' hsafety hfragmentation
  have hlt : (coldFootprint F d').baseSum < 2 ^ 64 := by
    rw [MemoryFootprint.peakSum] at hpeak'
    omega
  refine predictDemand_le h ?_ ?_ ?_ ?_ i <;>
    rw [footprint_predictMemory_of_none hprof,
      footprint_predictMemory_of_none ((h.usableProfile_eq w).trans hprof)]
  · rw [UInt64.le_iff_toNat_le, MemoryFootprint.toNat_peak, MemoryFootprint.toNat_peak,
      Nat.mod_eq_of_lt hpeak, Nat.mod_eq_of_lt hpeak', peakSum_coldFootprint, peakSum_coldFootprint]
    exact addMargins_mono hbaseLe le_rfl le_rfl hlt
  · rw [UInt64.le_iff_toNat_le, MemoryFootprint.toNat_sustained, MemoryFootprint.toNat_sustained,
      Nat.mod_eq_of_lt hsustained, Nat.mod_eq_of_lt hsustained']
    exact hsustainedLe
  · exact hkv
  · exact hkv

/-! ## Profiles -/

/-- The exact sums of a request fit, with the learned scale and without. -/
def PeakFits (w : WorkloadPredictor F) (p : PredictionProfile F) (d : AdmissionDescriptor F) :
    Prop :=
  p.exactPeak d none < 2 ^ 64 ∧ p.exactPeak d (w.learnedScale p d) < 2 ^ 64

/-- The second request is not scaled by less than the first. -/
def ScaleKept (w : WorkloadPredictor F) (p : PredictionProfile F) (d d' : AdmissionDescriptor F) :
    Prop :=
  ∀ s s', w.learnedScale p d = some s → w.learnedScale p d' = some s' → s ≤ s'

/-- The footprint of the second request is no smaller, under scales of their own. -/
structure GrowsTo (p : PredictionProfile F) (d d' : AdmissionDescriptor F)
    (scale scale' : Option ℕ) : Prop where
  kv : scaled scale (p.kvBytes d) ≤ scaled scale' (p.kvBytes d')
  tensor : scaled scale (p.tensorBytes d) ≤ scaled scale' (p.tensorBytes d')
  sustained : p.exactSustained d scale ≤ p.exactSustained d' scale'
  peak : p.exactPeak d scale ≤ p.exactPeak d' scale'

theorem exactSustained_le_exactPeak (p : PredictionProfile F) (d : AdmissionDescriptor F)
    (scale : Option ℕ) : p.exactSustained d scale ≤ p.exactPeak d scale := by
  have hbase := p.exactBase_le_exactPeak d scale
  rw [PredictionProfile.exactBase, PredictionProfile.fixedBytes] at hbase
  rw [PredictionProfile.exactSustained]
  omega

theorem growsTo_none (h : d.MoreTokens d') (hfits : p.exactPeak d' none < 2 ^ 64) :
    GrowsTo p d d' none none where
  kv := h.kvBytes_le p
  tensor := h.tensorBytes_le p
  sustained := Nat.add_le_add_right (Nat.add_le_add_left (h.tensorBytes_le p) _) _
  peak := addMargins_mono (Nat.add_le_add_right (Nat.add_le_add (Nat.add_le_add_left
    (h.kvBytes_le p) _) (h.tensorBytes_le p)) _) le_rfl le_rfl
    ((p.exactBase_le_exactPeak d' none).trans_lt hfits)

theorem growsTo_some (h : d.MoreTokens d') {s s' : ℕ} (hle : s ≤ s')
    (hfits : p.exactPeak d' (some s') < 2 ^ 64) : GrowsTo p d d' (some s) (some s') := by
  have hkv : share (p.kvBytes d) s ≤ share (p.kvBytes d') s' := share_mono (h.kvBytes_le p) hle
  have htensor : share (p.tensorBytes d) s ≤ share (p.tensorBytes d') s' :=
    share_mono (h.tensorBytes_le p) hle
  have hstaging : share p.stagingBytes.toNat s ≤ share p.stagingBytes.toNat s' :=
    share_mono le_rfl hle
  refine ⟨hkv, htensor, Nat.add_le_add (Nat.add_le_add_left htensor _) hstaging, ?_⟩
  exact addMargins_mono (Nat.add_le_add (Nat.add_le_add (Nat.add_le_add_left hkv _) htensor)
    hstaging) le_rfl le_rfl ((p.exactBase_le_exactPeak d' _).trans_lt hfits)

/-- A request that is predicted nothing is below every other one. -/
theorem growsTo_of_zero (hzero : p.exactPeak d none = 0) (scale' : Option ℕ) :
    GrowsTo p d d' none scale' := by
  have hbase := p.exactBase_le_exactPeak d none
  have hsustained := exactSustained_le_exactPeak p d none
  rw [PredictionProfile.exactBase] at hbase
  exact ⟨by omega, by omega, by omega, by omega⟩

/-- There is no scale without an observed peak for the key, or when nothing is predicted. -/
theorem learnedScale_eq_none_iff : w.learnedScale p d = none ↔
    (∀ st, w.learn.find? (w.descriptorKey d) = some st → st.count = 0 ∨ st.lastPeakVram = 0) ∨
      (p.exactPeak d none).toUInt64 = 0 := by
  rw [learnedScale, learnedRatio, Option.map_eq_none_iff]
  cases w.learn.find? (w.descriptorKey d) with
  | none => simp
  | some st =>
    rw [Option.bind_some]
    constructor
    · intro hnone
      split_ifs at hnone with hcond
      rcases hcond with hcount | hlast | hbefore
      · exact .inl fun _ hst => .inl (Option.some.inj hst ▸ hcount)
      · exact .inl fun _ hst => .inr (Option.some.inj hst ▸ hlast)
      · exact .inr hbefore
    · rintro (hstate | hbefore)
      · rcases hstate st rfl with hcount | hlast
        · exact if_pos (.inl hcount)
        · exact if_pos (.inr (.inl hlast))
      · exact if_pos (.inr (.inr hbefore))

/-- Both requests have the same evidence, and the second is predicted no less without it. -/
theorem growsTo_learnedScale (h : d.MoreTokens d') (hfits : PeakFits w p d')
    (hkept : ScaleKept w p d d') : GrowsTo p d d' (w.learnedScale p d) (w.learnedScale p d') := by
  obtain ⟨hplain, hscaled⟩ := hfits
  have hpeak := (growsTo_none h hplain).peak
  have hzero : (p.exactPeak d none).toUInt64 = 0 ↔ p.exactPeak d none = 0 := by
    rw [← UInt64.toNat_inj, UInt64.toNat_ofNat_of_lt' (hpeak.trans_lt hplain)]
    rfl
  have hzero' : (p.exactPeak d' none).toUInt64 = 0 ↔ p.exactPeak d' none = 0 := by
    rw [← UInt64.toNat_inj, UInt64.toNat_ofNat_of_lt' hplain]
    rfl
  have hnone : w.learnedScale p d = none ↔ _ := learnedScale_eq_none_iff
  have hnone' : w.learnedScale p d' = none ↔ _ := learnedScale_eq_none_iff
  rw [hzero] at hnone
  rw [hzero', h.descriptorKey_eq w] at hnone'
  cases hs : w.learnedScale p d with
  | none =>
    rcases hnone.mp hs with hevidence | hnothing
    · rw [hnone'.mpr (.inl hevidence)]
      exact growsTo_none h hplain
    · exact growsTo_of_zero hnothing _
  | some s =>
    cases hs' : w.learnedScale p d' with
    | some s' => exact growsTo_some h (hkept s s' hs hs') (hs' ▸ hscaled)
    | none =>
      have habsurd : w.learnedScale p d = none := by
        rcases hnone'.mp hs' with hevidence | hnothing
        · exact hnone.mpr (.inl hevidence)
        · exact hnone.mpr (.inr (by omega))
      rw [hs] at habsurd
      cases habsurd

/-- With a profile, more tokens lower no demand as long as they do not lower the scale. -/
theorem predictDemand_le_of_profile (h : d.MoreTokens d') (htokens : d.TokensFit)
    (htokens' : d'.TokensFit) (hprof : w.usableProfile d = some p) (hfits : PeakFits w p d')
    (hkept : ScaleKept w p d d') (i : ResourceId) :
    (w.predictDemand d).get i ≤ (w.predictDemand d').get i := by
  have hprof' : w.usableProfile d' = some p := (h.usableProfile_eq w).trans hprof
  have hgrows := growsTo_learnedScale h hfits hkept
  have hlt' := hfits.2
  have hlt := hgrows.peak.trans_lt hlt'
  refine predictDemand_le h ?_ ?_ ?_ ?_ i
  · rw [UInt64.le_iff_toNat_le, MemoryFootprint.toNat_peak, MemoryFootprint.toNat_peak,
      peakSum_predictMemory htokens hprof, peakSum_predictMemory htokens' hprof',
      Nat.mod_eq_of_lt hlt, Nat.mod_eq_of_lt hlt']
    exact hgrows.peak
  · rw [UInt64.le_iff_toNat_le, MemoryFootprint.toNat_sustained, MemoryFootprint.toNat_sustained,
      sustainedSum_predictMemory htokens hprof, sustainedSum_predictMemory htokens' hprof',
      Nat.mod_eq_of_lt ((exactSustained_le_exactPeak p d _).trans_lt hlt),
      Nat.mod_eq_of_lt ((exactSustained_le_exactPeak p d' _).trans_lt hlt')]
    exact hgrows.sustained
  · rw [UInt64.le_iff_toNat_le, kvGrowth_predictMemory htokens hprof,
      kvGrowth_predictMemory htokens' hprof']
    exact hgrows.kv
  · rw [UInt64.le_iff_toNat_le, tensorState_predictMemory htokens hprof,
      tensorState_predictMemory htokens' hprof']
    exact hgrows.tensor

/-- More tokens never lower the demand of a valid request for what does not depend on them. They
lower no demand at all when no profile is known, or when the exact sums of the second request fit
and it is not scaled by less. -/
theorem more_tokens_never_lower (w : WorkloadPredictor ℚ) {d d' : AdmissionDescriptor ℚ}
    (h : d.MoreTokens d') (hvalid : d.validate.isOk = true) (hvalid' : d'.validate.isOk = true) :
    (∀ i, TokenFree i → (w.predictDemand d').get i = (w.predictDemand d).get i) ∧
      ((∀ p, w.usableProfile d = some p → PeakFits w p d' ∧ ScaleKept w p d d') →
        ∀ i, (w.predictDemand d).get i ≤ (w.predictDemand d').get i) := by
  refine ⟨fun i => predictDemand_of_tokenFree h, fun hcond => ?_⟩
  cases hprof : w.usableProfile d with
  | none => exact predictDemand_le_of_none h hvalid hvalid' (by decide +kernel) (by decide +kernel) hprof
  | some p =>
    obtain ⟨hfits, hkept⟩ := hcond p hprof
    exact predictDemand_le_of_profile h (AdmissionDescriptor.tokensFit_of_valid hvalid)
      (AdmissionDescriptor.tokensFit_of_valid hvalid') hprof hfits hkept

end WorkloadPredictor

namespace Sample

/-- A profile with 1 MB of KV cache and 1 MB of tensors for each token. -/
def hungry : PredictionProfile F :=
  { modelId := ⟨1⟩
    revision := ⟨1⟩
    backend := ascii "cuda"
    perTokenKvBytes := 1000000
    perTokenTensorBytes := 1000000 }

theorem moreTokens_work : (work (F := ℚ) 1000 0 1000).MoreTokens (work 1000 1000 1000) :=
  ⟨rfl, by decide, by decide, by decide, by decide⟩

end Sample

namespace WorkloadPredictor

theorem more_tokens_never_lower_hungry :
    (((machine ℚ).after [.registerProfile Sample.hungry]).predictDemand
        (Sample.work 1000 0 1000)).quantities ≤
      (((machine ℚ).after [.registerProfile Sample.hungry]).predictDemand
        (Sample.work 1000 1000 1000)).quantities := by
  refine fun i => UInt64.le_iff_toNat_le.mp ((more_tokens_never_lower _ Sample.moreTokens_work
    (by decide +kernel) (by decide +kernel)).2 (fun p hp => ?_) i)
  obtain rfl : { Sample.hungry with generation := 2 } = p := Option.some.inj hp
  exact ⟨⟨by decide +kernel, by decide +kernel⟩, nofun⟩

/-- After an observed peak of 6.9 GB, a thousand more output tokens lower the demand for tensor
state from 4 GB to 3 GB. -/
theorem more_tokens_never_lower_fails :
    (Sample.work (F := ℚ) 1000 0 1000).MoreTokens (Sample.work 1000 1000 1000) ∧
      (Sample.work (F := ℚ) 1000 0 1000).validate.isOk = true ∧
      (Sample.work (F := ℚ) 1000 1000 1000).validate.isOk = true ∧
      (((machine ℚ).after [.registerProfile Sample.hungry, .observe
        (reporting (F := ℚ) Sample.hungry 6900000000)]).predictDemand
          (Sample.work 1000 1000 1000)).get .tensorState <
      (((machine ℚ).after [.registerProfile Sample.hungry, .observe
        (reporting (F := ℚ) Sample.hungry 6900000000)]).predictDemand
          (Sample.work 1000 0 1000)).get .tensorState :=
  ⟨Sample.moreTokens_work, by decide +kernel, by decide +kernel, by decide +kernel⟩

end WorkloadPredictor

end Fabric

import Fabric.Prediction.Footprint

/-!
# Memory sums that wrap

Products and shares are checked and saturate, but `base`, `peak` and `sustained` add their results
without a check. The predicted demand covers its parts exactly when 64 bits hold the exact sums
(`never_wraps_iff`). A cold start never wraps.
-/

namespace Fabric

open Support

/-- An amount that is at least `n`, or saturated. -/
def Covers (x : UInt64) (n : ℕ) : Prop := n ≤ x.toNat ∨ x = maxU64

/-- 64 bits hold the sum, or happen to keep the largest number of it. -/
def Representable (n : ℕ) : Prop := n < 2 ^ 64 ∨ n % 2 ^ 64 = 2 ^ 64 - 1

theorem eq_maxU64_iff {x : UInt64} : x = maxU64 ↔ x.toNat = 2 ^ 64 - 1 := by
  rw [← UInt64.toNat_inj, toNat_maxU64]

/-- What 64 bits keep of a sum covers it exactly when it is representable. -/
theorem covers_wrapped_iff {x : UInt64} {n : ℕ} (h : x.toNat = n % 2 ^ 64) :
    Covers x n ↔ Representable n := by
  rw [Covers, eq_maxU64_iff, h, Representable]
  omega

namespace WorkloadPredictor

variable {F : Type} [Double F] {w : WorkloadPredictor F} {d : AdmissionDescriptor F}
  {p : PredictionProfile F}

/-- The demand for memory covers the sum of the parts of the footprint that it is built from. -/
def NeverWraps (w : WorkloadPredictor F) (d : AdmissionDescriptor F) : Prop :=
  Covers ((w.predictDemand d).get .acceleratorMemory) (w.predictMemory d).footprint.peakSum ∧
    Covers ((w.predictDemand d).get .hostMemory) (w.predictMemory d).footprint.sustainedSum

/-- The exact sums for the profile that the request is predicted by are representable. The host
memory that a profile asks for may make up for the second one. -/
def SumsFit (w : WorkloadPredictor F) (d : AdmissionDescriptor F) : Prop :=
  ∀ p, w.usableProfile d = some p →
    Representable (p.exactPeak d (w.learnedScale p d)) ∧
      (Representable (p.exactSustained d (w.learnedScale p d)) ∨ p.hostMemoryBytes = maxU64)

theorem covers_accelerator_iff (w : WorkloadPredictor F) (d : AdmissionDescriptor F) :
    Covers ((w.predictDemand d).get .acceleratorMemory) (w.predictMemory d).footprint.peakSum ↔
      Representable (w.predictMemory d).footprint.peakSum := by
  refine covers_wrapped_iff ?_
  rw [acceleratorMemory_predictDemand, MemoryFootprint.toNat_peak]

theorem covers_host_iff (h : w.usableProfile d = some p) :
    Covers ((w.predictDemand d).get .hostMemory) (w.predictMemory d).footprint.sustainedSum ↔
      Representable (w.predictMemory d).footprint.sustainedSum ∨ p.hostMemoryBytes = maxU64 := by
  rw [Covers, eq_maxU64_iff, eq_maxU64_iff, hostMemory_predictDemand h,
    MemoryFootprint.toNat_sustained, Representable]
  have hhost := p.hostMemoryBytes.toNat_lt
  omega

/-! ## Cold starts -/

theorem peakSum_coldFootprint (d : AdmissionDescriptor F) :
    (coldFootprint F d).peakSum = addMargins (coldFootprint F d).baseSum (thousandths (0.15 : F))
      (thousandths (0.08 : F)) := by
  have hmargin : (coldFootprint F d).safetyMargin = ratOf (coldFootprint F d).base (0.15 : F) := by
    simp only [coldFootprint, MemoryFootprint.base]
  have hallowance : (coldFootprint F d).fragmentationAllowance =
      ratOf (coldFootprint F d).base (0.08 : F) := by
    simp only [coldFootprint, MemoryFootprint.base]
  rw [MemoryFootprint.peakSum, hmargin, hallowance, toNat_ratOf, toNat_ratOf,
    MemoryFootprint.toNat_base, addMargins]

/-- Eight bytes for each of at most `2 ^ 41` tokens. -/
theorem kvGrowth_coldFootprint_le (hvalid : d.validate.isOk = true) :
    (coldFootprint F d).kvGrowth.toNat ≤ 2 ^ 44 := by
  obtain ⟨hinput, -, hcap⟩ := AdmissionDescriptor.tokens_le hvalid
  have htotal : (d.inputTokens + d.outputCap).toNat ≤ 2 ^ 41 := by
    rw [(AdmissionDescriptor.tokensFit_of_valid hvalid).toNat_cap]
    omega
  show (multiplyChecked 8 (if d.inputTokens + d.outputCap = 0 then 1
    else d.inputTokens + d.outputCap)).toNat ≤ _
  rw [toNat_multiplyChecked]
  show min (8 * _) _ ≤ _
  split_ifs
  · decide
  · omega

theorem baseSum_coldFootprint_lt (hvalid : d.validate.isOk = true) :
    (coldFootprint F d).baseSum < 2 ^ 46 := by
  have hfixed : (coldFootprint F d).fixedModel.toNat = 2 ^ 28 := by
    show (256 * 1024 * 1024 : UInt64).toNat = _
    decide
  have hstaging : (coldFootprint F d).staging.toNat = 2 ^ 26 := by
    show (64 * 1024 * 1024 : UInt64).toNat = _
    decide
  have hkv := kvGrowth_coldFootprint_le hvalid
  have htensor : (coldFootprint F d).tensorState = (coldFootprint F d).kvGrowth := rfl
  have hlocal : (coldFootprint F d).requestLocal.toNat = 0 := rfl
  have hworkspace : (coldFootprint F d).workspace.toNat = 0 := rfl
  rw [MemoryFootprint.baseSum, htensor]
  omega

/-- The sums of a cold start stay far below the limit. -/
theorem coldFootprint_sums (hvalid : d.validate.isOk = true)
    (hsafety : thousandths (0.15 : F) ≤ 1000) (hfragmentation : thousandths (0.08 : F) ≤ 1000) :
    (coldFootprint F d).peakSum < 2 ^ 64 ∧ (coldFootprint F d).sustainedSum < 2 ^ 64 := by
  have hbase := baseSum_coldFootprint_lt hvalid
  have hshare : ∀ t ≤ 1000, share ((coldFootprint F d).baseSum % 2 ^ 64) t < 2 ^ 46 := by
    intro t ht
    have hle := share_mono (Nat.mod_le (coldFootprint F d).baseSum (2 ^ 64)) ht
    rw [share_eq_of_lt (n := (coldFootprint F d).baseSum) (t := 1000) (by omega)] at hle
    omega
  constructor
  · have h₁ := hshare _ hsafety
    have h₂ := hshare _ hfragmentation
    rw [peakSum_coldFootprint, addMargins]
    omega
  · have hle : (coldFootprint F d).sustainedSum ≤ (coldFootprint F d).baseSum := by
      rw [MemoryFootprint.sustainedSum, MemoryFootprint.baseSum]
      omega
    omega

theorem footprint_predictMemory_of_none (h : w.usableProfile d = none) :
    (w.predictMemory d).footprint = coldFootprint F d := by
  simp only [predictMemory, h]

/-- A prediction without a profile never wraps. -/
theorem neverWraps_of_none (hvalid : d.validate.isOk = true)
    (hsafety : thousandths (0.15 : F) ≤ 1000) (hfragmentation : thousandths (0.08 : F) ≤ 1000)
    (h : w.usableProfile d = none) : w.NeverWraps d := by
  obtain ⟨hpeak, hsustained⟩ := coldFootprint_sums hvalid hsafety hfragmentation
  rw [← footprint_predictMemory_of_none h] at hpeak hsustained
  refine ⟨(covers_accelerator_iff w d).mpr (.inl hpeak), (covers_wrapped_iff ?_).mpr (.inl hsustained)⟩
  rw [hostMemory_predictDemand_of_none h, MemoryFootprint.toNat_sustained]

/-- The demand of a valid request covers its parts exactly when the exact sums fit. Of the
arithmetic only this is asked: the two ratios of a cold start are no more than a whole. -/
theorem never_wraps_iff {w : WorkloadPredictor F} {d : AdmissionDescriptor F}
    (hvalid : d.validate.isOk = true) (hsafety : thousandths (0.15 : F) ≤ 1000)
    (hfragmentation : thousandths (0.08 : F) ≤ 1000) : w.NeverWraps d ↔ w.SumsFit d := by
  cases hprof : w.usableProfile d with
  | none =>
    refine iff_of_true (neverWraps_of_none hvalid hsafety hfragmentation hprof) ?_
    intro p hp
    cases hprof.symm.trans hp
  | some p =>
    have htokens := AdmissionDescriptor.tokensFit_of_valid hvalid
    rw [NeverWraps, covers_accelerator_iff, covers_host_iff hprof,
      peakSum_predictMemory htokens hprof, sustainedSum_predictMemory htokens hprof]
    constructor
    · intro h p' hp'
      obtain rfl := Option.some.inj (hprof.symm.trans hp')
      exact h
    · exact fun h => h p hprof

end WorkloadPredictor

namespace Sample

/-- A profile with 16 MiB of KV cache for each token. -/
def spacious : PredictionProfile Binary64 :=
  { modelId := ⟨1⟩
    revision := ⟨1⟩
    backend := ascii "cuda"
    fixedBaseMemory := 1000000000
    perTokenKvBytes := 16777216 }

end Sample

namespace WorkloadPredictor

theorem never_wraps_iff_spacious :
    (({} : WorkloadPredictor Binary64).registerProfile Sample.spacious).2.NeverWraps
        (Sample.work 1000 1000 1000) ↔
      (({} : WorkloadPredictor Binary64).registerProfile Sample.spacious).2.SumsFit
        (Sample.work 1000 1000 1000) :=
  never_wraps_iff (by decide +kernel) (by decide +kernel) (by decide +kernel)

/-- The KV cache of a valid request with `2 ^ 40` tokens saturates, and the demand for accelerator
memory comes out below that for a thousand tokens. -/
theorem never_wraps_fails : (Sample.work (F := Binary64) 1099511627776 0 0).validate.isOk = true ∧
    ¬ (({} : WorkloadPredictor Binary64).registerProfile Sample.spacious).2.NeverWraps
      (Sample.work 1099511627776 0 0) ∧
    (((({} : WorkloadPredictor Binary64).registerProfile Sample.spacious).2.predictDemand
        (Sample.work 1099511627776 0 0)).get .acceleratorMemory) <
      ((({} : WorkloadPredictor Binary64).registerProfile Sample.spacious).2.predictDemand
        (Sample.work 1000 0 0)).get .acceleratorMemory := by
  refine ⟨by decide +kernel, fun h => ?_, by decide +kernel⟩
  rcases h.1 with h | h
  · revert h
    decide +kernel
  · revert h
    decide +kernel

end WorkloadPredictor

end Fabric

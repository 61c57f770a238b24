import Fabric.Prediction.Sums

/-!
# The token cap

A request may produce as many output tokens as its cap allows. The tensor state is predicted for the
cap, the KV cache for the expected output: it covers the cap exactly when the cap is the
expectation, tokens take no KV memory or the product saturates (`covers_cap_iff`).
-/

namespace Fabric

open Support

namespace WorkloadPredictor

variable {F : Type} [Double F] {w : WorkloadPredictor F} {d : AdmissionDescriptor F}
  {p : PredictionProfile F}

/-- The KV memory of the profile for every output length that the request permits is covered: by the
predicted growth, by the demand for KV capacity and by the demand for accelerator memory. -/
def CoversCap (w : WorkloadPredictor F) (p : PredictionProfile F) (d : AdmissionDescriptor F) :
    Prop :=
  ∀ n ≤ d.maxOutputTokens.toNat,
    Covers (w.predictMemory d).footprint.kvGrowth
        (p.perTokenKvBytes.toNat * (d.inputTokens.toNat + n)) ∧
      Covers ((w.predictDemand d).get .kvCapacity)
        (p.perTokenKvBytes.toNat * (d.inputTokens.toNat + n)) ∧
      Covers ((w.predictDemand d).get .acceleratorMemory)
        (p.perTokenKvBytes.toNat * (d.inputTokens.toNat + n))

/-- A profile without a backend is passed over for a cold start, which takes eight bytes for each
token up to the cap. With a backend the cap has to be expected, or the KV product zero or
saturated, and the peak must not wrap below it. -/
def CapCovered (p : PredictionProfile F) (d : AdmissionDescriptor F) : Prop :=
  if p.backend.isEmpty then p.perTokenKvBytes ≤ 8
  else
    (p.perTokenKvBytes = 0 ∨ d.maxOutputTokens = d.expectedOutputTokens ∨
      2 ^ 64 - 1 ≤ p.perTokenKvBytes.toNat *
        (d.inputTokens.toNat + d.expectedOutputTokens.toNat)) ∧
    (Representable (p.exactPeak d none) ∨
      p.perTokenKvBytes.toNat * (d.inputTokens.toNat + d.maxOutputTokens.toNat) ≤
        p.exactPeak d none % 2 ^ 64)

/-- Covering the cap is enough. -/
theorem coversCap_iff_cap : w.CoversCap p d ↔
    Covers (w.predictMemory d).footprint.kvGrowth
        (p.perTokenKvBytes.toNat * (d.inputTokens.toNat + d.maxOutputTokens.toNat)) ∧
      Covers (w.predictMemory d).footprint.peak
        (p.perTokenKvBytes.toNat * (d.inputTokens.toNat + d.maxOutputTokens.toNat)) := by
  have hle : ∀ n ≤ d.maxOutputTokens.toNat, ∀ x,
      Covers x (p.perTokenKvBytes.toNat * (d.inputTokens.toNat + d.maxOutputTokens.toNat)) →
        Covers x (p.perTokenKvBytes.toNat * (d.inputTokens.toNat + n)) := by
    intro n hn x hx
    exact hx.imp_left (Nat.mul_le_mul_left _ (Nat.add_le_add_left hn _)).trans
  unfold CoversCap
  rw [kvCapacity_predictDemand, acceleratorMemory_predictDemand]
  constructor
  · intro h
    obtain ⟨hkv, -, hpeak⟩ := h _ le_rfl
    exact ⟨hkv, hpeak⟩
  · rintro ⟨hkv, hpeak⟩ n hn
    exact ⟨hle n hn _ hkv, hle n hn _ hkv, hle n hn _ hpeak⟩

theorem kvBytes_le_exactPeak (p : PredictionProfile F) (d : AdmissionDescriptor F) :
    p.kvBytes d ≤ p.exactPeak d none := by
  show p.kvBytes d ≤ p.fixedBytes + p.kvBytes d + p.tensorBytes d + p.stagingBytes.toNat +
    share _ _ + share _ _
  omega

theorem kvGrowth_le_peakSum (fp : MemoryFootprint) : fp.kvGrowth.toNat ≤ fp.peakSum := by
  rw [MemoryFootprint.peakSum, MemoryFootprint.baseSum]
  omega

/-- Without observations nothing is scaled. -/
theorem learnedScale_of_unobserved (h : w.learn.find? (w.descriptorKey d) = none) :
    w.learnedScale p d = none := by
  rw [learnedScale, learnedRatio, h]
  rfl

/-- A valid request with a cap does not expect more. -/
theorem expected_le_cap (hvalid : d.validate.isOk = true) (hcap : d.maxOutputTokens ≠ 0) :
    d.expectedOutputTokens.toNat ≤ d.maxOutputTokens.toNat := by
  have hchecks := (firstFailure_isOk_iff (by decide)).mp hvalid
  simp only [AdmissionDescriptor.checks, List.forall_mem_cons] at hchecks
  obtain ⟨-, -, -, -, -, -, -, hle, -⟩ := hchecks
  exact UInt64.le_iff_toNat_le.mp (UInt64.not_lt.mp fun hlt => of_decide_eq_false hle ⟨hcap, hlt⟩)

/-- The KV growth covers the cap exactly when the cap is expected, or the product is zero or
saturates. -/
theorem covers_kvBytes_iff {x : UInt64} (hvalid : d.validate.isOk = true)
    (hcap : d.maxOutputTokens ≠ 0) (hx : x.toNat = p.kvBytes d) :
    Covers x (p.perTokenKvBytes.toNat * (d.inputTokens.toNat + d.maxOutputTokens.toNat)) ↔
      p.perTokenKvBytes = 0 ∨ d.maxOutputTokens = d.expectedOutputTokens ∨
        2 ^ 64 - 1 ≤ p.perTokenKvBytes.toNat *
          (d.inputTokens.toNat + d.expectedOutputTokens.toNat) := by
  have hexpected := expected_le_cap hvalid hcap
  rw [Covers, eq_maxU64_iff, hx, PredictionProfile.kvBytes, ← UInt64.toNat_inj, ← UInt64.toNat_inj,
    UInt64.toNat_zero]
  constructor
  · rintro (hle | hsat)
    · rcases Nat.eq_zero_or_pos p.perTokenKvBytes.toNat with hzero | hpos
      · exact .inl hzero
      · have htokens := Nat.le_of_mul_le_mul_left (hle.trans (Nat.min_le_left _ _)) hpos
        exact .inr (.inl (by omega))
    · exact .inr (.inr (by omega))
  · rintro (hzero | hsame | hsat)
    · exact .inl (by rw [hzero, Nat.zero_mul]; exact Nat.zero_le _)
    · rw [hsame]
      omega
    · exact .inr (by omega)

/-- When the KV growth covers the cap, the peak covers it unless it wraps below. -/
theorem covers_peak_iff {x y : UInt64} {n : ℕ} (hx : x.toNat = p.kvBytes d)
    (hy : y.toNat = p.exactPeak d none % 2 ^ 64) (h : Covers x n) :
    Covers y n ↔ Representable (p.exactPeak d none) ∨ n ≤ p.exactPeak d none % 2 ^ 64 := by
  have hle := kvBytes_le_exactPeak p d
  rw [Covers, eq_maxU64_iff, hx] at h
  rw [Covers, eq_maxU64_iff, hy, Representable]
  omega

/-- A cold start takes eight bytes of KV memory for each token up to the cap. -/
theorem kvGrowth_coldFootprint (hvalid : d.validate.isOk = true) (hcap : d.maxOutputTokens ≠ 0) :
    (coldFootprint F d).kvGrowth.toNat =
      8 * (d.inputTokens.toNat + d.maxOutputTokens.toNat) := by
  have houtput : d.outputCap = d.maxOutputTokens := if_pos hcap
  have htotal := (AdmissionDescriptor.tokensFit_of_valid hvalid).toNat_cap
  have hbound := AdmissionDescriptor.tokens_le hvalid
  rw [houtput] at htotal hbound
  have hpos : 0 < d.maxOutputTokens.toNat :=
    Nat.pos_of_ne_zero fun h => hcap (UInt64.toNat_inj.mp h)
  have hne : d.inputTokens + d.maxOutputTokens ≠ 0 := by
    intro hzero
    rw [hzero, UInt64.toNat_zero] at htotal
    omega
  show (multiplyChecked 8 (if d.inputTokens + d.outputCap = 0 then 1
    else d.inputTokens + d.outputCap)).toNat = _
  rw [houtput, if_neg hne, toNat_multiplyChecked, htotal]
  show min (8 * _) _ = _
  omega

/-- Eight bytes for each token cover the cap for a profile that takes no more. -/
theorem covers_eight_iff {x : UInt64} (hcap : d.maxOutputTokens ≠ 0)
    (hx : x.toNat = 8 * (d.inputTokens.toNat + d.maxOutputTokens.toNat)) :
    Covers x (p.perTokenKvBytes.toNat * (d.inputTokens.toNat + d.maxOutputTokens.toNat)) ↔
      p.perTokenKvBytes ≤ 8 := by
  have hpos : 0 < d.inputTokens.toNat + d.maxOutputTokens.toNat :=
    Nat.add_pos_right _ (Nat.pos_of_ne_zero fun h => hcap (UInt64.toNat_inj.mp h))
  rw [Covers, eq_maxU64_iff, hx, UInt64.le_iff_toNat_le]
  show _ ↔ p.perTokenKvBytes.toNat ≤ 8
  constructor
  · rintro (hle | hsat)
    · exact Nat.le_of_mul_le_mul_right hle hpos
    · omega
  · exact fun hle => .inl (Nat.mul_le_mul_right _ hle)

/-- A cold start covers the cap for a profile that takes no more than eight bytes. -/
theorem coversCap_cold_iff (hcold : w.usableProfile d = none) (hvalid : d.validate.isOk = true)
    (hcap : d.maxOutputTokens ≠ 0) (hsafety : thousandths (0.15 : F) ≤ 1000)
    (hfragmentation : thousandths (0.08 : F) ≤ 1000) :
    w.CoversCap p d ↔ p.perTokenKvBytes ≤ 8 := by
  have hkv : (w.predictMemory d).footprint.kvGrowth.toNat =
      8 * (d.inputTokens.toNat + d.maxOutputTokens.toNat) := by
    rw [footprint_predictMemory_of_none hcold, kvGrowth_coldFootprint hvalid hcap]
  have hsum : (w.predictMemory d).footprint.peakSum < 2 ^ 64 := by
    rw [footprint_predictMemory_of_none hcold]
    exact (coldFootprint_sums hvalid hsafety hfragmentation).1
  have hpeak := MemoryFootprint.toNat_peak (w.predictMemory d).footprint
  rw [Nat.mod_eq_of_lt hsum] at hpeak
  have hle := kvGrowth_le_peakSum (w.predictMemory d).footprint
  rw [coversCap_iff_cap, covers_eight_iff hcap hkv]
  refine ⟨And.left, fun h => ⟨h, .inl ?_⟩⟩
  calc p.perTokenKvBytes.toNat * (d.inputTokens.toNat + d.maxOutputTokens.toNat)
      ≤ 8 * (d.inputTokens.toNat + d.maxOutputTokens.toNat) :=
        Nat.mul_le_mul_right _ (UInt64.le_iff_toNat_le.mp h)
    _ = (w.predictMemory d).footprint.kvGrowth.toNat := hkv.symm
    _ ≤ (w.predictMemory d).footprint.peakSum := hle
    _ = (w.predictMemory d).footprint.peak.toNat := hpeak.symm

/-- A valid request with a cap, for which no observation was made, is covered up to its cap exactly
when its profile covers it. The two ratios of a cold start are no more than a whole. -/
theorem covers_cap_iff {w : WorkloadPredictor F} {p : PredictionProfile F}
    {d : AdmissionDescriptor F} (hprof : w.profileForDescriptor d = some p)
    (hunobserved : w.learn.find? (w.descriptorKey d) = none) (hvalid : d.validate.isOk = true)
    (hcap : d.maxOutputTokens ≠ 0) (hsafety : thousandths (0.15 : F) ≤ 1000)
    (hfragmentation : thousandths (0.08 : F) ≤ 1000) : w.CoversCap p d ↔ CapCovered p d := by
  rw [CapCovered]
  cases hbackend : p.backend.isEmpty with
  | true =>
    have hcold : w.usableProfile d = none := by
      rw [usableProfile, hprof, Option.filter_some, hbackend]
      rfl
    rw [if_pos rfl]
    exact coversCap_cold_iff hcold hvalid hcap hsafety hfragmentation
  | false =>
    have husable : w.usableProfile d = some p := by
      rw [usableProfile, hprof, Option.filter_some, hbackend]
      rfl
    have hscale := learnedScale_of_unobserved (p := p) hunobserved
    have htokens := AdmissionDescriptor.tokensFit_of_valid hvalid
    have hkv := kvGrowth_predictMemory htokens husable
    have hpeak := MemoryFootprint.toNat_peak (w.predictMemory d).footprint
    rw [peakSum_predictMemory htokens husable, hscale] at hpeak
    rw [hscale] at hkv
    rw [coversCap_iff_cap, ← covers_kvBytes_iff hvalid hcap hkv]
    exact and_congr_right fun h => covers_peak_iff hkv hpeak h

end WorkloadPredictor

namespace Sample

/-- A profile with 1 MiB of KV cache for each token. -/
def thrifty : PredictionProfile Binary64 := { spacious with perTokenKvBytes := 1048576 }

end Sample

namespace WorkloadPredictor

theorem covers_cap_iff_thrifty :
    (({} : WorkloadPredictor Binary64).registerProfile Sample.thrifty).2.CoversCap
        { Sample.thrifty with generation := 2 } (Sample.work 1000 10 1000) ↔
      CapCovered { Sample.thrifty with generation := 2 } (Sample.work 1000 10 1000) :=
  covers_cap_iff rfl rfl (by decide +kernel) (by decide +kernel) (by decide +kernel)
    (by decide +kernel)

/-- A valid request that expects 10 tokens and may produce 1000 is not covered for 1000. -/
theorem covers_cap_fails : (Sample.work (F := Binary64) 1000 10 1000).validate.isOk = true ∧
    (({} : WorkloadPredictor Binary64).registerProfile Sample.thrifty).2.profileForDescriptor
      (Sample.work 1000 10 1000) = some { Sample.thrifty with generation := 2 } ∧
    ¬ (({} : WorkloadPredictor Binary64).registerProfile Sample.thrifty).2.CoversCap
      { Sample.thrifty with generation := 2 } (Sample.work 1000 10 1000) := by
  refine ⟨by decide +kernel, rfl, fun h => ?_⟩
  rcases (h 1000 (by decide)).1 with h | h
  · revert h
    decide +kernel
  · revert h
    decide +kernel

end WorkloadPredictor

end Fabric

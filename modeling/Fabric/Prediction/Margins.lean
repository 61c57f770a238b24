import Fabric.Prediction.Resolution
import Fabric.Support.Rational

/-!
# Margins after an adjustment

When an observed peak exceeds the predicted one, the variable part is scaled up, but the margins are
set anew to 10% and 5%, whatever ratios the profile has. The adjusted peak stays at or above the
unadjusted one, for all observations, exactly when the smallest scale that an excess can lead to
makes up for the margins of the profile (`never_lowers_iff`).
-/

namespace Fabric

open Support

variable {F : Type} [Double F]

/-- A base and shares that are no smaller add up to no less, as long as the sum fits. -/
theorem addMargins_mono {b b' s s' f f' : ℕ} (hb : b ≤ b') (hs : s ≤ s') (hf : f ≤ f')
    (hfits : b' < 2 ^ 64) : addMargins b s f ≤ addMargins b' s' f' := by
  rw [addMargins, addMargins, Nat.mod_eq_of_lt hfits, Nat.mod_eq_of_lt (hb.trans_lt hfits)]
  exact Nat.add_le_add (Nat.add_le_add hb (share_mono hb hs)) (share_mono hb hf)

theorem le_addMargins (b s f : ℕ) : b ≤ addMargins b s f := by
  rw [addMargins]
  omega

namespace PredictionProfile

variable {p : PredictionProfile F} {d : AdmissionDescriptor F}

theorem exactBase_le_exactPeak (p : PredictionProfile F) (d : AdmissionDescriptor F)
    (scale : Option ℕ) : p.exactBase d scale ≤ p.exactPeak d scale := by
  cases scale with
  | none => exact le_addMargins _ _ _
  | some t => exact le_addMargins _ _ _

/-- A larger scale gives a larger peak, as long as the sum fits. -/
theorem exactPeak_mono {s t : ℕ} (h : s ≤ t) (hfits : p.exactPeak d (some t) < 2 ^ 64) :
    p.exactPeak d (some s) ≤ p.exactPeak d (some t) := by
  have hbase : p.exactBase d (some s) ≤ p.exactBase d (some t) :=
    Nat.add_le_add (Nat.add_le_add (Nat.add_le_add_left (share_mono le_rfl h) _)
      (share_mono le_rfl h)) (share_mono le_rfl h)
  exact addMargins_mono hbase le_rfl le_rfl ((exactBase_le_exactPeak p d _).trans_lt hfits)

end PredictionProfile

namespace WorkloadPredictor

variable {w : WorkloadPredictor F} {p : PredictionProfile F} {d : AdmissionDescriptor F}

variable (F) in
/-- A larger observed peak does not lead to a smaller scale: division, clamping and truncation are
monotone. -/
def MonotoneScale : Prop :=
  ∀ peak peak' before : UInt64, before ≠ 0 → peak ≤ peak' →
    thousandths (learnedFactor F peak before) ≤ thousandths (learnedFactor F peak' before)

/-- After any observations whose last peak is above the unadjusted one, the adjusted peak is not
below it, if its sum does not wrap. -/
def NeverLowers (w : WorkloadPredictor F) (p : PredictionProfile F) (d : AdmissionDescriptor F) :
    Prop :=
  ∀ obs st, (w.observeAll obs).learn.find? (w.descriptorKey d) = some st →
    (profileFootprint p d).peak < st.lastPeakVram →
    p.exactPeak d ((w.observeAll obs).learnedScale p d) < 2 ^ 64 →
    (profileFootprint p d).peak ≤ ((w.observeAll obs).predictMemory d).footprint.peak

/-- The profile is for no model that can be observed, or the unadjusted peak is zero or above all
that may be observed, or it is made up for by the smallest scale: the one that a peak of one byte
more leads to. -/
def MarginsKept (p : PredictionProfile F) (d : AdmissionDescriptor F) : Prop :=
  p.modelId.isNil = true ∨ p.exactPeak d none = 0 ∨ 2 ^ 48 ≤ p.exactPeak d none ∨
    p.exactPeak d none ≤ p.exactPeak d (some (thousandths (learnedFactor F
      (p.exactPeak d none + 1).toUInt64 (p.exactPeak d none).toUInt64)))

/-! ## Profiles and what was learned for them -/

/-- The profile that a request is predicted by: what it is filed under, and that it can be
observed. -/
theorem Keyed.usable (hw : w.Keyed) (h : w.usableProfile d = some p) :
    w.profs.find? p.key = some p ∧ w.descriptorKey d = p.key ∧ p.modelId = d.modelId ∧
      p.backend.isEmpty = false := by
  obtain ⟨hprof, hbackend⟩ := Option.filter_eq_some_iff.mp h
  refine ⟨?_, hw.descriptorKey_eq hprof, ?_, by simpa using hbackend⟩
  · rcases hw.profileForDescriptor_iff.mp hprof with hfind | ⟨-, hfirst⟩
    · rw [hw _ p hfind]
      exact hfind
    · exact OrdMap.find?_eq_some_iff.mpr (hw.mem_iff.mpr ⟨hfirst.registered, rfl⟩)
  · rcases hw.profileForDescriptor_iff.mp hprof with hfind | ⟨-, hfirst⟩
    · refine (modelRevPrefix_prefix_key_iff (r := d.modelRevision)).mp ?_ |>.1
      rw [hw _ p hfind, AdmissionDescriptor.key, profileKey_eq]
      exact List.prefix_append _ _
    · exact hfirst.model

/-- A key that starts with a model that is not nil. -/
def Named (key : ByteString) (_ : LearnedState F) : Prop :=
  ∃ m r, m.isNil = false ∧ modelRevPrefix m r <+: key

/-- An observation goes to a key that starts with its model and revision. -/
theorem modelRevPrefix_prefix_observedKey (w : WorkloadPredictor F) (obs : Observation) :
    modelRevPrefix obs.modelId obs.modelRevision <+: w.observedKey obs := by
  have hown : modelRevPrefix obs.modelId obs.modelRevision <+: obs.key := by
    rw [Observation.key, profileKey_eq]
    exact List.prefix_append _ _
  unfold observedKey resolveKey
  split_ifs
  · exact hown
  · cases hfind : w.byPrefix (modelRevPrefix obs.modelId obs.modelRevision) with
    | none => exact hown
    | some e => exact (byPrefix_eq_some_iff.mp hfind).2

theorem taught_named : Taught (Named (F := F)) := by
  intro w obs st hvalid _
  have hchecks := (firstFailure_isOk_iff (by decide)).mp hvalid
  simp only [Observation.checks, List.forall_mem_cons] at hchecks
  obtain ⟨-, hmodel, -⟩ := hchecks
  exact ⟨_, _, hmodel, modelRevPrefix_prefix_observedKey w obs⟩

/-- A profile for which something was learned has a model. -/
theorem Keyed.modelId_of_learned (hw : w.Keyed) (hnamed : w.Learned Named)
    (hprof : w.usableProfile d = some p) {st : LearnedState F}
    (hst : w.learn.find? (w.descriptorKey d) = some st) : p.modelId.isNil = false := by
  obtain ⟨m, r, hmodel, hpre⟩ := hnamed _ st hst
  rw [(hw.usable hprof).2.1, modelRevPrefix_prefix_key_iff] at hpre
  rw [hpre.1]
  exact hmodel

/-! ## The scale of a state -/

/-- What a learned state makes of a peak that is not zero. -/
theorem learnedScale_of_learned {st : LearnedState F}
    (hst : w.learn.find? (w.descriptorKey d) = some st) (hcount : st.count ≠ 0)
    (hlast : st.lastPeakVram ≠ 0) (hbefore : (p.exactPeak d none).toUInt64 ≠ 0) :
    w.learnedScale p d =
      some (thousandths (learnedFactor F st.lastPeakVram (p.exactPeak d none).toUInt64)) := by
  rw [learnedScale, learnedRatio, hst, Option.bind_some, if_neg (by simp [hcount, hlast, hbefore])]
  rfl

/-- A scale comes from a learned state and a peak that is not zero. -/
theorem learnedScale_cases {st : LearnedState F}
    (hst : w.learn.find? (w.descriptorKey d) = some st) :
    w.learnedScale p d = none ∨ (p.exactPeak d none).toUInt64 ≠ 0 ∧ w.learnedScale p d =
      some (thousandths (learnedFactor F st.lastPeakVram (p.exactPeak d none).toUInt64)) := by
  rw [learnedScale, learnedRatio, hst, Option.bind_some]
  split_ifs with h
  · exact .inl rfl
  · exact .inr ⟨fun hzero => h (.inr (.inr hzero)), rfl⟩

theorem toNat_peak_profileFootprint (htokens : d.TokensFit)
    (hfits : p.exactPeak d none < 2 ^ 64) :
    (profileFootprint p d).peak.toNat = p.exactPeak d none := by
  rw [MemoryFootprint.toNat_peak, peakSum_profileFootprint htokens, Nat.mod_eq_of_lt hfits]

/-- With the margins kept, no state of what was learned lowers the peak. -/
theorem peak_le_of_marginsKept (hscale : MonotoneScale F) (htokens : d.TokensFit)
    (hw : w.Keyed) (hnamed : w.Learned Named) (hbounded : w.Learned PeakBounded)
    (hprof : w.usableProfile d = some p) (hfits : p.exactPeak d none < 2 ^ 64)
    (hkept : MarginsKept p d) {st : LearnedState F}
    (hst : w.learn.find? (w.descriptorKey d) = some st)
    (habove : (profileFootprint p d).peak < st.lastPeakVram)
    (hrange : p.exactPeak d (w.learnedScale p d) < 2 ^ 64) :
    (profileFootprint p d).peak ≤ (w.predictMemory d).footprint.peak := by
  rw [UInt64.lt_iff_toNat_lt, toNat_peak_profileFootprint htokens hfits] at habove
  rw [UInt64.le_iff_toNat_le, toNat_peak_profileFootprint htokens hfits, MemoryFootprint.toNat_peak,
    peakSum_predictMemory htokens hprof, Nat.mod_eq_of_lt hrange]
  have hbefore : (p.exactPeak d none).toUInt64.toNat = p.exactPeak d none :=
    UInt64.toNat_ofNat_of_lt' hfits
  have hmore : (p.exactPeak d none + 1).toUInt64.toNat = p.exactPeak d none + 1 := by
    have hlast := st.lastPeakVram.toNat_lt
    exact UInt64.toNat_ofNat_of_lt' (show _ < 2 ^ 64 by omega)
  rcases learnedScale_cases (p := p) hst with hnone | ⟨hne, hsome⟩
  · rw [hnone]
  · rw [hsome] at hrange ⊢
    rcases hkept with hnil | hzero | hlarge | hkept
    · cases hnil.symm.trans (hw.modelId_of_learned hnamed hprof hst)
    · exact absurd (UInt64.toNat_inj.mp (by rw [hbefore, hzero]; rfl)) hne
    · have hle : st.lastPeakVram.toNat ≤ 2 ^ 48 := hbounded _ _ hst
      omega
    · refine hkept.trans (PredictionProfile.exactPeak_mono (hscale _ _ _ hne ?_) hrange)
      rw [UInt64.le_iff_toNat_le, hmore]
      exact habove

/-! ## The least excess -/

/-- A completed observation for a profile that reports a peak and nothing else. -/
def reporting (p : PredictionProfile F) (peak : UInt64) : Observation :=
  { id := ⟨1⟩
    modelId := p.modelId
    modelRevision := p.revision
    backend := p.backend
    dtype := p.dtype
    quantization := p.quantization
    peakVram := peak }

theorem reporting_valid {peak : UInt64} (hmodel : p.modelId.isNil = false)
    (hbackend : p.backend.isEmpty = false) (hpeak : peak.toNat ≤ 2 ^ 48) :
    (reporting p peak).validate.isOk = true := by
  have hlimit : ¬ peak > (1 : UInt64) <<< 48 := by
    rw [gt_iff_lt, UInt64.lt_iff_toNat_lt]
    exact not_lt.mpr hpeak
  refine (firstFailure_isOk_iff (by decide)).mpr ?_
  simp only [Observation.checks, List.forall_mem_cons]
  have hnone : ¬ (0 : UInt64) > (1 : UInt64) <<< 48 := by decide
  refine ⟨rfl, hmodel, hbackend, rfl, rfl, decide_eq_false ?_, List.forall_mem_nil _⟩
  rintro ⟨-, hover | hover | hover⟩
  · exact hlimit hover
  · exact hnone hover
  · exact hnone hover

/-- After a report for its profile, a request is scaled by what was reported. -/
theorem exists_learned_of_reporting {peak : UInt64} (hw : w.Keyed)
    (hmodel : p.modelId.isNil = false) (hprof : w.usableProfile d = some p)
    (hle : peak.toNat ≤ 2 ^ 48) (hpos : peak ≠ 0) (hbefore : (p.exactPeak d none).toUInt64 ≠ 0) :
    ∃ st, (w.observe (reporting p peak)).learn.find? (w.descriptorKey d) = some st ∧
      st.lastPeakVram = peak ∧ (w.observe (reporting p peak)).learnedScale p d =
        some (thousandths (learnedFactor F peak (p.exactPeak d none).toUInt64)) := by
  obtain ⟨hfind, hkey, -, hbackend⟩ := hw.usable hprof
  have hok : (reporting p peak).validate.isOk = true := reporting_valid hmodel hbackend hle
  have hobserved : w.observedKey (reporting p peak) = w.descriptorKey d := by
    rw [hkey]
    exact if_pos (OrdMap.contains_iff.mpr ⟨p, hfind⟩)
  obtain ⟨st, hst, hlast, hcount⟩ : ∃ st, (w.observe (reporting p peak)).learn.find?
      (w.descriptorKey d) = some st ∧ st.lastPeakVram = peak ∧ st.count ≠ 0 := by
    refine ⟨_, (find?_learn_observe hok _).trans (if_pos hobserved.symm), ?_,
      count_learnFrom_ne_zero w _ _ _⟩
    rw [lastPeakVram_learnFrom]
    rfl
  have hsame : (w.observe (reporting p peak)).descriptorKey d = w.descriptorKey d :=
    resolveKey_congr (profs_observe w _) _ _
  refine ⟨st, hst, hlast, ?_⟩
  rw [← hsame] at hst
  rw [learnedScale_of_learned hst hcount (hlast.symm ▸ hpos) hbefore, hlast]

/-- A predictor that never lowers the peak keeps the margins: an observation of one byte more is
possible. -/
theorem marginsKept_of_neverLowers (hw : w.Keyed) (htokens : d.TokensFit)
    (hprof : w.usableProfile d = some p) (hfits : p.exactPeak d none < 2 ^ 64)
    (h : w.NeverLowers p d) : MarginsKept p d := by
  by_cases hnil : p.modelId.isNil = true
  · exact .inl hnil
  by_cases hzero : p.exactPeak d none = 0
  · exact .inr (.inl hzero)
  by_cases hlarge : 2 ^ 48 ≤ p.exactPeak d none
  · exact .inr (.inr (.inl hlarge))
  refine .inr (.inr (.inr ?_))
  have hbefore : (p.exactPeak d none).toUInt64.toNat = p.exactPeak d none :=
    UInt64.toNat_ofNat_of_lt' hfits
  have hmore : (p.exactPeak d none + 1).toUInt64.toNat = p.exactPeak d none + 1 :=
    UInt64.toNat_ofNat_of_lt' (show _ < 2 ^ 64 by omega)
  generalize (p.exactPeak d none + 1).toUInt64 = peak at hmore ⊢
  obtain ⟨st, hst, hlast, hscale⟩ := exists_learned_of_reporting hw
    (Bool.eq_false_iff.mpr hnil) hprof
    (show peak.toNat ≤ 2 ^ 48 by omega) (fun heq => by simp [heq] at hmore)
    (fun heq => hzero (by simpa [heq] using hbefore.symm))
  by_cases hrange : p.exactPeak d (some (thousandths (learnedFactor F peak
      (p.exactPeak d none).toUInt64))) < 2 ^ 64
  · have hnext : (w.observe (reporting p peak)).usableProfile d = some p :=
      (usableProfile_congr (profs_observe w _) d).trans hprof
    have habove : (profileFootprint p d).peak < st.lastPeakVram := by
      rw [UInt64.lt_iff_toNat_lt, toNat_peak_profileFootprint htokens hfits, hlast]
      omega
    have hle := h [reporting p peak] st hst habove (hscale ▸ hrange)
    rw [UInt64.le_iff_toNat_le, toNat_peak_profileFootprint htokens hfits,
      MemoryFootprint.toNat_peak] at hle
    rwa [show (w.observeAll [reporting p peak]) = w.observe (reporting p peak) from rfl,
      peakSum_predictMemory htokens hnext, hscale, Nat.mod_eq_of_lt hrange] at hle
  · omega

/-- In a reachable predictor, an excess over the unadjusted peak never lowers it exactly when the
margins are kept. -/
theorem never_lowers_iff (hscale : MonotoneScale F) (h : List (PredictorCall F))
    (hprof : ((machine F).after h).usableProfile d = some p) (htokens : d.TokensFit)
    (hfits : p.exactPeak d none < 2 ^ 64) :
    ((machine F).after h).NeverLowers p d ↔ MarginsKept p d := by
  refine ⟨marginsKept_of_neverLowers (keyed_after h) htokens hprof hfits, fun hkept obs st hst => ?_⟩
  have hprofs := profs_observeAll ((machine F).after h) obs
  have hsame : (((machine F).after h).observeAll obs).descriptorKey d =
      ((machine F).after h).descriptorKey d := resolveKey_congr hprofs _ _
  rw [← hsame] at hst
  exact peak_le_of_marginsKept hscale htokens (keyed_observeAll (keyed_after h) obs)
    (learned_observeAll taught_named (learned_after taught_named h) obs)
    (learned_observeAll taught_peakBounded (learned_after taught_peakBounded h) obs)
    ((usableProfile_congr hprofs d).trans hprof) hfits hkept hst

/-- Margins of at most 10% and 5% are kept when an excess does not lead to a scale below one. -/
theorem marginsKept_of_ratios_le (hfits : p.exactPeak d none < 2 ^ 64)
    (hsafety : thousandths p.safetyMarginRatio ≤ thousandths (0.10 : F))
    (hfragmentation : thousandths p.fragmentationRatio ≤ thousandths (0.05 : F))
    (hscale : 1000 ≤ thousandths (learnedFactor F (p.exactPeak d none + 1).toUInt64
      (p.exactPeak d none).toUInt64)) : MarginsKept p d := by
  refine .inr (.inr (.inr ?_))
  generalize thousandths (learnedFactor F (p.exactPeak d none + 1).toUInt64
    (p.exactPeak d none).toUInt64) = t at hscale ⊢
  have hgrow : ∀ n < 2 ^ 64, n ≤ share n t := by
    intro n hn
    unfold share
    split_ifs
    · exact (Nat.le_div_iff_mul_le (by decide)).mpr (Nat.mul_le_mul_left n hscale)
    · omega
  have hkv : p.kvBytes d < 2 ^ 64 := (Nat.min_le_right _ _).trans_lt (by decide)
  have htensor : p.tensorBytes d < 2 ^ 64 := (Nat.min_le_right _ _).trans_lt (by decide)
  have hbase : p.exactBase d none ≤ p.exactBase d (some t) :=
    Nat.add_le_add (Nat.add_le_add (Nat.add_le_add_left (hgrow _ hkv) _) (hgrow _ htensor))
      (hgrow _ p.stagingBytes.toNat_lt)
  by_cases hrange : p.exactBase d (some t) < 2 ^ 64
  · exact addMargins_mono hbase hsafety hfragmentation hrange
  · have hle := PredictionProfile.exactBase_le_exactPeak p d (some t)
    omega

/-- The learned factor over the rationals lies between its bounds. -/
theorem learnedFactor_rat (peak before : UInt64) : learnedFactor ℚ peak before =
    min 2 (max 0.8 ((peak.toNat : ℚ) / before.toNat)) := by
  rw [learnedFactor, Double.min_rat, Double.max_rat]
  norm_num
  rfl

theorem monotoneScale_rat : MonotoneScale ℚ := by
  intro peak peak' before hbefore hle
  have hratio : (peak.toNat : ℚ) / before.toNat ≤ peak'.toNat / before.toNat :=
    div_le_div_of_nonneg_right (Nat.cast_le.mpr (UInt64.le_iff_toNat_le.mp hle)) (Nat.cast_nonneg _)
  have hthousandths : ∀ x : ℚ, 0 < x → x ≤ 2 → thousandths x = ⌊x * 1000⌋₊ := by
    intro x hpos hle
    have hzero : ¬ x ≤ 0.0 := by
      norm_num
      exact hpos
    rw [thousandths, if_neg hzero]
    show (UInt64.ofNat ⌊x * 1000.0⌋₊).toNat = _
    have hlit : (1000.0 : ℚ) = 1000 := by norm_num
    have hfloor : ⌊x * 1000⌋₊ ≤ 2000 := Nat.floor_le_of_le (by push_cast; linarith)
    rw [hlit]
    exact UInt64.toNat_ofNat_of_lt' (show _ < 2 ^ 64 by omega)
  rw [learnedFactor_rat, learnedFactor_rat, hthousandths, hthousandths]
  · refine Nat.floor_mono (mul_le_mul_of_nonneg_right ?_ (by norm_num))
    exact min_le_min_left _ (max_le_max_left _ hratio)
  · positivity
  · exact min_le_left _ _
  · positivity
  · exact min_le_left _ _

end WorkloadPredictor

namespace Sample

/-- A profile with margins of 50% and 20%, and 1 MB of KV cache for each token. -/
def prudent : PredictionProfile F :=
  { modelId := ⟨1⟩
    revision := ⟨1⟩
    backend := ascii "cuda"
    fixedBaseMemory := 1000000000
    perTokenKvBytes := 1000000
    safetyMarginRatio := 0.5
    fragmentationRatio := 0.2 }

end Sample

namespace WorkloadPredictor

theorem never_lowers_iff_prudent :
    ((machine ℚ).after [.registerProfile Sample.prudent]).NeverLowers
        { Sample.prudent with generation := 2 } (Sample.work 1000 0 0) ↔
      MarginsKept ({ Sample.prudent with generation := 2 } : PredictionProfile ℚ)
        (Sample.work 1000 0 0) :=
  never_lowers_iff monotoneScale_rat _ rfl ⟨by decide +kernel, by decide +kernel⟩ (by decide +kernel)

/-- A peak one byte above a predicted 3.4 GB lowers the prediction to 2.3 GB. -/
theorem never_lowers_fails :
    ((machine Binary64).after [.registerProfile Sample.prudent]).usableProfile
        (Sample.work 1000 0 0) = some { Sample.prudent with generation := 2 } ∧
      (Sample.work (F := Binary64) 1000 0 0).validate.isOk = true ∧
      ¬ ((machine Binary64).after [.registerProfile Sample.prudent]).NeverLowers
        { Sample.prudent with generation := 2 } (Sample.work 1000 0 0) := by
  refine ⟨rfl, by decide +kernel, fun h => ?_⟩
  have hle := h [reporting (F := Binary64) Sample.prudent 3400000001]
  have hlearned : ((((machine Binary64).after [.registerProfile Sample.prudent]).observeAll
      [reporting (F := Binary64) Sample.prudent 3400000001]).learn.find? (((machine Binary64).after
        [.registerProfile Sample.prudent]).descriptorKey (Sample.work 1000 0 0))).map
          (·.lastPeakVram) = some 3400000001 := by
    decide +kernel
  obtain ⟨st, hst, hlast⟩ := Option.map_eq_some_iff.mp hlearned
  have hfalse := hle st hst (by rw [hlast]; decide +kernel) (by decide +kernel)
  revert hfalse
  decide +kernel

end WorkloadPredictor

end Fabric

import Fabric.Core.Descriptor
import Fabric.Support.OrdMap

/-!
# Prediction

`observation.hpp` and `prediction.hpp`: profiles, observations and the predictor that turns
a descriptor into a memory footprint, a duration and a demand. Byte and token counts are
unsigned 64-bit numbers and wrap where the source adds them without a check.
-/

namespace Fabric

open Support

variable {F : Type} [Double F]

/-! ## Observations -/

/-- `Observation`. -/
structure Observation where
  id : ObservationId := default
  admissionRequestId : AdmissionRequestId := default
  tenantId : TenantId := default
  modelId : ModelId := default
  modelRevision : ModelRevision := default
  backend : ByteString := []
  dtype : ByteString := []
  quantization : ByteString := []
  workloadType : WorkloadType := .inference
  peakVram : UInt64 := 0
  hostMemory : UInt64 := 0
  pinnedMemory : UInt64 := 0
  kvGrowth : UInt64 := 0
  transferBytes : UInt64 := 0
  executionDuration : Nanoseconds := 0
  inputTokens : UInt64 := 0
  outputTokens : UInt64 := 0
  completedAt : TimePoint := 0
  kind : ObservationKind := .completed

namespace Observation

/-- The conditions `validate` refuses, in its order; the last three concern completed work. -/
def checks (o : Observation) : List (Bool × String) :=
  [(o.id.isNil, "observation id nil"),
    (o.modelId.isNil, "model id nil"),
    (o.backend.isEmpty, "backend empty"),
    (o.kind = .completed ∧ o.executionDuration < 0, "negative duration"),
    (o.kind = .completed ∧
        (o.inputTokens > (1 : UInt64) <<< 40 ∨ o.outputTokens > (1 : UInt64) <<< 40),
      "token count absurd"),
    (o.kind = .completed ∧ (o.peakVram > (1 : UInt64) <<< 48 ∨
        o.hostMemory > (1 : UInt64) <<< 48 ∨ o.pinnedMemory > (1 : UInt64) <<< 48),
      "memory value absurd")]

def validate (o : Observation) : Status := firstFailure .invalidArgument o.checks

/-- `decode_tokens_per_sec`: the observed decode rate. -/
def decodeTokensPerSec (o : Observation) : F :=
  if o.executionDuration ≤ 0 ∨ o.outputTokens = 0 then 0.0
  else Double.ofUInt64 o.outputTokens / (Double.ofInt64 o.executionDuration / 1e9)

end Observation

/-! ## Predictions -/

/-- `PredictionProvenance`. -/
inductive PredictionProvenance
  | modelProfile
  | historical
  | hybrid
  | fallback
  | unavailable
  deriving DecidableEq

/-- `MemoryFootprint`. -/
structure MemoryFootprint where
  fixedModel : UInt64 := 0
  requestLocal : UInt64 := 0
  kvGrowth : UInt64 := 0
  tensorState : UInt64 := 0
  workspace : UInt64 := 0
  staging : UInt64 := 0
  pinnedStaging : UInt64 := 0
  safetyMargin : UInt64 := 0
  fragmentationAllowance : UInt64 := 0
  deriving DecidableEq

namespace MemoryFootprint

def base (fp : MemoryFootprint) : UInt64 :=
  fp.fixedModel + fp.requestLocal + fp.kvGrowth + fp.tensorState + fp.workspace + fp.staging

/-- `peak`: the bound that admission is judged by. -/
def peak (fp : MemoryFootprint) : UInt64 := fp.base + fp.safetyMargin + fp.fragmentationAllowance

def sustained (fp : MemoryFootprint) : UInt64 := fp.fixedModel + fp.tensorState + fp.staging

end MemoryFootprint

/-- `MemoryFootprintPrediction`. -/
structure MemoryFootprintPrediction (F : Type) [Double F] where
  footprint : MemoryFootprint := {}
  confidence : F := 0.0
  evidenceCount : UInt32 := 0
  predictorGeneration : UInt64 := 0
  provenance : PredictionProvenance := .unavailable
  fallback : Bool := false

/-- `DurationPrediction`. -/
structure DurationPrediction (F : Type) [Double F] where
  expected : Nanoseconds := 0
  confidence : F := 0.0
  prefill : Nanoseconds := 0
  decode : Nanoseconds := 0
  transfer : Nanoseconds := 0
  decodeRateTps : F := 0.0
  evidenceCount : UInt32 := 0
  predictorGeneration : UInt64 := 0
  provenance : PredictionProvenance := .unavailable
  fallback : Bool := false

/-- `PredictionProfile`: configured evidence for one model on one backend. -/
structure PredictionProfile (F : Type) [Double F] where
  modelId : ModelId := default
  revision : ModelRevision := default
  backend : ByteString := []
  dtype : ByteString := []
  quantization : ByteString := []
  generation : UInt64 := 0
  fixedBaseMemory : UInt64 := 0
  perTokenKvBytes : UInt64 := 0
  perTokenTensorBytes : UInt64 := 0
  perRequestOverhead : UInt64 := 0
  workspaceBytes : UInt64 := 0
  stagingBytes : UInt64 := 0
  pinnedStagingBytes : UInt64 := 0
  safetyMarginRatio : F := 0.10
  fragmentationRatio : F := 0.05
  prefillTokensPerSec : F := 0.0
  decodeTokensPerSec : F := 0.0
  transferBytesPerSequence : UInt64 := 0
  transferBytesPerSec : F := 0.0
  hostMemoryBytes : UInt64 := 0
  pinnedHostMemoryBytes : UInt64 := 0
  executionSlotsRequired : UInt32 := 1
  sequenceSlotsRequired : UInt32 := 1

/-- `LearnedState`: what the observations of one key taught. -/
structure LearnedState (F : Type) [Double F] where
  seen : Bool := false
  count : UInt32 := 0
  lastDurationNs : F := 0.0
  lastOutputTokens : UInt64 := 0
  lastPeakVram : UInt64 := 0
  lastKv : UInt64 := 0
  maxObservedPeak : UInt64 := 0
  decodeEma : F := 0.0

/-! ## Keys -/

/-- `model_rev_prefix`. -/
def modelRevPrefix (model : ModelId) (revision : ModelRevision) : ByteString :=
  ascii "model=" ++ toDecimal model.value.toNat ++ ascii ";rev=" ++
    toDecimal revision.value.toNat ++ ascii ";"

/-- `profile_key`, for a profile, a descriptor and an observation alike. -/
def profileKey (model : ModelId) (revision : ModelRevision)
    (backend dtype quantization : ByteString) : ByteString :=
  ascii "model=" ++ toDecimal model.value.toNat ++ ascii ";rev=" ++
    toDecimal revision.value.toNat ++ ascii ";be=" ++ backend ++ ascii ";dt=" ++ dtype ++
    ascii ";q=" ++ quantization

def PredictionProfile.key (p : PredictionProfile F) : ByteString :=
  profileKey p.modelId p.revision p.backend p.dtype p.quantization

def AdmissionDescriptor.key (d : AdmissionDescriptor F) : ByteString :=
  profileKey d.modelId d.modelRevision d.backend d.dtype d.quantization

def Observation.key (o : Observation) : ByteString :=
  profileKey o.modelId o.modelRevision o.backend o.dtype o.quantization

/-! ## Arithmetic of the predictor -/

/-- `multiply_checked`: the product, or the largest number on overflow. -/
def multiplyChecked (a b : UInt64) : UInt64 := (checkedMul a b).getD maxU64

/-- `rat_of`: a ratio of a byte count, by thousandths. -/
def ratOf (base : UInt64) (ratio : F) : UInt64 :=
  if base = 0 ∨ ratio ≤ 0.0 then 0
  else match checkedMul base (Double.toUInt64 (ratio * 1000.0)) with
    | none => maxU64
    | some out => out / 1000

/-- `from_seconds`. -/
def fromSeconds (s : F) : Nanoseconds :=
  if ¬ s ≥ 0.0 ∨ Double.isFinite s = false then 0
  else Double.toInt64 ((if s > 1e12 then 1e12 else s) * 1e9)

/-! ## The predictor -/

/-- `WorkloadPredictor`. -/
structure WorkloadPredictor (F : Type) [Double F] where
  profs : OrdMap ByteString (PredictionProfile F) := .empty
  seen : OrdMap ByteString Bool := .empty
  learn : OrdMap ByteString (LearnedState F) := .empty
  generation : UInt64 := 1

namespace WorkloadPredictor

def kMaxProfiles : Nat := 256

def kMaxSamplesPerKey : UInt32 := 4096

def nextGeneration (w : WorkloadPredictor F) : UInt64 :=
  if w.generation = maxU64 then 1 else w.generation + 1

/-- `register_profile`: add or replace; a new key is refused when the table is full, but its
mark in `seen` is left behind. -/
def registerProfile (w : WorkloadPredictor F) (prof : PredictionProfile F) :
    Bool × WorkloadPredictor F :=
  let key := prof.key
  let known := (w.seen.find? key).getD false
  if known = false ∧ w.profs.size ≥ kMaxProfiles then
    (false, { w with seen := w.seen.insert key false })
  else
    (true,
      { w with
        seen := w.seen.insert key true
        generation := w.nextGeneration
        profs := w.profs.insert key { prof with generation := w.nextGeneration } })

/-- The first profile whose key starts with the prefix. -/
def byPrefix (w : WorkloadPredictor F) (pre : ByteString) :
    Option (ByteString × PredictionProfile F) :=
  match w.profs.lowerBound pre with
  | some e => if pre.isPrefixOf e.1 then some e else none
  | none => none

/-- `resolve_key`. -/
def resolveKey (w : WorkloadPredictor F) (candidate pre : ByteString) : ByteString :=
  if w.profs.contains candidate then candidate
  else match w.byPrefix pre with
    | some e => e.1
    | none => candidate

def descriptorKey (w : WorkloadPredictor F) (d : AdmissionDescriptor F) : ByteString :=
  w.resolveKey d.key (modelRevPrefix d.modelId d.modelRevision)

/-- `profile_for_descriptor`. -/
def profileForDescriptor (w : WorkloadPredictor F) (d : AdmissionDescriptor F) :
    Option (PredictionProfile F) :=
  match w.profs.find? d.key with
  | some p => some p
  | none => (w.byPrefix (modelRevPrefix d.modelId d.modelRevision)).map Prod.snd

/-- The profile a prediction rests on: one with a declared backend. -/
def usableProfile (w : WorkloadPredictor F) (d : AdmissionDescriptor F) :
    Option (PredictionProfile F) :=
  (w.profileForDescriptor d).filter fun p => !p.backend.isEmpty

/-- What `p_provenance_snapshot` reports about a key. -/
structure Evidence (F : Type) where
  provenance : PredictionProvenance
  confidence : F
  evidenceCount : UInt32
  fallback : Bool

/-- `p_provenance_snapshot`. -/
def provenanceSnapshot (w : WorkloadPredictor F) (key : ByteString) : Evidence F :=
  if (w.profs.find? key).any (fun p => !p.backend.isEmpty) then
    match (w.learn.find? key).filter (fun st => st.count > 0) with
    | some st =>
      { provenance := .hybrid
        confidence := Double.min 0.95
          (0.6 + 0.35 * (1.0 - Double.exp (-Double.ofUInt64 st.count.toUInt64 / 8.0)))
        evidenceCount := st.count
        fallback := false }
    | none => { provenance := .modelProfile, confidence := 0.6, evidenceCount := 0, fallback := false }
  else { provenance := .unavailable, confidence := 0.0, evidenceCount := 0, fallback := true }

/-- `record_evidence_for_profile`: evidence count and confidence after the observations of a
key. -/
def recordEvidence (w : WorkloadPredictor F) (key : ByteString) (ev : UInt32) (conf : F) :
    UInt32 × F :=
  match (w.learn.find? key).filter (fun st => st.count ≠ 0) with
  | none => (ev, conf)
  | some st =>
    (max ev st.count,
      Double.max conf (Double.min 0.98
        (0.6 + 0.38 * (1.0 - Double.exp (-Double.ofUInt64 st.count.toUInt64 / 6.0)))))

/-- `apply_learned_adjustment`: scale the variable part by the last observed peak, within
0.8 and 2, and set the margins anew. -/
def applyLearnedAdjustment (w : WorkloadPredictor F) (key : ByteString) (fp : MemoryFootprint) :
    MemoryFootprint :=
  match w.learn.find? key with
  | none => fp
  | some st =>
    let predictedBefore := fp.base + fp.safetyMargin + fp.fragmentationAllowance
    if st.count = 0 ∨ st.lastPeakVram = 0 ∨ predictedBefore = 0 then fp
    else
      let ratio : F := Double.ofUInt64 st.lastPeakVram / Double.ofUInt64 predictedBefore
      let cl := Double.min 2.0 (Double.max 0.8 ratio)
      let scaled := { fp with
        kvGrowth := ratOf fp.kvGrowth cl
        tensorState := ratOf fp.tensorState cl
        staging := ratOf fp.staging cl }
      { scaled with
        safetyMargin := ratOf scaled.base (0.10 : F)
        fragmentationAllowance := ratOf scaled.base (0.05 : F) }

/-- The footprint `predict_memory` builds from a profile, before it is adjusted. -/
def profileFootprint (prof : PredictionProfile F) (d : AdmissionDescriptor F) : MemoryFootprint :=
  let fp : MemoryFootprint :=
    { fixedModel := prof.fixedBaseMemory
      requestLocal := prof.perRequestOverhead
      kvGrowth := multiplyChecked prof.perTokenKvBytes (d.inputTokens + d.expectedOutputTokens)
      tensorState := multiplyChecked prof.perTokenTensorBytes (d.inputTokens +
        (if d.maxOutputTokens ≠ 0 then d.maxOutputTokens else d.expectedOutputTokens))
      workspace := prof.workspaceBytes
      staging := prof.stagingBytes
      pinnedStaging := prof.pinnedStagingBytes }
  { fp with
    safetyMargin := ratOf fp.base prof.safetyMarginRatio
    fragmentationAllowance := ratOf fp.base prof.fragmentationRatio }

/-- The generic footprint of a cold start. The second allowance is taken of the same base. -/
def coldFootprint (F : Type) [Double F] (d : AdmissionDescriptor F) : MemoryFootprint :=
  let total := d.inputTokens +
    (if d.maxOutputTokens ≠ 0 then d.maxOutputTokens else d.expectedOutputTokens)
  let total := if total = 0 then 1 else total
  let fp : MemoryFootprint :=
    { fixedModel := 256 * 1024 * 1024
      kvGrowth := multiplyChecked 8 total
      tensorState := multiplyChecked 8 total
      staging := 64 * 1024 * 1024 }
  { fp with
    safetyMargin := ratOf fp.base (0.15 : F)
    fragmentationAllowance := ratOf fp.base (0.08 : F) }

/-- `predict_memory`. -/
def predictMemory (w : WorkloadPredictor F) (d : AdmissionDescriptor F) :
    MemoryFootprintPrediction F :=
  let key := w.descriptorKey d
  let ev := w.provenanceSnapshot key
  match w.usableProfile d with
  | some prof =>
    let (count, conf) := w.recordEvidence key ev.evidenceCount ev.confidence
    { footprint := w.applyLearnedAdjustment key (profileFootprint prof d)
      confidence := conf
      evidenceCount := count
      predictorGeneration := w.generation
      provenance := ev.provenance
      fallback := ev.fallback }
  | none =>
    { footprint := coldFootprint F d
      confidence := Double.min 0.30 (0.10 + 0.20 * (if ev.evidenceCount > 0 then 1.0 else 0.0))
      evidenceCount := ev.evidenceCount
      predictorGeneration := w.generation
      provenance := if ev.provenance = .unavailable then .fallback else ev.provenance
      fallback := true }

/-- `effective_decode_rate`. -/
def effectiveDecodeRate (w : WorkloadPredictor F) (key : ByteString) (profileRate : F) : F :=
  match w.learn.find? key with
  | none => profileRate
  | some st =>
    if st.decodeEma ≤ 0.0 then profileRate
    else if profileRate > 0.0 then profileRate * st.decodeEma
    else st.decodeEma

/-- `predict_duration`. -/
def predictDuration (w : WorkloadPredictor F) (d : AdmissionDescriptor F) : DurationPrediction F :=
  let key := w.descriptorKey d
  let ev := w.provenanceSnapshot key
  match w.usableProfile d with
  | some prof =>
    let prefill := fromSeconds (if d.inputTokens > 0 ∧ prof.prefillTokensPerSec > 0.0
      then Double.ofUInt64 d.inputTokens / prof.prefillTokensPerSec else (0.0 : F))
    let decodeEff := w.effectiveDecodeRate key prof.decodeTokensPerSec
    let decode := fromSeconds (if d.expectedOutputTokens > 0 ∧ decodeEff > 0.0
      then Double.ofUInt64 d.expectedOutputTokens / decodeEff else (0.0 : F))
    let transfer := fromSeconds
      (if prof.transferBytesPerSequence > 0 ∧ prof.transferBytesPerSec > 0.0
      then Double.ofUInt64 prof.transferBytesPerSequence / prof.transferBytesPerSec else (0.0 : F))
    let (count, conf) := w.recordEvidence key ev.evidenceCount ev.confidence
    { expected := prefill + decode + transfer
      confidence := conf
      prefill, decode, transfer
      decodeRateTps := decodeEff
      evidenceCount := count
      predictorGeneration := w.generation
      provenance := ev.provenance
      fallback := ev.fallback }
  | none =>
    let prefill := fromSeconds (if d.inputTokens > 0
      then Double.ofUInt64 d.inputTokens / 1000.0 else (0.0 : F))
    let decode := fromSeconds (if d.expectedOutputTokens > 0
      then Double.ofUInt64 d.expectedOutputTokens / 40.0 else (0.0 : F))
    { expected := prefill + decode
      confidence := 0.15
      prefill, decode
      evidenceCount := ev.evidenceCount
      predictorGeneration := w.generation
      provenance := ev.provenance
      fallback := true }

/-- `predict_demand`: the demand in every dimension. -/
def predictDemand (w : WorkloadPredictor F) (d : AdmissionDescriptor F) : ResourceVector :=
  let fp := (w.predictMemory d).footprint
  let r := ((((ResourceVector.zero.set .acceleratorMemory fp.peak).set .hostMemory
    fp.sustained).set .pinnedHostMemory fp.pinnedStaging).set .kvCapacity fp.kvGrowth).set
    .tensorState fp.tensorState
  match w.usableProfile d with
  | some prof =>
    let r := ((r.set .executionSlots prof.executionSlotsRequired.toUInt64).set .sequenceSlots
      prof.sequenceSlotsRequired.toUInt64).set .persistentCache
      (multiplyChecked prof.transferBytesPerSequence 1)
    if prof.hostMemoryBytes ≠ 0 then
      r.set .hostMemory (max (r.get .hostMemory) prof.hostMemoryBytes)
    else r
  | none => (r.set .executionSlots 1).set .sequenceSlots 1

/-- The learned state after a valid observation that resolves to `key`. -/
def learnFrom (w : WorkloadPredictor F) (key : ByteString) (st : LearnedState F)
    (obs : Observation) : LearnedState F :=
  let st := { st with
    seen := true
    count := if st.count ≥ kMaxSamplesPerKey then kMaxSamplesPerKey else st.count + 1 }
  if obs.kind ≠ .completed then st
  else
    let st := { st with
      lastDurationNs := Double.ofInt64 obs.executionDuration
      lastOutputTokens := obs.outputTokens
      lastPeakVram := obs.peakVram
      lastKv := obs.kvGrowth
      maxObservedPeak := max st.maxObservedPeak obs.peakVram }
    let tps : F := obs.decodeTokensPerSec
    match w.profs.find? key with
    | some prof =>
      if obs.executionDuration > 0 ∧ obs.outputTokens > 0 ∧ tps > 0.0 then
        let ratio := if prof.decodeTokensPerSec > 0.0 then tps / prof.decodeTokensPerSec else 0.0
        let cl := Double.min 5.0 (Double.max 0.2 ratio)
        { st with
          decodeEma := if st.decodeEma ≤ 0.0 then cl else 0.6 * st.decodeEma + 0.4 * cl }
      else st
    | none => st

/-- `observe`: a malformed observation is dropped. -/
def observe (w : WorkloadPredictor F) (obs : Observation) : WorkloadPredictor F :=
  if obs.validate.isOk = false then w
  else
    let key := w.resolveKey obs.key (modelRevPrefix obs.modelId obs.modelRevision)
    { w with
      learn := w.learn.insert key (w.learnFrom key ((w.learn.find? key).getD {}) obs) }

end WorkloadPredictor

end Fabric

import Fabric.Engine.State
import Fabric.Support.Checks

/-!
# Evaluation

`evaluate` of `engine.cpp`. Each stage of the source is a gate: it lets the request pass or
returns a `Refusal`, which says the lifecycle to move to, the decision to store and the
counters to bump. `evaluate` runs the entry checks, binds the effective policy, runs the
gates and then reserves.
-/

namespace Fabric

open Support Support.Checks

variable {F : Type} [Double F]

/-- How an evaluation ends that admits nothing. -/
structure Refusal (F : Type) [Double F] where
  life : RequestLifecycle
  decision : AdmissionDecision F
  count : Metrics → Metrics

/-- What the predictor says about a request. -/
structure Forecast (F : Type) [Double F] where
  mem : MemoryFootprintPrediction F
  dur : DurationPrediction F
  demand : ResourceVector

/-- What the gates found out about a request they let pass. -/
structure Clearance (F : Type) [Double F] where
  forecast : Forecast F
  slo : SloFeasibility F
  quota : QuotaEvaluation

namespace Metrics

def bumpRejections (m : Metrics) : Metrics := { m with rejections := m.rejections + 1 }

def bumpDeferrals (m : Metrics) : Metrics := { m with deferrals := m.deferrals + 1 }

end Metrics

namespace Refusal

/-- A refusal that rejects the request for good. -/
def reject (decision : AdmissionDecision F) (count : Metrics → Metrics := id) : Refusal F :=
  { life := .rejected, decision, count := fun m => count m.bumpRejections }

/-- A refusal that leaves the request deferred. -/
def defer (decision : AdmissionDecision F) (count : Metrics → Metrics := id) : Refusal F :=
  { life := .deferred, decision, count := fun m => count m.bumpDeferrals }

end Refusal

namespace AdmissionFabric

/-! ## Classification -/

/-- `classify_capability_`: every declared capability is on the snapshot. Dtype and
quantization are only looked at when a backend is declared. -/
def classifyCapability (f : AdmissionFabric F) (d : AdmissionDescriptor F) : ReasonCode :=
  if d.backend.isEmpty then .admitted
  else
    let required := Capabilities.add {} (Capabilities.backend d.backend)
    let required := if d.dtype.isEmpty then required
      else required.add (Capabilities.dtype d.dtype)
    let required := if d.quantization.isEmpty then required
      else required.add (Capabilities.quantization d.quantization)
    if f.snapshot.capabilities.containsAll required then .admitted else .rejectCapability

/-- `classify_quota_`: the reason and what limits the request. A token violation is reported
before a violated dimension. -/
def classifyQuota (f : AdmissionFabric F) (d : AdmissionDescriptor F) (demand : ResourceVector) :
    ReasonCode × ByteString :=
  if f.quota.present = false then (.admitted, [])
  else
    let rem := f.quota.remaining
    let limiting := ResourceId.all.find? fun id =>
      f.quota.constrained id && decide (demand.get id > rem.get id)
    let tokens := d.inputTokens + d.expectedOutputTokens
    if f.quota.tokenBudget ≠ 0 ∧ tokens > f.quota.tokenBudget then
      (.rejectQuota, ascii "token_budget")
    else match limiting with
      | some id => (.deferQuota, ascii id.name)
      | none => (.admitted, [])

/-- The queue delay expected under a pressure. -/
def queueDelay : PressureLevel → Nanoseconds
  | .critical => milliseconds 200
  | .high => milliseconds 80
  | .normal => milliseconds 20
  | .low => milliseconds 5
  | _ => milliseconds 0

/-- `evaluate_slo_`. -/
def evaluateSlo (f : AdmissionFabric F) (d : AdmissionDescriptor F) (dur : DurationPrediction F) :
    SloFeasibility F :=
  let s : SloFeasibility F :=
    { predictedExecutionDuration := dur.expected
      predictedTransferDelay := dur.transfer
      predictedReservationDelay := milliseconds 1
      predictedQueueDelay := queueDelay (f.snapshot.pressure .acceleratorMemory)
      uncertainty := 1.0 - Double.clamp dur.confidence 0.0 1.0 }
  match d.deadline with
  | none =>
    { s with
      verdict := match d.latencyClass with
        | .bestEffort => .feasible
        | .fixedDeadline => .unknown
        | _ => .feasibleWithRisk
      explanation := ascii "no absolute deadline enforced" }
  | some budget =>
    let remaining := budget - s.predictedTotal
    let s := { s with deadlineRemaining := some remaining }
    if remaining ≤ 0 then
      { s with
        verdict := .infeasible
        explanation := ascii "predicted time exceeds deadline" }
    else if (Double.ofInt64 remaining / Double.ofInt64 budget : F) < 0.10 then
      { s with
        verdict := .feasibleWithRisk
        explanation := ascii "deadline met but with thin margin" }
    else
      { s with
        verdict := .feasible
        explanation := ascii "deadline comfortably met" }

/-! ## Gates -/

/-- The refusal of a malformed or duplicate request. -/
def malformedRefusal (f : AdmissionFabric F) (now : TimePoint) (d : AdmissionDescriptor F)
    (explanation : ByteString) : Refusal F :=
  .reject { f.buildDecision now d .rejectMalformed with explanation }

/-- Steps 1 and 1b: validation and the guard against ids that are already in use. -/
def entryGate (f : AdmissionFabric F) (now : TimePoint) (d : AdmissionDescriptor F) :
    Except (Refusal F) Unit := do
  require d.validate.isOk (f.malformedRefusal now d d.validate.message)
  match f.requests.find? d.admissionRequestId with
  | none => .ok ()
  | some record =>
    require record.lifecycle.isOpen
      (f.malformedRefusal now d
        (ascii "duplicate admission request id (already " ++ ascii record.lifecycle.name ++
          ascii ")"))

/-- Step 4: the three predictions. -/
def forecast (f : AdmissionFabric F) (d : AdmissionDescriptor F) : Forecast F :=
  { mem := f.predictor.predictMemory d
    dur := f.predictor.predictDuration d
    demand := f.predictor.predictDemand d }

/-- Step 5: capability. -/
def capabilityGate (f : AdmissionFabric F) (now : TimePoint) (d : AdmissionDescriptor F)
    (fc : Forecast F) : Except (Refusal F) Unit :=
  require (f.classifyCapability d ≠ .rejectCapability)
    (.reject
      { f.buildDecision now d .rejectCapability with
        predictedRequirement := fc.demand
        memoryPrediction := fc.mem
        durationPrediction := fc.dur
        explanation := ascii "required capability not present on available capacity" }
      fun m => { m with capabilityFailures := m.capabilityFailures + 1 })

/-- Step 6: age and availability of the snapshot. -/
def snapshotGate (f : AdmissionFabric F) (now : TimePoint) (pol : AdmissionPolicy F)
    (d : AdmissionDescriptor F) (fc : Forecast F) : Except (Refusal F) Unit :=
  let refusal (reason : ReasonCode) (explanation : String) : AdmissionDecision F :=
    { f.buildDecision now d reason with
      predictedRequirement := fc.demand
      explanation := ascii explanation }
  if f.hasSnapshot then do
    require (¬ (f.snapshot.isStaleAsOf now pol.maxSnapshotAge ∧ pol.acceptStaleSnapshot = false))
      (.reject (refusal .rejectStale "resource snapshot is stale beyond policy tolerance")
        fun m => { m with staleAuthorityRejections := m.staleAuthorityRejections + 1 })
    require (f.snapshot.hasUnavailableDimension = false)
      (.defer (refusal .deferCapacity "some capacity dimension unavailable; deferring"))
  else
    require (pol.requireReservation = false)
      (.defer (refusal .deferCapacity "no capacity snapshot; deferring until capacity known"))

/-- Step 7: quota. -/
def quotaGate (f : AdmissionFabric F) (now : TimePoint) (d : AdmissionDescriptor F)
    (fc : Forecast F) : Except (Refusal F) QuotaEvaluation :=
  let qc := (f.classifyQuota d fc.demand).1
  let what := (f.classifyQuota d fc.demand).2
  let refusal (reason : ReasonCode) : AdmissionDecision F :=
    { f.buildDecision now d reason with
      predictedRequirement := fc.demand
      memoryPrediction := fc.mem
      durationPrediction := fc.dur }
  do
    require (qc ≠ .rejectQuota)
      (.reject
        { refusal .rejectQuota with
          quota := { passed := false, limitingName := what, tokenViolation := true }
          explanation := ascii "request violates hard quota limit: " ++ what }
        fun m => { m with quotaFailures := m.quotaFailures + 1 })
    require (qc ≠ .deferQuota)
      (.defer
        { refusal .deferQuota with
          quota := { passed := false, limitingName := what }
          explanation := ascii "quota headroom insufficient for: " ++ what
          deferHint := some
            { reason := .deferQuota
              earliestReevaluation := seconds 5
              requiredResourceChange := ascii "quota " ++ what ++ ascii " headroom"
              explanation := ascii "release quota capacity then retry" } }
        fun m => { m with quotaFailures := m.quotaFailures + 1 })
    return { passed := true }

/-- Step 8: the deadline. -/
def sloGate (f : AdmissionFabric F) (now : TimePoint) (d : AdmissionDescriptor F)
    (fc : Forecast F) : Except (Refusal F) (SloFeasibility F) :=
  let slo := f.evaluateSlo d fc.dur
  let refusal (reason : ReasonCode) : AdmissionDecision F :=
    { f.buildDecision now d reason with
      predictedRequirement := fc.demand
      durationPrediction := fc.dur
      slo }
  do
    require (slo.verdict ≠ .infeasible)
      (.reject
        { refusal .rejectInfeasible with
          explanation := ascii "SLO infeasible: " ++ slo.explanation }
        fun m => { m with sloInfeasibility := m.sloInfeasibility + 1 })
    require (slo.verdict ≠ .unknown)
      (.defer
        { refusal .deferSlo with
          explanation := ascii "SLO unknown for fixed-deadline class without budget; deferring"
          deferHint := some
            { reason := .deferSlo
              earliestReevaluation := milliseconds 100
              explanation := ascii "supply a deadline budget" } })
    return slo

/-- The availability less the safety margin of a policy. -/
def effectiveAvailability (f : AdmissionFabric F) (pol : AdmissionPolicy F) : ResourceVector :=
  let avail := f.reservations.availability
  let margin : ResourceVector := ⟨fun id =>
    let ratioPart := Double.toUInt64 (Double.ofUInt64 (avail.get id) * pol.safetyHeadroomRatio)
    Fabric.satAdd ratioPart (pol.absoluteSafetyMargin.get id)⟩
  avail.satSub margin

/-- The deferred records with a short expected output, as the 32-bit counter counts them. -/
def pendingSmall (f : AdmissionFabric F) : UInt32 :=
  (f.requests.entries.countP fun e =>
    e.2.lifecycle == .deferred && decide (e.2.descriptor.expectedOutputTokens < 512)).toUInt32

/-- Whether fairness holds a request back. -/
def deferForFairness (f : AdmissionFabric F) (now : TimePoint) (pol : AdmissionPolicy F)
    (d : AdmissionDescriptor F) (demand : ResourceVector) : Bool :=
  let avail := f.reservations.availability.get .acceleratorMemory
  let wanted := demand.get .acceleratorMemory
  let capacityFraction : F :=
    if avail > 0 ∧ wanted > 0 then Double.ofUInt64 wanted / Double.ofUInt64 avail else 0.0
  let largeStarving := decide
    ((Double.ofInt64 (f.fairness.starvationAge now d.tenantId) : F) > 10e9)
  FairnessController.shouldDeferLarge pol f.pendingSmall capacityFraction largeStarving

/-- Step 9: capacity with safety headroom, then fairness. -/
def capacityGate (f : AdmissionFabric F) (now : TimePoint) (pol : AdmissionPolicy F)
    (d : AdmissionDescriptor F) (fc : Forecast F) (slo : SloFeasibility F) :
    Except (Refusal F) Unit :=
  let effective := f.effectiveAvailability pol
  let limited := match ResourceId.all.find? fun id => fc.demand.get id > effective.get id with
    | some id => ascii id.name
    | none => ascii "capacity"
  let refusal : AdmissionDecision F :=
    { f.buildDecision now d .deferCapacity with
      predictedRequirement := fc.demand
      memoryPrediction := fc.mem
      durationPrediction := fc.dur
      slo }
  do
    require (fc.demand.fitsIn effective)
      (.defer
        { refusal with
          explanation := ascii "insufficient headroom (limiting: " ++ limited ++ ascii ")"
          deferHint := some
            { reason := .deferCapacity
              earliestReevaluation := seconds 3
              requiredResourceChange := ascii "[" ++ limited ++ ascii "] +headroom"
              explanation := ascii "wait or release capacity" } })
    require (f.deferForFairness now pol d fc.demand = false)
      (.defer
        { refusal with
          explanation := ascii "deferred by fairness to protect smaller pending requests"
          deferHint := some
            { reason := .deferCapacity
              earliestReevaluation := milliseconds 50
              explanation := ascii "smaller requests ahead" } })

/-- Steps 5 to 9. -/
def gates (f : AdmissionFabric F) (now : TimePoint) (pol : AdmissionPolicy F)
    (d : AdmissionDescriptor F) : Except (Refusal F) (Clearance F) := do
  let forecast := f.forecast d
  f.capabilityGate now d forecast
  f.snapshotGate now pol d forecast
  let quota ← f.quotaGate now d forecast
  let slo ← f.sloGate now d forecast
  f.capacityGate now pol d forecast slo
  return { forecast, slo, quota }

/-! ## The evaluation -/

/-- Store a refusal and count it. -/
def refuse (f : AdmissionFabric F) (now : TimePoint) (d : AdmissionDescriptor F) (r : Refusal F) :
    AdmissionDecision F × AdmissionFabric F :=
  let f := f.emit now d r.life r.decision false
  (r.decision, { f with metrics := r.count f.metrics })

/-- The refusal of a request whose reservation failed. -/
def reservationRefusal (f : AdmissionFabric F) (now : TimePoint) (d : AdmissionDescriptor F)
    (c : Clearance F) (s : Status) : Refusal F :=
  .defer
    { f.buildDecision now d .deferCapacity with
      predictedRequirement := c.forecast.demand
      memoryPrediction := c.forecast.mem
      durationPrediction := c.forecast.dur
      slo := c.slo
      explanation := ascii "reservation failed: " ++ s.message
      deferHint := some
        { reason := .deferCapacity
          earliestReevaluation := seconds 3
          explanation := s.message } }

/-- The decision of an admission. -/
def admitDecision (f : AdmissionFabric F) (now : TimePoint) (pol : AdmissionPolicy F)
    (d : AdmissionDescriptor F) (c : Clearance F) (rid : ReservationId)
    (gen : AdmissionGeneration) : AdmissionDecision F :=
  let risky := decide (c.forecast.mem.confidence < pol.minPredictorConfidence) ||
    c.slo.verdict == .feasibleWithRisk
  { f.buildDecision now d (if risky then .admitWithRisk else .admitWithReservation) with
    predictedRequirement := c.forecast.demand
    memoryPrediction := c.forecast.mem
    durationPrediction := c.forecast.dur
    slo := c.slo
    quota := c.quota
    reservationId := some rid
    admissionGeneration := gen
    confidence := c.forecast.mem.confidence
    explanation := if risky then
        ascii "admitted with reservation; confidence/SLO margin below strict threshold"
      else ascii "admitted with reservation; capacity, quota and SLO all feasible" }

/-- Step 10 and the admission. -/
def reserveAndAdmit (f : AdmissionFabric F) (now : TimePoint) (pol : AdmissionPolicy F)
    (d : AdmissionDescriptor F) (c : Clearance F) : AdmissionDecision F × AdmissionFabric F :=
  let rid : ReservationId := ⟨f.reservationCounter⟩
  let f := { f with reservationCounter := f.nextReservationCounter }
  match f.reservations.reserve now rid d.tenantId c.forecast.demand pol.maxReservationLifetime with
  | (.error s, reservations) =>
    let f := { f with reservations }
    f.refuse now d (f.reservationRefusal now d c s)
  | (.ok _, reservations) =>
    let gen := f.admissionGeneration
    let f := { f with reservations, admissionGeneration := gen.next }
    let dec := f.admitDecision now pol d c rid gen
    let f := f.emit now d .reserved dec true
    (dec, { f with metrics := { f.metrics with
      activeReservations := f.reservations.reservations.size.toUInt64 } })

/-- Steps 3 to 10, for a request that passed the entry checks. -/
def evaluateOpen (f : AdmissionFabric F) (now : TimePoint) (d : AdmissionDescriptor F) :
    AdmissionDecision F × AdmissionFabric F :=
  match f.policy.latest with
  | none =>
    f.refuse now d (.reject
      { f.buildDecision now d .rejectPolicy with explanation := ascii "no policy installed" })
  | some base =>
    let pol := base.effective d
    let f := f.bindOvercommit pol
    match f.gates now pol d with
    | .error r => f.refuse now d r
    | .ok c => f.reserveAndAdmit now pol d c

/-- The first counter of an evaluation. -/
def countEvaluation (f : AdmissionFabric F) : AdmissionFabric F :=
  { f with metrics := { f.metrics with evaluations := f.metrics.evaluations + 1 } }

/-- `evaluate`. -/
def evaluate (f : AdmissionFabric F) (now : TimePoint) (d : AdmissionDescriptor F) :
    AdmissionDecision F × AdmissionFabric F :=
  let f := f.countEvaluation
  match f.entryGate now d with
  | .error r => f.refuse now d r
  | .ok () =>
    (f.transition now d.admissionRequestId .proposed .evaluating d).2.evaluateOpen now d

end AdmissionFabric

end Fabric

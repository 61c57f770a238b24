import Fabric.Prediction.Predictor

/-!
# Decisions

`quota.hpp`, `slo.hpp` and `decision.hpp`: the quota snapshot the engine consults, the
verdict on a deadline, and the decision an evaluation returns.
-/

namespace Fabric

open Support

variable {F : Type} [Double F]

/-! ## Quota -/

/-- `QuotaSnapshot`. A zero limit or cap constrains nothing. -/
structure QuotaSnapshot where
  present : Bool := false
  generation : UInt64 := 0
  sourceAuthority : ByteString := []
  timestamp : TimePoint := 0
  stale : Bool := false
  limits : ResourceVector := .zero
  used : ResourceVector := .zero
  reserved : ResourceVector := .zero
  tokenBudget : UInt64 := 0
  maxConcurrentRequests : UInt32 := 0
  maxSequences : UInt32 := 0
  computeTimeAllowance : Nanoseconds := 0

namespace QuotaSnapshot

def constrained (q : QuotaSnapshot) (id : ResourceId) : Bool := q.limits.get id != 0

def remaining (q : QuotaSnapshot) : ResourceVector := q.limits.satSub (q.used.satAdd q.reserved)

end QuotaSnapshot

/-- The fields of `QuotaEvaluation` that an evaluation sets. -/
structure QuotaEvaluation where
  passed : Bool := false
  limitingName : ByteString := []
  tokenViolation : Bool := false

/-! ## Latency -/

/-- `SloVerdict`. -/
inductive SloVerdict
  | feasible
  | feasibleWithRisk
  | infeasible
  | unknown
  deriving DecidableEq

/-- `SloFeasibility`. -/
structure SloFeasibility (F : Type) [Double F] where
  verdict : SloVerdict := .unknown
  predictedQueueDelay : Nanoseconds := 0
  predictedTransferDelay : Nanoseconds := 0
  predictedExecutionDuration : Nanoseconds := 0
  predictedReservationDelay : Nanoseconds := 0
  deadlineRemaining : Option Nanoseconds := none
  uncertainty : F := 0.0
  explanation : ByteString := []

/-- `predicted_total`: the time until the work is done, once admitted. -/
def SloFeasibility.predictedTotal (s : SloFeasibility F) : Nanoseconds :=
  s.predictedQueueDelay + s.predictedTransferDelay + s.predictedExecutionDuration +
    s.predictedReservationDelay

/-! ## Decisions -/

/-- `ReasonCode`, over a signed 32-bit number. -/
inductive ReasonCode
  | admitted
  | admitWithReservation
  | admitWithRisk
  | deferCapacity
  | deferQuota
  | deferSlo
  | deferCapability
  | rejectInfeasible
  | rejectPolicy
  | rejectCapability
  | rejectQuota
  | rejectExpired
  | rejectMalformed
  | rejectUnsupported
  | rejectStale
  | undeclared (raw : UInt32) (h : 14 < raw)
  deriving DecidableEq

/-- `primary_outcome_of`. -/
def primaryOutcomeOf : ReasonCode → AdmissionOutcome
  | .admitted | .admitWithReservation | .admitWithRisk => .admitted
  | .deferCapacity | .deferQuota | .deferSlo | .deferCapability => .defer
  | _ => .reject

/-- `DeferHint`. -/
structure DeferHint where
  reason : ReasonCode := .deferCapacity
  earliestReevaluation : Nanoseconds := 0
  requiredResourceChange : ByteString := []
  quotaChangeRequired : ByteString := []
  explanation : ByteString := []

/-- `AdmissionDecision`. -/
structure AdmissionDecision (F : Type) [Double F] where
  admissionRequestId : AdmissionRequestId := default
  requestId : RequestId := default
  attemptId : AttemptId := default
  tenantId : TenantId := default
  modelId : ModelId := default
  modelRevision : ModelRevision := default
  outcome : AdmissionOutcome := .reject
  reason : ReasonCode := .rejectInfeasible
  policyGeneration : PolicyGeneration := default
  snapshotGeneration : ResourceSnapshotGeneration := default
  admissionGeneration : AdmissionGeneration := default
  epoch : CoordinatorEpoch := default
  predictedRequirement : ResourceVector := .zero
  memoryPrediction : MemoryFootprintPrediction F := {}
  durationPrediction : DurationPrediction F := {}
  slo : SloFeasibility F := {}
  quota : QuotaEvaluation := {}
  reservationId : Option ReservationId := none
  confidence : F := 0.0
  decisionTime : TimePoint := 0
  explanation : ByteString := []
  deferHint : Option DeferHint := none

namespace AdmissionDecision

def isAdmit (d : AdmissionDecision F) : Bool := d.outcome = .admitted

end AdmissionDecision

end Fabric

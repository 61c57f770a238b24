import Fabric.Core.Snapshot
import Fabric.Engine.Decision
import Fabric.Engine.Fairness

/-!
# The state of the engine

`engine.hpp` and the parts of `engine.cpp` around the evaluation: the request table, the
validated transition, and the operations that commit, release and cancel. The link from a
request to its reservation is the reservation id in the last decision of its record.

A function of the source that reads the clock takes the reading as `now`; one call of an
operation has one reading.
-/

namespace Fabric

open Support

/-! ## Requests -/

/-- `RequestLifecycle`. -/
inductive RequestLifecycle
  | unknown
  | proposed
  | evaluating
  | deferred
  | reserved
  | admitted
  | released
  | rejected
  | expired
  | cancelled
  deriving DecidableEq

namespace RequestLifecycle

/-- `lifecycle_name`. -/
def name : RequestLifecycle → String
  | unknown => "unknown"
  | proposed => "proposed"
  | evaluating => "evaluating"
  | deferred => "deferred"
  | reserved => "reserved"
  | admitted => "admitted"
  | released => "released"
  | rejected => "rejected"
  | expired => "expired"
  | cancelled => "cancelled"

/-- The states no operation should leave. -/
def isTerminal : RequestLifecycle → Bool
  | released | rejected | expired | cancelled => true
  | _ => false

/-- The states in which the duplicate guard lets an evaluation through. -/
def isOpen : RequestLifecycle → Bool
  | proposed | deferred | evaluating => true
  | _ => false

theorem not_held_of_isOpen {life : RequestLifecycle} (h : life.isOpen = true) :
    life ≠ .reserved ∧ life ≠ .admitted := by
  cases life <;> simp [isOpen] at h ⊢

end RequestLifecycle

/-- `RequestRecord`. -/
structure RequestRecord (F : Type) [Double F] where
  id : AdmissionRequestId := default
  lifecycle : RequestLifecycle := .proposed
  descriptor : AdmissionDescriptor F := {}
  lastDecision : Option (AdmissionDecision F) := none
  createdAt : TimePoint := 0
  updatedAt : TimePoint := 0

variable {F : Type} [Double F]

/-- The reservation a record points at through its last decision. -/
def RequestRecord.reservation? (record : RequestRecord F) : Option ReservationId :=
  record.lastDecision.bind AdmissionDecision.reservationId

/-- `Metrics`. The map `by_reason` is the function it denotes, zero where it has no entry. -/
structure Metrics where
  evaluations : UInt64 := 0
  admissions : UInt64 := 0
  deferrals : UInt64 := 0
  rejections : UInt64 := 0
  byReason : ReasonCode → UInt64 := fun _ => 0
  activeReservations : UInt64 := 0
  staleAuthorityRejections : UInt64 := 0
  quotaFailures : UInt64 := 0
  capabilityFailures : UInt64 := 0
  sloInfeasibility : UInt64 := 0

def Metrics.countReason (m : Metrics) (c : ReasonCode) : Metrics :=
  { m with byReason := fun r => if r = c then m.byReason r + 1 else m.byReason r }

/-! ## The engine -/

/-- `AdmissionFabric`. -/
structure AdmissionFabric (F : Type) [Double F] where
  policy : PolicyEngine F := {}
  predictor : WorkloadPredictor F := {}
  reservations : ReservationManager := {}
  snapshot : ResourceSnapshot := {}
  hasSnapshot : Bool := false
  quota : QuotaSnapshot := {}
  fairness : FairnessController F := {}
  metrics : Metrics := {}
  requests : OrdMap AdmissionRequestId (RequestRecord F) := .empty
  admissionGeneration : AdmissionGeneration := ⟨1⟩
  reservationCounter : UInt64 := 1

/-- The allowance the engine hands on: none under the mode `none`. -/
def AdmissionPolicy.boundAllowance (p : AdmissionPolicy F) : ResourceVector :=
  if p.overcommit = .none then .zero else p.overcommitAllowance

namespace AdmissionFabric

/-- `request`. -/
def request (f : AdmissionFabric F) (id : AdmissionRequestId) : Option (RequestRecord F) :=
  f.requests.find? id

/-- The lifecycle of the record of a request. -/
def lifecycle? (f : AdmissionFabric F) (id : AdmissionRequestId) : Option RequestLifecycle :=
  (f.request id).map RequestRecord.lifecycle

/-- The reservation that the record of a request points at. -/
def reservation? (f : AdmissionFabric F) (id : AdmissionRequestId) : Option ReservationId :=
  (f.request id).bind RequestRecord.reservation?

/-- Hand the overcommit settings of a policy to the reservation manager. -/
def bindOvercommit (f : AdmissionFabric F) (p : AdmissionPolicy F) : AdmissionFabric F :=
  { f with
    reservations := (f.reservations.setOvercommitMode p.overcommit).setOvercommitAllowance
      p.boundAllowance }

/-- `install_policy`. -/
def installPolicy (f : AdmissionFabric F) (p : AdmissionPolicy F) : Status × AdmissionFabric F :=
  let (s, policy) := f.policy.install p
  let f := { f with policy }
  if s.isOk = false then (s, f)
  else match f.policy.latest with
    | some p => (.success, f.bindOvercommit p)
    | none => (.success, f)

/-- `register_profile`. -/
def registerProfile (f : AdmissionFabric F) (prof : PredictionProfile F) :
    Bool × AdmissionFabric F :=
  let (accepted, predictor) := f.predictor.registerProfile prof
  (accepted, { f with predictor })

/-- `set_snapshot`. -/
def setSnapshot (f : AdmissionFabric F) (snapshot : ResourceSnapshot) : AdmissionFabric F :=
  { f with
    snapshot
    hasSnapshot := true
    reservations := f.reservations.setTotal snapshot.total }

/-- `set_quota`. -/
def setQuota (f : AdmissionFabric F) (quota : QuotaSnapshot) : AdmissionFabric F := { f with quota }

/-- `observe`. -/
def observe (f : AdmissionFabric F) (obs : Observation) : AdmissionFabric F :=
  { f with predictor := f.predictor.observe obs }

/-- `next_reservation_id_`: the counter after handing out an id. -/
def nextReservationCounter (f : AdmissionFabric F) : UInt64 :=
  if f.reservationCounter = maxU64 then 1 else f.reservationCounter + 1

/-! ## Transitions and stored decisions -/

/-- `transition_`: move a record from `source` to `target`. A missing record is created in
`source` first. -/
def transition (f : AdmissionFabric F) (now : TimePoint) (id : AdmissionRequestId)
    (source target : RequestLifecycle) (d : AdmissionDescriptor F) : Status × AdmissionFabric F :=
  let record := (f.requests.find? id).getD
    { id, descriptor := d, createdAt := now, updatedAt := now, lifecycle := source }
  if record.lifecycle = source then
    (.success,
      { f with requests := f.requests.insert id { record with lifecycle := target, updatedAt := now } })
  else (.failure .operationNotPermitted "illegal lifecycle transition", f)

/-- Store a decision under a request id; a missing record is created empty. -/
def storeDecision (f : AdmissionFabric F) (id : AdmissionRequestId) (dec : AdmissionDecision F) :
    AdmissionFabric F :=
  { f with
    requests := f.requests.insert id
      { (f.requests.find? id).getD {} with lastDecision := some dec } }

/-- The local function `emit` of `evaluate`: store the decision, move the lifecycle, count. -/
def emit (f : AdmissionFabric F) (now : TimePoint) (d : AdmissionDescriptor F)
    (toLife : RequestLifecycle) (dec : AdmissionDecision F) (admitMetric : Bool) :
    AdmissionFabric F :=
  let id := d.admissionRequestId
  let f := f.storeDecision id dec
  let f := (f.transition now id .proposed .evaluating d).2
  let f := (f.transition now id .evaluating toLife d).2
  let metrics := if admitMetric then { f.metrics with admissions := f.metrics.admissions + 1 }
    else f.metrics
  { f with metrics := metrics.countReason dec.reason }

/-- `build_decision_`. -/
def buildDecision (f : AdmissionFabric F) (now : TimePoint) (d : AdmissionDescriptor F)
    (reason : ReasonCode) : AdmissionDecision F :=
  { admissionRequestId := d.admissionRequestId
    requestId := d.requestId
    attemptId := d.attemptId
    tenantId := d.tenantId
    modelId := d.modelId
    modelRevision := d.modelRevision
    reason
    outcome := primaryOutcomeOf reason
    policyGeneration := d.policyGeneration
    snapshotGeneration := f.snapshot.generation
    admissionGeneration := ⟨0⟩
    epoch := ⟨0⟩
    decisionTime := now }

/-! ## Commit, release, cancel -/

/-- `commit_admission`. The lifecycle of the record is not looked at. -/
def commitAdmission (f : AdmissionFabric F) (now : TimePoint) (requestId : AdmissionRequestId)
    (generation : AdmissionGeneration) : Status × AdmissionFabric F :=
  match f.requests.find? requestId with
  | none => (.failure .staleAdmissionGeneration "unknown request id", f)
  | some record =>
    match record.lastDecision with
    | none => (.failure .operationNotPermitted "no decision to commit", f)
    | some dec =>
      if dec.admissionGeneration ≠ generation then
        (.failure .staleAdmissionGeneration "stale admission generation", f)
      else match dec.reservationId with
        | none => (.failure .admissionWithoutReservation "decision has no reservation", f)
        | some rid =>
          let (s, reservations) := f.reservations.commit now rid requestId generation
          let f := { f with reservations }
          if s.isOk = false then (s, f)
          else
            (.success,
              { f with
                requests := f.requests.insert requestId
                  { record with lifecycle := .admitted, updatedAt := now } })

/-- What releasing a reservation makes of a record. -/
def releaseRecord (now : TimePoint) (id : ReservationId) (record : RequestRecord F) :
    RequestRecord F :=
  if record.reservation? = some id ∧ (record.lifecycle = .admitted ∨ record.lifecycle = .reserved) then
    { record with lifecycle := .released, updatedAt := now }
  else record

/-- `release_reservation`. -/
def releaseReservation (f : AdmissionFabric F) (now : TimePoint) (id : ReservationId) :
    Status × AdmissionFabric F :=
  let (s, reservations) := f.reservations.release id
  let f := { f with reservations }
  if s.isOk = false then (s, f)
  else
    (.success,
      { f with
        requests := f.requests.mapValues fun _ record => releaseRecord now id record
        metrics := { f.metrics with
          activeReservations := f.reservations.reservations.size.toUInt64 } })

/-- `cancel_request`. The result of the rollback is dropped. -/
def cancelRequest (f : AdmissionFabric F) (now : TimePoint) (requestId : AdmissionRequestId) :
    Status × AdmissionFabric F :=
  match f.requests.find? requestId with
  | none => (.failure .staleAdmissionGeneration "unknown request id", f)
  | some record =>
    let cancelled := f.requests.insert requestId
      { record with lifecycle := .cancelled, updatedAt := now }
    match record.lifecycle with
    | .proposed | .evaluating | .deferred => (.success, { f with requests := cancelled })
    | .reserved =>
      match record.reservation? with
      | some rid =>
        (.success, { f with
          reservations := (f.reservations.rollback rid).2
          requests := cancelled })
      | none => (.success, { f with requests := cancelled })
    | .admitted =>
      (.failure .operationNotPermitted "admitted request must be released, not cancelled", f)
    | _ => (.failure .operationNotPermitted "terminal request cannot mutate", f)

end AdmissionFabric

end Fabric

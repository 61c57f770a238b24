import Fabric.Core.Descriptor
import Fabric.Reservation.Manager

/-!
# Versioned policies

`policy.hpp`: the admission policy with its bounded overrides, and the engine that keeps the
installed generations. A generation is never replaced once it is installed by its number;
`effective` applies the overrides whose selector matches a descriptor, in their order.
-/

namespace Fabric

open Support

/-- `PolicyOverride`. -/
structure PolicyOverride (F : Type) where
  key : ByteString := []
  safetyHeadroomRatio : Option F := none
  overcommitMode : Option OvercommitMode := none
  overcommitAllowance : Option ResourceVector := none
  minPredictorConfidence : Option F := none
  admitSloRisk : Option Bool := none
  requireReservation : Option Bool := none
  smallRequestBoost : Option F := none

/-- `AdmissionPolicy` with the defaults of the source. -/
structure AdmissionPolicy (F : Type) [Double F] where
  generation : PolicyGeneration := default
  name : ByteString := []
  safetyHeadroomRatio : F := 0.10
  absoluteSafetyMargin : ResourceVector := .zero
  overcommit : OvercommitMode := .none
  overcommitAllowance : ResourceVector := .zero
  overcommitConfidenceMin : F := 0.85
  minPredictorConfidence : F := 0.20
  maxSnapshotAge : Nanoseconds := seconds 5
  acceptStaleSnapshot : Bool := false
  quotaFailClosed : Bool := true
  admitSloFeasibleWithRisk : Bool := true
  requireReservation : Bool := true
  maxReservationLifetime : Nanoseconds := seconds 120
  defaultAdmissionTtl : Nanoseconds := seconds 30
  maxDeferrals : UInt32 := 2
  deferMinBackoff : Nanoseconds := seconds 1
  deferMaxWait : Nanoseconds := seconds 60
  smallRequestPriorityBoost : F := 0.0
  largeRequestStarvationBoost : F := 0.0
  fairnessWindow : UInt32 := 256
  overrides : List (PolicyOverride F) := []

variable {F : Type} [Double F]

/-! ## Validation -/

/-- The conditions `PolicyEngine::validate` refuses, in its order. -/
def AdmissionPolicy.checks (p : AdmissionPolicy F) : List (Bool × String) :=
  [(¬ (p.safetyHeadroomRatio ≥ 0.0 ∧ p.safetyHeadroomRatio < 1.0),
      "safety_headroom_ratio out of range"),
    (¬ (p.minPredictorConfidence ≥ 0.0 ∧ p.minPredictorConfidence ≤ 1.0),
      "min_predictor_confidence out of range"),
    (¬ (p.overcommitConfidenceMin ≥ 0.0 ∧ p.overcommitConfidenceMin ≤ 1.0),
      "overcommit_confidence_min out of range"),
    (p.overcommit = .none ∧ p.overcommitAllowance.isZero = false,
      "overcommit_allowance set but overcommit mode is None"),
    (p.maxSnapshotAge < 0, "max_snapshot_age negative"),
    (p.maxReservationLifetime ≤ 0, "max_reservation_lifetime non-positive"),
    (p.defaultAdmissionTtl ≤ 0, "default_admission_ttl non-positive"),
    (p.maxDeferrals > 1024, "max_deferrals absurd"),
    (p.overrides.any fun o =>
        o.safetyHeadroomRatio.any fun ratio => ¬ (ratio ≥ 0.0 ∧ ratio < 1.0),
      "override safety_headroom_ratio out of range")]

def AdmissionPolicy.validate (p : AdmissionPolicy F) : Status :=
  firstFailure .policyValidationError p.checks

/-! ## Effective policy -/

/-- `matches`: whether an override's selector picks out a descriptor. -/
def selectorMatches (key : ByteString) (d : AdmissionDescriptor F) : Bool :=
  if (ascii "model=").isPrefixOf key then toDecimal d.modelId.value.toNat == key.drop 6
  else if (ascii "tenant=").isPrefixOf key then toDecimal d.tenantId.value.toNat == key.drop 7
  else if (ascii "backend=").isPrefixOf key then d.backend == key.drop 8
  else if (ascii "class=").isPrefixOf key then d.workloadClass == key.drop 6
  else false

/-- The fields an override sets, put over a policy. -/
def PolicyOverride.applyTo (o : PolicyOverride F) (p : AdmissionPolicy F) : AdmissionPolicy F :=
  { p with
    safetyHeadroomRatio := o.safetyHeadroomRatio.getD p.safetyHeadroomRatio
    overcommit := o.overcommitMode.getD p.overcommit
    overcommitAllowance := o.overcommitAllowance.getD p.overcommitAllowance
    minPredictorConfidence := o.minPredictorConfidence.getD p.minPredictorConfidence
    admitSloFeasibleWithRisk := o.admitSloRisk.getD p.admitSloFeasibleWithRisk
    requireReservation := o.requireReservation.getD p.requireReservation
    smallRequestPriorityBoost := o.smallRequestBoost.getD p.smallRequestPriorityBoost }

/-- `PolicyEngine::effective`: the base policy under its matching overrides, in order. -/
def AdmissionPolicy.effective (base : AdmissionPolicy F) (d : AdmissionDescriptor F) :
    AdmissionPolicy F :=
  base.overrides.foldl (fun p o => if selectorMatches o.key d then o.applyTo p else p) base

/-! ## The engine -/

/-- `PolicyEngine`. -/
structure PolicyEngine (F : Type) [Double F] where
  policies : OrdMap PolicyGeneration (AdmissionPolicy F) := .empty
  latestGeneration : PolicyGeneration := default
  counter : UInt64 := 1

namespace PolicyEngine

def kMaxGenerations : Nat := 128

def latest (e : PolicyEngine F) : Option (AdmissionPolicy F) :=
  e.policies.find? e.latestGeneration

def byGeneration (e : PolicyEngine F) (gen : PolicyGeneration) : Option (AdmissionPolicy F) :=
  e.policies.find? gen

/-- `install`: a valid policy under the next generation number. The counter moves on even
when the history is full. -/
def install (e : PolicyEngine F) (p : AdmissionPolicy F) : Status × PolicyEngine F :=
  let v := p.validate
  if v.isOk = false then (v, e)
  else
    let gen : PolicyGeneration := ⟨e.counter⟩
    let e := { e with counter := if e.counter = maxU64 then 1 else e.counter + 1 }
    if e.policies.size ≥ kMaxGenerations ∧ e.policies.contains gen = false then
      (.failure .policyConflict "policy generation history full", e)
    else
      (.success,
        { e with
          policies := (e.policies.erase gen).emplace gen { p with generation := gen }
          latestGeneration := gen })

/-- `install_at_generation`: recovery of one saved generation. -/
def installAtGeneration (e : PolicyEngine F) (p : AdmissionPolicy F) (gen : PolicyGeneration) :
    Status × PolicyEngine F :=
  let v := p.validate
  if v.isOk = false then (v, e)
  else if e.policies.contains gen then
    (.failure .policyConflict "policy generation already installed", e)
  else
    (.success,
      { e with
        policies := e.policies.emplace gen { p with generation := gen }
        latestGeneration :=
          if gen.value ≥ e.latestGeneration.value then gen else e.latestGeneration })

end PolicyEngine

end Fabric

import Fabric.Core.Enumerations
import Fabric.Core.ResourceVector
import Fabric.Support.Double

/-!
# Admission descriptors and validation

`descriptor.hpp`: what a piece of work claims about itself, and the checks it must pass.
A validation routine of the source is a list of conditions with their messages, tested in
order; `firstFailure` runs such a list, and `firstFailure_isOk_iff` says when nothing fails.
-/

namespace Fabric

open Support

/-! ## Validation -/

/-- The first condition that holds decides the failure; none means success. -/
def firstFailure (code : ErrorCode) (checks : List (Bool × String)) : Status :=
  match checks.find? Prod.fst with
  | some (_, message) => .failure code message
  | none => .success

theorem firstFailure_isOk_iff {code : ErrorCode} (hcode : code ≠ .ok)
    {checks : List (Bool × String)} :
    (firstFailure code checks).isOk = true ↔ ∀ c ∈ checks, c.1 = false := by
  unfold firstFailure
  cases h : checks.find? Prod.fst with
  | none => simpa using h
  | some c =>
    have hmem := List.mem_of_find?_eq_some h
    have hc := List.find?_some h
    simp only [Status.isOk_iff, Status.failure, hcode, false_iff, not_forall]
    exact ⟨c, hmem, by simp [hc]⟩

/-! ## The descriptor -/

/-- `AdmissionDescriptor`. -/
structure AdmissionDescriptor (F : Type) where
  admissionRequestId : AdmissionRequestId := default
  requestId : RequestId := default
  attemptId : AttemptId := default
  tenantId : TenantId := default
  modelId : ModelId := default
  modelRevision : ModelRevision := default
  adapterId : Option AdapterId := none
  policyGeneration : PolicyGeneration := default
  workloadType : WorkloadType := .inference
  workloadClass : ByteString := []
  backend : ByteString := []
  dtype : ByteString := []
  quantization : ByteString := []
  inputTokens : UInt64 := 0
  expectedOutputTokens : UInt64 := 0
  maxOutputTokens : UInt64 := 0
  batchable : Bool := false
  priority : UInt8 := 0
  latencyClass : LatencyClass := .bestEffort
  deadline : Option Nanoseconds := none
  requestedSlo : Option F := none
  expectedDemand : Option ResourceVector := none
  preemption : PreemptionPermission := .notPermitted
  degradationPermitted : Bool := false
  requiresReservation : Bool := true
  admissionTtl : Nanoseconds := seconds 30
  policyTags : List ByteString := []

namespace AdmissionDescriptor

variable {F : Type} [Double F]

/-- The conditions `validate` refuses, in its order. -/
def checks (d : AdmissionDescriptor F) : List (Bool × String) :=
  [(d.admissionRequestId.isNil, "missing admission_request_id"),
    (d.requestId.isNil, "missing request_id"),
    (d.attemptId.isNil, "missing attempt_id"),
    (d.tenantId.isNil, "missing tenant_id"),
    (d.modelId.isNil, "missing model_id"),
    (d.modelRevision.isNil, "missing model_revision"),
    (d.policyGeneration.isNil, "missing policy_generation"),
    (d.maxOutputTokens ≠ 0 ∧ d.expectedOutputTokens > d.maxOutputTokens,
      "expected_output_tokens > max_output_tokens"),
    (d.inputTokens > (1 : UInt64) <<< 40, "input_tokens absurd"),
    (d.expectedOutputTokens > (1 : UInt64) <<< 40, "expected_output_tokens absurd"),
    (d.maxOutputTokens > (1 : UInt64) <<< 40, "max_output_tokens absurd"),
    (d.deadline.any (· ≤ 0), "non-positive deadline"),
    (d.requestedSlo.any (fun slo => ¬ slo > 0.0), "non-positive SLO"),
    (d.priority > 63, "priority out of range"),
    (d.admissionTtl ≤ 0, "non-positive admission_ttl")]

def validate (d : AdmissionDescriptor F) : Status := firstFailure .malformedDescriptor d.checks

end AdmissionDescriptor

end Fabric

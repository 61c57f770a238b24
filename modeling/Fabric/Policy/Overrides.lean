import Fabric.Policy.Engine

/-!
# Policies under their overrides

A field of the effective policy is what the last matching override that sets it says, else what
the policy says (`effective_eq_lastSetting`). Validation looks at the headroom ratio of the
overrides only, so the effective policy of a valid policy is valid exactly when the predictor
confidence and the overcommit settings that the overrides lead to are (`effective_valid_iff`).
-/

namespace Fabric

open Support

variable {F : Type} [Double F]

namespace AdmissionPolicy

variable {α : Type} {p : AdmissionPolicy F} {d : AdmissionDescriptor F}

/-- What the last override that matches the descriptor and sets a field sets it to. -/
def lastSetting (p : AdmissionPolicy F) (d : AdmissionDescriptor F)
    (field : PolicyOverride F → Option α) : Option α :=
  ((p.overrides.filter fun o => selectorMatches o.key d).filterMap field).getLast?

/-- A field that an override replaces, if it sets it, ends with the last setting. -/
theorem effective_eq_lastSetting (read : AdmissionPolicy F → α) (field : PolicyOverride F → Option α)
    (happly : ∀ (o : PolicyOverride F) p, read (o.applyTo p) = (field o).getD (read p))
    (p : AdmissionPolicy F) (d : AdmissionDescriptor F) :
    read (p.effective d) = (p.lastSetting d field).getD (read p) := by
  unfold effective lastSetting
  generalize p.overrides = overrides
  induction overrides using List.reverseRecOn with
  | nil => rfl
  | append_singleton overrides o ih =>
    rw [List.foldl_concat, List.filter_append, List.filterMap_append, List.getLast?_append]
    cases hmatch : selectorMatches o.key d with
    | false =>
      rw [if_neg Bool.false_ne_true, ih, List.filter_singleton, hmatch, cond_false]
      rfl
    | true =>
      rw [if_pos rfl, happly, ih, List.filter_singleton, hmatch, cond_true]
      cases hfield : field o with
      | none => simp [hfield]
      | some a => simp [hfield]

/-- A field that no override replaces is that of the policy. -/
theorem effective_eq_self (read : AdmissionPolicy F → α)
    (happly : ∀ (o : PolicyOverride F) p, read (o.applyTo p) = read p) (p : AdmissionPolicy F)
    (d : AdmissionDescriptor F) : read (p.effective d) = read p := by
  unfold effective
  induction p.overrides using List.reverseRecOn with
  | nil => rfl
  | append_singleton overrides o ih =>
    rw [List.foldl_concat]
    split_ifs
    · rw [happly, ih]
    · exact ih

/-- The predictor confidence that the matching overrides lead to is a probability, and they leave
no allowance without an overcommit mode. -/
structure OverridesFit (p : AdmissionPolicy F) (d : AdmissionDescriptor F) : Prop where
  confidence : ∀ c, p.lastSetting d PolicyOverride.minPredictorConfidence = some c →
    c ≥ 0.0 ∧ c ≤ 1.0
  allowance : (p.lastSetting d PolicyOverride.overcommitMode).getD p.overcommit = .none →
    ((p.lastSetting d PolicyOverride.overcommitAllowance).getD
      p.overcommitAllowance).isZero = true

/-! ## Validity -/

/-- What validation asks of a policy. -/
structure Valid (p : AdmissionPolicy F) : Prop where
  headroom : p.safetyHeadroomRatio ≥ 0.0 ∧ p.safetyHeadroomRatio < 1.0
  confidence : p.minPredictorConfidence ≥ 0.0 ∧ p.minPredictorConfidence ≤ 1.0
  overcommitConfidence : p.overcommitConfidenceMin ≥ 0.0 ∧ p.overcommitConfidenceMin ≤ 1.0
  allowance : p.overcommit = .none → p.overcommitAllowance.isZero = true
  age : ¬ p.maxSnapshotAge < 0
  lifetime : ¬ p.maxReservationLifetime ≤ 0
  ttl : ¬ p.defaultAdmissionTtl ≤ 0
  deferrals : ¬ p.maxDeferrals > 1024
  overrides : ∀ o ∈ p.overrides, ∀ ratio, o.safetyHeadroomRatio = some ratio →
    ratio ≥ 0.0 ∧ ratio < 1.0

theorem validate_isOk_iff : p.validate.isOk = true ↔ p.Valid := by
  rw [validate, firstFailure_isOk_iff (by decide)]
  simp only [checks, List.forall_mem_cons, decide_eq_false_iff_not, not_not, List.any_eq_false,
    Option.any_eq_true, not_exists, decide_eq_true_eq, List.not_mem_nil, IsEmpty.forall_iff,
    implies_true, and_true]
  constructor
  · rintro ⟨h1, h2, h3, h4, h5, h6, h7, h8, h9⟩
    refine ⟨h1, h2, h3, fun hmode => ?_, h5, h6, h7, h8, fun o ho ratio hratio => ?_⟩
    · exact Bool.eq_true_of_not_eq_false fun hzero => h4 ⟨hmode, hzero⟩
    · exact not_not.mp (not_and.mp (h9 o ho ratio) hratio)
  · rintro ⟨h1, h2, h3, h4, h5, h6, h7, h8, h9⟩
    refine ⟨h1, h2, h3, fun h => ?_, h5, h6, h7, h8, fun o ho ratio h => ?_⟩
    · exact Bool.false_ne_true (h.2.symm.trans (h4 h.1))
    · exact h.2 (h9 o ho ratio h.1)

/-- Every setting is one of an override of the policy. -/
theorem exists_of_lastSetting {field : PolicyOverride F → Option α} {a : α}
    (h : p.lastSetting d field = some a) : ∃ o ∈ p.overrides, field o = some a := by
  obtain ⟨o, ho, hfield⟩ := List.mem_filterMap.mp (List.mem_of_getLast? h)
  exact ⟨o, (List.mem_filter.mp ho).1, hfield⟩

/-- The headroom ratio that the overrides lead to is checked with them. -/
theorem Valid.effective_headroom (hp : p.Valid) (d : AdmissionDescriptor F) :
    (p.effective d).safetyHeadroomRatio ≥ 0.0 ∧ (p.effective d).safetyHeadroomRatio < 1.0 := by
  rw [effective_eq_lastSetting safetyHeadroomRatio PolicyOverride.safetyHeadroomRatio
    (fun _ _ => rfl)]
  cases hlast : p.lastSetting d PolicyOverride.safetyHeadroomRatio with
  | none => exact hp.headroom
  | some ratio =>
    obtain ⟨o, ho, hratio⟩ := exists_of_lastSetting hlast
    exact hp.overrides o ho ratio hratio

/-- The effective policy of a valid policy is valid exactly when the predictor confidence and the
overcommit settings that the matching overrides lead to are. -/
theorem effective_valid_iff (p : AdmissionPolicy F) (d : AdmissionDescriptor F)
    (hvalid : p.validate.isOk = true) :
    (p.effective d).validate.isOk = true ↔ p.OverridesFit d := by
  have hp := validate_isOk_iff.mp hvalid
  have hconfidence := effective_eq_lastSetting minPredictorConfidence PolicyOverride.minPredictorConfidence
    (fun _ _ => rfl) p d
  have hmode := effective_eq_lastSetting overcommit PolicyOverride.overcommitMode
    (fun _ _ => rfl) p d
  have hallowance := effective_eq_lastSetting overcommitAllowance PolicyOverride.overcommitAllowance
    (fun _ _ => rfl) p d
  rw [validate_isOk_iff]
  constructor
  · intro heff
    refine ⟨fun c hc => ?_, ?_⟩
    · have hrange := heff.confidence
      rwa [hconfidence, hc] at hrange
    · rw [← hmode, ← hallowance]
      exact heff.allowance
  · intro hfit
    refine
      { headroom := hp.effective_headroom d
        confidence := ?_
        overcommitConfidence := ?_
        allowance := ?_
        age := ?_
        lifetime := ?_
        ttl := ?_
        deferrals := ?_
        overrides := ?_ }
    · rw [hconfidence]
      cases hlast : p.lastSetting d PolicyOverride.minPredictorConfidence with
      | none => exact hp.confidence
      | some c => exact hfit.confidence c hlast
    · rw [effective_eq_self overcommitConfidenceMin fun _ _ => rfl]
      exact hp.overcommitConfidence
    · rw [hmode, hallowance]
      exact hfit.allowance
    · rw [effective_eq_self maxSnapshotAge fun _ _ => rfl]
      exact hp.age
    · rw [effective_eq_self maxReservationLifetime fun _ _ => rfl]
      exact hp.lifetime
    · rw [effective_eq_self defaultAdmissionTtl fun _ _ => rfl]
      exact hp.ttl
    · rw [effective_eq_self maxDeferrals fun _ _ => rfl]
      exact hp.deferrals
    · rw [effective_eq_self AdmissionPolicy.overrides fun _ _ => rfl]
      exact hp.overrides

end AdmissionPolicy

namespace Sample

/-- A policy that asks for a predictor confidence of its own for tenant 1. -/
def forTenant (confidence : Binary64) : AdmissionPolicy Binary64 :=
  { overrides := [{ key := ascii "tenant=1", minPredictorConfidence := some confidence }] }

/-- A request of tenant 1. -/
def ofTenant : AdmissionDescriptor Binary64 :=
  { admissionRequestId := ⟨1⟩
    requestId := ⟨1⟩
    attemptId := ⟨1⟩
    tenantId := ⟨1⟩
    modelId := ⟨1⟩
    modelRevision := ⟨1⟩
    policyGeneration := ⟨1⟩ }

end Sample

namespace AdmissionPolicy

theorem effective_valid_iff_tenant :
    ((Sample.forTenant 0.5).effective Sample.ofTenant).validate.isOk = true ↔
      (Sample.forTenant 0.5).OverridesFit Sample.ofTenant :=
  effective_valid_iff _ _ (by decide +kernel)

/-- A valid policy whose override asks for a confidence that is no probability. -/
theorem effective_valid_fails : (Sample.forTenant 2.0).validate.isOk = true ∧
    ((Sample.forTenant 2.0).effective Sample.ofTenant).validate.isOk = false := by
  decide +kernel

end AdmissionPolicy

end Fabric

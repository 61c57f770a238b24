import Fabric.Engine.Outcome

/-!
# Refusals that are passed over

Two ways in which an evaluation admits what it has reason to refuse.

* `honours_refusals_iff`: the switches of a policy against risky deadlines and against stale
  quotas are resolved with its overrides and then not looked at.
* `sound_capability_iff`: the capability check looks at data type and quantization only when a
  backend is declared.
-/

namespace Fabric

open Support Support.Checks

variable {F : Type} [Double F] {f : AdmissionFabric F} {now : TimePoint}
  {d : AdmissionDescriptor F} {pol : AdmissionPolicy F}

namespace AdmissionFabric

/-! ## The switches of a policy -/

/-- An admission under the effective policy goes neither against its switch for deadlines that are
met with risk nor against its switch for stale quotas. -/
def HonoursRefusals (f : AdmissionFabric F) (now : TimePoint) (d : AdmissionDescriptor F) : Prop :=
  ∀ base, f.policy.latest = some base → (f.evaluate now d).1.outcome = .admitted →
    ¬ ((f.evaluate now d).1.slo.verdict = .feasibleWithRisk ∧
        (base.effective d).admitSloFeasibleWithRisk = false) ∧
      ¬ (f.quota.present = true ∧ f.quota.stale = true ∧ (base.effective d).quotaFailClosed = true)

/-- The policy `pol` refuses the request: its deadline is met with risk only, or the quota that it
falls under is stale. -/
def RefusedBy (f : AdmissionFabric F) (pol : AdmissionPolicy F) (d : AdmissionDescriptor F) :
    Prop :=
  (f.evaluateSlo d (f.predictor.predictDuration d)).verdict = .feasibleWithRisk ∧
      pol.admitSloFeasibleWithRisk = false ∨
    f.quota.present = true ∧ f.quota.stale = true ∧ pol.quotaFailClosed = true

/-- No other check stops the request that its policy refuses. -/
def OnlyPolicyRefuses (f : AdmissionFabric F) (now : TimePoint) (d : AdmissionDescriptor F) :
    Prop :=
  ∃ base, f.policy.latest = some base ∧ f.RefusedBy (base.effective d) d ∧
    f.Clears now (base.effective d) d

/-- The switches are honoured exactly when some other check stops what they refuse. -/
theorem honours_refusals_iff (f : AdmissionFabric F) (now : TimePoint)
    (d : AdmissionDescriptor F) : f.HonoursRefusals now d ↔ ¬ f.OnlyPolicyRefuses now d := by
  constructor
  · rintro h ⟨base, hpol, hrefused, hclears⟩
    have hadm := (admits_iff_clears hpol).mpr hclears
    obtain ⟨a⟩ := admits_iff.mp hadm
    obtain ⟨hrisk, hstale⟩ := h base hpol hadm
    rw [slo_of_admission a] at hrisk
    exact hrefused.elim hrisk hstale
  · intro h base hpol hadm
    obtain ⟨a⟩ := admits_iff.mp hadm
    have hclears := (admits_iff_clears hpol).mp hadm
    rw [slo_of_admission a]
    exact ⟨fun hrisk => h ⟨base, hpol, .inl hrisk, hclears⟩,
      fun hstale => h ⟨base, hpol, .inr hstale, hclears⟩⟩

end AdmissionFabric

namespace Sample

/-- A policy that refuses deadlines with risk for one workload class, by an override. -/
def cautious : AdmissionPolicy Binary64 :=
  { policy with overrides := [{ key := ascii "class=chat", admitSloRisk := some false }] }

/-- An interactive request of that class, without a deadline of its own. -/
def interactive : AdmissionDescriptor Binary64 :=
  { descriptor 1 with workloadClass := ascii "chat", latencyClass := .interactive }

/-- A stale quota without limits. -/
def outdated : QuotaSnapshot := { present := true, stale := true }

end Sample

namespace AdmissionFabric

/-- Each of the two switches is passed over by itself. -/
theorem honours_refusals_fails :
    ¬ ((engine Binary64).after [⟨0, .installPolicy Sample.cautious⟩,
      ⟨0, .setSnapshot (Sample.snapshot 2000000000)⟩]).HonoursRefusals 0 Sample.interactive ∧
    ¬ ((engine Binary64).after [⟨0, .installPolicy Sample.policy⟩,
      ⟨0, .setSnapshot (Sample.snapshot 2000000000)⟩,
      ⟨0, .setQuota Sample.outdated⟩]).HonoursRefusals 0 (Sample.descriptor 1) := by
  constructor
  · intro h
    refine (h { Sample.cautious with generation := ⟨1⟩ } rfl (by decide +kernel)).1 ?_
    decide +kernel
  · intro h
    refine (h { Sample.policy with generation := ⟨1⟩ } rfl (by decide +kernel)).2 ?_
    decide +kernel

end AdmissionFabric

/-! ## Capabilities -/

/-- The capability set has a token for everything that the request declares. -/
structure Capabilities.Offers (c : Capabilities) (d : AdmissionDescriptor F) : Prop where
  backend : d.backend.isEmpty = false → c.contains (backend d.backend) = true
  dtype : d.dtype.isEmpty = false → c.contains (dtype d.dtype) = true
  quantization : d.quantization.isEmpty = false → c.contains (quantization d.quantization) = true

namespace AdmissionFabric

/-- The capability check passes a request exactly when it declares no backend or is offered
everything it declares. -/
theorem classifyCapability_ne_iff : f.classifyCapability d ≠ .rejectCapability ↔
    (d.backend.isEmpty = false → f.snapshot.capabilities.Offers d) := by
  unfold classifyCapability
  cases hbackend : d.backend.isEmpty with
  | true => exact iff_of_true nofun nofun
  | false =>
    simp only [Bool.false_eq_true, if_false, forall_const, Capabilities.containsAll_ite_add,
      Capabilities.containsAll_add]
    split_ifs with hall
    · obtain ⟨hquant, hdtype, hback, -⟩ := hall
      exact iff_of_true nofun ⟨fun _ => hback, hdtype, hquant⟩
    · exact iff_of_false (not_not.mpr rfl)
        fun h => hall ⟨h.quantization, h.dtype, h.backend hbackend, rfl⟩

/-- A failure answers with `rejectCapability` only when the capability check fails. -/
abbrev BlamesCapability (f : AdmissionFabric F) (d : AdmissionDescriptor F) {α : Type}
    (x : Except (Refusal F) α) : Prop :=
  FailsWith (fun r => r.decision.reason = .rejectCapability →
    f.classifyCapability d = .rejectCapability) x

theorem entryGate_blames : f.BlamesCapability d (f.entryGate now d) := by
  refine .bind (.require nofun) fun _ => ?_
  cases f.requests.find? d.admissionRequestId with
  | none => exact .ok ()
  | some record => exact .require nofun

theorem gates_blames : f.BlamesCapability d (f.gates now pol d) := by
  refine .bind (fun r hr _ => ?_) fun _ => .bind ?_ fun _ => .bind ?_ fun _ => .bind ?_ fun _ =>
    .bind ?_ fun _ => .ok _
  · exact not_not.mp (require_eq_error_iff.mp hr).1
  · unfold snapshotGate
    split_ifs
    · exact .bind (.require fun h => by cases h) fun _ => .require fun h => by cases h
    · exact .require fun h => by cases h
  · exact .bind (.require fun h => by cases h) fun _ =>
      .bind (.require fun h => by cases h) fun _ => .ok _
  · exact .bind (.require fun h => by cases h) fun _ =>
      .bind (.require fun h => by cases h) fun _ => .ok _
  · exact .bind (.require fun h => by cases h) fun _ => .require fun h => by cases h

theorem reserveAndAdmit_reason (c : Clearance F) :
    (f.reserveAndAdmit now pol d c).1.reason ≠ .rejectCapability := by
  unfold reserveAndAdmit
  simp only
  split
  · rw [refuse_eq]
    exact nofun
  · show (if _ then ReasonCode.admitWithRisk else .admitWithReservation) ≠ .rejectCapability
    split_ifs <;> exact nofun

/-- An evaluation answers with `rejectCapability` only when the capability check fails. -/
theorem classifyCapability_of_reason
    (h : (f.evaluate now d).1.reason = .rejectCapability) :
    f.classifyCapability d = .rejectCapability := by
  cases hentry : f.entryGate now d with
  | error r =>
    obtain ⟨-, -, metrics, heq⟩ := evaluate_of_entry_error hentry
    rw [heq] at h
    exact entryGate_blames r hentry h
  | ok u =>
    cases hpol : f.policy.latest with
    | none =>
      rw [(evaluate_of_no_policy hentry hpol).2] at h
      cases h
    | some base =>
      rw [evaluate_of_entry_ok hentry hpol] at h
      cases hgates : (f.prepared now d (base.effective d)).gates now (base.effective d) d with
      | error r =>
        obtain ⟨record, hprep⟩ := f.exists_prepared_eq now d (base.effective d)
        rw [hgates] at h
        simp only [refuse_eq] at h
        have hblamed := gates_blames r hgates h
        rw [hprep] at hblamed
        exact hblamed
      | ok c =>
        rw [hgates] at h
        exact absurd h (reserveAndAdmit_reason c)

/-- An admission finds a token for everything that the request declares. -/
def SoundCapability (f : AdmissionFabric F) (now : TimePoint) (d : AdmissionDescriptor F) : Prop :=
  (f.evaluate now d).1.outcome = .admitted → f.snapshot.capabilities.Offers d

/-- A request that declares no backend clears every check, without a token for the data type or
the quantization that it declares. -/
def SkipsCapability (f : AdmissionFabric F) (now : TimePoint) (d : AdmissionDescriptor F) : Prop :=
  ∃ base, f.policy.latest = some base ∧ f.Clears now (base.effective d) d ∧
    d.backend.isEmpty = true ∧
    ((d.dtype.isEmpty = false ∧
        f.snapshot.capabilities.contains (Capabilities.dtype d.dtype) = false) ∨
      (d.quantization.isEmpty = false ∧
        f.snapshot.capabilities.contains (Capabilities.quantization d.quantization) = false))

theorem sound_capability_iff (f : AdmissionFabric F) (now : TimePoint)
    (d : AdmissionDescriptor F) : f.SoundCapability now d ↔ ¬ f.SkipsCapability now d := by
  rw [SoundCapability, admits_imp_iff]
  constructor
  · rintro h ⟨base, hpol, hclears, -, ⟨hdecl, hmissing⟩ | ⟨hdecl, hmissing⟩⟩
    · exact absurd ((h base hpol hclears).dtype hdecl) (by simp [hmissing])
    · exact absurd ((h base hpol hclears).quantization hdecl) (by simp [hmissing])
  · intro h base hpol hclears
    cases hbackend : d.backend.isEmpty with
    | false => exact classifyCapability_ne_iff.mp hclears.capability hbackend
    | true =>
      refine ⟨fun hdecl => ?_, fun hdecl => ?_, fun hdecl => ?_⟩
      · cases hbackend.symm.trans hdecl
      · by_contra hmissing
        exact h ⟨base, hpol, hclears, hbackend, .inl ⟨hdecl, by simpa using hmissing⟩⟩
      · by_contra hmissing
        exact h ⟨base, hpol, hclears, hbackend, .inr ⟨hdecl, by simpa using hmissing⟩⟩

end AdmissionFabric

/-- A request that names its data type and no backend. -/
def Sample.halved : AdmissionDescriptor Binary64 := { descriptor 1 with dtype := ascii "fp16" }

namespace AdmissionFabric

/-- It is admitted on a node that has no capability at all. -/
theorem sound_capability_fails : ¬ ((engine Binary64).after [⟨0, .installPolicy Sample.policy⟩,
    ⟨0, .setSnapshot (Sample.snapshot 2000000000)⟩]).SoundCapability 0 Sample.halved := by
  intro h
  have htoken := (h (by decide +kernel)).dtype (by decide +kernel)
  revert htoken
  decide +kernel

end AdmissionFabric

end Fabric

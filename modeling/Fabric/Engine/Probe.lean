import Fabric.Engine.Gates
import Fabric.Engine.Settings
import Fabric.Reservation.Probe

/-!
# False alarms of the accounting probe

`verify_accounting` compares the live demand with a ceiling that policies and evaluations set.
An `install_policy`, an evaluation past the entry checks and a `set_snapshot` bind a new ceiling,
whatever is held at the time; the other operations never bring the live demand over it. The probe
stays quiet exactly when every ceiling that is bound covers what is held then
(`no_false_alarm_iff`).
-/

namespace Fabric

open Support

variable {F : Type} [Double F]

namespace AdmissionFabric

/-- The ceiling that the call binds covers the live demand. -/
def BindsCovering (f : AdmissionFabric F) (c : EngineCall F) : Prop :=
  match c.op with
  | .installPolicy p => f.policy.Accepts (.install p) → (f.bindOvercommit p).reservations.Covered
  | .setSnapshot s => (f.setSnapshot s).reservations.Covered
  | .evaluate d => ∀ base, f.policy.latest = some base → d.validate.isOk = true →
      (∀ record, f.requests.find? d.admissionRequestId = some record →
        record.lifecycle.isOpen = true) →
      (f.bindOvercommit (base.effective d)).reservations.Covered
  | _ => True

variable {f : AdmissionFabric F} {c : EngineCall F} {now : TimePoint} {d : AdmissionDescriptor F}

/-- An accepted policy is bound, another one changes nothing in the reservations. -/
theorem reservations_installPolicy (f : AdmissionFabric F) (p : AdmissionPolicy F) :
    f.policy.Accepts (.install p) ∧
        (f.installPolicy p).2.reservations = (f.bindOvercommit p).reservations ∨
      ¬ f.policy.Accepts (.install p) ∧ (f.installPolicy p).2.reservations = f.reservations := by
  unfold installPolicy
  rcases f.policy.install_cases p with ⟨hfail, hnot, -⟩ | ⟨hok, haccepts, hgen, hby⟩
  · simp only [hfail, if_true]
    exact .inr ⟨hnot, trivial⟩
  · have hlatest : (f.policy.install p).2.latest =
        some { p with generation := ⟨f.policy.counter⟩ } := by
      have h := hby ⟨f.policy.counter⟩
      rw [if_pos rfl, PolicyEngine.byGeneration] at h
      rw [PolicyEngine.latest, hgen, h]
    simp only [hok, Bool.true_eq_false, if_false, hlatest]
    exact .inl ⟨haccepts, rfl⟩

/-- What an evaluation past the entry checks leaves in the reservations when it admits
nothing. -/
theorem reservations_of_refused {base : AdmissionPolicy F} (hpol : f.policy.latest = some base)
    (hvalid : d.validate.isOk = true)
    (hopen : ∀ record, f.requests.find? d.admissionRequestId = some record →
      record.lifecycle.isOpen = true) (hnot : ¬ f.Admissible now d) :
    (f.evaluate now d).2.reservations = (f.bindOvercommit (base.effective d)).reservations := by
  have hprep := prepared_reservations f now d (base.effective d)
  have hentry : f.entryGate now d = .ok () := entryGate_eq_ok_iff.mpr ⟨hvalid, hopen⟩
  cases hgates : (f.prepared now d (base.effective d)).gates now (base.effective d) d with
  | error r =>
    rw [evaluate_of_entry_ok hentry hpol, hgates]
    simp only
    rw [refuse_eq]
    exact hprep
  | ok clearance =>
    cases hcheck : (f.prepared now d (base.effective d)).reservations.reserveCheck
        ⟨f.reservationCounter⟩ clearance.forecast.demand with
    | ok next => exact absurd ⟨base, clearance, next, hvalid, hopen, hpol, hgates, hcheck⟩ hnot
    | error s =>
      obtain ⟨g, rfl, heq⟩ := evaluate_of_reserve_error hentry hpol hgates hcheck
      rw [heq, refuse_eq]
      exact hprep

/-- An evaluation that stops before the policy leaves the reservations alone. -/
theorem reservations_of_unbound (h : ¬ ∃ base, f.policy.latest = some base ∧
    d.validate.isOk = true ∧ ∀ record, f.requests.find? d.admissionRequestId = some record →
      record.lifecycle.isOpen = true) :
    (f.evaluate now d).2.reservations = f.reservations := by
  cases hentry : f.entryGate now d with
  | error r =>
    obtain ⟨-, -, metrics, heq⟩ := evaluate_of_entry_error hentry
    rw [heq]
  | ok u =>
    obtain ⟨hvalid, hopen⟩ := entryGate_eq_ok_iff.mp hentry
    cases hpol : f.policy.latest with
    | some base => exact absurd ⟨base, hpol, hvalid, hopen⟩ h
    | none =>
      obtain ⟨record, htrans, -⟩ := transition_evaluating f.countEvaluation now d
      rw [evaluate_eq_of_no_policy hentry hpol rfl, htrans, refuse_eq]
      rfl

theorem covered_evaluate (h : f.reservations.Covered) (now : TimePoint)
    (d : AdmissionDescriptor F) :
    (f.evaluate now d).2.reservations.Covered ↔ f.BindsCovering ⟨now, .evaluate d⟩ := by
  by_cases hbound : ∃ base, f.policy.latest = some base ∧ d.validate.isOk = true ∧
      ∀ record, f.requests.find? d.admissionRequestId = some record →
        record.lifecycle.isOpen = true
  · obtain ⟨base, hpol, hvalid, hopen⟩ := hbound
    have hbinds : f.BindsCovering ⟨now, .evaluate d⟩ ↔
        (f.bindOvercommit (base.effective d)).reservations.Covered := by
      constructor
      · exact fun hc => hc base hpol hvalid hopen
      · intro hc base' hpol' _ _
        obtain rfl := Option.some.inj (hpol.symm.trans hpol')
        exact hc
    rw [hbinds]
    by_cases hadm : f.Admissible now d
    · obtain ⟨a⟩ := hadm
      obtain rfl := Option.some.inj (hpol.symm.trans a.policy)
      have hfits := a.fits
      rw [prepared_reservations] at hfits
      obtain ⟨-, -, hadd, hle⟩ := ReservationManager.reserveCheck_eq_ok_iff.mp hfits
      obtain ⟨dec, metrics, -, -, -, heq⟩ := evaluate_of_admission a
      rw [heq]
      -- The reservation was checked against the new ceiling, demand included.
      refine iff_of_true (fun i => ?_) fun i => ?_
      · exact (Nat.add_comm _ _).trans_le (hle i)
      · have hsum : a.reserved.quantities i = f.reservations.reservedSum.quantities i +
            a.clearance.forecast.demand.quantities i :=
          congrFun (ResourceVector.tryAdd_eq_some_iff.mp hadd) i
        have hlive : f.reservations.reservedSum.quantities i +
            f.reservations.usedSum.quantities i ≤
              f.reservations.usedSum.quantities i + a.reserved.quantities i := by
          omega
        exact hlive.trans (hle i)
    · rw [reservations_of_refused hpol hvalid hopen hadm]
  · have hsame : (f.evaluate now d).2.reservations = f.reservations := reservations_of_unbound hbound
    rw [hsame]
    exact iff_of_true h fun base hpol hvalid hopen => absurd ⟨base, hpol, hvalid, hopen⟩ hbound

theorem covered_commit (h : f.reservations.Covered) (hacc : f.reservations.Accounting)
    (now : TimePoint) (x : AdmissionRequestId) (g : AdmissionGeneration) :
    (f.commitAdmission now x g).2.reservations.Covered := by
  unfold commitAdmission
  cases f.requests.find? x with
  | none => exact h
  | some record =>
    simp only
    cases record.lastDecision with
    | none => exact h
    | some dec =>
      simp only
      split_ifs
      · exact h
      · cases dec.reservationId with
        | none => exact h
        | some rid =>
          simp only
          split_ifs <;> exact h.commit hacc now rid x g

theorem covered_release (h : f.reservations.Covered) (hacc : f.reservations.Accounting)
    (now : TimePoint) (rid : ReservationId) :
    (f.releaseReservation now rid).2.reservations.Covered := by
  unfold releaseReservation
  simp only
  split_ifs <;> exact h.release hacc rid

theorem covered_cancel (h : f.reservations.Covered) (hacc : f.reservations.Accounting)
    (now : TimePoint) (x : AdmissionRequestId) :
    (f.cancelRequest now x).2.reservations.Covered := by
  unfold cancelRequest
  cases f.requests.find? x with
  | none => exact h
  | some record =>
    simp only
    cases record.lifecycle with
    | reserved =>
      simp only
      cases record.reservation? with
      | none => exact h
      | some rid => exact h.rollback hacc rid
    | _ => exact h

/-- A call keeps the live demand covered exactly when the ceiling it binds covers it. -/
theorem covered_next (hacc : f.reservations.Accounting) (h : f.reservations.Covered)
    (c : EngineCall F) : (f.call c).2.reservations.Covered ↔ f.BindsCovering c := by
  obtain ⟨now, op⟩ := c
  cases op with
  | installPolicy p =>
    have heq : (f.call ⟨now, .installPolicy p⟩).2.reservations = (f.installPolicy p).2.reservations :=
      rfl
    rw [heq]
    rcases f.reservations_installPolicy p with ⟨haccepts, hres⟩ | ⟨hnot, hres⟩
    · rw [hres]
      exact ⟨fun hc _ => hc, fun hc => hc haccepts⟩
    · rw [hres]
      exact iff_of_true h fun haccepts => absurd haccepts hnot
  | setSnapshot s => exact Iff.rfl
  | evaluate d => exact covered_evaluate h now d
  | commit x g => exact iff_of_true (covered_commit h hacc now x g) trivial
  | release rid => exact iff_of_true (covered_release h hacc now rid) trivial
  | cancel x => exact iff_of_true (covered_cancel h hacc now x) trivial
  | _ => exact iff_of_true h trivial

/-- In a run of the engine the probe stays quiet exactly when every ceiling covers what is held
when it is bound. -/
theorem no_false_alarm_iff (h : List (EngineCall F)) :
    (engine F).Throughout (fun f => f.reservations.verifyAccounting = true) h ↔
      (engine F).Guarded BindsCovering h := by
  refine Machine.throughout_iff_guarded (I := fun f => f.reservations.Accounting) accounting_after
    (show ({} : ReservationManager).verifyAccounting = true by decide)
    (fun f c hacc hverify => ?_) h
  have hcovered := (ReservationManager.verifyAccounting_iff hacc).mp hverify
  exact (ReservationManager.verifyAccounting_iff (accounting_next hacc c)).trans
    (covered_next hacc hcovered c)

end AdmissionFabric

namespace Sample

/-- Bounded overcommit for tenant 1. -/
def favour : PolicyOverride Binary64 :=
  { key := ascii "tenant=1"
    overcommitMode := some .bounded
    overcommitAllowance := some (snapshot 1000000000).total }

/-- A policy without overcommit, except for tenant 1. -/
def favouring : AdmissionPolicy Binary64 := { policy with overrides := [favour] }

end Sample

namespace AdmissionFabric

/-- Tenant 1 is admitted into its allowance, and an evaluation of tenant 2 sets off the
alarm. -/
theorem no_false_alarm_fails : Sample.favouring.validate.isOk = true ∧
    ¬ (engine Binary64).Throughout (fun f => f.reservations.verifyAccounting = true)
      [⟨0, .setSnapshot (Sample.snapshot 300000000)⟩, ⟨0, .installPolicy Sample.favouring⟩,
        ⟨0, .evaluate (Sample.descriptor 1)⟩,
        ⟨0, .evaluate { Sample.descriptor 2 with tenantId := ⟨2⟩ }⟩] := by
  refine ⟨by decide +kernel, fun h => ?_⟩
  have hlast := h.last
  revert hlast
  decide +kernel

end AdmissionFabric

end Fabric

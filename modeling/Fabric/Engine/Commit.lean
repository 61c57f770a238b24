import Fabric.Engine.Gates
import Fabric.Engine.Stored

/-!
# Committing an admission at once

An admission lives for the lifetime that its policy sets, at least one nanosecond, and a commit
at the time of the evaluation finds it provisional. But the end of the lifetime is computed in
64 bits: when the sum leaves the range it lies in the past, and the commit expires the entry
(`commits_at_once_iff`).
-/

namespace Fabric

open Support

variable {F : Type} [Double F]

/-- No override touches the lifetime of reservations. -/
theorem AdmissionPolicy.effective_maxReservationLifetime (base : AdmissionPolicy F)
    (d : AdmissionDescriptor F) :
    (base.effective d).maxReservationLifetime = base.maxReservationLifetime := by
  suffices h : ∀ (overrides : List (PolicyOverride F)) (p : AdmissionPolicy F),
      (overrides.foldl (fun p o => if selectorMatches o.key d then o.applyTo p else p)
        p).maxReservationLifetime = p.maxReservationLifetime from h base.overrides base
  intro overrides
  induction overrides with
  | nil => exact fun _ => rfl
  | cons o overrides ih =>
    intro p
    rw [List.foldl_cons, ih]
    split_ifs <;> rfl

/-- A policy that passes validation has a positive lifetime. -/
theorem AdmissionPolicy.lifetime_pos {p : AdmissionPolicy F} (h : p.validate.isOk = true) :
    0 < p.maxReservationLifetime := by
  have hchecks := (firstFailure_isOk_iff (by decide)).mp h
  simp only [AdmissionPolicy.checks, List.forall_mem_cons] at hchecks
  obtain ⟨-, -, -, -, -, hlifetime, -⟩ := hchecks
  exact Int64.not_le.mp (by simpa using hlifetime)

/-- A positive duration after `now` lies in the past exactly when the sum leaves the range. -/
theorem lapsed_at_once_iff {now : TimePoint} {ttl : Nanoseconds} (hpos : 0 < ttl) :
    now > now + ttl ↔ ¬ now.toInt + ttl.toInt < 2 ^ 63 := by
  have hp : (0 : Int) < ttl.toInt := Int64.lt_iff_toInt_lt.mp hpos
  have hnow := now.toInt_lt
  have hnow' := now.le_toInt
  have httl := ttl.toInt_lt
  rw [gt_iff_lt, Int64.lt_iff_toInt_lt, Int64.toInt_add, not_lt]
  constructor
  · intro hlt
    by_contra hrange
    rw [Int.bmod_eq_of_le (by omega) (by omega)] at hlt
    omega
  · intro hover
    have hwrap : (now.toInt + ttl.toInt - (2 ^ 64 : ℕ)).bmod (2 ^ 64) =
        now.toInt + ttl.toInt - (2 ^ 64 : ℕ) := by
      apply Int.bmod_eq_of_le
      · omega
      · omega
    rw [Int.sub_bmod_right] at hwrap
    omega

namespace AdmissionFabric

/-- A commit of `d` under the generation just issued succeeds at the same time and makes the
request admitted. -/
def CommitsAtOnce (f : AdmissionFabric F) (now : TimePoint) (d : AdmissionDescriptor F) : Prop :=
  ((f.evaluate now d).2.commitAdmission now d.admissionRequestId
      (f.evaluate now d).1.admissionGeneration).1 = .success ∧
    ((f.evaluate now d).2.commitAdmission now d.admissionRequestId
      (f.evaluate now d).1.admissionGeneration).2.lifecycle? d.admissionRequestId = some .admitted

variable {f : AdmissionFabric F} {now : TimePoint}

/-- A commit that names the provisional entry of the record succeeds exactly within the lifetime
of the entry. -/
theorem commit_provisional_iff (hacc : f.reservations.Accounting) {x : AdmissionRequestId}
    {record : RequestRecord F} {dec : AdmissionDecision F} {rid : ReservationId}
    {r : ResourceReservation} (hfind : f.requests.find? x = some record)
    (hdec : record.lastDecision = some dec) (hrid : dec.reservationId = some rid)
    (hr : f.table.find? rid = some r) (hstatus : r.status = .reserved) :
    ((f.commitAdmission now x dec.admissionGeneration).1 = .success ∧
        (f.commitAdmission now x dec.admissionGeneration).2.lifecycle? x = some .admitted) ↔
      ¬ now > r.expiresAt := by
  have heq : f.commitAdmission now x dec.admissionGeneration =
      if (f.reservations.commit now rid x dec.admissionGeneration).1.isOk = false then
        ((f.reservations.commit now rid x dec.admissionGeneration).1,
          { f with
            reservations := (f.reservations.commit now rid x dec.admissionGeneration).2 })
      else (.success, { f with
        reservations := (f.reservations.commit now rid x dec.admissionGeneration).2
        requests := f.requests.insert x { record with lifecycle := .admitted, updatedAt := now } }) := by
    simp [commitAdmission, hfind, hdec, hrid]
  rw [heq]
  rcases ReservationManager.commit_cases hacc now rid x dec.admissionGeneration with
    ⟨s, -, -, hnot⟩ | ⟨r', r2, hr', -, htime, -, h⟩ | ⟨r', r2, u2, hr', -, htime, -, -, h⟩
  · exact absurd hstatus (hnot r hr)
  · obtain rfl := Option.some.inj (hr.symm.trans hr')
    rw [h]
    refine iff_of_false (fun hs => ?_) (not_not.mpr htime)
    have hcode : ErrorCode.reservationExpired = .ok := congrArg Status.code hs.1
    cases hcode
  · obtain rfl := Option.some.inj (hr.symm.trans hr')
    rw [h]
    refine iff_of_true ⟨rfl, ?_⟩ htime
    simp [lifecycle?, request]

/-- An admission can be committed at once exactly when the end of its lifetime is a time that
the clock can show. -/
theorem commits_at_once_iff (h : List (EngineCall F)) (now : TimePoint)
    (d : AdmissionDescriptor F) {base : AdmissionPolicy F}
    (hpol : ((engine F).after h).policy.latest = some base)
    (hadm : (((engine F).after h).evaluate now d).1.outcome = .admitted) :
    ((engine F).after h).CommitsAtOnce now d ↔
      now.toInt + base.maxReservationLifetime.toInt < 2 ^ 63 := by
  have hacc := accounting_evaluate (accounting_after h) now d
  have hvalid := (stored_after h).policy.valid _ base hpol
  obtain ⟨a⟩ := admits_iff.mp hadm
  obtain rfl := Option.some.inj (hpol.symm.trans a.policy)
  obtain ⟨dec, metrics, -, hrid, -, heq⟩ := evaluate_of_admission a
  rw [heq] at hacc
  rw [CommitsAtOnce, heq, commit_provisional_iff hacc (OrdMap.find?_insert_self _ _ _)
    RequestRecord.settle_lastDecision hrid (OrdMap.find?_insert_self _ _ _) rfl]
  show ¬ now > now + (a.base.effective d).maxReservationLifetime ↔ _
  rw [AdmissionPolicy.effective_maxReservationLifetime,
    lapsed_at_once_iff (AdmissionPolicy.lifetime_pos hvalid), not_not]

theorem commits_at_once_iff_sample : ((engine Binary64).after Sample.opening).CommitsAtOnce 0
      (Sample.descriptor 1) ↔
    (0 : TimePoint).toInt + ({ Sample.policy with generation := ⟨1⟩ } :
      AdmissionPolicy Binary64).maxReservationLifetime.toInt < 2 ^ 63 :=
  commits_at_once_iff Sample.opening 0 (Sample.descriptor 1) rfl (by decide +kernel)

end AdmissionFabric

/-- A policy whose reservations live as long as the type of durations allows. -/
def Sample.eternal : AdmissionPolicy Binary64 :=
  { policy with maxReservationLifetime := 9223372036854775807 }

namespace AdmissionFabric

/-- Under a valid policy with the longest lifetime, an admission one nanosecond after the epoch
cannot be committed. -/
theorem commits_at_once_fails : Sample.eternal.validate.isOk = true ∧
    (((engine Binary64).after [⟨0, .installPolicy Sample.eternal⟩,
      ⟨0, .setSnapshot (Sample.snapshot 2000000000)⟩]).evaluate 1
        (Sample.descriptor 1)).1.outcome = .admitted ∧
    ¬ ((engine Binary64).after [⟨0, .installPolicy Sample.eternal⟩,
      ⟨0, .setSnapshot (Sample.snapshot 2000000000)⟩]).CommitsAtOnce 1 (Sample.descriptor 1) := by
  refine ⟨by decide +kernel, by decide +kernel, fun hcommits => ?_⟩
  have hlife := hcommits.2
  revert hlife
  decide +kernel

end AdmissionFabric

end Fabric

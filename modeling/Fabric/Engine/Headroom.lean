import Fabric.Engine.Deferrals
import Fabric.Engine.Outcome
import Fabric.Engine.Soundness

/-!
# Which capacity an evaluation looks at

Three questions about the capacity check of an evaluation and what it leaves out.

* `respects_in_use_iff`: the check starts from the total of the snapshot and never subtracts what
  the snapshot says is used and reserved on the node.
* `capacity_agrees_iff`: the headroom check compares the demand dimension by dimension, the
  reservation asks all dimensions to stay under the ceiling. They differ in a dimension that the
  request does not use and that is over-full. A dimension it does not use also holds it up when
  the snapshot says that it is unavailable.
* `overcommit_confident_iff`: the allowance of a prediction-aware policy is bound before the
  prediction is made, and `overcommit_confidence_min` is never looked at.
-/

namespace Fabric

open Support Support.Checks

variable {F : Type} [Double F] {f : AdmissionFabric F} {now : TimePoint}
  {d : AdmissionDescriptor F} {pol : AdmissionPolicy F} {rid : ReservationId}

namespace AdmissionFabric

/-! ## Capacity in use on the node -/

/-- An admission of `d` asks for no more than the snapshot has left, in every dimension that the
snapshot governs. -/
def RespectsInUse (f : AdmissionFabric F) (now : TimePoint) (d : AdmissionDescriptor F) : Prop :=
  (f.evaluate now d).1.outcome = .admitted → ∀ i, f.snapshot.total.quantities i ≠ 0 →
    (f.predictor.predictDemand d).quantities i ≤ f.snapshot.headroom.quantities i

/-- A request clears every check and asks for more than the headroom that the snapshot reports. -/
def AsksForTaken (f : AdmissionFabric F) (now : TimePoint) (d : AdmissionDescriptor F) : Prop :=
  ∃ base i, f.policy.latest = some base ∧ f.Clears now (base.effective d) d ∧
    f.snapshot.total.quantities i ≠ 0 ∧
    f.snapshot.headroom.quantities i < (f.predictor.predictDemand d).quantities i

theorem respects_in_use_iff (f : AdmissionFabric F) (now : TimePoint)
    (d : AdmissionDescriptor F) : f.RespectsInUse now d ↔ ¬ f.AsksForTaken now d := by
  rw [RespectsInUse, admits_imp_iff]
  constructor
  · rintro h ⟨base, i, hpol, hclears, hgoverned, hover⟩
    exact absurd (h base hpol hclears i hgoverned) (Nat.not_le.mpr hover)
  · intro h base hpol hclears i hgoverned
    by_contra hover
    exact h ⟨base, i, hpol, hclears, hgoverned, Nat.not_le.mp hover⟩

end AdmissionFabric

namespace Sample

/-- A node on which almost everything is in use. -/
def busy : ResourceSnapshot :=
  { snapshot 2000000000 with
    used := ⟨fun id => if id = .acceleratorMemory then 1900000000 else 0⟩ }

/-- An engine that has just learned of this node. -/
def crowded : List (EngineCall Binary64) := [⟨0, .installPolicy policy⟩, ⟨0, .setSnapshot busy⟩]

end Sample

namespace AdmissionFabric

/-- Without any reservation and without overcommit, a request is admitted on a node that is almost
full. -/
theorem respects_in_use_fails : ((engine Binary64).after Sample.crowded).table.size = 0 ∧
    ((engine Binary64).after Sample.crowded).hasSnapshot = true ∧
    ((engine Binary64).after Sample.crowded).policy.latest.map
      (fun base => (base.effective (Sample.descriptor 1)).overcommit) = some .none ∧
    ¬ ((engine Binary64).after Sample.crowded).RespectsInUse 0 (Sample.descriptor 1) := by
  refine ⟨by decide +kernel, by decide +kernel, by decide +kernel, fun h => ?_⟩
  have hle := h (by decide +kernel) .acceleratorMemory (by decide +kernel)
  revert hle
  decide +kernel

/-! ## The headroom check and the reservation -/

/-- The evaluation defers `d` and lays it on dimension `i`. -/
def DefersFor (f : AdmissionFabric F) (now : TimePoint) (d : AdmissionDescriptor F)
    (i : ResourceId) : Prop :=
  (f.evaluate now d).1.outcome = .defer ∧ f.snapshot.Blames (f.evaluate now d).1.explanation i

/-- What passes the headroom check and fairness can be reserved under `rid`, and no request is
deferred for a dimension it does not use. -/
structure CapacityAgrees (f : AdmissionFabric F) (now : TimePoint) (d : AdmissionDescriptor F)
    (rid : ReservationId) : Prop where
  reserves : ∀ base, f.policy.latest = some base → f.PassesHeadroom now (base.effective d) d →
    (f.predictor.predictDemand d).isZero = false →
    ((f.bindOvercommit (base.effective d)).reservations.reserve now rid d.tenantId
      (f.predictor.predictDemand d) (base.effective d).maxReservationLifetime).1 = .ok rid
  limiting : ∀ i, f.DefersFor now d i → (f.predictor.predictDemand d).quantities i ≠ 0

/-- No dimension that the request does not use is unavailable when the evaluation asks whether one
is, or over the ceiling when the demand has passed the headroom check. -/
structure UnusedHarmless (f : AdmissionFabric F) (now : TimePoint) (d : AdmissionDescriptor F) :
    Prop where
  available : ∀ base, f.policy.latest = some base →
    f.ReachesAvailability now (base.effective d) d → ∀ i,
    (f.predictor.predictDemand d).quantities i = 0 → f.snapshot.provenance i ≠ .unavailable
  inside : ∀ base, f.policy.latest = some base → f.PassesHeadroom now (base.effective d) d →
    (f.predictor.predictDemand d).isZero = false → ∀ i,
    (f.predictor.predictDemand d).quantities i = 0 →
    f.reservations.reservedSum.quantities i + f.reservations.usedSum.quantities i ≤
      ((f.bindOvercommit (base.effective d)).reservations.dimCeiling i).toNat

/-- A dimension with headroom for a positive demand has room for it under the ceiling, exactly. -/
theorem room_of_fits {m : ReservationManager} {demand : ResourceVector} {i : ResourceId}
    (hpos : demand.quantities i ≠ 0)
    (hle : demand.quantities i ≤ m.availability.quantities i) :
    m.reservedSum.quantities i + m.usedSum.quantities i + demand.quantities i ≤
      (m.dimCeiling i).toNat := by
  rw [m.quantities_availability] at hle
  have hlimit := (m.dimCeiling i).toNat_lt
  omega

theorem effectiveAvailability_le (f : AdmissionFabric F) (pol : AdmissionPolicy F)
    (i : ResourceId) : (f.effectiveAvailability pol).quantities i ≤
      f.reservations.availability.quantities i := by
  rw [effectiveAvailability, ResourceVector.quantities_satSub]
  exact Nat.sub_le _ _

/-- A positive demand that passes the headroom check can be reserved under an unused id exactly
when every dimension it does not use is under the ceiling. -/
theorem exists_reserveCheck_of_fits (f : AdmissionFabric F) (pol : AdmissionPolicy F)
    (demand : ResourceVector) (hunused : f.table.find? rid = none) (hpos : demand.isZero = false)
    (hfits : demand.fitsIn (f.effectiveAvailability pol) = true) :
    (∃ next, f.reservations.reserveCheck rid demand = .ok next) ↔
      ∀ i, demand.quantities i = 0 → f.reservations.reservedSum.quantities i +
        f.reservations.usedSum.quantities i ≤ (f.reservations.dimCeiling i).toNat := by
  simp only [ReservationManager.reserveCheck_eq_ok_iff]
  constructor
  · rintro ⟨next, -, -, hadd, hle⟩ i hzero
    have hsum := congrFun (ResourceVector.tryAdd_eq_some_iff.mp hadd) i
    have hi := hle i
    rw [Pi.add_apply] at hsum
    omega
  · intro hunder
    have hroom : ∀ i, f.reservations.reservedSum.quantities i +
        f.reservations.usedSum.quantities i + demand.quantities i ≤
          (f.reservations.dimCeiling i).toNat := by
      intro i
      by_cases hzero : demand.quantities i = 0
      · rw [hzero, add_zero]
        exact hunder i hzero
      · exact room_of_fits hzero
          ((ResourceVector.fitsIn_iff.mp hfits i).trans (effectiveAvailability_le f pol i))
    obtain ⟨next, hadd⟩ := ResourceVector.exists_tryAdd (v := f.reservations.reservedSum)
      (w := demand) fun i => by
        have hi := hroom i
        have hlimit := (f.reservations.dimCeiling i).toNat_lt
        omega
    refine ⟨next, hunused, hpos, hadd, fun i => ?_⟩
    have hsum := congrFun (ResourceVector.tryAdd_eq_some_iff.mp hadd) i
    have hi := hroom i
    rw [Pi.add_apply] at hsum
    omega

/-- `reserve` succeeds exactly when its checks pass. -/
theorem reserve_eq_ok_iff {m : ReservationManager} {owner : TenantId} {demand : ResourceVector}
    {ttl : Nanoseconds} : (m.reserve now rid owner demand ttl).1 = .ok rid ↔
      ∃ next, m.reserveCheck rid demand = .ok next := by
  unfold ReservationManager.reserve
  cases m.reserveCheck rid demand with
  | ok next => exact iff_of_true rfl ⟨next, rfl⟩
  | error s => exact iff_of_false nofun nofun

/-- An unavailable dimension defers every request that gets to the check. -/
theorem defersFor_of_unavailable {base : AdmissionPolicy F} {i : ResourceId}
    (hpol : f.policy.latest = some base) (hreach : f.ReachesAvailability now (base.effective d) d)
    (hi : f.snapshot.provenance i = .unavailable) : f.DefersFor now d i := by
  have hentry : f.entryGate now d = .ok () :=
    entryGate_eq_ok_iff.mpr ⟨hreach.valid, hreach.isOpen⟩
  obtain ⟨r, hgates, hout, htext⟩ := gates_of_unavailable hreach hi
  rw [DefersFor, decision_of_gates_error hentry hpol hgates]
  exact ⟨hout, .inl ⟨htext, hi⟩⟩

/-- A reservation that fails after the gates have passed the demand does not fail for an unused
dimension, when those are under the ceiling. -/
theorem used_of_reserve_error {base : AdmissionPolicy F} {c : Clearance F} {i : ResourceId}
    {s : Status} {u : Unit} (hunused : f.UnusedHarmless now d)
    (hentry : f.entryGate now d = .ok u) (hpol : f.policy.latest = some base)
    (hgates : (f.prepared now d (base.effective d)).gates now (base.effective d) d = .ok c)
    (hcheck : (f.prepared now d (base.effective d)).reservations.reserveCheck
      ⟨f.reservationCounter⟩ c.forecast.demand = .error s)
    (hblame : f.snapshot.Blames (ascii "reservation failed: " ++ s.message) i) :
    (f.predictor.predictDemand d).quantities i ≠ 0 := by
  obtain ⟨hpass, hfc⟩ := passesHeadroom_of_gates hentry hgates
  rw [prepared_reservations, hfc] at hcheck
  obtain ⟨hpos, hover⟩ := reserveCheck_dimension hcheck hblame
  intro hzero
  have hinside := hunused.inside base hpol hpass hpos i hzero
  have hover' : ((f.bindOvercommit (base.effective d)).reservations.dimCeiling i).toNat <
      f.reservations.reservedSum.quantities i + f.reservations.usedSum.quantities i +
        (f.predictor.predictDemand d).quantities i := hover
  omega

/-- A dimension that a deferral is laid on is used by the request, when the unused ones are
harmless. -/
theorem used_of_defersFor {i : ResourceId} (hunused : f.UnusedHarmless now d)
    (h : f.DefersFor now d i) : (f.predictor.predictDemand d).quantities i ≠ 0 := by
  obtain ⟨hdefer, hblame⟩ := h
  obtain ⟨hentry, base, hpol⟩ := entry_of_defers hdefer
  cases hgates : (f.prepared now d (base.effective d)).gates now (base.effective d) d with
  | error r =>
    rw [decision_of_gates_error hentry hpol hgates] at hdefer hblame
    rcases gates_dimension hentry hgates hdefer hblame with ⟨hreach, hprov⟩ | hpos
    · exact fun hzero => hunused.available base hpol hreach i hzero hprov
    · exact hpos
  | ok c =>
    cases hcheck : (f.prepared now d (base.effective d)).reservations.reserveCheck
        ⟨f.reservationCounter⟩ c.forecast.demand with
    | error s =>
      obtain ⟨g, -, heq⟩ := evaluate_of_reserve_error hentry hpol hgates hcheck
      rw [heq] at hblame
      exact used_of_reserve_error hunused hentry hpol hgates hcheck hblame
    | ok next =>
      obtain ⟨hvalid, hopen⟩ := entryGate_eq_ok_iff.mp hentry
      have hadm := admits_iff.mpr ⟨base, c, next, hvalid, hopen, hpol, hgates, hcheck⟩
      cases hadm.symm.trans hdefer

/-- The headroom check and the reservation agree exactly when no dimension that the request does
not use is unavailable or over-full where an evaluation would notice. -/
theorem capacity_agrees_iff (f : AdmissionFabric F) (now : TimePoint) (d : AdmissionDescriptor F)
    (rid : ReservationId) (hunused : f.table.find? rid = none) :
    f.CapacityAgrees now d rid ↔ f.UnusedHarmless now d := by
  have hroom : ∀ {pol : AdmissionPolicy F}, f.PassesHeadroom now pol d →
      (f.predictor.predictDemand d).isZero = false →
      ((∃ next, (f.bindOvercommit pol).reservations.reserveCheck rid
        (f.predictor.predictDemand d) = .ok next) ↔ ∀ i,
        (f.predictor.predictDemand d).quantities i = 0 →
        f.reservations.reservedSum.quantities i + f.reservations.usedSum.quantities i ≤
          ((f.bindOvercommit pol).reservations.dimCeiling i).toNat) :=
    fun hpass hpos => exists_reserveCheck_of_fits (f.bindOvercommit _) _
      (f.predictor.predictDemand d) hunused hpos hpass.fits
  constructor
  · intro h
    refine ⟨fun base hpol hreach i hzero hprov => ?_, fun base hpol hpass hpos => ?_⟩
    · exact h.limiting i (defersFor_of_unavailable hpol hreach hprov) hzero
    · exact (hroom hpass hpos).mp (reserve_eq_ok_iff.mp (h.reserves base hpol hpass hpos))
  · intro h
    refine ⟨fun base hpol hpass hpos => ?_, fun i => used_of_defersFor h⟩
    exact reserve_eq_ok_iff.mpr ((hroom hpass hpos).mpr (h.inside base hpol hpass hpos))

theorem capacity_agrees_iff_sample :
    ((engine Binary64).after Sample.opening).CapacityAgrees 0 (Sample.descriptor 1) ⟨7⟩ ↔
      ((engine Binary64).after Sample.opening).UnusedHarmless 0 (Sample.descriptor 1) :=
  capacity_agrees_iff _ 0 (Sample.descriptor 1) ⟨7⟩ (by decide +kernel)

end AdmissionFabric

namespace Sample

/-- A profile of model 1 that needs nothing but pinned memory. -/
def pinning : PredictionProfile Binary64 :=
  { modelId := ⟨1⟩, revision := ⟨1⟩, backend := ascii "b", pinnedStagingBytes := 100 }

/-- A snapshot that governs accelerator memory and pinned memory. -/
def pinned (bytes : UInt64) : ResourceSnapshot :=
  { snapshot 2000000000 with
    total := ((snapshot 2000000000).total).set .pinnedHostMemory bytes }

/-- Pinned memory is reserved, and then there is less of it. -/
def shrunk : List (EngineCall Binary64) :=
  [⟨0, .installPolicy policy⟩, ⟨0, .setSnapshot (pinned 1000)⟩, ⟨0, .registerProfile pinning⟩,
    ⟨0, .evaluate (descriptor 1)⟩, ⟨0, .setSnapshot (pinned 50)⟩]

/-- A request of a model without a profile, which uses no pinned memory. -/
def unpinned : AdmissionDescriptor Binary64 := { descriptor 2 with modelId := ⟨2⟩ }

end Sample

namespace AdmissionFabric

/-- A request that uses no pinned memory is deferred for want of pinned memory. -/
theorem capacity_agrees_fails :
    (((engine Binary64).after Sample.shrunk).evaluate 0 Sample.unpinned).1.outcome = .defer ∧
    ((engine Binary64).after Sample.shrunk).table.find? ⟨2⟩ = none ∧
    ¬ ((engine Binary64).after Sample.shrunk).CapacityAgrees 0 Sample.unpinned ⟨2⟩ := by
  have hdefer : (((engine Binary64).after Sample.shrunk).evaluate 0 Sample.unpinned).1.outcome =
      .defer := by
    decide +kernel
  have htext : (((engine Binary64).after Sample.shrunk).evaluate 0
      Sample.unpinned).1.explanation =
        ascii "reservation failed: " ++ ascii ("insufficient " ++ "pinned_host_memory") := by
    decide +kernel
  have hzero : (((engine Binary64).after Sample.shrunk).predictor.predictDemand
      Sample.unpinned).quantities .pinnedHostMemory = 0 := by
    decide +kernel
  have hfree : ((engine Binary64).after Sample.shrunk).table.contains ⟨2⟩ = false := by
    decide +kernel
  refine ⟨hdefer, OrdMap.contains_eq_false_iff.mp hfree, fun h => ?_⟩
  exact h.limiting .pinnedHostMemory ⟨hdefer, .inr (.inr (.inr htext))⟩ hzero

/-! ## Overcommit and confidence -/

/-- An admission whose memory prediction is too uncertain for the overcommit of a
prediction-aware policy keeps the dimensions it uses within the physical total. -/
def OvercommitConfident (f : AdmissionFabric F) (now : TimePoint) (d : AdmissionDescriptor F) :
    Prop :=
  ∀ base, f.policy.latest = some base → (base.effective d).overcommit = .predictionAware →
    (f.evaluate now d).1.outcome = .admitted →
    (f.predictor.predictMemory d).confidence < (base.effective d).overcommitConfidenceMin →
    ∀ i, f.reservations.total.quantities i ≠ 0 →
      (f.predictor.predictDemand d).quantities i ≠ 0 →
      (f.evaluate now d).2.reservations.usedSum.quantities i +
          (f.evaluate now d).2.reservations.reservedSum.quantities i ≤
        f.reservations.total.quantities i

/-- A request with too uncertain a prediction clears every check and needs the allowance: with
it the live demand is over the physical total. -/
def OverbooksUnsure (f : AdmissionFabric F) (now : TimePoint) (d : AdmissionDescriptor F) : Prop :=
  ∃ base i, f.policy.latest = some base ∧ (base.effective d).overcommit = .predictionAware ∧
    (f.predictor.predictMemory d).confidence < (base.effective d).overcommitConfidenceMin ∧
    f.Clears now (base.effective d) d ∧ f.reservations.total.quantities i ≠ 0 ∧
    (f.predictor.predictDemand d).quantities i ≠ 0 ∧
    f.reservations.total.quantities i < f.reservations.usedSum.quantities i +
      f.reservations.reservedSum.quantities i + (f.predictor.predictDemand d).quantities i

/-- The live demand after an admission. -/
theorem live_of_admits (hadm : (f.evaluate now d).1.outcome = .admitted) (i : ResourceId) :
    (f.evaluate now d).2.reservations.usedSum.quantities i +
        (f.evaluate now d).2.reservations.reservedSum.quantities i =
      f.reservations.usedSum.quantities i + f.reservations.reservedSum.quantities i +
        (f.predictor.predictDemand d).quantities i := by
  obtain ⟨rid, entry, h⟩ := reserves_of_admits hadm
  rw [h.used, h.reserved, Pi.add_apply, Nat.add_assoc]

theorem overcommit_confident_iff (f : AdmissionFabric F) (now : TimePoint)
    (d : AdmissionDescriptor F) : f.OvercommitConfident now d ↔ ¬ f.OverbooksUnsure now d := by
  constructor
  · rintro h ⟨base, i, hpol, hmode, hunsure, hclears, hgoverned, hpos, hover⟩
    have hadm := (admits_iff_clears hpol).mpr hclears
    have hle := h base hpol hmode hadm hunsure i hgoverned hpos
    rw [live_of_admits hadm] at hle
    omega
  · intro h base hpol hmode hadm hunsure i hgoverned hpos
    rw [live_of_admits hadm]
    by_contra hover
    exact h ⟨base, i, hpol, hmode, hunsure, (admits_iff_clears hpol).mp hadm, hgoverned, hpos,
      Nat.not_le.mp hover⟩

end AdmissionFabric

/-- A prediction-aware policy with the default threshold. -/
def Sample.daring : AdmissionPolicy Binary64 :=
  { policy with
    overcommit := .predictionAware
    overcommitAllowance := (snapshot 1000000000).total }

namespace AdmissionFabric

/-- A cold prediction of confidence 0.10 uses the allowance of a policy that asks for 0.85. -/
theorem overcommit_confident_fails : ¬ ((engine Binary64).after [⟨0, .installPolicy Sample.daring⟩,
    ⟨0, .setSnapshot (Sample.snapshot 300000000)⟩]).OvercommitConfident 0 (Sample.descriptor 1) := by
  intro h
  have hle := h { Sample.daring with generation := ⟨1⟩ } rfl rfl (by decide +kernel)
    (by decide +kernel) .acceleratorMemory (by decide +kernel) (by decide +kernel)
  revert hle
  decide +kernel

end AdmissionFabric

end Fabric

import Fabric.Engine.Gates

/-!
# Expired provisional reservations

A provisional reservation past its lifetime should hold no capacity. The engine never sweeps
its reservation manager, so the demand of such an entry stays in the sums until somebody
commits, cancels or releases it. `swept` is the engine after a sweep; an evaluation is free of
expired reservations when the availability it looks at is that of the swept engine and it does
not defer where the swept engine would not. `frees_expired_iff` says exactly when that is so.
-/

namespace Fabric

open Support Support.Checks

/-! ## Current and lapsed demand -/

/-- The entry is provisional and past its lifetime. -/
def ResourceReservation.Lapsed (now : TimePoint) (r : ResourceReservation) : Prop :=
  r.status = .reserved ∧ now > r.expiresAt

instance (now : TimePoint) (r : ResourceReservation) : Decidable (r.Lapsed now) :=
  inferInstanceAs (Decidable (_ ∧ _))

namespace ReservationManager

/-- The demand of the committed entries and of the provisional entries within their lifetime. -/
def currentDemand (m : ReservationManager) (now : TimePoint) : ResourceId → ℕ :=
  m.reservations.sum fun _ r =>
    if r.status = .committed ∨ r.status = .reserved ∧ now ≤ r.expiresAt then r.demand.quantities
    else 0

/-- The demand of the provisional entries past their lifetime. -/
def lapsedDemand (m : ReservationManager) (now : TimePoint) : ResourceId → ℕ :=
  m.reservations.sum fun _ r => if r.Lapsed now then r.demand.quantities else 0

variable {m : ReservationManager} {now : TimePoint}

theorem live_eq_current_add_lapsed (m : ReservationManager) (now : TimePoint) :
    m.demandOf .reserved + m.demandOf .committed = m.currentDemand now + m.lapsedDemand now := by
  rw [demandOf, demandOf, currentDemand, lapsedDemand, ← OrdMap.sum_add, ← OrdMap.sum_add]
  congr 1
  funext _ r
  simp only [ResourceReservation.demandAs, ResourceReservation.Lapsed, gt_iff_lt]
  have hle : now ≤ r.expiresAt ↔ ¬ r.expiresAt < now := Int64.not_lt.symm
  by_cases htime : r.expiresAt < now <;> cases hst : r.status <;> simp [hle, htime]

/-- After a sweep the live demand is the current demand. -/
theorem demandOf_swept (now : TimePoint) (table : OrdMap ReservationId ResourceReservation) :
    ((table.mapValues fun _ r => r.swept now).sum fun _ r => r.demandAs .reserved) +
      ((table.mapValues fun _ r => r.swept now).sum fun _ r => r.demandAs .committed) =
    table.sum fun _ r =>
      if r.status = .committed ∨ r.status = .reserved ∧ now ≤ r.expiresAt then
        r.demand.quantities else 0 := by
  rw [OrdMap.sum_mapValues, OrdMap.sum_mapValues, ← OrdMap.sum_add]
  congr 1
  funext _ r
  simp only [ResourceReservation.demandAs, ResourceReservation.swept, gt_iff_lt]
  have hle : now ≤ r.expiresAt ↔ ¬ r.expiresAt < now := Int64.not_lt.symm
  by_cases htime : r.expiresAt < now <;> cases hst : r.status <;> simp [hle, htime, hst]

/-- The availability is the ceiling less all live demand. -/
theorem availability_eq (hm : m.Accounting) (i : ResourceId) :
    m.availability.quantities i =
      (m.dimCeiling i).toNat - (m.demandOf .reserved i + m.demandOf .committed i) := by
  have hb := hm.bounded i
  rw [m.quantities_availability, ← congrFun hm.reserved i, ← congrFun hm.used i]
  omega

end ReservationManager

variable {F : Type} [Double F]

namespace AdmissionFabric

/-- The engine after a sweep of its reservations. -/
def swept (f : AdmissionFabric F) (now : TimePoint) : AdmissionFabric F :=
  { f with reservations := f.reservations.expireStale now }

/-- When the evaluation gets to the capacity it checks the demand against the ceiling less the
current demand, and it does not defer where it would not defer after a sweep. -/
structure FreesExpired (f : AdmissionFabric F) (now : TimePoint) (d : AdmissionDescriptor F) :
    Prop where
  availability : ∀ base, f.policy.latest = some base →
    f.ReachesCapacity now (base.effective d) d → ∀ i,
    (f.prepared now d (base.effective d)).reservations.availability.quantities i =
      ((f.prepared now d (base.effective d)).reservations.dimCeiling i).toNat -
        f.reservations.currentDemand now i
  deferral : (f.evaluate now d).1.outcome = .defer →
    ((f.swept now).evaluate now d).1.outcome = .defer

/-- The request does not get to the capacity, or in every dimension there is no lapsed demand,
or the current demand alone is over the ceiling, or it is at the ceiling and the request would
not be admitted anyway. -/
def LapsedHarmless (f : AdmissionFabric F) (now : TimePoint) (d : AdmissionDescriptor F) : Prop :=
  ∀ base, f.policy.latest = some base → f.ReachesCapacity now (base.effective d) d → ∀ i,
    f.reservations.lapsedDemand now i = 0 ∨
    ((f.prepared now d (base.effective d)).reservations.dimCeiling i).toNat <
      f.reservations.currentDemand now i ∨
    ((f.prepared now d (base.effective d)).reservations.dimCeiling i).toNat =
      f.reservations.currentDemand now i ∧ ¬ (f.swept now).Admissible now d

variable {f : AdmissionFabric F} {now : TimePoint} {d : AdmissionDescriptor F}

/-! ## The swept engine -/

/-- Preparing looks at the reservations for nothing but the overcommit settings. -/
theorem prepared_with (m : ReservationManager) (pol : AdmissionPolicy F) :
    ({ f with reservations := m } : AdmissionFabric F).prepared now d pol =
      { f.prepared now d pol with
        reservations := { m with
          overcommitMode := pol.overcommit
          overcommitAllowance := pol.boundAllowance } } := by
  by_cases hp : ((f.requests.find? d.admissionRequestId).getD (.fresh now d)).lifecycle = .proposed
  · simp only [RequestRecord.fresh] at hp
    simp [prepared, transition, countEvaluation, bindOvercommit, hp,
      ReservationManager.setOvercommitMode, ReservationManager.setOvercommitAllowance]
  · simp only [RequestRecord.fresh] at hp
    simp [prepared, transition, countEvaluation, bindOvercommit, hp,
      ReservationManager.setOvercommitMode, ReservationManager.setOvercommitAllowance]

theorem demandOf_prepared (f : AdmissionFabric F) (now : TimePoint) (d : AdmissionDescriptor F)
    (pol : AdmissionPolicy F) (st : ReservationStatus) :
    (f.prepared now d pol).reservations.demandOf st = f.reservations.demandOf st := by
  rw [prepared_reservations]
  rfl

theorem accounting_prepared (hacc : f.reservations.Accounting) (now : TimePoint)
    (d : AdmissionDescriptor F) (pol : AdmissionPolicy F) :
    (f.prepared now d pol).reservations.Accounting := by
  rw [prepared_reservations]
  exact hacc.configure _ _ _

theorem demandOf_expireStale (hacc : f.reservations.Accounting) (now : TimePoint) :
    (f.swept now).reservations.demandOf .reserved + (f.swept now).reservations.demandOf .committed =
      f.reservations.currentDemand now := by
  obtain ⟨-, -, htable⟩ := ReservationManager.expireStale_spec hacc now
  rw [ReservationManager.demandOf, ReservationManager.demandOf]
  simp only [swept, htable]
  exact ReservationManager.demandOf_swept now f.table

/-- The ceiling is the same before and after the sweep. -/
theorem swept_ceiling (hacc : f.reservations.Accounting) (pol : AdmissionPolicy F) :
    ((f.swept now).prepared now d pol).reservations.dimCeiling =
      (f.prepared now d pol).reservations.dimCeiling := by
  obtain ⟨-, hshrink, -⟩ := ReservationManager.expireStale_spec hacc now
  funext i
  simp only [prepared_reservations, ReservationManager.dimCeiling, swept, hshrink.total]

theorem availability_prepared (hacc : f.reservations.Accounting) (now : TimePoint)
    (d : AdmissionDescriptor F) (pol : AdmissionPolicy F) (i : ResourceId) :
    (f.prepared now d pol).reservations.availability.quantities i =
      ((f.prepared now d pol).reservations.dimCeiling i).toNat -
        (f.reservations.currentDemand now i + f.reservations.lapsedDemand now i) := by
  rw [ReservationManager.availability_eq (accounting_prepared hacc now d pol),
    demandOf_prepared, demandOf_prepared]
  exact congrArg _ (congrFun (ReservationManager.live_eq_current_add_lapsed f.reservations now) i)

theorem availability_swept (hacc : f.reservations.Accounting) (now : TimePoint)
    (d : AdmissionDescriptor F) (pol : AdmissionPolicy F) (i : ResourceId) :
    ((f.swept now).prepared now d pol).reservations.availability.quantities i =
      ((f.prepared now d pol).reservations.dimCeiling i).toNat -
        f.reservations.currentDemand now i := by
  have hacc' := (ReservationManager.expireStale_spec hacc now).1
  have hsum := congrFun (demandOf_expireStale hacc now) i
  rw [ReservationManager.availability_eq (accounting_prepared hacc' now d pol),
    demandOf_prepared, demandOf_prepared, ← hsum]
  exact congrArg (fun ceiling => (ceiling i).toNat - _) (swept_ceiling hacc pol)

/-! ## The outcome of an evaluation -/

/-- A request that passes the gates is admitted when the reservation succeeds, and deferred
otherwise. -/
theorem outcome_of_gates_ok {base : AdmissionPolicy F} {c : Clearance F} {u : Unit}
    (hentry : f.entryGate now d = .ok u) (hpol : f.policy.latest = some base)
    (hgates : (f.prepared now d (base.effective d)).gates now (base.effective d) d = .ok c) :
    (f.Admissible now d ∧ (f.evaluate now d).1.outcome = .admitted) ∨
      (f.evaluate now d).1.outcome = .defer ∧ ∀ next,
        (f.prepared now d (base.effective d)).reservations.reserveCheck ⟨f.reservationCounter⟩
          c.forecast.demand ≠ .ok next := by
  obtain ⟨hvalid, hopen⟩ := entryGate_eq_ok_iff.mp hentry
  cases hcheck : (f.prepared now d (base.effective d)).reservations.reserveCheck
      ⟨f.reservationCounter⟩ c.forecast.demand with
  | ok next =>
    have a : f.Admission now d := ⟨base, c, next, hvalid, hopen, hpol, hgates, hcheck⟩
    obtain ⟨dec, metrics, hout, -, -, heq⟩ := evaluate_of_admission a
    exact .inl ⟨⟨a⟩, by rw [heq, hout]⟩
  | error s =>
    obtain ⟨g, -, heq⟩ := evaluate_of_reserve_error hentry hpol hgates hcheck
    refine .inr ⟨?_, nofun⟩
    rw [heq]
    rfl

/-- With the same availability the gates find the same before and after the sweep. -/
theorem gates_swept {pol : AdmissionPolicy F}
    (h : ((f.swept now).prepared now d pol).reservations.availability =
      (f.prepared now d pol).reservations.availability) :
    ((f.swept now).prepared now d pol).gates now pol d = (f.prepared now d pol).gates now pol d := by
  have hprep : (f.swept now).prepared now d pol = _ :=
    prepared_with (f.reservations.expireStale now) pol
  rw [hprep] at h ⊢
  exact gates_congr h

/-- Whether a demand can be reserved, in the prepared engine and after the sweep. -/
theorem reserve_prepared_iff (hacc : f.reservations.Accounting) (now : TimePoint)
    (d : AdmissionDescriptor F) (pol : AdmissionPolicy F) {demand : ResourceVector}
    {rid : ReservationId} :
    (∃ next, (f.prepared now d pol).reservations.reserveCheck rid demand = .ok next) ↔
      f.table.find? rid = none ∧ demand.isZero = false ∧ ∀ i,
        f.reservations.currentDemand now i + f.reservations.lapsedDemand now i +
          demand.quantities i ≤ ((f.prepared now d pol).reservations.dimCeiling i).toNat := by
  rw [ReservationManager.exists_reserveCheck_iff (accounting_prepared hacc now d pol)]
  simp only [demandOf_prepared]
  have hlive := congrFun (ReservationManager.live_eq_current_add_lapsed f.reservations now)
  simp only [Pi.add_apply] at hlive
  simp only [hlive]
  have htable : (f.prepared now d pol).reservations.reservations = f.table := by
    rw [prepared_reservations]
  rw [htable]

theorem reserve_swept_iff (hacc : f.reservations.Accounting) (now : TimePoint)
    (d : AdmissionDescriptor F) (pol : AdmissionPolicy F) {demand : ResourceVector}
    {rid : ReservationId} :
    (∃ next, ((f.swept now).prepared now d pol).reservations.reserveCheck rid demand = .ok next) ↔
      f.table.find? rid = none ∧ demand.isZero = false ∧ ∀ i,
        f.reservations.currentDemand now i + demand.quantities i ≤
          ((f.prepared now d pol).reservations.dimCeiling i).toNat := by
  obtain ⟨hacc', -, htable⟩ := ReservationManager.expireStale_spec hacc now
  rw [ReservationManager.exists_reserveCheck_iff (accounting_prepared hacc' now d pol)]
  have hlive := congrFun (demandOf_expireStale hacc now)
  simp only [Pi.add_apply] at hlive
  simp only [demandOf_prepared, hlive, swept_ceiling hacc]
  have htable' : ((f.swept now).prepared now d pol).reservations.reservations =
      f.table.mapValues fun _ r => r.swept now := by
    rw [prepared_reservations, ← htable]
    rfl
  rw [htable', OrdMap.find?_mapValues, Option.map_eq_none_iff]

/-- The gates find the same before and after the sweep when only current demand is subtracted. -/
theorem gates_swept_of_current (hacc : f.reservations.Accounting) {pol : AdmissionPolicy F}
    (h : ∀ i, (f.prepared now d pol).reservations.availability.quantities i =
      ((f.prepared now d pol).reservations.dimCeiling i).toNat -
        f.reservations.currentDemand now i) :
    ((f.swept now).prepared now d pol).gates now pol d =
      (f.prepared now d pol).gates now pol d := by
  refine gates_swept (ResourceVector.quantities_injective (funext fun i => ?_))
  rw [h i, availability_swept hacc]

/-- A request that does not reach the capacity is turned away in the same way after the sweep. -/
theorem gates_swept_of_not_reaches {pol : AdmissionPolicy F} {u : Unit}
    (hentry : f.entryGate now d = .ok u) (hnot : ¬ f.ReachesCapacity now pol d) :
    ((f.swept now).prepared now d pol).gates now pol d =
      (f.prepared now d pol).gates now pol d := by
  have hprep : (f.swept now).prepared now d pol = _ :=
    prepared_with (f.reservations.expireStale now) pol
  rw [hprep]
  exact gates_with_of_not_reaches hentry hnot _

/-! ## Harmless demand -/

theorem lapsedHarmless_of_freesExpired (hacc : f.reservations.Accounting)
    (hfrees : f.FreesExpired now d) : f.LapsedHarmless now d := by
  intro base hpol hreach i
  have hi := (availability_prepared hacc now d (base.effective d) i).symm.trans
    (hfrees.availability base hpol hreach i)
  by_cases hlap : f.reservations.lapsedDemand now i = 0
  · exact .inl hlap
  rcases Nat.lt_or_ge ((f.prepared now d (base.effective d)).reservations.dimCeiling i).toNat
    (f.reservations.currentDemand now i) with hlt | hge
  · exact .inr (.inl hlt)
  have heq : ((f.prepared now d (base.effective d)).reservations.dimCeiling i).toNat =
      f.reservations.currentDemand now i := by omega
  refine .inr (.inr ⟨heq, ?_⟩)
  rintro ⟨a⟩
  -- The request is admitted after the sweep, but the lapsed demand keeps it out before.
  obtain rfl : base = a.base := Option.some.inj (hpol.symm.trans a.policy)
  have hentry : f.entryGate now d = .ok () := entryGate_eq_ok_iff.mpr ⟨a.valid, a.isOpen⟩
  have hgates := (gates_swept_of_current hacc (hfrees.availability _ hpol hreach)).symm.trans a.gates
  rcases outcome_of_gates_ok hentry hpol hgates with ⟨⟨b⟩, -⟩ | ⟨hdefer, -⟩
  · have hbase : a.base = b.base := Option.some.inj (hpol.symm.trans b.policy)
    have hle := ((reserve_prepared_iff hacc now d _).mp ⟨_, b.fits⟩).2.2 i
    rw [← hbase] at hle
    omega
  · have hdefer' := hfrees.deferral hdefer
    obtain ⟨dec, metrics, hout, -, -, hadm⟩ := evaluate_of_admission a
    rw [hadm] at hdefer'
    cases hout.symm.trans hdefer'

theorem availability_of_lapsedHarmless (hacc : f.reservations.Accounting)
    (hharm : f.LapsedHarmless now d) {base : AdmissionPolicy F}
    (hpol : f.policy.latest = some base) (hreach : f.ReachesCapacity now (base.effective d) d)
    (i : ResourceId) :
    (f.prepared now d (base.effective d)).reservations.availability.quantities i =
      ((f.prepared now d (base.effective d)).reservations.dimCeiling i).toNat -
        f.reservations.currentDemand now i := by
  rw [availability_prepared hacc]
  rcases hharm base hpol hreach i with hlap | hlt | ⟨heq, -⟩ <;> omega

/-- A demand that can be reserved after the sweep can be reserved before it, when the sweep
makes no difference to the request. -/
theorem reserves_of_lapsedHarmless (hacc : f.reservations.Accounting)
    (hharm : f.LapsedHarmless now d) (a : (f.swept now).Admission now d)
    (hreach : f.ReachesCapacity now (a.base.effective d) d) :
    ∃ next, (f.prepared now d (a.base.effective d)).reservations.reserveCheck
      ⟨f.reservationCounter⟩ a.clearance.forecast.demand = .ok next := by
  obtain ⟨hnew, hpos, hle⟩ := (reserve_swept_iff hacc now d _).mp ⟨_, a.fits⟩
  refine (reserve_prepared_iff hacc now d _).mpr ⟨hnew, hpos, fun i => ?_⟩
  have hi := hle i
  rcases hharm _ a.policy hreach i with hlap | hlt | ⟨-, hnot⟩
  · omega
  · omega
  · exact absurd ⟨a⟩ hnot

theorem defers_of_lapsedHarmless (hacc : f.reservations.Accounting)
    (hharm : f.LapsedHarmless now d) (hdefer : (f.evaluate now d).1.outcome = .defer) :
    ((f.swept now).evaluate now d).1.outcome = .defer := by
  obtain ⟨hentry, base, hpol⟩ := entry_of_defers hdefer
  have hentry' : (f.swept now).entryGate now d = .ok () := hentry
  have hpol' : (f.swept now).policy.latest = some base := hpol
  have hgates : ((f.swept now).prepared now d (base.effective d)).gates now (base.effective d) d =
      (f.prepared now d (base.effective d)).gates now (base.effective d) d := by
    by_cases hreach : f.ReachesCapacity now (base.effective d) d
    · exact gates_swept_of_current hacc (availability_of_lapsedHarmless hacc hharm hpol hreach)
    · exact gates_swept_of_not_reaches hentry hreach
  cases hf : (f.prepared now d (base.effective d)).gates now (base.effective d) d with
  | error r =>
    rw [decision_of_gates_error hentry hpol hf] at hdefer
    rw [decision_of_gates_error hentry' hpol' (hgates.trans hf)]
    exact hdefer
  | ok c =>
    rcases outcome_of_gates_ok hentry' hpol' (hgates.trans hf) with ⟨⟨a⟩, -⟩ | ⟨hout, -⟩
    · rcases outcome_of_gates_ok hentry hpol hf with ⟨-, hout⟩ | ⟨-, hnone⟩
      · cases hout.symm.trans hdefer
      · obtain rfl : base = a.base := Option.some.inj (hpol.symm.trans a.policy)
        obtain rfl : c = a.clearance := Except.ok.inj (hf.symm.trans (hgates.symm.trans a.gates))
        obtain ⟨next, hnext⟩ := reserves_of_lapsedHarmless hacc hharm a
          (passesHeadroom_of_gates hentry hf).1.toReachesCapacity
        exact absurd hnext (hnone next)
    · exact hout

theorem frees_expired_iff_of_accounting (hacc : f.reservations.Accounting) :
    f.FreesExpired now d ↔ f.LapsedHarmless now d := by
  constructor
  · exact lapsedHarmless_of_freesExpired hacc
  · intro hharm
    exact ⟨fun _ hpol hreach => availability_of_lapsedHarmless hacc hharm hpol hreach,
      defers_of_lapsedHarmless hacc hharm⟩

/-- In every reachable state an evaluation is free of expired reservations exactly when the
lapsed demand is harmless to it. -/
theorem frees_expired_iff (h : List (EngineCall F)) (now : TimePoint) (d : AdmissionDescriptor F) :
    ((engine F).after h).FreesExpired now d ↔ ((engine F).after h).LapsedHarmless now d :=
  frees_expired_iff_of_accounting (accounting_after h)

/-- A reservation nobody touches keeps a later request out after its lifetime. -/
theorem frees_expired_fails : ¬ ((engine Binary64).after
    [⟨0, .installPolicy Sample.policy⟩, ⟨0, .setSnapshot (Sample.snapshot 500000000)⟩,
      ⟨0, .evaluate (Sample.descriptor 1)⟩,
      ⟨seconds 200, .setSnapshot { Sample.snapshot 500000000 with timestamp := seconds 200 }⟩]).FreesExpired
    (seconds 200) (Sample.descriptor 2) := by
  intro hfrees
  have hdefer := hfrees.deferral (by decide +kernel)
  revert hdefer
  decide +kernel

end AdmissionFabric

end Fabric

import Fabric.Engine.Steps

/-!
# What the gates let pass

`Passes` lists what holds of a request that all gates of an evaluation let through, and
`gates_passes` reads it off a clearance. The gates look at the reservations only through the
availability (`gates_congr`).

`ReachesCapacity` lists the checks that come before the capacity, `PassesHeadroom` those up to the
reservation and `Clears` all checks of an evaluation, as conditions on the state before it. An
evaluation under the effective policy admits exactly when the request clears them
(`admits_iff_clears`). One that does not reach the capacity does not look at the reservations at
all (`gates_with_of_not_reaches`).
-/

namespace Fabric

open Support Support.Checks

variable {F : Type} [Double F]

namespace AdmissionFabric

/-- The state of the snapshot that a policy accepts. -/
def SnapshotAccepted (f : AdmissionFabric F) (now : TimePoint) (pol : AdmissionPolicy F) : Prop :=
  if f.hasSnapshot then
    ¬ (f.snapshot.isStaleAsOf now pol.maxSnapshotAge ∧ pol.acceptStaleSnapshot = false) ∧
      f.snapshot.hasUnavailableDimension = false
  else pol.requireReservation = false

/-- What the gates found of a request that they let pass. -/
structure Passes (f : AdmissionFabric F) (now : TimePoint) (pol : AdmissionPolicy F)
    (d : AdmissionDescriptor F) (c : Clearance F) : Prop where
  forecast : c.forecast = f.forecast d
  capability : f.classifyCapability d ≠ .rejectCapability
  snapshot : f.SnapshotAccepted now pol
  quota : (f.classifyQuota d c.forecast.demand).1 ≠ .rejectQuota ∧
    (f.classifyQuota d c.forecast.demand).1 ≠ .deferQuota
  slo : c.slo = f.evaluateSlo d c.forecast.dur
  verdict : c.slo.verdict ≠ .infeasible ∧ c.slo.verdict ≠ .unknown
  fits : c.forecast.demand.fitsIn (f.effectiveAvailability pol) = true
  fairness : f.deferForFairness now pol d c.forecast.demand = false

variable {f : AdmissionFabric F} {now : TimePoint} {pol : AdmissionPolicy F}
  {d : AdmissionDescriptor F} {fc : Forecast F}

theorem snapshotGate_ok {u : Unit} (h : f.snapshotGate now pol d fc = .ok u) :
    f.SnapshotAccepted now pol := by
  unfold snapshotGate at h
  unfold SnapshotAccepted
  split_ifs at h ⊢
  · obtain ⟨_, hstale, h⟩ := bind_eq_ok_iff.mp h
    exact ⟨require_eq_ok_iff.mp hstale, require_eq_ok_iff.mp h⟩
  · exact require_eq_ok_iff.mp h

theorem quotaGate_ok {q : QuotaEvaluation} (h : f.quotaGate now d fc = .ok q) :
    (f.classifyQuota d fc.demand).1 ≠ .rejectQuota ∧
      (f.classifyQuota d fc.demand).1 ≠ .deferQuota := by
  obtain ⟨_, hreject, h⟩ := bind_eq_ok_iff.mp h
  obtain ⟨_, hdefer, _⟩ := bind_eq_ok_iff.mp h
  exact ⟨require_eq_ok_iff.mp hreject, require_eq_ok_iff.mp hdefer⟩

theorem sloGate_ok {slo : SloFeasibility F} (h : f.sloGate now d fc = .ok slo) :
    slo = f.evaluateSlo d fc.dur ∧ slo.verdict ≠ .infeasible ∧ slo.verdict ≠ .unknown := by
  obtain ⟨_, hinf, h⟩ := bind_eq_ok_iff.mp h
  obtain ⟨_, hunk, h⟩ := bind_eq_ok_iff.mp h
  obtain rfl : f.evaluateSlo d fc.dur = slo := Except.ok.inj h
  exact ⟨rfl, require_eq_ok_iff.mp hinf, require_eq_ok_iff.mp hunk⟩

theorem capacityGate_ok {slo : SloFeasibility F} {u : Unit}
    (h : f.capacityGate now pol d fc slo = .ok u) :
    fc.demand.fitsIn (f.effectiveAvailability pol) = true ∧
      f.deferForFairness now pol d fc.demand = false := by
  obtain ⟨_, hfits, h⟩ := bind_eq_ok_iff.mp h
  exact ⟨require_eq_ok_iff.mp hfits, require_eq_ok_iff.mp h⟩

theorem gates_passes {c : Clearance F} (h : f.gates now pol d = .ok c) : f.Passes now pol d c := by
  obtain ⟨_, hcap, h⟩ := bind_eq_ok_iff.mp h
  obtain ⟨_, hsnap, h⟩ := bind_eq_ok_iff.mp h
  obtain ⟨_, hquota, h⟩ := bind_eq_ok_iff.mp h
  obtain ⟨_, hslo, h⟩ := bind_eq_ok_iff.mp h
  obtain ⟨_, hcapacity, h⟩ := bind_eq_ok_iff.mp h
  obtain rfl := Except.ok.inj h
  obtain ⟨heq, hverdict⟩ := sloGate_ok hslo
  obtain ⟨hfits, hfair⟩ := capacityGate_ok hcapacity
  exact ⟨rfl, require_eq_ok_iff.mp hcap, snapshotGate_ok hsnap, quotaGate_ok hquota, heq, hverdict,
    hfits, hfair⟩

/-- An evaluation admits exactly when every check passes. -/
theorem admits_iff : (f.evaluate now d).1.outcome = .admitted ↔ f.Admissible now d := by
  constructor
  · intro hadm
    by_contra hnot
    obtain ⟨r, base, mode, allowance, counter, metrics, hproper, -, heq⟩ :=
      evaluate_of_not_admissible hnot
    have hyes : r.decision.isAdmit = true := by
      rw [heq] at hadm
      simpa [AdmissionDecision.isAdmit] using hadm
    rw [hproper.not_admit] at hyes
    cases hyes
  · rintro ⟨a⟩
    obtain ⟨dec, metrics, hout, -, -, heq⟩ := evaluate_of_admission a
    rw [heq]
    exact hout

/-- The gates look at the reservations through the availability only. -/
theorem gates_congr {m : ReservationManager} (h : m.availability = f.reservations.availability) :
    ({ f with reservations := m } : AdmissionFabric F).gates now pol d = f.gates now pol d := by
  have heff : ({ f with reservations := m } : AdmissionFabric F).effectiveAvailability pol =
      f.effectiveAvailability pol := by
    simp only [effectiveAvailability, h]
  have hfair : ∀ demand, ({ f with reservations := m } : AdmissionFabric F).deferForFairness now
      pol d demand = f.deferForFairness now pol d demand := by
    intro demand
    simp only [deferForFairness, h]
    rfl
  have hcapacity : ∀ fc slo, ({ f with reservations := m } : AdmissionFabric F).capacityGate now
      pol d fc slo = f.capacityGate now pol d fc slo := by
    intro fc slo
    unfold capacityGate
    rw [heff, hfair]
    rfl
  unfold gates
  simp only [hcapacity]
  rfl

/-- A request that a gate turns away is answered with the decision of the refusal. -/
theorem decision_of_gates_error {base : AdmissionPolicy F} {r : Refusal F} {u : Unit}
    (hentry : f.entryGate now d = .ok u) (hpol : f.policy.latest = some base)
    (hgates : (f.prepared now d (base.effective d)).gates now (base.effective d) d = .error r) :
    (f.evaluate now d).1 = r.decision := by
  rw [evaluate_of_entry_ok hentry hpol, hgates]
  rfl

/-- A deferral comes after the entry checks, under a policy. -/
theorem entry_of_defers (hdefer : (f.evaluate now d).1.outcome = .defer) :
    f.entryGate now d = .ok () ∧ ∃ base, f.policy.latest = some base := by
  cases hentry : f.entryGate now d with
  | error r =>
    obtain ⟨hproper, hlife, metrics, heq⟩ := evaluate_of_entry_error hentry
    rw [heq] at hdefer
    rcases hproper.outcome with ⟨-, hout⟩ | ⟨hlife', -⟩
    · cases hout.symm.trans hdefer
    · cases hlife.symm.trans hlife'
  | ok u =>
    cases hpol : f.policy.latest with
    | none => cases (evaluate_of_no_policy hentry hpol).1.symm.trans hdefer
    | some base => exact ⟨rfl, base, rfl⟩

/-! ## All checks of an evaluation -/

theorem snapshotGate_of_accepted (h : f.SnapshotAccepted now pol) :
    f.snapshotGate now pol d fc = .ok () := by
  unfold SnapshotAccepted at h
  unfold snapshotGate
  split_ifs at h ⊢
  · exact bind_eq_ok_iff.mpr ⟨(), require_eq_ok_iff.mpr h.1, require_eq_ok_iff.mpr h.2⟩
  · exact require_eq_ok_iff.mpr h

/-- What passes every check gets a clearance. -/
theorem exists_gates {c : Clearance F} (h : f.Passes now pol d c) :
    ∃ c', f.gates now pol d = .ok c' := by
  have hfc := h.forecast
  have hslo := h.slo
  obtain ⟨fc, slo, quota⟩ := c
  simp only at hfc hslo
  subst hfc
  subst hslo
  refine ⟨⟨f.forecast d, f.evaluateSlo d (f.forecast d).dur, { passed := true }⟩, ?_⟩
  refine bind_eq_ok_iff.mpr ⟨(), require_eq_ok_iff.mpr h.capability, ?_⟩
  refine bind_eq_ok_iff.mpr ⟨(), snapshotGate_of_accepted h.snapshot, ?_⟩
  refine bind_eq_ok_iff.mpr ⟨{ passed := true }, ?_, ?_⟩
  · exact bind_eq_ok_iff.mpr ⟨(), require_eq_ok_iff.mpr h.quota.1,
      bind_eq_ok_iff.mpr ⟨(), require_eq_ok_iff.mpr h.quota.2, rfl⟩⟩
  refine bind_eq_ok_iff.mpr ⟨f.evaluateSlo d (f.forecast d).dur, ?_, ?_⟩
  · exact bind_eq_ok_iff.mpr ⟨(), require_eq_ok_iff.mpr h.verdict.1,
      bind_eq_ok_iff.mpr ⟨(), require_eq_ok_iff.mpr h.verdict.2, rfl⟩⟩
  refine bind_eq_ok_iff.mpr ⟨(), ?_, rfl⟩
  exact bind_eq_ok_iff.mpr ⟨(), require_eq_ok_iff.mpr h.fits, require_eq_ok_iff.mpr h.fairness⟩

/-- The checks that come before the capacity in an evaluation under the effective policy `pol`,
on the state before it. -/
structure ReachesCapacity (f : AdmissionFabric F) (now : TimePoint) (pol : AdmissionPolicy F)
    (d : AdmissionDescriptor F) : Prop where
  valid : d.validate.isOk = true
  isOpen : ∀ record, f.requests.find? d.admissionRequestId = some record →
    record.lifecycle.isOpen = true
  capability : f.classifyCapability d ≠ .rejectCapability
  snapshot : f.SnapshotAccepted now pol
  quota : (f.classifyQuota d (f.predictor.predictDemand d)).1 ≠ .rejectQuota ∧
    (f.classifyQuota d (f.predictor.predictDemand d)).1 ≠ .deferQuota
  verdict : (f.evaluateSlo d (f.predictor.predictDuration d)).verdict ≠ .infeasible ∧
    (f.evaluateSlo d (f.predictor.predictDuration d)).verdict ≠ .unknown

/-- The checks up to the reservation. The capacity is looked at with the overcommit settings of
the policy bound. -/
structure PassesHeadroom (f : AdmissionFabric F) (now : TimePoint) (pol : AdmissionPolicy F)
    (d : AdmissionDescriptor F) : Prop extends f.ReachesCapacity now pol d where
  fits : (f.predictor.predictDemand d).fitsIn ((f.bindOvercommit pol).effectiveAvailability pol) =
    true
  fairness : (f.prepared now d pol).deferForFairness now pol d (f.predictor.predictDemand d) = false

/-- Every check of an evaluation under the effective policy `pol`, on the state before it. -/
structure Clears (f : AdmissionFabric F) (now : TimePoint) (pol : AdmissionPolicy F)
    (d : AdmissionDescriptor F) : Prop extends f.PassesHeadroom now pol d where
  reserves : ∃ next, (f.bindOvercommit pol).reservations.reserveCheck ⟨f.reservationCounter⟩
    (f.predictor.predictDemand d) = .ok next

/-- The gates of the prepared engine in terms of the engine itself. -/
theorem passes_prepared_iff {c : Clearance F} : (f.prepared now d pol).Passes now pol d c ↔
    c.forecast = f.forecast d ∧ f.classifyCapability d ≠ .rejectCapability ∧
      f.SnapshotAccepted now pol ∧
      ((f.classifyQuota d c.forecast.demand).1 ≠ .rejectQuota ∧
        (f.classifyQuota d c.forecast.demand).1 ≠ .deferQuota) ∧
      c.slo = f.evaluateSlo d c.forecast.dur ∧
      (c.slo.verdict ≠ .infeasible ∧ c.slo.verdict ≠ .unknown) ∧
      c.forecast.demand.fitsIn ((f.bindOvercommit pol).effectiveAvailability pol) = true ∧
      (f.prepared now d pol).deferForFairness now pol d c.forecast.demand = false := by
  obtain ⟨record, hprep⟩ := f.exists_prepared_eq now d pol
  have heff : (f.prepared now d pol).effectiveAvailability pol =
      (f.bindOvercommit pol).effectiveAvailability pol := by
    rw [hprep]
    rfl
  constructor
  · intro h
    have hcap := h.capability
    have hsnap := h.snapshot
    have hquota := h.quota
    have hslo := h.slo
    have hfc := h.forecast
    have hfits := h.fits
    rw [hprep] at hcap hsnap hquota hslo hfc
    rw [heff] at hfits
    exact ⟨hfc, hcap, hsnap, hquota, hslo, h.verdict, hfits, h.fairness⟩
  · rintro ⟨hfc, hcap, hsnap, hquota, hslo, hverdict, hfits, hfair⟩
    refine ⟨?_, ?_, ?_, ?_, ?_, hverdict, ?_, hfair⟩
    · rw [hprep]
      exact hfc
    · rw [hprep]
      exact hcap
    · rw [hprep]
      exact hsnap
    · rw [hprep]
      exact hquota
    · rw [hprep]
      exact hslo
    · rw [heff]
      exact hfits

theorem forecast_prepared : (f.prepared now d pol).forecast d = f.forecast d := by
  obtain ⟨record, hprep⟩ := f.exists_prepared_eq now d pol
  rw [hprep]
  rfl

/-- A request that the first four gates of the prepared engine let pass reaches the capacity. -/
theorem reachesCapacity_of_gates {q : QuotaEvaluation} {slo : SloFeasibility F} {u u₁ u₂ : Unit}
    (hentry : f.entryGate now d = .ok u)
    (hcap : (f.prepared now d pol).capabilityGate now d fc = .ok u₁)
    (hsnap : (f.prepared now d pol).snapshotGate now pol d fc = .ok u₂)
    (hquota : (f.prepared now d pol).quotaGate now d (f.forecast d) = .ok q)
    (hslo : (f.prepared now d pol).sloGate now d (f.forecast d) = .ok slo) :
    f.ReachesCapacity now pol d := by
  obtain ⟨hvalid, hopen⟩ := entryGate_eq_ok_iff.mp hentry
  have hcap' := require_eq_ok_iff.mp hcap
  have hsnap' := snapshotGate_ok hsnap
  have hquota' := quotaGate_ok hquota
  obtain ⟨rfl, hverdict⟩ := sloGate_ok hslo
  obtain ⟨record, hprep⟩ := f.exists_prepared_eq now d pol
  rw [hprep] at hcap' hsnap' hquota' hverdict
  exact ⟨hvalid, hopen, hcap', hsnap', hquota', hverdict⟩

/-- A request that all gates of the prepared engine let pass gets to the reservation. -/
theorem passesHeadroom_of_gates {c : Clearance F} {u : Unit}
    (hentry : f.entryGate now d = .ok u) (hgates : (f.prepared now d pol).gates now pol d = .ok c) :
    f.PassesHeadroom now pol d ∧ c.forecast = f.forecast d := by
  obtain ⟨hvalid, hopen⟩ := entryGate_eq_ok_iff.mp hentry
  obtain ⟨hfc, hcap, hsnap, hquota, hslo, hverdict, hfits, hfair⟩ :=
    passes_prepared_iff.mp (gates_passes hgates)
  rw [hslo, hfc] at hverdict
  rw [hfc] at hquota hfits hfair
  exact ⟨⟨⟨hvalid, hopen, hcap, hsnap, hquota, hverdict⟩, hfits, hfair⟩, hfc⟩

/-- A request that does not reach the capacity is turned away whatever is reserved. -/
theorem gates_with_of_not_reaches {u : Unit} (hentry : f.entryGate now d = .ok u)
    (hnot : ¬ f.ReachesCapacity now pol d) (m : ReservationManager) :
    ({ f.prepared now d pol with reservations := m } : AdmissionFabric F).gates now pol d =
      (f.prepared now d pol).gates now pol d := by
  cases hgates : (f.prepared now d pol).gates now pol d with
  | ok c => exact absurd (passesHeadroom_of_gates hentry hgates).1.toReachesCapacity hnot
  | error r =>
    -- The failing gate comes before the capacity gate and does not look at the reservations.
    rcases bind_eq_error_iff.mp hgates with hcap | ⟨_, hcap, h⟩
    · exact bind_eq_error_iff.mpr (.inl hcap)
    refine bind_eq_error_iff.mpr (.inr ⟨_, hcap, ?_⟩)
    rcases bind_eq_error_iff.mp h with hsnap | ⟨_, hsnap, h⟩
    · exact bind_eq_error_iff.mpr (.inl hsnap)
    refine bind_eq_error_iff.mpr (.inr ⟨_, hsnap, ?_⟩)
    rcases bind_eq_error_iff.mp h with hquota | ⟨_, hquota, h⟩
    · exact bind_eq_error_iff.mpr (.inl hquota)
    refine bind_eq_error_iff.mpr (.inr ⟨_, hquota, ?_⟩)
    rcases bind_eq_error_iff.mp h with hslo | ⟨_, hslo, -⟩
    · exact bind_eq_error_iff.mpr (.inl hslo)
    rw [forecast_prepared] at hquota hslo
    exact absurd (reachesCapacity_of_gates hentry hcap hsnap hquota hslo) hnot

theorem admissible_iff : f.Admissible now d ↔
    ∃ base, f.policy.latest = some base ∧ f.Clears now (base.effective d) d := by
  constructor
  · rintro ⟨a⟩
    have hentry : f.entryGate now d = .ok () := entryGate_eq_ok_iff.mpr ⟨a.valid, a.isOpen⟩
    obtain ⟨hpass, hfc⟩ := passesHeadroom_of_gates hentry a.gates
    have hres := a.fits
    rw [prepared_reservations, hfc] at hres
    exact ⟨a.base, a.policy, hpass, a.reserved, hres⟩
  · rintro ⟨base, hpol, h⟩
    obtain ⟨c, hgates⟩ := exists_gates (f := f.prepared now d (base.effective d))
      (c := ⟨f.forecast d, f.evaluateSlo d (f.forecast d).dur, { passed := true }⟩)
      (passes_prepared_iff.mpr ⟨rfl, h.capability, h.snapshot, h.quota, rfl, h.verdict, h.fits,
        h.fairness⟩)
    obtain ⟨next, hnext⟩ := h.reserves
    have hfc : c.forecast = f.forecast d :=
      (passes_prepared_iff.mp (gates_passes hgates)).1
    refine ⟨base, c, next, h.valid, h.isOpen, hpol, hgates, ?_⟩
    rw [prepared_reservations, hfc]
    exact hnext

/-- An evaluation under a policy admits exactly when the request clears every check. -/
theorem admits_iff_clears {base : AdmissionPolicy F} (hpol : f.policy.latest = some base) :
    (f.evaluate now d).1.outcome = .admitted ↔ f.Clears now (base.effective d) d := by
  rw [admits_iff, admissible_iff]
  constructor
  · rintro ⟨base', hpol', h⟩
    obtain rfl := Option.some.inj (hpol.symm.trans hpol')
    exact h
  · exact fun h => ⟨base, hpol, h⟩

/-- What every admission guarantees, as a condition on the state before it. -/
theorem admits_imp_iff {P : Prop} : ((f.evaluate now d).1.outcome = .admitted → P) ↔
    ∀ base, f.policy.latest = some base → f.Clears now (base.effective d) d → P := by
  rw [admits_iff, admissible_iff]
  exact ⟨fun h base hpol hclears => h ⟨base, hpol, hclears⟩,
    fun h ⟨base, hpol, hclears⟩ => h base hpol hclears⟩

end AdmissionFabric

end Fabric

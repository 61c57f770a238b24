import Fabric.Engine.Expiry

/-!
# What an evaluation leaves behind

The fifteen ways out of an evaluation, seen from outside.

* `evaluate_effect`: without an admission the reservations stay as they are; an admission adds
  one entry for the demand that was predicted, shown and checked. No other record changes.
* `lifecycle_follows_iff`: the decision is always stored, but the lifecycle moves only out of
  the states before a first verdict. A deferred record stays deferred, so it follows the
  decision exactly when the request is deferred again.
-/

namespace Fabric

open Support Support.Checks

variable {F : Type} [Double F]

/-- The lifecycle that an outcome stands for. -/
def AdmissionOutcome.lifecycle : AdmissionOutcome → RequestLifecycle
  | admitted => .reserved
  | defer => .deferred
  | reject => .rejected
  | undeclared _ _ => .unknown

namespace AdmissionFabric

variable {f : AdmissionFabric F} {now : TimePoint} {d : AdmissionDescriptor F}
  {x : AdmissionRequestId}

/-! ## Reservations and records -/

/-- Exactly one entry is added, for the demand predicted for `d`, and the reserved sum grows by
that demand. -/
structure Reserves (f f' : AdmissionFabric F) (d : AdmissionDescriptor F)
    (dec : AdmissionDecision F) (rid : ReservationId) (entry : ResourceReservation) : Prop where
  named : dec.reservationId = some rid
  unused : f.table.find? rid = none
  table : f'.table = f.table.insert rid entry
  owner : entry.owner = d.tenantId
  status : entry.status = .reserved
  demand : entry.demand = f.predictor.predictDemand d
  shown : dec.predictedRequirement = f.predictor.predictDemand d
  reserved : f'.reservations.reservedSum.quantities =
    f.reservations.reservedSum.quantities + (f.predictor.predictDemand d).quantities
  used : f'.reservations.usedSum = f.reservations.usedSum

/-- What an evaluation of `d` that answers `dec` does to the reservations and to the records of
other requests. -/
structure EvaluateEffect (f f' : AdmissionFabric F) (d : AdmissionDescriptor F)
    (dec : AdmissionDecision F) : Prop where
  refused : dec.outcome ≠ .admitted → f'.table = f.table ∧
    f'.reservations.reservedSum = f.reservations.reservedSum ∧
    f'.reservations.usedSum = f.reservations.usedSum
  admitted : dec.outcome = .admitted → ∃ rid entry, f.Reserves f' d dec rid entry
  others : ∀ x, x ≠ d.admissionRequestId → f'.requests.find? x = f.requests.find? x

/-- An admission answers with the decision that its clearance gives. -/
theorem decision_of_admission (a : f.Admission now d) :
    ∃ (g : AdmissionFabric F) (rid : ReservationId) (gen : AdmissionGeneration),
      (f.evaluate now d).1 = g.admitDecision now (a.base.effective d) d a.clearance rid gen := by
  have hentry : f.entryGate now d = .ok () := entryGate_eq_ok_iff.mpr ⟨a.valid, a.isOpen⟩
  rw [evaluate_of_entry_ok hentry a.policy, a.gates]
  simp only
  rw [reserveAndAdmit, prepared_reservationCounter]
  simp only [ReservationManager.reserve, a.fits]
  exact ⟨_, _, _, rfl⟩

/-- The decision of an admission shows the demand that was cleared. -/
theorem predictedRequirement_of_admission (a : f.Admission now d) :
    (f.evaluate now d).1.predictedRequirement = a.clearance.forecast.demand := by
  obtain ⟨g, rid, gen, heq⟩ := decision_of_admission a
  rw [heq]
  rfl

/-- The demand that the gates cleared is the predicted one. -/
theorem demand_of_admission (a : f.Admission now d) :
    a.clearance.forecast.demand = f.predictor.predictDemand d := by
  rw [(passes_prepared_iff.mp (gates_passes a.gates)).1]
  rfl

/-- The decision of an admission shows the verdict on the deadline. -/
theorem slo_of_admission (a : f.Admission now d) :
    (f.evaluate now d).1.slo = f.evaluateSlo d (f.predictor.predictDuration d) := by
  obtain ⟨hfc, -, -, -, hslo, -⟩ := passes_prepared_iff.mp (gates_passes a.gates)
  obtain ⟨g, rid, gen, heq⟩ := decision_of_admission a
  rw [hfc] at hslo
  rw [heq]
  exact hslo

theorem reserves_of_admits (hadm : (f.evaluate now d).1.outcome = .admitted) :
    ∃ rid entry, f.Reserves (f.evaluate now d).2 d (f.evaluate now d).1 rid entry := by
  obtain ⟨a⟩ := admits_iff.mp hadm
  have hshown := predictedRequirement_of_admission a
  have hdemand := demand_of_admission a
  have hfits := a.fits
  rw [prepared_reservations] at hfits
  obtain ⟨hnew, -, hadd, -⟩ := ReservationManager.reserveCheck_eq_ok_iff.mp hfits
  obtain ⟨dec, metrics, -, hrid, -, heq⟩ := evaluate_of_admission a
  rw [heq] at hshown ⊢
  rw [hdemand] at hadd hshown
  exact ⟨_, _, hrid, hnew, rfl, rfl, rfl, hdemand, hshown,
    ResourceVector.tryAdd_eq_some_iff.mp hadd, rfl⟩

theorem evaluate_effect (f : AdmissionFabric F) (now : TimePoint) (d : AdmissionDescriptor F) :
    f.EvaluateEffect (f.evaluate now d).2 d (f.evaluate now d).1 := by
  refine ⟨fun hnot => ?_, reserves_of_admits, fun x hx => ?_⟩
  · obtain ⟨r, base, mode, allowance, counter, metrics, -, -, heq⟩ :=
      evaluate_of_not_admissible (mt admits_iff.mpr hnot)
    rw [heq]
    exact ⟨rfl, rfl, rfl⟩
  · by_cases h : f.Admissible now d
    · obtain ⟨a⟩ := h
      obtain ⟨dec, metrics, -, -, -, heq⟩ := evaluate_of_admission a
      rw [heq, OrdMap.find?_insert, if_neg hx]
    · obtain ⟨r, base, mode, allowance, counter, metrics, -, -, heq⟩ :=
        evaluate_of_not_admissible h
      rw [heq, OrdMap.find?_insert, if_neg hx]

/-! ## Rejections and deferrals -/

variable {pol : AdmissionPolicy F} {fc : Forecast F} {slo : SloFeasibility F} {r : Refusal F}

/-- The first check that fails under the effective policy is one that rejects for good: the
capabilities, the age of the snapshot, the token budget or the deadline. -/
def Rejects (f : AdmissionFabric F) (now : TimePoint) (pol : AdmissionPolicy F)
    (d : AdmissionDescriptor F) : Prop :=
  f.classifyCapability d = .rejectCapability ∨
  f.hasSnapshot = true ∧ f.snapshot.isStaleAsOf now pol.maxSnapshotAge = true ∧
    pol.acceptStaleSnapshot = false ∨
  f.SnapshotAccepted now pol ∧
    ((f.classifyQuota d (f.predictor.predictDemand d)).1 = .rejectQuota ∨
      (f.classifyQuota d (f.predictor.predictDemand d)).1 ≠ .deferQuota ∧
        (f.evaluateSlo d (f.predictor.predictDuration d)).verdict = .infeasible)

theorem snapshotGate_error (h : f.snapshotGate now pol d fc = .error r) :
    ¬ f.SnapshotAccepted now pol ∧ (r.decision.outcome = .reject ↔ f.hasSnapshot = true ∧
      f.snapshot.isStaleAsOf now pol.maxSnapshotAge = true ∧ pol.acceptStaleSnapshot = false) := by
  unfold snapshotGate at h
  unfold SnapshotAccepted
  split_ifs at h ⊢ with hsnap
  · rcases bind_eq_error_iff.mp h with h | ⟨_, hfresh, h⟩
    · obtain ⟨hstale, rfl⟩ := require_eq_error_iff.mp h
      exact ⟨fun hok => hstale hok.1, iff_of_true rfl ⟨hsnap, not_not.mp hstale⟩⟩
    · obtain ⟨hdim, rfl⟩ := require_eq_error_iff.mp h
      refine ⟨fun hok => hdim hok.2, iff_of_false (by simp [Refusal.defer, buildDecision, primaryOutcomeOf]) ?_⟩
      exact fun hstale => require_eq_ok_iff.mp hfresh hstale.2
  · obtain ⟨hreq, rfl⟩ := require_eq_error_iff.mp h
    exact ⟨hreq, iff_of_false (by simp [Refusal.defer, buildDecision, primaryOutcomeOf])
      fun hstale => hsnap hstale.1⟩

theorem quotaGate_error (h : f.quotaGate now d fc = .error r) :
    ((f.classifyQuota d fc.demand).1 = .rejectQuota ∧ r.decision.outcome = .reject) ∨
      (f.classifyQuota d fc.demand).1 = .deferQuota ∧ r.decision.outcome = .defer := by
  rcases bind_eq_error_iff.mp h with h | ⟨_, -, h⟩
  · obtain ⟨hquota, rfl⟩ := require_eq_error_iff.mp h
    exact .inl ⟨not_not.mp hquota, rfl⟩
  rcases bind_eq_error_iff.mp h with h | ⟨_, -, h⟩
  · obtain ⟨hquota, rfl⟩ := require_eq_error_iff.mp h
    exact .inr ⟨not_not.mp hquota, rfl⟩
  · cases h

theorem sloGate_error (h : f.sloGate now d fc = .error r) :
    (f.evaluateSlo d fc.dur).verdict = .infeasible ∧ r.decision.outcome = .reject ∨
      (f.evaluateSlo d fc.dur).verdict = .unknown ∧ r.decision.outcome = .defer := by
  rcases bind_eq_error_iff.mp h with h | ⟨_, -, h⟩
  · obtain ⟨hverdict, rfl⟩ := require_eq_error_iff.mp h
    exact .inl ⟨not_not.mp hverdict, rfl⟩
  rcases bind_eq_error_iff.mp h with h | ⟨_, -, h⟩
  · obtain ⟨hverdict, rfl⟩ := require_eq_error_iff.mp h
    exact .inr ⟨not_not.mp hverdict, rfl⟩
  · cases h

theorem capacityGate_error (h : f.capacityGate now pol d fc slo = .error r) :
    r.decision.outcome = .defer := by
  rcases bind_eq_error_iff.mp h with h | ⟨_, -, h⟩
  · obtain ⟨-, rfl⟩ := require_eq_error_iff.mp h
    rfl
  · obtain ⟨-, rfl⟩ := require_eq_error_iff.mp h
    rfl

/-- A request that the gates turn away is rejected exactly when a rejecting check fails first. -/
theorem gates_error (h : f.gates now pol d = .error r) :
    r.decision.outcome = .reject ↔ f.Rejects now pol d := by
  rcases bind_eq_error_iff.mp h with h | ⟨_, hcap, h⟩
  · obtain ⟨hcap, rfl⟩ := require_eq_error_iff.mp h
    exact iff_of_true rfl (.inl (not_not.mp hcap))
  replace hcap := require_eq_ok_iff.mp hcap
  rcases bind_eq_error_iff.mp h with h | ⟨_, hsnap, h⟩
  · obtain ⟨hnot, hiff⟩ := snapshotGate_error h
    rw [hiff]
    exact ⟨fun hstale => .inr (.inl hstale), fun hrej => (hrej.resolve_left hcap).resolve_right
      fun hlate => hnot hlate.1⟩
  replace hsnap := snapshotGate_ok hsnap
  have hfresh : ¬ (f.hasSnapshot = true ∧ f.snapshot.isStaleAsOf now pol.maxSnapshotAge = true ∧
      pol.acceptStaleSnapshot = false) := by
    rintro ⟨hhas, hstale⟩
    rw [SnapshotAccepted, if_pos hhas] at hsnap
    exact hsnap.1 hstale
  -- Past the snapshot only the token budget and the deadline reject.
  have hrest : f.Rejects now pol d ↔
      (f.classifyQuota d (f.predictor.predictDemand d)).1 = .rejectQuota ∨
        (f.classifyQuota d (f.predictor.predictDemand d)).1 ≠ .deferQuota ∧
          (f.evaluateSlo d (f.predictor.predictDuration d)).verdict = .infeasible :=
    ⟨fun hrej => ((hrej.resolve_left hcap).resolve_left hfresh).2,
      fun hlate => .inr (.inr ⟨hsnap, hlate⟩)⟩
  rw [hrest]
  rcases bind_eq_error_iff.mp h with h | ⟨_, hquota, h⟩
  · rcases quotaGate_error h with ⟨hq, hout⟩ | ⟨hq, hout⟩
    · exact iff_of_true hout (.inl hq)
    · have hq' : (f.classifyQuota d (f.predictor.predictDemand d)).1 = .deferQuota := hq
      simp [hout, hq']
  have hpass := quotaGate_ok hquota
  replace hquota : (f.classifyQuota d (f.predictor.predictDemand d)).1 ≠ .rejectQuota ∧
      (f.classifyQuota d (f.predictor.predictDemand d)).1 ≠ .deferQuota := hpass
  rcases bind_eq_error_iff.mp h with h | ⟨_, hslo, h⟩
  · rcases sloGate_error h with ⟨hv, hout⟩ | ⟨hv, hout⟩
    · exact iff_of_true hout (.inr ⟨hquota.2, hv⟩)
    · have hv' : (f.evaluateSlo d (f.predictor.predictDuration d)).verdict = .unknown := hv
      simp [hout, hquota.1, hv']
  obtain ⟨rfl, hinf, -⟩ := sloGate_ok hslo
  replace hinf : (f.evaluateSlo d (f.predictor.predictDuration d)).verdict ≠ .infeasible := hinf
  rcases bind_eq_error_iff.mp h with h | ⟨_, -, h⟩
  · simp [capacityGate_error h, hquota.1, hinf]
  · cases h

/-- Under a policy, an evaluation past the entry checks rejects exactly when a rejecting check
fails first. -/
theorem reject_iff {base : AdmissionPolicy F} {u : Unit} (hentry : f.entryGate now d = .ok u)
    (hpol : f.policy.latest = some base) :
    (f.evaluate now d).1.outcome = .reject ↔ f.Rejects now (base.effective d) d := by
  have hsame : (f.prepared now d (base.effective d)).Rejects now (base.effective d) d ↔
      f.Rejects now (base.effective d) d := by
    obtain ⟨record, hprep⟩ := f.exists_prepared_eq now d (base.effective d)
    rw [hprep]
    rfl
  rw [← hsame]
  cases hgates : (f.prepared now d (base.effective d)).gates now (base.effective d) d with
  | error r =>
    rw [evaluate_of_entry_ok hentry hpol, hgates]
    exact gates_error hgates
  | ok c =>
    have hpass := gates_passes hgates
    have hnot : (f.evaluate now d).1.outcome ≠ .reject := by
      rcases outcome_of_gates_ok hentry hpol hgates with ⟨-, hout⟩ | ⟨hout, -⟩
      · simp [hout]
      · simp [hout]
    refine iff_of_false hnot ?_
    rintro (hcap | ⟨hhas, hstale⟩ | ⟨-, hquota | ⟨-, hv⟩⟩)
    · exact hpass.capability hcap
    · have hsnap := hpass.snapshot
      rw [SnapshotAccepted, if_pos hhas] at hsnap
      exact hsnap.1 hstale
    · have hq := hpass.quota.1
      rw [hpass.forecast] at hq
      exact hq hquota
    · have hinf := hpass.verdict.1
      rw [hpass.slo, hpass.forecast] at hinf
      exact hinf hv

/-! ## Lifecycles -/

/-- The record of `d` holds the decision, and its lifecycle is the one the decision stands
for. -/
def LifecycleFollows (f' : AdmissionFabric F) (d : AdmissionDescriptor F)
    (dec : AdmissionDecision F) : Prop :=
  ∃ record, f'.requests.find? d.admissionRequestId = some record ∧
    record.lastDecision = some dec ∧ record.lifecycle = dec.outcome.lifecycle

/-- The request neither clears the checks nor fails a rejecting one first. -/
def StaysDeferred (f : AdmissionFabric F) (now : TimePoint) (d : AdmissionDescriptor F) : Prop :=
  ∃ base, f.policy.latest = some base ∧ ¬ f.Clears now (base.effective d) d ∧
    ¬ f.Rejects now (base.effective d) d

/-- An evaluation settles the record of its request with its decision. -/
theorem settled_record (f : AdmissionFabric F) (now : TimePoint) (d : AdmissionDescriptor F) :
    ∃ base : RequestRecord F, base.lifecycle = .proposed ∧
      (f.evaluate now d).2.requests.find? d.admissionRequestId =
        some (((f.requests.find? d.admissionRequestId).getD base).settle now
          (f.evaluate now d).1.outcome.lifecycle (f.evaluate now d).1) := by
  by_cases h : f.Admissible now d
  · obtain ⟨a⟩ := h
    obtain ⟨dec, metrics, hout, -, -, heq⟩ := evaluate_of_admission a
    refine ⟨.fresh now d, rfl, ?_⟩
    rw [heq, hout]
    exact OrdMap.find?_insert_self _ _ _
  · obtain ⟨r, base, mode, allowance, counter, metrics, hproper, hbase, heq⟩ :=
      evaluate_of_not_admissible h
    have hlife : r.decision.outcome.lifecycle = r.life := by
      rcases hproper.outcome with ⟨hlife, hout⟩ | ⟨hlife, hout⟩ <;> rw [hlife, hout] <;> rfl
    refine ⟨base, hbase, ?_⟩
    rw [heq, hlife]
    exact OrdMap.find?_insert_self _ _ _

/-- An evaluation past the entry checks defers exactly when the request stays deferred. -/
theorem defer_iff {u : Unit} (hentry : f.entryGate now d = .ok u) :
    (f.evaluate now d).1.outcome = .defer ↔ f.StaysDeferred now d := by
  have hcases : (f.evaluate now d).1.outcome = .admitted ∨
      (f.evaluate now d).1.outcome = .reject ∨ (f.evaluate now d).1.outcome = .defer := by
    by_cases h : f.Admissible now d
    · exact .inl (admits_iff.mpr h)
    · obtain ⟨r, base, mode, allowance, counter, metrics, hproper, -, heq⟩ :=
        evaluate_of_not_admissible h
      rw [heq]
      exact .inr (hproper.outcome.imp And.right And.right)
  cases hpol : f.policy.latest with
  | none =>
    refine iff_of_false (by simp [(evaluate_of_no_policy hentry hpol).1]) ?_
    rintro ⟨base, hpol', -⟩
    cases hpol.symm.trans hpol'
  | some base =>
    have hadm : (f.evaluate now d).1.outcome = .admitted ↔ f.Clears now (base.effective d) d :=
      admits_iff_clears hpol
    have hrej := reject_iff hentry hpol
    constructor
    · intro hdefer
      exact ⟨base, hpol, fun h => by simp [hadm.mpr h] at hdefer,
        fun h => by simp [hrej.mpr h] at hdefer⟩
    · rintro ⟨base', hpol', hclears, hrejects⟩
      obtain rfl := Option.some.inj (hpol.symm.trans hpol')
      exact (hcases.resolve_left (mt hadm.mp hclears)).resolve_left (mt hrej.mp hrejects)

/-- The lifecycle follows the decision exactly when the record is not deferred, or stays so. -/
theorem lifecycle_follows_iff (f : AdmissionFabric F) (now : TimePoint)
    (d : AdmissionDescriptor F) (hvalid : d.validate.isOk = true)
    (hopen : ∀ record, f.requests.find? d.admissionRequestId = some record →
      record.lifecycle.isOpen = true) :
    (f.evaluate now d).2.LifecycleFollows d (f.evaluate now d).1 ↔
      (f.lifecycle? d.admissionRequestId = some .deferred → f.StaysDeferred now d) := by
  have hentry : f.entryGate now d = .ok () := entryGate_eq_ok_iff.mpr ⟨hvalid, hopen⟩
  obtain ⟨base, hbase, hrecord⟩ := settled_record f now d
  have hfollows : (f.evaluate now d).2.LifecycleFollows d (f.evaluate now d).1 ↔
      (((f.requests.find? d.admissionRequestId).getD base).settle now
        (f.evaluate now d).1.outcome.lifecycle (f.evaluate now d).1).lifecycle =
          (f.evaluate now d).1.outcome.lifecycle := by
    constructor
    · rintro ⟨record, hfind, -, hlife⟩
      obtain rfl := Option.some.inj (hrecord.symm.trans hfind)
      exact hlife
    · exact fun hlife => ⟨_, hrecord, RequestRecord.settle_lastDecision, hlife⟩
  rw [hfollows, ← defer_iff hentry]
  by_cases hdef : ((f.requests.find? d.admissionRequestId).getD base).lifecycle = .deferred
  · -- A deferred record keeps its lifecycle whatever is decided.
    obtain ⟨record, hfind⟩ : ∃ record, f.requests.find? d.admissionRequestId = some record := by
      cases hfind : f.requests.find? d.admissionRequestId with
      | none => simp [hfind, hbase] at hdef
      | some record => exact ⟨record, rfl⟩
    rw [RequestRecord.settle_lifecycle_of_old (by simp [hdef]), hdef]
    rw [hfind, Option.getD_some] at hdef
    have hlife : f.lifecycle? d.admissionRequestId = some .deferred := by
      rw [lifecycle?, request, hfind, Option.map_some, hdef]
    simp only [hlife, true_implies]
    cases (f.evaluate now d).1.outcome <;> simp [AdmissionOutcome.lifecycle]
  · have hnew : ((f.requests.find? d.admissionRequestId).getD base).lifecycle = .proposed ∨
        ((f.requests.find? d.admissionRequestId).getD base).lifecycle = .evaluating := by
      cases hfind : f.requests.find? d.admissionRequestId with
      | none => exact .inl (by simpa [hfind] using hbase)
      | some record =>
        have hlife := hopen record hfind
        rw [hfind] at hdef
        revert hdef hlife
        simp only [Option.getD_some]
        cases record.lifecycle <;> simp [RequestLifecycle.isOpen]
    refine iff_of_true (RequestRecord.settle_lifecycle_of_new hnew) fun hlife => absurd ?_ hdef
    obtain ⟨record, hfind, hrec⟩ := Option.map_eq_some_iff.mp hlife
    have hfind' : f.requests.find? d.admissionRequestId = some record := hfind
    rw [hfind']
    exact hrec

theorem lifecycle_follows_iff_sample :
    (((engine Binary64).after Sample.opening).evaluate 0 (Sample.descriptor 1)).2.LifecycleFollows
        (Sample.descriptor 1)
        (((engine Binary64).after Sample.opening).evaluate 0 (Sample.descriptor 1)).1 ↔
      (((engine Binary64).after Sample.opening).lifecycle? ⟨1⟩ = some .deferred →
        ((engine Binary64).after Sample.opening).StaysDeferred 0 (Sample.descriptor 1)) :=
  lifecycle_follows_iff _ 0 (Sample.descriptor 1) (by decide +kernel) fun record hfind => by
    have hnone : ((engine Binary64).after Sample.opening).requests.find? ⟨1⟩ = none := rfl
    cases hnone.symm.trans hfind

end AdmissionFabric

/-- A request is deferred for want of a snapshot, and then there is one. -/
def Sample.awaited : List (EngineCall Binary64) :=
  [⟨0, .installPolicy policy⟩, ⟨0, .evaluate (descriptor 1)⟩,
    ⟨0, .setSnapshot (snapshot 2000000000)⟩]

namespace AdmissionFabric

/-- A valid request whose record is deferred is admitted, and its record is still deferred. -/
theorem lifecycle_follows_fails : (Sample.descriptor 1).validate.isOk = true ∧
    ((engine Binary64).after Sample.awaited).lifecycle? ⟨1⟩ = some .deferred ∧
    ¬ (((engine Binary64).after Sample.awaited).evaluate 0 (Sample.descriptor 1)).2.LifecycleFollows
      (Sample.descriptor 1)
      (((engine Binary64).after Sample.awaited).evaluate 0 (Sample.descriptor 1)).1 := by
  refine ⟨by decide +kernel, by decide +kernel, ?_⟩
  rintro ⟨record, hfind, -, hlife⟩
  have hout : (((engine Binary64).after Sample.awaited).evaluate 0
      (Sample.descriptor 1)).1.outcome = .admitted := by
    decide +kernel
  have hdef : (((engine Binary64).after Sample.awaited).evaluate 0
      (Sample.descriptor 1)).2.lifecycle? ⟨1⟩ = some .deferred := by
    decide +kernel
  obtain ⟨record', hfind', hrec⟩ := Option.map_eq_some_iff.mp hdef
  obtain rfl := Option.some.inj (hfind.symm.trans hfind')
  rw [hout, hrec] at hlife
  cases hlife

end AdmissionFabric

end Fabric

import Fabric.Engine.Run
import Fabric.Reservation.Accounting

/-!
# What each operation of the engine can do

The operations of the engine, taken apart once. Each result is an equation for the engine
that the operation leaves behind, written as an update of the old one, so that everything
it does not mention is unchanged.

* `RequestRecord.settle`: what an evaluation makes of the record of its request.
* `Refusal.Proper`: a refusal stores a decision without reservation and generation. All
  gates return proper refusals (`entryGate_proper`, `gates_proper`).
* `evaluate_of_not_admissible`, `evaluate_of_admission`: the two ends of an evaluation.
* `CallEffect`: what a call can do to requests and reservations, one case for each way it
  can end; `call_effect`: every call has such an effect when the accounting is right.
* `accounting_next`: every call keeps the accounting right.
-/

namespace Fabric

open Support Support.Checks

variable {F : Type} [Double F]

/-! ## Records -/

namespace RequestRecord

/-- The record an evaluation leaves: the decision is stored in any case, the lifecycle moves
only out of the states before a first verdict. -/
def settle (r : RequestRecord F) (now : TimePoint) (life : RequestLifecycle)
    (dec : AdmissionDecision F) : RequestRecord F :=
  if r.lifecycle = .proposed ∨ r.lifecycle = .evaluating then
    { r with lifecycle := life, lastDecision := some dec, updatedAt := now }
  else { r with lastDecision := some dec }

/-- The record of a request that is seen for the first time and passed the entry checks. -/
def fresh (now : TimePoint) (d : AdmissionDescriptor F) : RequestRecord F :=
  { id := d.admissionRequestId, descriptor := d, createdAt := now, updatedAt := now }

variable {r : RequestRecord F} {now : TimePoint} {life : RequestLifecycle}
  {dec : AdmissionDecision F}

@[simp] theorem settle_lastDecision : (r.settle now life dec).lastDecision = some dec := by
  unfold settle
  split_ifs <;> rfl

@[simp] theorem settle_reservation? :
    (r.settle now life dec).reservation? = dec.reservationId := by
  simp [reservation?]

theorem settle_lifecycle_of_new (h : r.lifecycle = .proposed ∨ r.lifecycle = .evaluating) :
    (r.settle now life dec).lifecycle = life := by
  rw [settle, if_pos h]

theorem settle_lifecycle_of_old (h : ¬ (r.lifecycle = .proposed ∨ r.lifecycle = .evaluating)) :
    (r.settle now life dec).lifecycle = r.lifecycle := by
  rw [settle, if_neg h]

/-- Moving a record on to `evaluating` first does not change what settling makes of it. -/
theorem settle_evaluating (h : r.lifecycle = .proposed) :
    ({ r with lifecycle := .evaluating, updatedAt := now } : RequestRecord F).settle now life dec =
      r.settle now life dec := by
  rw [settle, settle, if_pos (.inr rfl), if_pos (.inl h)]

end RequestRecord

/-! ## Refusals -/

/-- The decision of a refusal holds nothing, and its outcome fits the lifecycle. -/
structure Refusal.Proper (r : Refusal F) : Prop where
  reservation : r.decision.reservationId = none
  generation : r.decision.admissionGeneration = ⟨0⟩
  outcome : r.life = .rejected ∧ r.decision.outcome = .reject ∨
    r.life = .deferred ∧ r.decision.outcome = .defer

theorem Refusal.proper_reject {dec : AdmissionDecision F} {count : Metrics → Metrics}
    (hres : dec.reservationId = none) (hgen : dec.admissionGeneration = ⟨0⟩)
    (hout : dec.outcome = .reject) : (Refusal.reject dec count).Proper :=
  ⟨hres, hgen, .inl ⟨rfl, hout⟩⟩

theorem Refusal.proper_defer {dec : AdmissionDecision F} {count : Metrics → Metrics}
    (hres : dec.reservationId = none) (hgen : dec.admissionGeneration = ⟨0⟩)
    (hout : dec.outcome = .defer) : (Refusal.defer dec count).Proper :=
  ⟨hres, hgen, .inr ⟨rfl, hout⟩⟩

theorem Refusal.Proper.not_admit {r : Refusal F} (h : r.Proper) : r.decision.isAdmit = false := by
  rcases h.outcome with ⟨-, ho⟩ | ⟨-, ho⟩ <;> simp [AdmissionDecision.isAdmit, ho]

namespace AdmissionFabric

variable {f : AdmissionFabric F} {now : TimePoint} {d : AdmissionDescriptor F} {r : Refusal F}

/-- The entry checks reject. -/
theorem entryGate_proper :
    FailsWith (fun r => r.Proper ∧ r.life = .rejected) (f.entryGate now d) := by
  refine .bind (.require ⟨Refusal.proper_reject rfl rfl rfl, rfl⟩) fun _ => ?_
  cases f.requests.find? d.admissionRequestId with
  | none => exact .ok ()
  | some record => exact .require ⟨Refusal.proper_reject rfl rfl rfl, rfl⟩

/-- The entry checks pass exactly for a valid descriptor whose request is new or open. -/
theorem entryGate_eq_ok_iff {u : Unit} : f.entryGate now d = .ok u ↔
    d.validate.isOk = true ∧
      ∀ record, f.requests.find? d.admissionRequestId = some record →
        record.lifecycle.isOpen = true := by
  rw [entryGate, bind_eq_ok_iff]
  simp only [require_eq_ok_iff, exists_const]
  refine and_congr_right fun _ => ?_
  cases f.requests.find? d.admissionRequestId with
  | none => simp
  | some record => simp [require_eq_ok_iff]

variable {pol : AdmissionPolicy F} {fc : Forecast F} {slo : SloFeasibility F}

theorem snapshotGate_proper : FailsWith Refusal.Proper (f.snapshotGate now pol d fc) := by
  unfold snapshotGate
  split_ifs
  · refine .bind (.require (Refusal.proper_reject rfl rfl rfl)) fun _ => ?_
    exact .require (Refusal.proper_defer rfl rfl rfl)
  · exact .require (Refusal.proper_defer rfl rfl rfl)

theorem quotaGate_proper : FailsWith Refusal.Proper (f.quotaGate now d fc) := by
  refine .bind (.require (Refusal.proper_reject rfl rfl rfl)) fun _ => ?_
  exact .bind (.require (Refusal.proper_defer rfl rfl rfl)) fun _ => .ok _

theorem sloGate_proper : FailsWith Refusal.Proper (f.sloGate now d fc) := by
  refine .bind (.require (Refusal.proper_reject rfl rfl rfl)) fun _ => ?_
  exact .bind (.require (Refusal.proper_defer rfl rfl rfl)) fun _ => .ok _

theorem capacityGate_proper : FailsWith Refusal.Proper (f.capacityGate now pol d fc slo) := by
  refine .bind (.require (Refusal.proper_defer rfl rfl rfl)) fun _ => ?_
  exact .require (Refusal.proper_defer rfl rfl rfl)

theorem gates_proper : FailsWith Refusal.Proper (f.gates now pol d) := by
  refine .bind (.require (Refusal.proper_reject rfl rfl rfl)) fun _ => ?_
  refine .bind snapshotGate_proper fun _ => ?_
  refine .bind quotaGate_proper fun _ => ?_
  refine .bind sloGate_proper fun _ => ?_
  exact .bind capacityGate_proper fun _ => .ok _

/-! ## Storing a decision -/

/-- `emit` settles the record of the request and counts; the rest stays. -/
theorem emit_eq (f : AdmissionFabric F) (now : TimePoint) (d : AdmissionDescriptor F)
    (life : RequestLifecycle) (dec : AdmissionDecision F) (b : Bool) :
    f.emit now d life dec b = { f with
      requests := f.requests.insert d.admissionRequestId
        (((f.requests.find? d.admissionRequestId).getD {}).settle now life dec)
      metrics := (if b then { f.metrics with admissions := f.metrics.admissions + 1 }
        else f.metrics).countReason dec.reason } := by
  generalize hbase : (f.requests.find? d.admissionRequestId).getD {} = base
  have hstore : f.storeDecision d.admissionRequestId dec = { f with
      requests := f.requests.insert d.admissionRequestId
        { base with lastDecision := some dec } } := by
    rw [storeDecision, hbase]
  unfold emit
  simp only [hstore]
  by_cases hp : base.lifecycle = .proposed
  · simp [transition, hp, OrdMap.insert_insert, RequestRecord.settle]
  · by_cases he : base.lifecycle = .evaluating
    · simp [transition, he, OrdMap.insert_insert, RequestRecord.settle]
    · simp [transition, hp, he, RequestRecord.settle]

theorem refuse_eq (f : AdmissionFabric F) (now : TimePoint) (d : AdmissionDescriptor F)
    (r : Refusal F) :
    f.refuse now d r = (r.decision, { f with
      requests := f.requests.insert d.admissionRequestId
        (((f.requests.find? d.admissionRequestId).getD {}).settle now r.life r.decision)
      metrics := r.count (f.metrics.countReason r.decision.reason) }) := by
  rw [refuse, emit_eq]
  rfl

/-- The lifecycle entry of an evaluation prepares the record without changing what settling
makes of it. -/
theorem transition_evaluating (f : AdmissionFabric F) (now : TimePoint)
    (d : AdmissionDescriptor F) :
    ∃ record, (f.transition now d.admissionRequestId .proposed .evaluating d).2 =
        { f with requests := f.requests.insert d.admissionRequestId record } ∧
      ∀ life dec, record.settle now life dec =
        ((f.requests.find? d.admissionRequestId).getD (.fresh now d)).settle now life dec := by
  generalize hbase : (f.requests.find? d.admissionRequestId).getD (.fresh now d) = base
  have htrans : f.transition now d.admissionRequestId .proposed .evaluating d =
      if base.lifecycle = .proposed then
        (.success, { f with
          requests := f.requests.insert d.admissionRequestId
            { base with lifecycle := .evaluating, updatedAt := now } })
      else (.failure .operationNotPermitted "illegal lifecycle transition", f) := by
    subst hbase
    rfl
  rw [htrans]
  split_ifs with hp
  · exact ⟨_, rfl, fun life dec => RequestRecord.settle_evaluating hp⟩
  · refine ⟨base, ?_, fun _ _ => rfl⟩
    -- A record that is not `proposed` was there before.
    cases hfind : f.requests.find? d.admissionRequestId with
    | none =>
      rw [hfind] at hbase
      exact absurd (hbase ▸ rfl) hp
    | some record =>
      obtain rfl : record = base := by simpa [hfind] using hbase
      rw [OrdMap.insert_eq_self hfind]

/-! ## Evaluations -/

/-- The engine as the gates see it: the record entered, the effective policy bound. -/
def prepared (f : AdmissionFabric F) (now : TimePoint) (d : AdmissionDescriptor F)
    (pol : AdmissionPolicy F) : AdmissionFabric F :=
  (f.countEvaluation.transition now d.admissionRequestId .proposed .evaluating d).2.bindOvercommit
    pol

/-- All checks of an evaluation pass: the entry checks, the gates under the effective policy
and the checks of the reservation. -/
structure Admission (f : AdmissionFabric F) (now : TimePoint) (d : AdmissionDescriptor F) where
  base : AdmissionPolicy F
  clearance : Clearance F
  reserved : ResourceVector
  valid : d.validate.isOk = true
  isOpen : ∀ record, f.requests.find? d.admissionRequestId = some record →
    record.lifecycle.isOpen = true
  policy : f.policy.latest = some base
  gates : (f.prepared now d (base.effective d)).gates now (base.effective d) d = .ok clearance
  fits : (f.prepared now d (base.effective d)).reservations.reserveCheck ⟨f.reservationCounter⟩
    clearance.forecast.demand = .ok reserved

/-- Every check of an evaluation passes. -/
def Admissible (f : AdmissionFabric F) (now : TimePoint) (d : AdmissionDescriptor F) : Prop :=
  Nonempty (f.Admission now d)

/-- An evaluation that fails an entry check rejects, and changes the record only. -/
theorem evaluate_of_entry_error (h : f.entryGate now d = .error r) :
    r.Proper ∧ r.life = .rejected ∧ ∃ metrics, f.evaluate now d = (r.decision, { f with
      requests := f.requests.insert d.admissionRequestId
        (((f.requests.find? d.admissionRequestId).getD {}).settle now .rejected r.decision)
      metrics }) := by
  obtain ⟨hproper, hlife⟩ := entryGate_proper r h
  have hentry : f.countEvaluation.entryGate now d = .error r := h
  refine ⟨hproper, hlife, r.count (f.countEvaluation.metrics.countReason r.decision.reason), ?_⟩
  rw [evaluate]
  simp only [hentry]
  rw [refuse_eq, hlife]
  rfl

/-- The same for a request that is not new or open. -/
theorem evaluate_of_closed (now : TimePoint) {record : RequestRecord F}
    (hfind : f.requests.find? d.admissionRequestId = some record)
    (hclosed : record.lifecycle.isOpen = false) :
    ∃ (r : Refusal F) (metrics : Metrics), r.Proper ∧ r.life = .rejected ∧
      f.evaluate now d = (r.decision, { f with
        requests := f.requests.insert d.admissionRequestId
          (record.settle now .rejected r.decision)
        metrics }) := by
  cases hentry : f.entryGate now d with
  | ok u => simp [(entryGate_eq_ok_iff.mp hentry).2 record hfind] at hclosed
  | error r =>
    obtain ⟨hproper, hlife, metrics, heq⟩ := evaluate_of_entry_error hentry
    rw [hfind, Option.getD_some] at heq
    exact ⟨r, metrics, hproper, hlife, heq⟩

/-- Storing a decision after the lifecycle entry settles the record as it was before. -/
theorem settle_entered {g : AdmissionFabric F} {record : RequestRecord F}
    (hg : g.requests = f.requests.insert d.admissionRequestId record)
    (hsettle : ∀ life dec, record.settle now life dec =
      ((f.requests.find? d.admissionRequestId).getD (.fresh now d)).settle now life dec)
    (life : RequestLifecycle) (dec : AdmissionDecision F) :
    g.requests.insert d.admissionRequestId
        (((g.requests.find? d.admissionRequestId).getD {}).settle now life dec) =
      f.requests.insert d.admissionRequestId
        (((f.requests.find? d.admissionRequestId).getD (.fresh now d)).settle now life dec) := by
  rw [hg, OrdMap.find?_insert_self, OrdMap.insert_insert, Option.getD_some, hsettle]

/-- The prepared engine in terms of the entered record. -/
theorem prepared_eq {record : RequestRecord F} (pol : AdmissionPolicy F)
    (htrans : (f.countEvaluation.transition now d.admissionRequestId .proposed .evaluating d).2 =
      { f.countEvaluation with
        requests := f.countEvaluation.requests.insert d.admissionRequestId record }) :
    f.prepared now d pol = { f.countEvaluation with
      requests := f.requests.insert d.admissionRequestId record
      reservations := { f.reservations with
        overcommitMode := pol.overcommit
        overcommitAllowance := pol.boundAllowance } } := by
  rw [prepared, htrans]
  rfl

/-- Preparing an evaluation enters a record and binds the overcommit settings. -/
theorem exists_prepared_eq (f : AdmissionFabric F) (now : TimePoint) (d : AdmissionDescriptor F)
    (pol : AdmissionPolicy F) : ∃ record, f.prepared now d pol = { f.countEvaluation with
      requests := f.requests.insert d.admissionRequestId record
      reservations := { f.reservations with
        overcommitMode := pol.overcommit
        overcommitAllowance := pol.boundAllowance } } := by
  obtain ⟨record, htrans, -⟩ := transition_evaluating f.countEvaluation now d
  exact ⟨record, prepared_eq pol htrans⟩

theorem prepared_reservations (f : AdmissionFabric F) (now : TimePoint)
    (d : AdmissionDescriptor F) (pol : AdmissionPolicy F) :
    (f.prepared now d pol).reservations = { f.reservations with
      overcommitMode := pol.overcommit
      overcommitAllowance := pol.boundAllowance } := by
  obtain ⟨record, hprep⟩ := f.exists_prepared_eq now d pol
  rw [hprep]

theorem prepared_reservationCounter (f : AdmissionFabric F) (now : TimePoint)
    (d : AdmissionDescriptor F) (pol : AdmissionPolicy F) :
    (f.prepared now d pol).reservationCounter = f.reservationCounter := by
  obtain ⟨record, hprep⟩ := f.exists_prepared_eq now d pol
  rw [hprep]
  rfl

/-- An evaluation past the entry checks, in terms of the prepared engine. -/
theorem evaluate_of_entry_ok {u : Unit} (hentry : f.entryGate now d = .ok u)
    {base : AdmissionPolicy F} (hpol : f.policy.latest = some base) :
    f.evaluate now d =
      match (f.prepared now d (base.effective d)).gates now (base.effective d) d with
      | .error r => (f.prepared now d (base.effective d)).refuse now d r
      | .ok c => (f.prepared now d (base.effective d)).reserveAndAdmit now (base.effective d) d c := by
  obtain ⟨record, htrans, -⟩ := transition_evaluating f.countEvaluation now d
  have hentry' : f.countEvaluation.entryGate now d = .ok u := hentry
  have hpol' : (f.countEvaluation.transition now d.admissionRequestId .proposed .evaluating
      d).2.policy.latest = some base := by
    rw [htrans]
    exact hpol
  rw [evaluate]
  simp only [hentry']
  rw [evaluateOpen]
  simp only [hpol']
  rfl

/-- A request whose reservation fails is deferred, and the reservation number is used up. -/
theorem evaluate_of_reserve_error {u : Unit} (hentry : f.entryGate now d = .ok u)
    {base : AdmissionPolicy F} (hpol : f.policy.latest = some base) {c : Clearance F} {s : Status}
    (hgates : (f.prepared now d (base.effective d)).gates now (base.effective d) d = .ok c)
    (hcheck : (f.prepared now d (base.effective d)).reservations.reserveCheck
      ⟨f.reservationCounter⟩ c.forecast.demand = .error s) :
    ∃ g : AdmissionFabric F, g = { f.prepared now d (base.effective d) with
        reservationCounter := (f.prepared now d (base.effective d)).nextReservationCounter } ∧
      f.evaluate now d = g.refuse now d (g.reservationRefusal now d c s) := by
  refine ⟨_, rfl, ?_⟩
  rw [evaluate_of_entry_ok hentry hpol, hgates]
  simp only
  rw [reserveAndAdmit, prepared_reservationCounter]
  simp only [ReservationManager.reserve, hcheck]

/-- Without a policy a request past the entry checks is entered and rejected. -/
theorem evaluate_eq_of_no_policy {u : Unit} (hentry : f.entryGate now d = .ok u)
    (hpol : f.policy.latest = none) {g : AdmissionFabric F}
    (hg : (f.countEvaluation.transition now d.admissionRequestId .proposed .evaluating d).2 = g) :
    f.evaluate now d = g.refuse now d (.reject
      { g.buildDecision now d .rejectPolicy with explanation := ascii "no policy installed" }) := by
  obtain ⟨record, htrans, -⟩ := transition_evaluating f.countEvaluation now d
  have hentry' : f.countEvaluation.entryGate now d = .ok u := hentry
  have hpol' : g.policy.latest = none := by
    rw [← hg, htrans]
    exact hpol
  rw [evaluate]
  simp only [hentry']
  rw [hg, evaluateOpen]
  simp only [hpol']

theorem evaluate_of_no_policy {u : Unit} (hentry : f.entryGate now d = .ok u)
    (hpol : f.policy.latest = none) : (f.evaluate now d).1.outcome = .reject ∧
      (f.evaluate now d).1.reason = .rejectPolicy := by
  rw [evaluate_eq_of_no_policy hentry hpol rfl, refuse_eq]
  exact ⟨rfl, rfl⟩

/-- An evaluation that is refused stores a proper refusal; it may bind other overcommit
settings and use up a reservation number. -/
theorem evaluate_of_not_admissible (h : ¬ f.Admissible now d) :
    ∃ (r : Refusal F) (base : RequestRecord F) (mode : OvercommitMode)
      (allowance : ResourceVector) (counter : UInt64) (metrics : Metrics),
      r.Proper ∧ base.lifecycle = .proposed ∧
      f.evaluate now d = (r.decision, { f with
        requests := f.requests.insert d.admissionRequestId
          (((f.requests.find? d.admissionRequestId).getD base).settle now r.life r.decision)
        reservations := { f.reservations with
          overcommitMode := mode, overcommitAllowance := allowance }
        reservationCounter := counter
        metrics }) := by
  cases hentry : f.entryGate now d with
  | error r =>
    obtain ⟨hproper, hlife, metrics, heq⟩ := evaluate_of_entry_error hentry
    exact ⟨r, {}, _, _, _, metrics, hproper, rfl, by rw [heq, hlife]⟩
  | ok u =>
    obtain ⟨hvalid, hopen⟩ := entryGate_eq_ok_iff.mp hentry
    obtain ⟨record, htrans, hsettle⟩ := transition_evaluating f.countEvaluation now d
    cases hpol : f.policy.latest with
    | none =>
      rw [evaluate_eq_of_no_policy hentry hpol rfl, htrans, refuse_eq, settle_entered rfl hsettle]
      exact ⟨_, .fresh now d, _, _, _, _, Refusal.proper_reject rfl rfl rfl, rfl, rfl⟩
    | some base =>
      have hprep := prepared_eq (base.effective d) htrans
      cases hgates : (f.prepared now d (base.effective d)).gates now (base.effective d) d with
      | error r =>
        rw [evaluate_of_entry_ok hentry hpol, hgates]
        simp only
        rw [refuse_eq, settle_entered (by rw [hprep]; rfl) hsettle, hprep]
        exact ⟨r, .fresh now d, _, _, _, _, gates_proper r hgates, rfl, rfl⟩
      | ok c =>
        cases hcheck : (f.prepared now d (base.effective d)).reservations.reserveCheck
            ⟨f.reservationCounter⟩ c.forecast.demand with
        | ok next => exact absurd ⟨base, c, next, hvalid, hopen, hpol, hgates, hcheck⟩ h
        | error s =>
          obtain ⟨g, hg, heq⟩ := evaluate_of_reserve_error hentry hpol hgates hcheck
          rw [hprep] at hg
          rw [heq, refuse_eq, settle_entered (by rw [hg]; rfl) hsettle, hg]
          exact ⟨_, .fresh now d, _, _, _, _, Refusal.proper_defer rfl rfl rfl, rfl, rfl⟩

/-- An evaluation whose checks all pass reserves the demand and stores an admit decision that
names the new entry under a new generation. -/
theorem evaluate_of_admission (a : f.Admission now d) :
    ∃ (dec : AdmissionDecision F) (metrics : Metrics),
      dec.outcome = .admitted ∧ dec.reservationId = some ⟨f.reservationCounter⟩ ∧
      dec.admissionGeneration = f.admissionGeneration ∧
      f.evaluate now d = (dec, { f with
        requests := f.requests.insert d.admissionRequestId
          (((f.requests.find? d.admissionRequestId).getD (.fresh now d)).settle now .reserved dec)
        reservations := { f.reservations with
          overcommitMode := (a.base.effective d).overcommit
          overcommitAllowance := (a.base.effective d).boundAllowance
          reservedSum := a.reserved
          generation := f.reservations.nextGeneration
          reservations := f.reservations.reservations.insert ⟨f.reservationCounter⟩
            (f.reservations.provisional now ⟨f.reservationCounter⟩ d.tenantId
              a.clearance.forecast.demand (a.base.effective d).maxReservationLifetime) }
        admissionGeneration := f.admissionGeneration.next
        reservationCounter := f.nextReservationCounter
        metrics }) := by
  have hentry : f.entryGate now d = .ok () := entryGate_eq_ok_iff.mpr ⟨a.valid, a.isOpen⟩
  obtain ⟨record, htrans, hsettle⟩ := transition_evaluating f.countEvaluation now d
  have hprep := prepared_eq (a.base.effective d) htrans
  rw [evaluate_of_entry_ok hentry a.policy, a.gates]
  simp only
  rw [reserveAndAdmit, prepared_reservationCounter]
  simp only [ReservationManager.reserve, a.fits]
  rw [emit_eq, settle_entered (by rw [hprep]; rfl) hsettle, hprep]
  refine ⟨_, _, ?_, rfl, rfl, rfl⟩
  unfold admitDecision
  simp only [buildDecision]
  split_ifs <;> rfl

end AdmissionFabric

/-! ## The effect of a call -/

/-- The operations that concern neither a request nor a reservation. -/
def EngineOp.IsConfiguration : EngineOp F → Prop
  | .evaluate _ | .commit .. | .release _ | .cancel _ => False
  | _ => True

/-- The descriptor of an evaluation. -/
def EngineOp.descriptor? : EngineOp F → Option (AdmissionDescriptor F)
  | .evaluate d => some d
  | _ => none

theorem EngineOp.IsConfiguration.descriptor? {op : EngineOp F} (h : op.IsConfiguration) :
    op.descriptor? = none := by
  cases op <;> first | rfl | exact absurd h id

namespace AdmissionFabric

/-- The reservation table. -/
abbrev table (f : AdmissionFabric F) : OrdMap ReservationId ResourceReservation :=
  f.reservations.reservations

/-- Requests, reservations and the generation counter are as before. -/
structure Kept (f f' : AdmissionFabric F) : Prop where
  requests : f'.requests = f.requests
  table : f'.table = f.table
  generation : f'.admissionGeneration = f.admissionGeneration

/-- What a call can do, and what it answers. -/
inductive CallEffect (f : AdmissionFabric F) (c : EngineCall F) (reply : EngineReply F)
    (f' : AdmissionFabric F) : Prop
  /-- An operation on policies, profiles, capacity or fairness. -/
  | configured (hop : c.op.IsConfiguration) (hkept : f.Kept f')
  /-- A commit, release or cancel that fails and changes nothing. Such a commit does not
  address a provisional entry. -/
  | failed (s : Status) (hop : c.op.descriptor? = none) (hreply : reply = .status s)
      (hs : s.isOk = false) (hkept : f.Kept f')
      (hcommit : ∀ x g record dec rid r, c.op = .commit x g → f.requests.find? x = some record →
        record.lastDecision = some dec → dec.admissionGeneration = g →
        dec.reservationId = some rid → f.table.find? rid = some r → r.status ≠ .reserved)
  /-- An evaluation that admits nothing. -/
  | refused (d : AdmissionDescriptor F) (r : Refusal F) (base : RequestRecord F)
      (hop : c.op = .evaluate d) (hreply : reply = .decision r.decision)
      (hnot : ¬ f.Admissible c.now d) (hproper : r.Proper) (hbase : base.lifecycle = .proposed)
      (hrequests : f'.requests = f.requests.insert d.admissionRequestId
        (((f.requests.find? d.admissionRequestId).getD base).settle c.now r.life r.decision))
      (htable : f'.table = f.table) (hgen : f'.admissionGeneration = f.admissionGeneration)
  /-- An evaluation that admits. -/
  | admitted (d : AdmissionDescriptor F) (a : f.Admission c.now d) (dec : AdmissionDecision F)
      (rid : ReservationId) (entry : ResourceReservation)
      (hop : c.op = .evaluate d) (hreply : reply = .decision dec) (hout : dec.outcome = .admitted)
      (hrid : dec.reservationId = some rid)
      (hdec : dec.admissionGeneration = f.admissionGeneration)
      (hnew : f.table.find? rid = none) (hstatus : entry.status = .reserved)
      (hid : entry.id = rid) (hdemand : entry.demand = a.clearance.forecast.demand)
      (hrequests : f'.requests = f.requests.insert d.admissionRequestId
        (((f.requests.find? d.admissionRequestId).getD (.fresh c.now d)).settle c.now
          .reserved dec))
      (htable : f'.table = f.table.insert rid entry)
      (hgen : f'.admissionGeneration = f.admissionGeneration.next)
  /-- A commit that succeeds. -/
  | committed (x : AdmissionRequestId) (g : AdmissionGeneration) (record : RequestRecord F)
      (dec : AdmissionDecision F) (rid : ReservationId) (r : ResourceReservation)
      (hop : c.op = .commit x g) (hreply : reply = .status .success)
      (hfind : f.requests.find? x = some record) (hdec : record.lastDecision = some dec)
      (hg : dec.admissionGeneration = g) (hrid : dec.reservationId = some rid)
      (hr : f.table.find? rid = some r) (hstatus : r.status = .reserved)
      (htime : ¬ c.now > r.expiresAt)
      (hrequests : f'.requests = f.requests.insert x
        { record with lifecycle := .admitted, updatedAt := c.now })
      (htable : f'.table = f.table.insert rid
        { r with
          status := .committed
          admissionRequestId := some x
          admissionGeneration := some g })
      (hgen : f'.admissionGeneration = f.admissionGeneration)
  /-- A commit that comes too late and expires the reservation. -/
  | lapsed (x : AdmissionRequestId) (g : AdmissionGeneration) (record : RequestRecord F)
      (dec : AdmissionDecision F) (rid : ReservationId) (r : ResourceReservation) (s : Status)
      (hop : c.op = .commit x g) (hreply : reply = .status s) (hs : s.isOk = false)
      (hfind : f.requests.find? x = some record) (hdec : record.lastDecision = some dec)
      (hg : dec.admissionGeneration = g) (hrid : dec.reservationId = some rid)
      (hr : f.table.find? rid = some r) (hstatus : r.status = .reserved)
      (htime : c.now > r.expiresAt) (hrequests : f'.requests = f.requests)
      (htable : f'.table = f.table.insert rid { r with status := .expired })
      (hgen : f'.admissionGeneration = f.admissionGeneration)
  /-- A release of a known reservation. -/
  | released (rid : ReservationId) (r : ResourceReservation) (st : ReservationStatus)
      (hop : c.op = .release rid) (hreply : reply = .status .success)
      (hr : f.table.find? rid = some r) (hst : st = .released ∨ st = .rolledBack)
      (hrequests : f'.requests = f.requests.mapValues fun _ record =>
        releaseRecord c.now rid record)
      (htable : f'.table = f.table.insert rid { r with status := st })
      (hgen : f'.admissionGeneration = f.admissionGeneration)
  /-- A cancel of a request without a provisional reservation to return. -/
  | cancelled (x : AdmissionRequestId) (record : RequestRecord F)
      (hop : c.op = .cancel x) (hreply : reply = .status .success)
      (hfind : f.requests.find? x = some record)
      (hlife : record.lifecycle.isOpen = true ∨ record.lifecycle = .reserved ∧
        ∀ rid r, record.reservation? = some rid → f.table.find? rid = some r →
          r.status ≠ .reserved)
      (hrequests : f'.requests = f.requests.insert x
        { record with lifecycle := .cancelled, updatedAt := c.now })
      (htable : f'.table = f.table) (hgen : f'.admissionGeneration = f.admissionGeneration)
  /-- A cancel that returns the provisional reservation of its request. -/
  | rolledBack (x : AdmissionRequestId) (record : RequestRecord F) (rid : ReservationId)
      (r : ResourceReservation) (hop : c.op = .cancel x) (hreply : reply = .status .success)
      (hfind : f.requests.find? x = some record) (hlife : record.lifecycle = .reserved)
      (hrid : record.reservation? = some rid) (hr : f.table.find? rid = some r)
      (hstatus : r.status = .reserved)
      (hrequests : f'.requests = f.requests.insert x
        { record with lifecycle := .cancelled, updatedAt := c.now })
      (htable : f'.table = f.table.insert rid { r with status := .rolledBack })
      (hgen : f'.admissionGeneration = f.admissionGeneration)

variable {f : AdmissionFabric F}

theorem effect_evaluate (f : AdmissionFabric F) (now : TimePoint) (d : AdmissionDescriptor F) :
    f.CallEffect ⟨now, .evaluate d⟩ (.decision (f.evaluate now d).1) (f.evaluate now d).2 := by
  by_cases h : f.Admissible now d
  · obtain ⟨a⟩ := h
    obtain ⟨dec, metrics, hout, hrid, hgen, heq⟩ := evaluate_of_admission a
    rw [heq]
    have hfits := a.fits
    rw [prepared_reservations] at hfits
    have hnew := (ReservationManager.reserveCheck_eq_ok_iff.mp hfits).1
    exact .admitted d a dec _ _ rfl rfl hout hrid hgen hnew rfl rfl rfl rfl rfl rfl
  · obtain ⟨r, base, mode, allowance, counter, metrics, hproper, hbase, heq⟩ :=
      evaluate_of_not_admissible h
    rw [heq]
    exact .refused d r base rfl rfl h hproper hbase rfl rfl rfl

theorem effect_commit (hacc : f.reservations.Accounting) (now : TimePoint)
    (x : AdmissionRequestId) (g : AdmissionGeneration) :
    f.CallEffect ⟨now, .commit x g⟩ (.status (f.commitAdmission now x g).1)
      (f.commitAdmission now x g).2 := by
  -- A failing commit stops at the record, the decision, the generation or the entry.
  have fails : ∀ s : Status, s.isOk = false →
      (∀ record dec rid r, f.requests.find? x = some record → record.lastDecision = some dec →
        dec.admissionGeneration = g → dec.reservationId = some rid →
        f.table.find? rid = some r → r.status ≠ .reserved) →
      f.CallEffect ⟨now, .commit x g⟩ (.status s) f := by
    refine fun s hs h => .failed s rfl rfl hs ⟨rfl, rfl, rfl⟩ fun x' g' record dec rid r hop => ?_
    obtain ⟨rfl, rfl⟩ : x = x' ∧ g = g' := by simpa using hop
    exact h record dec rid r
  unfold commitAdmission
  cases hfind : f.requests.find? x with
  | none => exact fails _ rfl (by simp [hfind])
  | some record =>
    simp only
    cases hdec : record.lastDecision with
    | none =>
      refine fails _ rfl fun record' dec rid r hfind' hdec' => ?_
      obtain rfl := Option.some.inj (hfind.symm.trans hfind')
      cases hdec.symm.trans hdec'
    | some dec =>
      simp only
      split_ifs with hg
      · refine fails _ rfl fun record' dec' rid r hfind' hdec' hg' => ?_
        obtain rfl := Option.some.inj (hfind.symm.trans hfind')
        obtain rfl := Option.some.inj (hdec.symm.trans hdec')
        exact absurd hg' hg
      · cases hrid : dec.reservationId with
        | none =>
          refine fails _ rfl fun record' dec' rid r hfind' hdec' _ hrid' => ?_
          obtain rfl := Option.some.inj (hfind.symm.trans hfind')
          obtain rfl := Option.some.inj (hdec.symm.trans hdec')
          cases hrid.symm.trans hrid'
        | some rid =>
          simp only
          rcases ReservationManager.commit_cases hacc now rid x g with ⟨s, h, hcode, hnot⟩ |
            ⟨r, r2, hr, hstatus, htime, -, h⟩ | ⟨r, r2, u2, hr, hstatus, htime, -, -, h⟩
          · have hs : s.isOk = false := by
              cases hok : s.isOk with
              | false => rfl
              | true =>
                rw [Status.isOk_iff.mp hok] at hcode
                simp at hcode
            rw [h]
            simp only [hs, if_true]
            refine fails s hs fun record' dec' rid' r hfind' hdec' _ hrid' hr => ?_
            obtain rfl := Option.some.inj (hfind.symm.trans hfind')
            obtain rfl := Option.some.inj (hdec.symm.trans hdec')
            obtain rfl := Option.some.inj (hrid.symm.trans hrid')
            exact hnot r hr
          · rw [h]
            exact .lapsed x g record dec rid r _ rfl rfl rfl hfind hdec (not_not.mp hg) hrid hr
              hstatus htime rfl rfl rfl
          · rw [h]
            simp only [Status.isOk_success, Bool.true_eq_false, if_false]
            exact .committed x g record dec rid r rfl rfl hfind hdec (not_not.mp hg) hrid hr
              hstatus htime (by rw [hdec]) rfl rfl

theorem effect_release (hacc : f.reservations.Accounting) (now : TimePoint)
    (rid : ReservationId) :
    f.CallEffect ⟨now, .release rid⟩ (.status (f.releaseReservation now rid).1)
      (f.releaseReservation now rid).2 := by
  unfold releaseReservation
  rcases ReservationManager.release_cases hacc rid with ⟨-, h⟩ | ⟨r, hr, hst, h⟩ |
    ⟨r, r2, u2, hr, -, h⟩
  · rw [h]
    exact .failed _ rfl rfl rfl ⟨rfl, rfl, rfl⟩ fun _ _ _ _ _ _ h => by simp at h
  · rw [h]
    simp only [Status.isOk_success, Bool.true_eq_false, if_false]
    exact .released rid r r.status rfl rfl hr hst rfl (OrdMap.insert_eq_self hr).symm rfl
  · rw [h]
    simp only [Status.isOk_success, Bool.true_eq_false, if_false]
    exact .released rid r .released rfl rfl hr (.inl rfl) rfl rfl rfl

theorem effect_cancel (hacc : f.reservations.Accounting) (now : TimePoint)
    (x : AdmissionRequestId) :
    f.CallEffect ⟨now, .cancel x⟩ (.status (f.cancelRequest now x).1)
      (f.cancelRequest now x).2 := by
  unfold cancelRequest
  cases hfind : f.requests.find? x with
  | none => exact .failed _ rfl rfl rfl ⟨rfl, rfl, rfl⟩ fun _ _ _ _ _ _ h => by simp at h
  | some record =>
    simp only
    cases hlife : record.lifecycle with
    | proposed | evaluating | deferred =>
      exact .cancelled x record rfl rfl hfind (.inl (by rw [hlife]; rfl)) rfl rfl rfl
    | admitted | unknown | released | rejected | expired | cancelled =>
      exact .failed _ rfl rfl rfl ⟨rfl, rfl, rfl⟩ fun _ _ _ _ _ _ h => by simp at h
    | reserved =>
      simp only
      cases hrid : record.reservation? with
      | none =>
        exact .cancelled x record rfl rfl hfind (.inr ⟨hlife, by simp [hrid]⟩) rfl rfl rfl
      | some rid =>
        simp only
        rcases ReservationManager.rollback_cases hacc rid with ⟨s, h, -, hnot⟩ |
          ⟨r, r2, hr, hstatus, -, h⟩
        · rw [h]
          refine .cancelled x record rfl rfl hfind (.inr ⟨hlife, ?_⟩) rfl rfl rfl
          rintro rid' r hrid' hr
          obtain rfl := Option.some.inj (hrid.symm.trans hrid')
          exact hnot r hr
        · rw [h]
          exact .rolledBack x record rid r rfl rfl hfind hlife hrid hr hstatus rfl rfl rfl

/-- Every call has one of the effects. -/
theorem call_effect (hacc : f.reservations.Accounting) (c : EngineCall F) :
    f.CallEffect c (f.call c).1 (f.call c).2 := by
  obtain ⟨now, op⟩ := c
  cases op with
  | evaluate d => exact effect_evaluate f now d
  | commit x g => exact effect_commit hacc now x g
  | release rid => exact effect_release hacc now rid
  | cancel x => exact effect_cancel hacc now x
  | installPolicy p =>
    refine .configured trivial ?_
    simp only [call, installPolicy]
    split_ifs
    · exact ⟨rfl, rfl, rfl⟩
    · split <;> exact ⟨rfl, rfl, rfl⟩
  | registerProfile | setSnapshot | setQuota | observe | setTenantWeight | noteAdmission
  | noteDeferral | noteRejection | noteCompletion | noteAdmissionStarted =>
    exact .configured trivial ⟨rfl, rfl, rfl⟩

/-! ## Accounting -/

theorem accounting_evaluate (hacc : f.reservations.Accounting) (now : TimePoint)
    (d : AdmissionDescriptor F) : (f.evaluate now d).2.reservations.Accounting := by
  by_cases h : f.Admissible now d
  · obtain ⟨a⟩ := h
    obtain ⟨dec, metrics, -, -, -, heq⟩ := evaluate_of_admission a
    rw [heq]
    have hfits := a.fits
    rw [prepared_reservations] at hfits
    obtain ⟨hnew, -, hadd, hle⟩ := ReservationManager.reserveCheck_eq_ok_iff.mp hfits
    exact (hacc.configure f.reservations.total (a.base.effective d).boundAllowance
      (a.base.effective d).overcommit).extend hnew hadd hle rfl rfl f.reservations.nextGeneration
  · obtain ⟨r, base, mode, allowance, counter, metrics, -, -, heq⟩ :=
      evaluate_of_not_admissible h
    rw [heq]
    exact hacc.configure f.reservations.total allowance mode

theorem accounting_commit (hacc : f.reservations.Accounting) (now : TimePoint)
    (x : AdmissionRequestId) (g : AdmissionGeneration) :
    (f.commitAdmission now x g).2.reservations.Accounting := by
  unfold commitAdmission
  cases f.requests.find? x with
  | none => exact hacc
  | some record =>
    simp only
    cases record.lastDecision with
    | none => exact hacc
    | some dec =>
      simp only
      split_ifs
      · exact hacc
      · cases dec.reservationId with
        | none => exact hacc
        | some rid =>
          simp only
          split_ifs <;> exact hacc.commit now rid x g

theorem accounting_release (hacc : f.reservations.Accounting) (now : TimePoint)
    (rid : ReservationId) : (f.releaseReservation now rid).2.reservations.Accounting := by
  unfold releaseReservation
  simp only
  split_ifs <;> exact hacc.release rid

theorem accounting_cancel (hacc : f.reservations.Accounting) (now : TimePoint)
    (x : AdmissionRequestId) : (f.cancelRequest now x).2.reservations.Accounting := by
  unfold cancelRequest
  cases f.requests.find? x with
  | none => exact hacc
  | some record =>
    simp only
    cases record.lifecycle with
    | reserved =>
      simp only
      cases record.reservation? with
      | none => exact hacc
      | some rid => exact hacc.rollback rid
    | _ => exact hacc

/-- Every call keeps the accounting right. -/
theorem accounting_next (hacc : f.reservations.Accounting) (c : EngineCall F) :
    (f.call c).2.reservations.Accounting := by
  obtain ⟨now, op⟩ := c
  cases op with
  | evaluate d => exact accounting_evaluate hacc now d
  | commit x g => exact accounting_commit hacc now x g
  | release rid => exact accounting_release hacc now rid
  | cancel x => exact accounting_cancel hacc now x
  | setSnapshot s =>
    exact hacc.configure s.total f.reservations.overcommitAllowance f.reservations.overcommitMode
  | installPolicy p =>
    simp only [call, installPolicy]
    split_ifs
    · exact hacc
    · split
      · rename_i p _
        exact hacc.configure f.reservations.total p.boundAllowance p.overcommit
      · exact hacc
  | _ => exact hacc

theorem accounting_after (h : List (EngineCall F)) :
    ((engine F).after h).reservations.Accounting :=
  (engine F).invariant (P := fun f => f.reservations.Accounting)
    (ReservationManager.Accounting.of_empty .zero .zero .none 1)
    (fun _ c hacc => accounting_next hacc c) h

end AdmissionFabric

end Fabric

import Fabric.Engine.Steps
import Mathlib.Algebra.BigOperators.Group.Finset.Basic

/-!
# Counted outcomes

Every exit of an evaluation bumps the counter of its outcome and that of its reason, some in the
helper that stores the decision and some by hand; `evaluate_tally` says that each does it once. So
the counters of a run are the numbers of its decisions as words (`records_after`), and they add up
as long as none is full (`metrics_conserved`).
-/

namespace Fabric

open Support Support.Checks

variable {F : Type} [Double F]

/-! ## Counters -/

/-- The declared reason codes. -/
def ReasonCode.all : Finset ReasonCode :=
  {.admitted, .admitWithReservation, .admitWithRisk, .deferCapacity, .deferQuota, .deferSlo,
    .deferCapability, .rejectInfeasible, .rejectPolicy, .rejectCapability, .rejectQuota,
    .rejectExpired, .rejectMalformed, .rejectUnsupported, .rejectStale}

theorem ReasonCode.mem_all {c : ReasonCode} (h : ∀ raw hraw, c ≠ .undeclared raw hraw) :
    c ∈ all := by
  cases c with
  | undeclared raw hraw => exact absurd rfl (h raw hraw)
  | _ => decide

/-- The decision has a declared reason, and the outcome that the reason stands for. -/
structure AdmissionDecision.Sound (dec : AdmissionDecision F) : Prop where
  declared : ∀ raw hraw, dec.reason ≠ .undeclared raw hraw
  outcome : dec.outcome = primaryOutcomeOf dec.reason

/-- The counter of an outcome. -/
def Metrics.ofOutcome (m : Metrics) : AdmissionOutcome → UInt64
  | .admitted => m.admissions
  | .defer => m.deferrals
  | .reject => m.rejections
  | .undeclared _ _ => 0

/-- The counters of evaluations, outcomes and reasons. -/
structure Tally where
  evaluations : UInt64
  outcome : AdmissionOutcome → UInt64
  reason : ReasonCode → UInt64

def Metrics.tally (m : Metrics) : Tally := ⟨m.evaluations, m.ofOutcome, m.byReason⟩

namespace Tally

/-- An evaluation begins. -/
def start (t : Tally) : Tally := { t with evaluations := t.evaluations + 1 }

/-- An evaluation answers with a decision. -/
def answer (t : Tally) (dec : AdmissionDecision F) : Tally :=
  { t with
    outcome := fun o => if o = dec.outcome then t.outcome o + 1 else t.outcome o
    reason := fun c => if c = dec.reason then t.reason c + 1 else t.reason c }

/-- The counters are the numbers of the decisions, as 64-bit words. -/
structure Records (t : Tally) (decs : List (AdmissionDecision F)) : Prop where
  evaluations : t.evaluations = UInt64.ofNat decs.length
  outcome : ∀ o, t.outcome o = UInt64.ofNat (decs.countP fun dec => dec.outcome = o)
  reason : ∀ c, t.reason c = UInt64.ofNat (decs.countP fun dec => dec.reason = c)

theorem Records.snoc {t : Tally} {decs : List (AdmissionDecision F)} (h : t.Records decs)
    (dec : AdmissionDecision F) : (t.start.answer dec).Records (decs ++ [dec]) where
  evaluations := by
    show t.evaluations + 1 = _
    rw [h.evaluations, List.length_append, UInt64.ofNat_add]
    rfl
  outcome o := by
    show (if o = dec.outcome then t.outcome o + 1 else t.outcome o) = _
    rw [h.outcome, List.countP_append, List.countP_singleton]
    by_cases ho : o = dec.outcome
    · rw [if_pos ho, if_pos (by simp [ho]), UInt64.ofNat_add]
      rfl
    · rw [if_neg ho, if_neg (by simpa using Ne.symm ho), Nat.add_zero]
  reason c := by
    show (if c = dec.reason then t.reason c + 1 else t.reason c) = _
    rw [h.reason, List.countP_append, List.countP_singleton]
    by_cases hc : c = dec.reason
    · rw [if_pos hc, if_pos (by simp [hc]), UInt64.ofNat_add]
      rfl
    · rw [if_neg hc, if_neg (by simpa using Ne.symm hc), Nat.add_zero]

end Tally

/-! ## Refusals -/

/-- A refusal is sound and counts its decision once. -/
structure Refusal.Counts (r : Refusal F) : Prop where
  sound : r.decision.Sound
  counts : ∀ m : Metrics,
    (r.count (m.countReason r.decision.reason)).tally = m.tally.answer r.decision

theorem Refusal.counts_reject {dec : AdmissionDecision F} {count : Metrics → Metrics}
    (hdec : dec.Sound) (hout : dec.outcome = .reject) (hcount : ∀ m, (count m).tally = m.tally) :
    (Refusal.reject dec count).Counts := by
  refine ⟨hdec, fun m => ?_⟩
  show (count (m.countReason dec.reason).bumpRejections).tally = m.tally.answer dec
  rw [hcount, Tally.answer, hout]
  refine congrArg (fun outcome => Tally.mk m.evaluations outcome _) (funext fun o => ?_)
  cases o <;> rfl

theorem Refusal.counts_defer {dec : AdmissionDecision F} {count : Metrics → Metrics}
    (hdec : dec.Sound) (hout : dec.outcome = .defer) (hcount : ∀ m, (count m).tally = m.tally) :
    (Refusal.defer dec count).Counts := by
  refine ⟨hdec, fun m => ?_⟩
  show (count (m.countReason dec.reason).bumpDeferrals).tally = m.tally.answer dec
  rw [hcount, Tally.answer, hout]
  refine congrArg (fun outcome => Tally.mk m.evaluations outcome _) (funext fun o => ?_)
  cases o <;> rfl

namespace AdmissionFabric

variable {f : AdmissionFabric F} {now : TimePoint} {d : AdmissionDescriptor F}
  {pol : AdmissionPolicy F} {fc : Forecast F} {slo : SloFeasibility F}

/-- A refusal that rejects for a declared reason. -/
theorem require_rejects {c : Prop} [Decidable c] {dec : AdmissionDecision F}
    {count : Metrics → Metrics} (hreason : ∀ raw hraw, dec.reason ≠ .undeclared raw hraw)
    (hdec : dec.outcome = primaryOutcomeOf dec.reason) (hout : dec.outcome = .reject)
    (hcount : ∀ m, (count m).tally = m.tally) :
    FailsWith Refusal.Counts (require c (.reject dec count)) :=
  .require (Refusal.counts_reject ⟨hreason, hdec⟩ hout hcount)

/-- A refusal that defers for a declared reason. -/
theorem require_defers {c : Prop} [Decidable c] {dec : AdmissionDecision F}
    {count : Metrics → Metrics} (hreason : ∀ raw hraw, dec.reason ≠ .undeclared raw hraw)
    (hdec : dec.outcome = primaryOutcomeOf dec.reason) (hout : dec.outcome = .defer)
    (hcount : ∀ m, (count m).tally = m.tally) :
    FailsWith Refusal.Counts (require c (.defer dec count)) :=
  .require (Refusal.counts_defer ⟨hreason, hdec⟩ hout hcount)

theorem entryGate_counts : FailsWith Refusal.Counts (f.entryGate now d) := by
  refine .bind (require_rejects nofun rfl rfl fun _ => rfl) fun _ => ?_
  cases f.requests.find? d.admissionRequestId with
  | none => exact .ok ()
  | some record => exact require_rejects nofun rfl rfl fun _ => rfl

theorem snapshotGate_counts : FailsWith Refusal.Counts (f.snapshotGate now pol d fc) := by
  unfold snapshotGate
  split_ifs
  · refine .bind (require_rejects (fun _ _ h => by cases h) rfl rfl fun _ => rfl) fun _ => ?_
    exact require_defers (fun _ _ h => by cases h) rfl rfl fun _ => rfl
  · exact require_defers (fun _ _ h => by cases h) rfl rfl fun _ => rfl

theorem quotaGate_counts : FailsWith Refusal.Counts (f.quotaGate now d fc) := by
  refine .bind (require_rejects nofun rfl rfl fun _ => rfl) fun _ => ?_
  exact .bind (require_defers nofun rfl rfl fun _ => rfl) fun _ => .ok _

theorem sloGate_counts : FailsWith Refusal.Counts (f.sloGate now d fc) := by
  refine .bind (require_rejects nofun rfl rfl fun _ => rfl) fun _ => ?_
  exact .bind (require_defers nofun rfl rfl fun _ => rfl) fun _ => .ok _

theorem capacityGate_counts : FailsWith Refusal.Counts (f.capacityGate now pol d fc slo) := by
  refine .bind (require_defers nofun rfl rfl fun _ => rfl) fun _ => ?_
  exact require_defers nofun rfl rfl fun _ => rfl

theorem gates_counts : FailsWith Refusal.Counts (f.gates now pol d) := by
  refine .bind (require_rejects nofun rfl rfl fun _ => rfl) fun _ => ?_
  refine .bind snapshotGate_counts fun _ => ?_
  refine .bind quotaGate_counts fun _ => ?_
  refine .bind sloGate_counts fun _ => ?_
  exact .bind capacityGate_counts fun _ => .ok _

/-! ## The evaluation -/

/-- A decision is sound, and the engine that it leaves has counted it. -/
structure Answers (f : AdmissionFabric F) (x : AdmissionDecision F × AdmissionFabric F) : Prop where
  sound : x.1.Sound
  tally : x.2.metrics.tally = f.metrics.tally.answer x.1

theorem Answers.of_metrics {g : AdmissionFabric F} {x : AdmissionDecision F × AdmissionFabric F}
    (hmetrics : g.metrics = f.metrics) (h : g.Answers x) : f.Answers x :=
  ⟨h.sound, hmetrics ▸ h.tally⟩

theorem refuse_answers {r : Refusal F} (hr : r.Counts) : f.Answers (f.refuse now d r) := by
  rw [refuse_eq]
  exact ⟨hr.sound, hr.counts f.metrics⟩

theorem admitDecision_sound (c : Clearance F) (rid : ReservationId) (gen : AdmissionGeneration) :
    (f.admitDecision now pol d c rid gen).Sound := by
  unfold admitDecision
  refine ⟨fun raw hraw => ?_, rfl⟩
  show (if _ then ReasonCode.admitWithRisk else .admitWithReservation) ≠ _
  split_ifs <;> nofun

theorem outcome_admitDecision (c : Clearance F) (rid : ReservationId) (gen : AdmissionGeneration) :
    (f.admitDecision now pol d c rid gen).outcome = .admitted := by
  show primaryOutcomeOf (if _ then ReasonCode.admitWithRisk else .admitWithReservation) = .admitted
  split_ifs <;> rfl

theorem admit_answers {dec : AdmissionDecision F} (hdec : dec.Sound) (hout : dec.outcome = .admitted)
    (life : RequestLifecycle) (n : UInt64) :
    f.Answers (dec, { f.emit now d life dec true with
      metrics := { (f.emit now d life dec true).metrics with activeReservations := n } }) := by
  refine ⟨hdec, ?_⟩
  rw [emit_eq, Tally.answer, hout]
  refine congrArg (fun outcome => Tally.mk f.metrics.evaluations outcome _) (funext fun o => ?_)
  cases o <;> rfl

/-- The reason of an admission is replaced before it is counted. -/
theorem reserveAndAdmit_answers (c : Clearance F) :
    f.Answers (f.reserveAndAdmit now pol d c) := by
  unfold reserveAndAdmit
  dsimp only
  split
  · refine Answers.of_metrics ?_ (refuse_answers (Refusal.counts_defer ⟨nofun, rfl⟩ rfl fun _ => rfl))
    rfl
  · refine Answers.of_metrics ?_
      (admit_answers (admitDecision_sound _ _ _) (outcome_admitDecision _ _ _) _ _)
    rfl

theorem evaluateOpen_answers (f : AdmissionFabric F) (now : TimePoint)
    (d : AdmissionDescriptor F) : f.Answers (f.evaluateOpen now d) := by
  unfold evaluateOpen
  cases f.policy.latest with
  | none => exact refuse_answers (Refusal.counts_reject ⟨nofun, rfl⟩ rfl fun _ => rfl)
  | some base =>
    simp only
    generalize hg : f.bindOvercommit (base.effective d) = g
    have hmetrics : g.metrics = f.metrics := by rw [← hg]; rfl
    refine Answers.of_metrics hmetrics ?_
    cases hgates : g.gates now (base.effective d) d with
    | error r => exact refuse_answers (gates_counts r hgates)
    | ok c => exact reserveAndAdmit_answers c

theorem transition_metrics (f : AdmissionFabric F) (now : TimePoint) (id : AdmissionRequestId)
    (source target : RequestLifecycle) (d : AdmissionDescriptor F) :
    (f.transition now id source target d).2.metrics = f.metrics := by
  simp only [transition]
  split_ifs <;> rfl

/-- Every exit counts the evaluation, its outcome and its reason once. -/
theorem evaluate_tally (f : AdmissionFabric F) (now : TimePoint) (d : AdmissionDescriptor F) :
    (f.evaluate now d).1.Sound ∧
      (f.evaluate now d).2.metrics.tally = f.metrics.tally.start.answer (f.evaluate now d).1 := by
  have hanswers : f.countEvaluation.Answers (f.evaluate now d) := by
    unfold evaluate
    simp only
    cases hentry : f.countEvaluation.entryGate now d with
    | error r => exact refuse_answers (entryGate_counts r hentry)
    | ok u =>
      obtain ⟨hsound, htally⟩ := evaluateOpen_answers
        (f.countEvaluation.transition now d.admissionRequestId .proposed .evaluating d).2 now d
      rw [transition_metrics] at htally
      exact ⟨hsound, htally⟩
  exact ⟨hanswers.sound, hanswers.tally⟩

/-! ## Runs -/

/-- An evaluation counts the decision that it returns, and no other call counts any. -/
theorem call_tally (f : AdmissionFabric F) (c : EngineCall F) :
    (∃ dec, (f.call c).1.decision? = some dec ∧ dec.Sound ∧
        (f.call c).2.metrics.tally = f.metrics.tally.start.answer dec) ∨
      (f.call c).1.decision? = none ∧ (f.call c).2.metrics.tally = f.metrics.tally := by
  obtain ⟨now, op⟩ := c
  cases op with
  | evaluate d => exact .inl ⟨_, rfl, evaluate_tally f now d⟩
  | installPolicy p =>
    refine .inr ⟨rfl, ?_⟩
    simp only [call, installPolicy]
    split_ifs
    · rfl
    · split <;> rfl
  | commit x g =>
    refine .inr ⟨rfl, ?_⟩
    simp only [call, commitAdmission]
    split
    · rfl
    · split
      · rfl
      · split_ifs
        · rfl
        · split
          · rfl
          · split_ifs <;> rfl
  | release rid =>
    refine .inr ⟨rfl, ?_⟩
    simp only [call, releaseReservation]
    split_ifs <;> rfl
  | cancel x =>
    refine .inr ⟨rfl, ?_⟩
    simp only [call, cancelRequest]
    split
    · rfl
    · split
      · rfl
      · rfl
      · rfl
      · split <;> rfl
      · rfl
      · rfl
  | registerProfile | setSnapshot | setQuota | observe | setTenantWeight | noteAdmission
  | noteDeferral | noteRejection | noteCompletion | noteAdmissionStarted => exact .inr ⟨rfl, rfl⟩

end AdmissionFabric

/-- The decisions that the evaluations of a run return, one for each. -/
def decisions (h : List (EngineCall F)) : List (AdmissionDecision F) :=
  ((engine F).replies (engine F).init h).filterMap EngineReply.decision?

theorem records_after (h : List (EngineCall F)) :
    ((engine F).after h).metrics.tally.Records (decisions h) ∧ ∀ dec ∈ decisions h, dec.Sound := by
  induction h using List.reverseRecOn with
  | nil =>
    refine ⟨⟨rfl, fun o => ?_, fun _ => rfl⟩, fun _ hmem => absurd hmem List.not_mem_nil⟩
    cases o <;> rfl
  | append_singleton h c ih =>
    obtain ⟨hrecords, hsound⟩ := ih
    have hsnoc : decisions (h ++ [c]) =
        decisions h ++ (((engine F).after h).call c).1.decision?.toList := by
      rw [decisions, Machine.replies_snoc, List.filterMap_append]
      refine congrArg (decisions h ++ ·) ?_
      cases hdec : (((engine F).after h).call c).1.decision? with
      | none => exact List.filterMap_cons_none hdec
      | some dec => exact List.filterMap_cons_some hdec
    rw [Machine.after_snoc, hsnoc]
    rcases ((engine F).after h).call_tally c with ⟨dec, hreply, hdec, htally⟩ | ⟨hreply, htally⟩
    · rw [hreply]
      refine ⟨?_, fun dec' hmem => ?_⟩
      · show ((((engine F).after h).call c).2.metrics.tally).Records (decisions h ++ [dec])
        rw [htally]
        exact hrecords.snoc dec
      · rcases List.mem_append.mp hmem with hmem | hmem
        · exact hsound dec' hmem
        · rw [List.mem_singleton.mp hmem]
          exact hdec
    · rw [hreply, Option.toList_none, List.append_nil]
      refine ⟨?_, hsound⟩
      show ((((engine F).after h).call c).2.metrics.tally).Records (decisions h)
      rw [htally]
      exact hrecords

/-! ## Conservation -/

/-- The counters add up, and each counts the decisions with its outcome. -/
structure Metrics.Conserved (m : Metrics) (decs : List (AdmissionDecision F)) : Prop where
  evaluations : m.evaluations.toNat =
    m.admissions.toNat + m.deferrals.toNat + m.rejections.toNat
  reasons : ∀ o, (m.ofOutcome o).toNat =
    ∑ c ∈ ReasonCode.all with primaryOutcomeOf c = o, (m.byReason c).toNat
  undeclared : ∀ raw hraw, m.byReason (.undeclared raw hraw) = 0
  answers : ∀ o, (m.ofOutcome o).toNat = decs.countP fun dec => dec.outcome = o

/-- The decisions with an outcome are those with a reason that stands for it. -/
theorem sum_countP_reason {decs : List (AdmissionDecision F)} (h : ∀ dec ∈ decs, dec.Sound)
    (o : AdmissionOutcome) :
    ∑ c ∈ ReasonCode.all with primaryOutcomeOf c = o, decs.countP (fun dec => dec.reason = c) =
      decs.countP fun dec => dec.outcome = o := by
  let reasons : Multiset ReasonCode := (decs.filter fun dec => dec.outcome = o).map (·.reason)
  have hall : ∀ c ∈ reasons, c ∈ ReasonCode.all.filter (primaryOutcomeOf · = o) := by
    intro c hc
    obtain ⟨dec, hdec, rfl⟩ := List.mem_map.mp (Multiset.mem_coe.mp hc)
    obtain ⟨hmem, hout⟩ := List.mem_filter.mp hdec
    have hsound := h dec hmem
    exact Finset.mem_filter.mpr ⟨ReasonCode.mem_all hsound.declared,
      hsound.outcome.symm.trans (of_decide_eq_true hout)⟩
  have hcount : ∀ c ∈ ReasonCode.all.filter (primaryOutcomeOf · = o),
      decs.countP (fun dec => dec.reason = c) = reasons.count c := by
    intro c hc
    have hout := (Finset.mem_filter.mp hc).2
    rw [Multiset.coe_count, List.count, List.countP_map, List.countP_filter]
    refine List.countP_congr fun dec hdec => ?_
    have hsound := (h dec hdec).outcome
    simp only [decide_eq_true_eq, Function.comp_apply, beq_iff_eq, Bool.and_eq_true]
    exact ⟨fun hreason => ⟨hreason, by rw [hsound, hreason, hout]⟩, And.left⟩
  rw [Finset.sum_congr rfl hcount, Multiset.sum_count_eq_card hall, Multiset.coe_card,
    List.length_map, List.countP_eq_length_filter]

/-- An evaluation admits, defers or rejects. -/
theorem length_eq_countP {decs : List (AdmissionDecision F)} (h : ∀ dec ∈ decs, dec.Sound) :
    decs.length = decs.countP (fun dec => dec.outcome = .admitted) +
      decs.countP (fun dec => dec.outcome = .defer) +
      decs.countP fun dec => dec.outcome = .reject := by
  induction decs with
  | nil => rfl
  | cons dec decs ih =>
    have hrest := ih fun dec' hmem => h dec' (List.mem_cons_of_mem _ hmem)
    have hout := (h dec List.mem_cons_self).outcome
    simp only [List.length_cons, List.countP_cons, hrest, hout]
    cases dec.reason <;> simp [primaryOutcomeOf] <;> omega

/-- In every run with fewer than `2 ^ 64` evaluations the counters are conserved. -/
theorem metrics_conserved (h : List (EngineCall F)) (hwrap : (decisions h).length < 2 ^ 64) :
    ((engine F).after h).metrics.Conserved (decisions h) := by
  obtain ⟨hrecords, hsound⟩ := records_after h
  generalize ((engine F).after h).metrics = m at hrecords
  have hcount (p : AdmissionDecision F → Bool) :
      (UInt64.ofNat ((decisions h).countP p)).toNat = (decisions h).countP p :=
    UInt64.toNat_ofNat_of_lt' (List.countP_le_length.trans_lt hwrap)
  have houtcome (o : AdmissionOutcome) :
      (m.ofOutcome o).toNat = (decisions h).countP fun dec => dec.outcome = o :=
    (congrArg UInt64.toNat (hrecords.outcome o)).trans (hcount _)
  have hreason (c : ReasonCode) :
      (m.byReason c).toNat = (decisions h).countP fun dec => dec.reason = c :=
    (congrArg UInt64.toNat (hrecords.reason c)).trans (hcount _)
  constructor
  · have heval : m.evaluations.toNat = (decisions h).length :=
      (congrArg UInt64.toNat hrecords.evaluations).trans (UInt64.toNat_ofNat_of_lt' hwrap)
    rw [heval, length_eq_countP hsound, ← houtcome, ← houtcome, ← houtcome]
    rfl
  · intro o
    rw [houtcome, ← sum_countP_reason hsound]
    exact Finset.sum_congr rfl fun c _ => (hreason c).symm
  · intro raw hraw
    rw [← UInt64.toNat_inj, hreason]
    exact List.countP_eq_zero.mpr fun dec hmem hdec =>
      (hsound dec hmem).declared raw hraw (of_decide_eq_true hdec)
  · exact houtcome

/-- A request is admitted, and rejected when it is sent again. -/
def Sample.repeated : List (EngineCall Binary64) :=
  opening ++ [⟨1, .evaluate (descriptor 1)⟩, ⟨2, .evaluate (descriptor 1)⟩]

theorem metrics_conserved_repeated :
    (decisions Sample.repeated).length = 2 ∧
      ((engine Binary64).after Sample.repeated).metrics.Conserved (decisions Sample.repeated) := by
  have hlen : (decisions Sample.repeated).length = 2 := by decide +kernel
  exact ⟨hlen, metrics_conserved _ (by rw [hlen]; decide)⟩

end Fabric

import Fabric.Engine.Monotone
import Fabric.Engine.Outcome

/-!
# Who waits for whom

The fairness rule defers a large request in favour of small ones. `evaluate_fairness_iff` says when:
all earlier checks pass and none of four things lets the request through (`Relieved`). Two promises
of the rule are measured by it.

* `not_starved_iff`: what ends the waiting of a large request is the last admission of its tenant
  that the fairness controller was told of, and not how long the request waits.
* `defers_for_others_iff`: the deferred requests that are counted include the request itself.
-/

namespace Fabric

open Support Support.Checks

variable {F : Type} [Double F] {f : AdmissionFabric F} {now : TimePoint}
  {d : AdmissionDescriptor F} {pol : AdmissionPolicy F} {fc : Forecast F} {slo : SloFeasibility F}
  {r : Refusal F} {x : AdmissionRequestId}

/-- The decision defers the request in favour of smaller ones. -/
structure AdmissionDecision.DeferredByFairness (dec : AdmissionDecision F) : Prop where
  outcome : dec.outcome = .defer
  explanation : dec.explanation = ascii "deferred by fairness to protect smaller pending requests"

namespace AdmissionFabric

/-! ## Other answers -/

/-- The failures of a gate are not in favour of smaller requests. -/
abbrev OtherFailures {α : Type} (x : Except (Refusal F) α) : Prop :=
  FailsWith (fun r => ¬ r.decision.DeferredByFairness) x

theorem not_fairness_of_outcome {dec : AdmissionDecision F} (h : dec.outcome ≠ .defer) :
    ¬ dec.DeferredByFairness := fun hfair => h hfair.outcome

theorem not_fairness_of_head {dec : AdmissionDecision F}
    (h : dec.explanation.head? ≠ some 'd'.toNat.toUInt8) : ¬ dec.DeferredByFairness := by
  intro hfair
  rw [hfair.explanation] at h
  exact h (by decide +kernel)

theorem snapshotGate_other : OtherFailures (f.snapshotGate now pol d fc) := by
  unfold snapshotGate
  split_ifs
  · refine .bind (.require (not_fairness_of_outcome fun h => by cases h)) fun _ => ?_
    exact .require (not_fairness_of_head fun h => by cases h)
  · exact .require (not_fairness_of_head fun h => by cases h)

theorem quotaGate_other : OtherFailures (f.quotaGate now d fc) := by
  refine .bind (.require (not_fairness_of_outcome nofun)) fun _ => ?_
  exact .bind (.require (not_fairness_of_head nofun)) fun _ => .ok _

theorem sloGate_other : OtherFailures (f.sloGate now d fc) := by
  refine .bind (.require (not_fairness_of_outcome nofun)) fun _ => ?_
  exact .bind (.require (not_fairness_of_head nofun)) fun _ => .ok _

/-- A reservation that fails or is made is no answer of the fairness rule either. -/
theorem reserveAndAdmit_other (c : Clearance F) :
    ¬ (f.reserveAndAdmit now pol d c).1.DeferredByFairness := by
  unfold reserveAndAdmit
  simp only
  split
  · rw [refuse_eq]
    exact not_fairness_of_head nofun
  · refine not_fairness_of_outcome ?_
    show primaryOutcomeOf (if _ then ReasonCode.admitWithRisk else .admitWithReservation) ≠ .defer
    split_ifs <;> nofun

/-! ## The rule -/

/-- The checks of the gates that come before the fairness rule. -/
structure ReachesFairness (f : AdmissionFabric F) (now : TimePoint) (pol : AdmissionPolicy F)
    (d : AdmissionDescriptor F) : Prop where
  capability : f.classifyCapability d ≠ .rejectCapability
  snapshot : f.SnapshotAccepted now pol
  quota : (f.classifyQuota d (f.predictor.predictDemand d)).1 ≠ .rejectQuota ∧
    (f.classifyQuota d (f.predictor.predictDemand d)).1 ≠ .deferQuota
  verdict : (f.evaluateSlo d (f.predictor.predictDuration d)).verdict ≠ .infeasible ∧
    (f.evaluateSlo d (f.predictor.predictDuration d)).verdict ≠ .unknown
  fits : (f.predictor.predictDemand d).fitsIn (f.effectiveAvailability pol) = true

theorem capacityGate_fairness (h : f.capacityGate now pol d fc slo = .error r) :
    r.decision.DeferredByFairness ↔ fc.demand.fitsIn (f.effectiveAvailability pol) = true ∧
      f.deferForFairness now pol d fc.demand = true := by
  rcases bind_eq_error_iff.mp h with h | ⟨_, hfits, h⟩
  · obtain ⟨hfits, rfl⟩ := require_eq_error_iff.mp h
    exact iff_of_false (not_fairness_of_head nofun) fun hfair => hfits hfair.1
  · obtain ⟨hfair, rfl⟩ := require_eq_error_iff.mp h
    exact iff_of_true ⟨rfl, rfl⟩
      ⟨require_eq_ok_iff.mp hfits, (Bool.not_eq_false _).mp hfair⟩

/-- The gates defer in favour of smaller requests exactly when the earlier checks pass and the
fairness rule holds the request back. -/
theorem gates_fairness (h : f.gates now pol d = .error r) :
    r.decision.DeferredByFairness ↔ f.ReachesFairness now pol d ∧
      f.deferForFairness now pol d (f.predictor.predictDemand d) = true := by
  rcases bind_eq_error_iff.mp h with h | ⟨_, hcap, h⟩
  · obtain ⟨hcap, rfl⟩ := require_eq_error_iff.mp h
    exact iff_of_false (not_fairness_of_outcome nofun) fun hfair => hcap hfair.1.capability
  rcases bind_eq_error_iff.mp h with h | ⟨_, hsnap, h⟩
  · refine iff_of_false (snapshotGate_other r h) fun hfair => ?_
    cases (snapshotGate_of_accepted hfair.1.snapshot).symm.trans h
  rcases bind_eq_error_iff.mp h with h | ⟨_, hquota, h⟩
  · refine iff_of_false (quotaGate_other r h) fun hfair => ?_
    rcases quotaGate_error h with ⟨hq, -⟩ | ⟨hq, -⟩
    · exact hfair.1.quota.1 hq
    · exact hfair.1.quota.2 hq
  rcases bind_eq_error_iff.mp h with h | ⟨_, hslo, h⟩
  · refine iff_of_false (sloGate_other r h) fun hfair => ?_
    rcases sloGate_error h with ⟨hv, -⟩ | ⟨hv, -⟩
    · exact hfair.1.verdict.1 hv
    · exact hfair.1.verdict.2 hv
  rcases bind_eq_error_iff.mp h with h | ⟨_, -, h⟩
  · have hiff := capacityGate_fairness h
    have hpass := quotaGate_ok hquota
    obtain ⟨rfl, hverdict⟩ := sloGate_ok hslo
    rw [hiff]
    refine and_congr_left fun _ => ⟨fun hfits => ?_, fun hreach => hreach.fits⟩
    exact
      { capability := require_eq_ok_iff.mp hcap
        snapshot := snapshotGate_ok hsnap
        quota := hpass
        verdict := hverdict
        fits := hfits }
  · cases h

/-! ## The state before an evaluation -/

/-- Entering a request does not change which records are deferred. -/
theorem pendingSmall_prepared_eq (f : AdmissionFabric F) (now : TimePoint)
    (d : AdmissionDescriptor F) (pol : AdmissionPolicy F) :
    (f.prepared now d pol).pendingSmall = f.pendingSmall := by
  rcases Option.eq_none_or_eq_some (f.requests.find? d.admissionRequestId) with
    hfind | ⟨record, hfind⟩
  · simp only [prepared, pendingSmall, transition, bindOvercommit, countEvaluation, hfind,
      Option.getD_none, if_true]
    rw [(OrdMap.perm_insert_of_none _ hfind).countP_eq, List.countP_cons_of_neg]
    simp
  · simp only [prepared, pendingSmall, transition, bindOvercommit, countEvaluation, hfind,
      Option.getD_some]
    split_ifs with hlife
    · -- Neither the old nor the new record is deferred.
      rw [OrdMap.countP_insert_congr (w := record) _ (by rw [hlife]; rfl), OrdMap.insert_eq_self hfind]
    · rfl

/-- The share of the available accelerator memory that is predicted for a request. -/
def memoryShare (f : AdmissionFabric F) (d : AdmissionDescriptor F) : F :=
  let avail := f.reservations.availability.get .acceleratorMemory
  let wanted := (f.predictor.predictDemand d).get .acceleratorMemory
  if avail > 0 ∧ wanted > 0 then Double.ofUInt64 wanted / Double.ofUInt64 avail else 0.0

/-- What lets a request through the fairness rule: no small request is pending, or fewer than a
quarter of the window, the last admission of the tenant was more than ten seconds ago, or the
request is no large one. -/
def Relieved (f : AdmissionFabric F) (now : TimePoint) (pol : AdmissionPolicy F)
    (d : AdmissionDescriptor F) : Prop :=
  f.pendingSmall = 0 ∨ f.pendingSmall < pol.fairnessWindow / 4 ∨
    (Double.ofInt64 (f.fairness.starvationAge now d.tenantId) : F) > 10e9 ∨
    ¬ (f.bindOvercommit pol).memoryShare d > 0.60

theorem shouldDeferLarge_iff {pending : UInt32} {share : F} {starving : Bool} :
    FairnessController.shouldDeferLarge pol pending share starving = true ↔
      ¬ (pending = 0 ∨ pending < pol.fairnessWindow / 4 ∨ starving = true ∨ ¬ share > 0.60) := by
  unfold FairnessController.shouldDeferLarge
  split_ifs with hnone hstarving
  · simp [hnone]
  · simp [hstarving]
  · simp [hnone, hstarving, and_comm]

theorem deferForFairness_prepared (f : AdmissionFabric F) (now : TimePoint)
    (pol : AdmissionPolicy F) (d : AdmissionDescriptor F) :
    (f.prepared now d pol).deferForFairness now pol d (f.predictor.predictDemand d) = true ↔
      ¬ f.Relieved now pol d := by
  unfold deferForFairness
  rw [pendingSmall_prepared_eq, prepared_fairness, prepared_reservations, shouldDeferLarge_iff,
    decide_eq_true_iff]
  rfl

theorem prepared_predictor (f : AdmissionFabric F) (now : TimePoint) (d : AdmissionDescriptor F)
    (pol : AdmissionPolicy F) : (f.prepared now d pol).predictor = f.predictor := by
  obtain ⟨record, hprep⟩ := f.exists_prepared_eq now d pol
  rw [hprep]
  rfl

/-- Entering a request does not change what the earlier checks say. -/
theorem reachesFairness_prepared : (f.prepared now d pol).ReachesFairness now pol d ↔
    (f.bindOvercommit pol).ReachesFairness now pol d := by
  obtain ⟨record, hprep⟩ := f.exists_prepared_eq now d pol
  rw [hprep]
  constructor
  · rintro ⟨hcap, hsnap, hquota, hverdict, hfits⟩
    exact ⟨hcap, hsnap, hquota, hverdict, hfits⟩
  · rintro ⟨hcap, hsnap, hquota, hverdict, hfits⟩
    exact ⟨hcap, hsnap, hquota, hverdict, hfits⟩

/-- An evaluation defers in favour of smaller requests exactly when it gets to the fairness rule and
nothing lets the request through. -/
theorem evaluate_fairness_iff : (f.evaluate now d).1.DeferredByFairness ↔
    f.entryGate now d = .ok () ∧ ∃ base, f.policy.latest = some base ∧
      (f.bindOvercommit (base.effective d)).ReachesFairness now (base.effective d) d ∧
      ¬ f.Relieved now (base.effective d) d := by
  cases hentry : f.entryGate now d with
  | error r =>
    obtain ⟨hproper, hlife, metrics, heq⟩ := evaluate_of_entry_error hentry
    rw [heq]
    refine iff_of_false (not_fairness_of_outcome ?_) (by simp)
    rcases hproper.outcome with ⟨-, hout⟩ | ⟨hdeferred, -⟩
    · simp [hout]
    · cases hlife.symm.trans hdeferred
  | ok u =>
    cases hpol : f.policy.latest with
    | none =>
      refine iff_of_false (not_fairness_of_outcome ?_) (by simp)
      simp [(evaluate_of_no_policy hentry hpol).1]
    | some base =>
      have hheld : (∃ base', some base = some base' ∧
          (f.bindOvercommit (base'.effective d)).ReachesFairness now (base'.effective d) d ∧
            ¬ f.Relieved now (base'.effective d) d) ↔
          (f.prepared now d (base.effective d)).ReachesFairness now (base.effective d) d ∧
            (f.prepared now d (base.effective d)).deferForFairness now (base.effective d) d
              (f.predictor.predictDemand d) = true := by
        rw [reachesFairness_prepared, deferForFairness_prepared]
        exact ⟨fun ⟨base', hbase, h⟩ => Option.some.inj hbase ▸ h, fun h => ⟨base, rfl, h⟩⟩
      rw [hheld, evaluate_of_entry_ok hentry hpol, ← prepared_predictor f now d (base.effective d)]
      refine Iff.trans ?_ (and_iff_right rfl).symm
      cases hgates : (f.prepared now d (base.effective d)).gates now (base.effective d) d with
      | error r =>
        simp only [refuse_eq]
        exact gates_fairness hgates
      | ok c =>
        refine iff_of_false (reserveAndAdmit_other c) fun hfair => ?_
        have hpass := gates_passes hgates
        have hfree := hpass.fairness
        rw [hpass.forecast] at hfree
        exact Bool.false_ne_true (hfree.symm.trans hfair.2)

/-- A request that gets to the fairness rule is let through. -/
def PassesFairness (f : AdmissionFabric F) (now : TimePoint) (d : AdmissionDescriptor F)
    (Lets : AdmissionPolicy F → Prop) : Prop :=
  f.entryGate now d = .ok () → ∀ base, f.policy.latest = some base →
    (f.bindOvercommit (base.effective d)).ReachesFairness now (base.effective d) d →
      Lets (base.effective d)

theorem not_fairness_iff : ¬ (f.evaluate now d).1.DeferredByFairness ↔
    f.PassesFairness now d fun pol => f.Relieved now pol d := by
  rw [evaluate_fairness_iff]
  constructor
  · intro h hentry base hpol hreach
    by_contra hheld
    exact h ⟨hentry, base, hpol, hreach, hheld⟩
  · rintro h ⟨hentry, base, hpol, hreach, hheld⟩
    exact hheld (h hentry base hpol hreach)

/-! ## Starvation -/

/-- The predicted demand fits what is available less the safety margin. -/
def FitsMargin (f : AdmissionFabric F) (d : AdmissionDescriptor F) : Prop :=
  ∀ base, f.policy.latest = some base → (f.predictor.predictDemand d).fitsIn
    ((f.bindOvercommit (base.effective d)).effectiveAvailability (base.effective d)) = true

end AdmissionFabric

/-- The request has been deferred since a call at time `t`. -/
def DeferredSince (h : List (EngineCall F)) (x : AdmissionRequestId) (t : TimePoint) : Prop :=
  ∃ pre c post, h = pre ++ c :: post ∧ c.now = t ∧ ∀ mid rest, post = mid ++ rest →
    ((engine F).after (pre ++ c :: mid)).lifecycle? x = some .deferred

/-- The request has been deferred for more than ten seconds. -/
def DeferredLong (h : List (EngineCall F)) (now : TimePoint) (x : AdmissionRequestId) : Prop :=
  ∃ t, DeferredSince h x t ∧ now.toInt - t.toInt > 10000000000

/-- A request that was deferred for more than ten seconds and fits is not deferred again in favour
of smaller ones. -/
def NotStarved (h : List (EngineCall F)) (now : TimePoint) (d : AdmissionDescriptor F) : Prop :=
  DeferredLong h now d.admissionRequestId → ((engine F).after h).FitsMargin d →
    ¬ (((engine F).after h).evaluate now d).1.DeferredByFairness

/-- After any run, a request is not starved exactly when something else lets it through the fairness
rule: how long it waits makes no difference. -/
theorem not_starved_iff (h : List (EngineCall F)) (now : TimePoint) (d : AdmissionDescriptor F) :
    NotStarved h now d ↔
      (DeferredLong h now d.admissionRequestId → ((engine F).after h).FitsMargin d →
        ((engine F).after h).PassesFairness now d
          fun pol => ((engine F).after h).Relieved now pol d) := by
  rw [NotStarved, AdmissionFabric.not_fairness_iff]

namespace Sample

/-- A policy under which one small request is enough to hold back a large one. -/
def narrow : AdmissionPolicy Binary64 := { fairnessWindow := 4 }

def large : AdmissionDescriptor Binary64 := { descriptor 1 with expectedOutputTokens := 600 }

/-- A small and a large request come before the capacity is known, which is eleven seconds later. -/
def starving : List (EngineCall Binary64) :=
  [⟨0, .installPolicy narrow⟩, ⟨0, .evaluate (descriptor 2)⟩, ⟨0, .evaluate large⟩,
    ⟨seconds 11, .setSnapshot { snapshot 600000000 with timestamp := seconds 11 }⟩]

end Sample

/-- A large request of a tenant that was never admitted waits for eleven seconds, and one small
request holds it back. -/
theorem not_starved_fails : ¬ NotStarved Sample.starving (seconds 11) Sample.large := by
  intro h
  refine h ⟨0, ?_, by decide⟩ ?_ ⟨by decide +kernel, by decide +kernel⟩
  · refine ⟨Sample.starving.take 2, ⟨0, .evaluate Sample.large⟩, Sample.starving.drop 3, rfl, rfl, ?_⟩
    intro mid rest hpost
    cases mid with
    | nil => decide +kernel
    | cons c mid =>
      obtain ⟨rfl, hrest⟩ := List.cons.inj hpost
      obtain ⟨rfl, -⟩ := List.append_eq_nil_iff.mp hrest.symm
      decide +kernel
  · intro base hbase
    have hfits : ((engine Binary64).after Sample.starving).policy.latest.all (fun base =>
        (((engine Binary64).after Sample.starving).predictor.predictDemand Sample.large).fitsIn
          ((((engine Binary64).after Sample.starving).bindOvercommit
            (base.effective Sample.large)).effectiveAvailability (base.effective Sample.large))) =
              true := by
      decide +kernel
    rw [hbase, Option.all_some] at hfits
    exact hfits

/-! ## Others -/

namespace AdmissionFabric

/-- No request other than `x` is deferred. -/
def NoOtherDeferred (f : AdmissionFabric F) (x : AdmissionRequestId) : Prop :=
  ∀ y record, y ≠ x → f.requests.find? y = some record → record.lifecycle ≠ .deferred

/-- The record of the request itself counts as small and pending. -/
def OwnPending (f : AdmissionFabric F) (x : AdmissionRequestId) : Prop :=
  ∃ record, f.requests.find? x = some record ∧ record.lifecycle = .deferred ∧
    record.descriptor.expectedOutputTokens < 512

/-- Without another deferred request, fairness does not defer. -/
def DefersForOthers (f : AdmissionFabric F) (now : TimePoint) (d : AdmissionDescriptor F) : Prop :=
  f.NoOtherDeferred d.admissionRequestId → ¬ (f.evaluate now d).1.DeferredByFairness

theorem pendingSmall_alone (h : f.NoOtherDeferred x) :
    f.OwnPending x ∧ f.pendingSmall = 1 ∨ ¬ f.OwnPending x ∧ f.pendingSmall = 0 := by
  have hown : ∀ e ∈ f.requests.entries, (e.2.lifecycle == .deferred &&
      decide (e.2.descriptor.expectedOutputTokens < 512)) = true → e.1 = x ∧ f.OwnPending x := by
    intro e he hpending
    rw [Bool.and_eq_true, beq_iff_eq, decide_eq_true_iff] at hpending
    have hfind : f.requests.find? e.1 = some e.2 := OrdMap.find?_eq_some_iff.mpr he
    by_cases hx : e.1 = x
    · exact ⟨hx, e.2, hx ▸ hfind, hpending⟩
    · exact absurd hpending.1 (h _ _ hx hfind)
  by_cases hpend : f.OwnPending x
  · refine .inl ⟨hpend, ?_⟩
    obtain ⟨record, hfind, hdeferred, hsmall⟩ := hpend
    rw [pendingSmall, OrdMap.countP_eq_one hfind (by simp [hdeferred, hsmall])
      fun e he hp => (hown e he hp).1]
    rfl
  · refine .inr ⟨hpend, ?_⟩
    rw [pendingSmall, List.countP_eq_zero.mpr fun e he hp => hpend (hown e he hp).2]
    rfl

theorem relieved_alone_iff (h : f.NoOtherDeferred d.admissionRequestId) :
    f.Relieved now pol d ↔ ¬ f.OwnPending d.admissionRequestId ∨ 8 ≤ pol.fairnessWindow ∨
      (Double.ofInt64 (f.fairness.starvationAge now d.tenantId) : F) > 10e9 ∨
      ¬ (f.bindOvercommit pol).memoryShare d > 0.60 := by
  have hquarter : 1 < pol.fairnessWindow / 4 ↔ 8 ≤ pol.fairnessWindow := by
    rw [UInt32.lt_iff_toNat_lt, UInt32.le_iff_toNat_le, UInt32.toNat_div]
    show 1 < _ / 4 ↔ 8 ≤ _
    omega
  unfold Relieved
  rcases pendingSmall_alone h with ⟨hown, hone⟩ | ⟨hown, hzero⟩
  · simp [hone, hown, hquarter]
  · simp [hzero, hown]

/-- After any run, fairness defers in favour of others only exactly when a request that is deferred
alone, with a short expected output and a window below eight, is let through for another reason. -/
theorem defers_for_others_iff (h : List (EngineCall F)) (now : TimePoint)
    (d : AdmissionDescriptor F) : ((engine F).after h).DefersForOthers now d ↔
      (((engine F).after h).NoOtherDeferred d.admissionRequestId →
        ((engine F).after h).PassesFairness now d fun pol =>
          ¬ ((engine F).after h).OwnPending d.admissionRequestId ∨ 8 ≤ pol.fairnessWindow ∨
            (Double.ofInt64 (((engine F).after h).fairness.starvationAge now d.tenantId) : F) >
              10e9 ∨
            ¬ (((engine F).after h).bindOvercommit pol).memoryShare d > 0.60) := by
  generalize (engine F).after h = f
  rw [DefersForOthers, not_fairness_iff]
  refine forall_congr' fun halone => ?_
  exact forall_congr' fun _ => forall₂_congr fun base _ => forall_congr' fun _ =>
    relieved_alone_iff halone

end AdmissionFabric

namespace Sample

/-- A request comes before the capacity is known. -/
def alone : List (EngineCall Binary64) :=
  [⟨0, .installPolicy narrow⟩, ⟨0, .evaluate (descriptor 1)⟩,
    ⟨0, .setSnapshot (snapshot 600000000)⟩]

end Sample

namespace AdmissionFabric

/-- The only request that is deferred is deferred again to protect itself. -/
theorem defers_for_others_fails :
    ¬ ((engine Binary64).after Sample.alone).DefersForOthers 0 (Sample.descriptor 1) := by
  intro h
  refine h (fun y record hy hfind => ?_) ⟨by decide +kernel, by decide +kernel⟩
  have hall : (((engine Binary64).after Sample.alone).requests.entries.all
      fun e => decide (e.1 = (Sample.descriptor 1).admissionRequestId)) = true := by
    decide +kernel
  exact absurd (of_decide_eq_true (List.all_eq_true.mp hall _ (OrdMap.find?_eq_some_iff.mp hfind))) hy

end AdmissionFabric

end Fabric

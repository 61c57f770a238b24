import Fabric.Engine.Gates
import Fabric.Engine.Settings

/-!
# What every decision carries

Every exit of an evaluation builds its decision from one blank, so that every decision carries
the identity of the request, the generation of the snapshot that is set, and the clock reading
(`evaluate_stamped`). The blank is filled from the descriptor and not from the policy that is
chosen: the policy generation of a decision is the one that the request claims, and it is the
generation of the policy in force exactly when the two agree (`records_policy_iff`).
-/

namespace Fabric

open Support Support.Checks

variable {F : Type} [Double F]

namespace AdmissionFabric

/-- What an evaluation fills in from the request, the snapshot and the clock. -/
structure Stamped (f : AdmissionFabric F) (now : TimePoint) (d : AdmissionDescriptor F)
    (dec : AdmissionDecision F) : Prop where
  request : dec.admissionRequestId = d.admissionRequestId
  policy : dec.policyGeneration = d.policyGeneration
  snapshot : dec.snapshotGeneration = f.snapshot.generation
  time : dec.decisionTime = now

variable {f : AdmissionFabric F} {now : TimePoint} {d : AdmissionDescriptor F}
  {pol : AdmissionPolicy F} {fc : Forecast F} {slo : SloFeasibility F}

theorem Stamped.of_snapshot {g : AdmissionFabric F} {dec : AdmissionDecision F}
    (hsnapshot : g.snapshot = f.snapshot) (h : g.Stamped now d dec) : f.Stamped now d dec :=
  ⟨h.request, h.policy, hsnapshot ▸ h.snapshot, h.time⟩

/-- The failures of a gate carry the stamp. -/
abbrev StampsFailures (f : AdmissionFabric F) (now : TimePoint) (d : AdmissionDescriptor F)
    {α : Type} (x : Except (Refusal F) α) : Prop :=
  FailsWith (fun r => f.Stamped now d r.decision) x

/-! ## The gates -/

theorem entryGate_stamped : f.StampsFailures now d (f.entryGate now d) := by
  refine .bind (.require ⟨rfl, rfl, rfl, rfl⟩) fun _ => ?_
  cases f.requests.find? d.admissionRequestId with
  | none => exact .ok ()
  | some record => exact .require ⟨rfl, rfl, rfl, rfl⟩

theorem snapshotGate_stamped : f.StampsFailures now d (f.snapshotGate now pol d fc) := by
  unfold snapshotGate
  split_ifs
  · exact .bind (.require ⟨rfl, rfl, rfl, rfl⟩) fun _ => .require ⟨rfl, rfl, rfl, rfl⟩
  · exact .require ⟨rfl, rfl, rfl, rfl⟩

theorem quotaGate_stamped : f.StampsFailures now d (f.quotaGate now d fc) := by
  refine .bind (.require ⟨rfl, rfl, rfl, rfl⟩) fun _ => ?_
  exact .bind (.require ⟨rfl, rfl, rfl, rfl⟩) fun _ => .ok _

theorem sloGate_stamped : f.StampsFailures now d (f.sloGate now d fc) := by
  refine .bind (.require ⟨rfl, rfl, rfl, rfl⟩) fun _ => ?_
  exact .bind (.require ⟨rfl, rfl, rfl, rfl⟩) fun _ => .ok _

theorem capacityGate_stamped : f.StampsFailures now d (f.capacityGate now pol d fc slo) :=
  .bind (.require ⟨rfl, rfl, rfl, rfl⟩) fun _ => .require ⟨rfl, rfl, rfl, rfl⟩

theorem gates_stamped : f.StampsFailures now d (f.gates now pol d) := by
  refine .bind (.require ⟨rfl, rfl, rfl, rfl⟩) fun _ => ?_
  refine .bind snapshotGate_stamped fun _ => ?_
  refine .bind quotaGate_stamped fun _ => ?_
  refine .bind sloGate_stamped fun _ => ?_
  exact .bind capacityGate_stamped fun _ => .ok _

/-! ## The evaluation -/

/-- Entering the request does not touch the snapshot. -/
theorem transition_snapshot (f : AdmissionFabric F) (now : TimePoint) (id : AdmissionRequestId)
    (source target : RequestLifecycle) (d : AdmissionDescriptor F) :
    (f.transition now id source target d).2.snapshot = f.snapshot := by
  simp only [transition]
  split_ifs <;> rfl

theorem reserveAndAdmit_stamped (f : AdmissionFabric F) (now : TimePoint)
    (pol : AdmissionPolicy F) (d : AdmissionDescriptor F) (c : Clearance F) :
    f.Stamped now d (f.reserveAndAdmit now pol d c).1 := by
  unfold reserveAndAdmit
  simp only
  split
  · rw [refuse_eq]
    exact ⟨rfl, rfl, rfl, rfl⟩
  · exact ⟨rfl, rfl, rfl, rfl⟩

theorem evaluateOpen_stamped (f : AdmissionFabric F) (now : TimePoint)
    (d : AdmissionDescriptor F) : f.Stamped now d (f.evaluateOpen now d).1 := by
  unfold evaluateOpen
  cases f.policy.latest with
  | none =>
    simp only [refuse_eq]
    exact ⟨rfl, rfl, rfl, rfl⟩
  | some base =>
    simp only
    generalize hg : f.bindOvercommit (base.effective d) = g
    have hsnapshot : g.snapshot = f.snapshot := by rw [← hg]; rfl
    refine Stamped.of_snapshot hsnapshot ?_
    cases hgates : g.gates now (base.effective d) d with
    | error r =>
      have hr := gates_stamped r hgates
      simp only [refuse_eq]
      exact hr
    | ok c => exact reserveAndAdmit_stamped g now _ d c

/-- Every decision carries the stamp, whatever the state. -/
theorem evaluate_stamped (f : AdmissionFabric F) (now : TimePoint) (d : AdmissionDescriptor F) :
    f.Stamped now d (f.evaluate now d).1 := by
  unfold evaluate
  simp only
  cases hentry : f.countEvaluation.entryGate now d with
  | error r =>
    simp only [refuse_eq]
    exact entryGate_stamped r hentry
  | ok u =>
    obtain ⟨hrequest, hpolicy, hsnapshot, htime⟩ := evaluateOpen_stamped
      (f.countEvaluation.transition now d.admissionRequestId .proposed .evaluating d).2 now d
    rw [transition_snapshot] at hsnapshot
    exact ⟨hrequest, hpolicy, hsnapshot, htime⟩

/-! ## The governing policy -/

/-- The decision about a request that passes the entry checks carries the generation of the
policy it was made under. -/
def RecordsPolicy (f : AdmissionFabric F) (now : TimePoint) (d : AdmissionDescriptor F) : Prop :=
  ∀ base, f.policy.latest = some base → f.entryGate now d = .ok () →
    (f.evaluate now d).1.policyGeneration = base.generation

/-- The request claims the generation that is in force. -/
def ClaimsLatest (f : AdmissionFabric F) (now : TimePoint) (d : AdmissionDescriptor F) : Prop :=
  (∃ base, f.policy.latest = some base) → f.entryGate now d = .ok () →
    d.policyGeneration = f.policy.latestGeneration

/-- A decision records the policy in force exactly when the request already claims it. -/
theorem records_policy_iff (h : List (EngineCall F)) (now : TimePoint)
    (d : AdmissionDescriptor F) :
    ((engine F).after h).RecordsPolicy now d ↔ ((engine F).after h).ClaimsLatest now d := by
  generalize hf : (engine F).after h = f
  have hnum : f.policy.Numbered := hf ▸ numbered_after h
  have hrecorded := (evaluate_stamped f now d).policy
  constructor
  · rintro hrec ⟨base, hpol⟩ hentry
    calc d.policyGeneration = (f.evaluate now d).1.policyGeneration := hrecorded.symm
      _ = base.generation := hrec base hpol hentry
      _ = f.policy.latestGeneration := hnum _ _ hpol
  · intro hclaim base hpol hentry
    calc (f.evaluate now d).1.policyGeneration = d.policyGeneration := hrecorded
      _ = f.policy.latestGeneration := hclaim ⟨base, hpol⟩ hentry
      _ = base.generation := (hnum _ _ hpol).symm

/-- Policy 1 is replaced between submission and evaluation: the request still claims
generation 1, and so does the decision under policy 2. -/
theorem records_policy_fails : ¬ ((engine Binary64).after
    [⟨0, .installPolicy Sample.policy⟩, ⟨0, .installPolicy Sample.policy⟩,
      ⟨0, .setSnapshot (Sample.snapshot 2000000000)⟩]).RecordsPolicy 0 (Sample.descriptor 1) := by
  intro hrec
  have hsecond : (((engine Binary64).after
      [⟨0, .installPolicy Sample.policy⟩, ⟨0, .installPolicy Sample.policy⟩,
        ⟨0, .setSnapshot (Sample.snapshot 2000000000)⟩]).policy.latest).map (·.generation) =
      some ⟨2⟩ := by decide +kernel
  obtain ⟨base, hpol, hgen⟩ := Option.map_eq_some_iff.mp hsecond
  have hrecorded := hrec base hpol
    (entryGate_eq_ok_iff.mpr ⟨by decide +kernel, fun record h => by cases h⟩)
  have hclaimed := (evaluate_stamped _ 0 (Sample.descriptor 1)).policy.symm.trans hrecorded
  rw [show base.generation = ⟨2⟩ from hgen] at hclaimed
  revert hclaimed
  decide

end AdmissionFabric

end Fabric

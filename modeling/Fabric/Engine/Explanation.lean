import Fabric.Engine.Gates
import Fabric.Engine.Settings

/-!
# Explanations

The explanation of a decision is one of the fixed texts of `engine.cpp`, with at most the name of
a resource or a message of a callee in it, so it is short whatever the request and the state
(`evaluate_brief`).
-/

namespace Fabric

open Support Support.Checks

variable {F : Type} [Double F]

/-- At most 128 bytes. -/
def ByteString.Brief (s : ByteString) : Prop := s.length ≤ 128

namespace AdmissionFabric

variable {f : AdmissionFabric F} {now : TimePoint} {d : AdmissionDescriptor F}
  {pol : AdmissionPolicy F} {fc : Forecast F} {slo : SloFeasibility F}

/-! ## The parts -/

theorem length_resourceName (id : ResourceId) : (ascii id.name).length ≤ 20 := by
  cases id <;> decide

theorem length_lifecycleName (life : RequestLifecycle) : (ascii life.name).length ≤ 16 := by
  cases life <;> decide

theorem length_paren : (ascii ")").length ≤ 1 := by decide

theorem length_firstFailure (code : ErrorCode) {checks : List (Bool × String)}
    (h : ∀ text ∈ checks.map Prod.snd, (ascii text).length ≤ 64) :
    (firstFailure code checks).message.length ≤ 64 := by
  unfold firstFailure
  cases hfind : checks.find? Prod.fst with
  | none => exact Nat.zero_le _
  | some c => exact h c.2 (List.mem_map_of_mem (List.mem_of_find?_eq_some hfind))

theorem length_validate (d : AdmissionDescriptor F) : d.validate.message.length ≤ 64 := by
  refine length_firstFailure _ ?_
  simp only [AdmissionDescriptor.checks, List.map_cons, List.map_nil]
  decide

theorem length_quotaWhat (f : AdmissionFabric F) (d : AdmissionDescriptor F)
    (demand : ResourceVector) : (f.classifyQuota d demand).2.length ≤ 20 := by
  simp only [classifyQuota]
  split_ifs
  · exact Nat.zero_le _
  · decide
  · split
    · exact length_resourceName _
    · exact Nat.zero_le _

theorem length_sloExplanation (f : AdmissionFabric F) (d : AdmissionDescriptor F)
    (dur : DurationPrediction F) : (f.evaluateSlo d dur).explanation.length ≤ 40 := by
  simp only [evaluateSlo]
  split
  · show (ascii _).length ≤ 40
    decide
  · split_ifs
    all_goals
      show (ascii _).length ≤ 40
      decide

theorem length_reserveCheck (m : ReservationManager) (id : ReservationId)
    (demand : ResourceVector) :
    FailsWith (fun s : Status => s.message.length ≤ 40) (m.reserveCheck id demand) := by
  refine .bind (.require (by decide)) fun _ => ?_
  refine .bind (.require (by decide)) fun _ => ?_
  refine .bind (.orFail (by decide)) fun _ => ?_
  refine .bind (.orFail (by decide)) fun _ => ?_
  split
  · intro e he
    cases he
    rename_i dim _
    cases dim <;> decide
  · exact .ok _

/-! ## The gates -/

/-- The failures of a gate are explained briefly. -/
abbrev BriefFailures {α : Type} (x : Except (Refusal F) α) : Prop :=
  FailsWith (fun r => r.decision.explanation.Brief) x

theorem brief_ascii (s : String) (h : (ascii s).length ≤ 128) : (ascii s).Brief := h

/-- A text with something short behind it. -/
theorem brief_append (s : String) {rest : ByteString} {n : ℕ} (hrest : rest.length ≤ n)
    (h : (ascii s).length + n ≤ 128) : (ascii s ++ rest).Brief := by
  rw [ByteString.Brief, List.length_append]
  omega

theorem entryGate_brief : BriefFailures (f.entryGate now d) := by
  refine .bind (.require ?_) fun _ => ?_
  · exact Nat.le_trans (length_validate d) (by decide)
  · cases f.requests.find? d.admissionRequestId with
    | none => exact .ok ()
    | some record =>
      refine .require ?_
      show (ascii _ ++ _ ++ _).Brief
      rw [List.append_assoc]
      refine brief_append _ (n := 17) ?_ (by decide)
      rw [List.length_append]
      exact Nat.add_le_add (length_lifecycleName record.lifecycle) length_paren

theorem snapshotGate_brief : BriefFailures (f.snapshotGate now pol d fc) := by
  unfold snapshotGate
  split_ifs
  · exact .bind (.require (brief_ascii _ (by decide))) fun _ => .require (brief_ascii _ (by decide))
  · exact .require (brief_ascii _ (by decide))

theorem quotaGate_brief : BriefFailures (f.quotaGate now d fc) := by
  have hwhat := length_quotaWhat f d fc.demand
  refine .bind (.require (brief_append _ hwhat (by decide))) fun _ => ?_
  exact .bind (.require (brief_append _ hwhat (by decide))) fun _ => .ok _

theorem sloGate_brief : BriefFailures (f.sloGate now d fc) := by
  have hslo := length_sloExplanation f d fc.dur
  refine .bind (.require (brief_append _ hslo (by decide))) fun _ => ?_
  exact .bind (.require (brief_ascii _ (by decide))) fun _ => .ok _

theorem capacityGate_brief : BriefFailures (f.capacityGate now pol d fc slo) := by
  refine .bind (.require ?_) fun _ => .require (brief_ascii _ (by decide))
  show (ascii _ ++ _ ++ _).Brief
  rw [List.append_assoc]
  refine brief_append _ (n := 21) ?_ (by decide)
  rw [List.length_append]
  refine Nat.add_le_add ?_ length_paren
  split
  · exact length_resourceName _
  · decide

theorem gates_brief : BriefFailures (f.gates now pol d) := by
  refine .bind (.require (brief_ascii _ (by decide))) fun _ => ?_
  refine .bind snapshotGate_brief fun _ => ?_
  refine .bind quotaGate_brief fun _ => ?_
  refine .bind sloGate_brief fun _ => ?_
  exact .bind capacityGate_brief fun _ => .ok _

/-! ## The evaluation -/

theorem reserveAndAdmit_brief (f : AdmissionFabric F) (now : TimePoint)
    (pol : AdmissionPolicy F) (d : AdmissionDescriptor F) (c : Clearance F) :
    (f.reserveAndAdmit now pol d c).1.explanation.Brief := by
  unfold reserveAndAdmit
  simp only [ReservationManager.reserve]
  cases hcheck : f.reservations.reserveCheck ⟨f.reservationCounter⟩ c.forecast.demand with
  | error s =>
    simp only [refuse_eq]
    exact brief_append _ (length_reserveCheck _ _ _ s hcheck) (by decide)
  | ok next =>
    show (admitDecision _ _ _ _ _ _ _).explanation.Brief
    simp only [admitDecision]
    split_ifs
    · exact brief_ascii _ (by decide)
    · exact brief_ascii _ (by decide)

theorem evaluateOpen_brief (f : AdmissionFabric F) (now : TimePoint)
    (d : AdmissionDescriptor F) : (f.evaluateOpen now d).1.explanation.Brief := by
  unfold evaluateOpen
  cases f.policy.latest with
  | none =>
    simp only [refuse_eq]
    exact brief_ascii _ (by decide)
  | some base =>
    simp only
    cases hgates : (f.bindOvercommit (base.effective d)).gates now (base.effective d) d with
    | error r =>
      have hr := gates_brief r hgates
      simp only [refuse_eq]
      exact hr
    | ok c => exact reserveAndAdmit_brief _ now _ d c

/-- Every explanation is short. -/
theorem evaluate_brief (f : AdmissionFabric F) (now : TimePoint) (d : AdmissionDescriptor F) :
    (f.evaluate now d).1.explanation.Brief := by
  unfold evaluate
  simp only
  cases hentry : f.countEvaluation.entryGate now d with
  | error r =>
    simp only [refuse_eq]
    exact entryGate_brief r hentry
  | ok u => exact evaluateOpen_brief _ now d

end AdmissionFabric

end Fabric

import Fabric.Coordinator.Placement
import Fabric.Engine.Authority

/-!
# The authority of a commit after a loss

A commit request carries a request and a generation. The coordinator hands it to the engine
without looking at the epoch or at the agent that the admission was decided on, so the loss of
that agent does not fence it: a fenced admission stays uncommitted exactly when no commit request
reaches its reservation while that is provisional and in time (`fences_admissions_iff`).
-/

namespace Fabric

open Support

variable {F : Type} [Double F]

namespace Coordinator

variable {c : Coordinator F} {e : CoordinatorEvent F} {x : AdmissionRequestId}
  {g : AdmissionGeneration}

/-- The event evaluates `x` and admits it. -/
def Admits (x : AdmissionRequestId) (c : Coordinator F) (e : CoordinatorEvent F) : Prop :=
  ∃ now d dec, e = .client now (.evaluate d) ∧ d.admissionRequestId = x ∧
    (c.step e).1 = .decision dec ∧ dec.outcome = .admitted

/-- The event admits `x` with generation `g` while the snapshot of agent `id` is chosen. -/
def AdmitsOn (id : AgentId) (x : AdmissionRequestId) (g : AdmissionGeneration)
    (c : Coordinator F) (e : CoordinatorEvent F) : Prop :=
  ∃ now d dec ctx, e = .client now (.evaluate d) ∧ d.admissionRequestId = x ∧
    c.chosen d = some ctx ∧ ctx.id = id ∧ (c.step e).1 = .decision dec ∧
    dec.outcome = .admitted ∧ dec.admissionGeneration = g

/-- `x` was admitted with generation `g` on an agent that was fenced afterwards, and has not been
admitted again. -/
def FencedAdmission (x : AdmissionRequestId) (g : AdmissionGeneration)
    (h : List (CoordinatorEvent F)) : Prop :=
  ∃ pre e post id, h = pre ++ e :: post ∧ AdmitsOn id x g ((coordinator F).after pre) e ∧
    (∃ mid l mid' boot, post = mid ++ l :: mid' ∧
      Fences id boot ((coordinator F).after (pre ++ e :: mid)) l) ∧
    ∀ mid e' mid', post = mid ++ e' :: mid' →
      ¬ Admits x ((coordinator F).after (pre ++ e :: mid)) e'

/-- No commit of a fenced admission is answered with success. -/
def FencesAdmissions (h : List (CoordinatorEvent F)) : Prop :=
  ∀ pre now x g post, h = pre ++ .client now (.commit x g) :: post → FencedAdmission x g pre →
    (((coordinator F).after pre).step (.client now (.commit x g))).1 ≠ .code .ok

/-- No commit request reaches the reservation of a fenced admission while it is provisional and
in time. -/
def NoLateCommit (h : List (CoordinatorEvent F)) : Prop :=
  ∀ pre now x g post, h = pre ++ .client now (.commit x g) :: post → FencedAdmission x g pre →
    ∀ record dec rid r,
      ¬ ((coordinator F).after pre).engine.Commits ⟨now, .commit x g⟩ x record dec rid r

theorem linked_engine (h : List (CoordinatorEvent F)) :
    ((coordinator F).after h).engine.Linked := by
  obtain ⟨calls, hcalls⟩ := engine_after h
  rw [hcalls]
  exact AdmissionFabric.linked_after calls

theorem step_commit (c : Coordinator F) (now : TimePoint) (x : AdmissionRequestId)
    (g : AdmissionGeneration) : (c.step (.client now (.commit x g))).1 =
      .code (c.engine.commitAdmission now x g).1.code :=
  rfl

/-- The engine decides about a commit request. -/
theorem commit_reply_iff (c : Coordinator F) (now : TimePoint) (x : AdmissionRequestId)
    (g : AdmissionGeneration) : (c.step (.client now (.commit x g))).1 = .code .ok ↔
      c.engine.Succeeds ⟨now, .commit x g⟩ := by
  rw [step_commit]
  constructor
  · intro hreply
    exact ⟨_, rfl, Status.isOk_iff.mpr (CoordinatorReply.code.inj hreply)⟩
  · rintro ⟨s, hreply, hok⟩
    obtain rfl := EngineReply.status.inj hreply
    exact congrArg CoordinatorReply.code (Status.isOk_iff.mp hok)

/-- The loss of an agent fences the admissions decided on it, exactly when no commit request
reaches the reservation of a fenced admission in time. -/
theorem fences_admissions_iff (h : List (CoordinatorEvent F)) :
    FencesAdmissions h ↔ NoLateCommit h := by
  have hcommit : ∀ pre now x g,
      (((coordinator F).after pre).step (.client now (.commit x g))).1 = .code .ok ↔
        ∃ record dec rid r, ((coordinator F).after pre).engine.Commits ⟨now, .commit x g⟩ x
          record dec rid r := by
    intro pre now x g
    rw [commit_reply_iff]
    exact AdmissionFabric.succeeds_iff_commits (linked_engine pre) rfl
  constructor
  · intro hlaw pre now x g post hh hfenced record dec rid r hcommits
    exact hlaw pre now x g post hh hfenced ((hcommit pre now x g).mpr ⟨record, dec, rid, r, hcommits⟩)
  · intro hnone pre now x g post hh hfenced hok
    obtain ⟨record, dec, rid, r, hcommits⟩ := (hcommit pre now x g).mp hok
    exact hnone pre now x g post hh hfenced record dec rid r hcommits

/-- A request is admitted, its agent is lost, and the commit still succeeds. -/
theorem fences_admissions_fails : ¬ FencesAdmissions (Sample.served ++
    [.client 0 (.evaluate (Sample.descriptor 1)), .lost 0, .client 0 (.commit ⟨1⟩ ⟨1⟩)]) := by
  intro hlaw
  obtain ⟨ctx, hchosen, hid⟩ : ∃ ctx, ((coordinator Binary64).after Sample.served).chosen
      (Sample.descriptor 1) = some ctx ∧ ctx.id = ⟨1⟩ :=
    Option.map_eq_some_iff.mp (by decide +kernel)
  have hadmits : AdmitsOn ⟨1⟩ ⟨1⟩ ⟨1⟩ ((coordinator Binary64).after Sample.served)
      (.client 0 (.evaluate (Sample.descriptor 1))) :=
    ⟨0, Sample.descriptor 1, _, ctx, rfl, rfl, hchosen, hid,
      congrArg Prod.fst (step_evaluate _ _ _), by decide +kernel, by decide +kernel⟩
  have hfences : Fences ⟨1⟩ ⟨100⟩ ((coordinator Binary64).after (Sample.served ++
      [.client 0 (.evaluate (Sample.descriptor 1))])) (.lost 0) := by
    rw [Machine.after_snoc]
    exact Fences.of_same (client_same _ 0 _) ⟨0, _, _, rfl, ⟨rfl, rfl⟩, rfl, rfl, rfl, rfl⟩
  have hfenced : FencedAdmission ⟨1⟩ ⟨1⟩ (Sample.served ++
      [.client 0 (.evaluate (Sample.descriptor 1)), .lost 0]) := by
    refine ⟨Sample.served, _, [.lost 0], ⟨1⟩, rfl, hadmits, ⟨[], _, [], ⟨100⟩, rfl, hfences⟩, ?_⟩
    rintro mid e' mid' hpost ⟨now, d, dec, rfl, -⟩
    have hmem : CoordinatorEvent.client now (.evaluate d) ∈
        ([.lost 0] : List (CoordinatorEvent Binary64)) := by
      rw [hpost]
      simp
    simp at hmem
  have hcode : (((coordinator Binary64).after (Sample.served ++
      [.client 0 (.evaluate (Sample.descriptor 1)), .lost 0])).engine.commitAdmission 0 ⟨1⟩
        ⟨1⟩).1.code = .ok := by decide +kernel
  have hrefused := hlaw (Sample.served ++
    [.client 0 (.evaluate (Sample.descriptor 1)), .lost 0]) 0 ⟨1⟩ ⟨1⟩ [] (by simp) hfenced
  rw [step_commit, hcode] at hrefused
  exact hrefused rfl

end Coordinator

end Fabric

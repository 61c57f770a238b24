import Fabric.Coordinator.Interleaving
import Fabric.Engine.Refusals

/-!
# When no agent qualifies

Without a choice a request is evaluated against a placeholder that is dated by the clock and in
which every dimension is unavailable. The gate that defers for an unavailable dimension stands
behind the capability check and the check of the age, and the placeholder has no capabilities: the
request is deferred exactly when it declares no backend and the placeholder has not aged past the
policy in between (`held_over_iff`).
-/

namespace Fabric

open Support

variable {F : Type} [Double F]

namespace AdmissionFabric

variable {f : AdmissionFabric F} {d : AdmissionDescriptor F} {now : TimePoint}

theorem deferred_of_lifecycle {record : RequestRecord F} {id : AdmissionRequestId}
    (hold : f.lifecycle? id = none ∨ f.lifecycle? id = some .deferred)
    (hfind : f.requests.find? id = some record) : record.lifecycle = .deferred := by
  have hlife : f.lifecycle? id = some record.lifecycle := by
    rw [lifecycle?, request, hfind, Option.map_some]
  rcases hold with hold | hold
  · cases hlife.symm.trans hold
  · exact Option.some.inj (hlife.symm.trans hold)

/-- The record of a deferred request is deferred, whether it is new or was so before. -/
theorem exists_deferred_of_defer (hold : f.lifecycle? d.admissionRequestId = none ∨
      f.lifecycle? d.admissionRequestId = some .deferred)
    (hout : (f.evaluate now d).1.outcome = .defer) :
    ∃ record, (f.evaluate now d).2.requests.find? d.admissionRequestId = some record ∧
      record.lifecycle = .deferred := by
  obtain ⟨fresh, hfresh, hrecord⟩ := settled_record f now d
  refine ⟨_, hrecord, ?_⟩
  rw [hout]
  cases hfind : f.requests.find? d.admissionRequestId with
  | none => exact RequestRecord.settle_lifecycle_of_new (.inl hfresh)
  | some record =>
    have hrec := deferred_of_lifecycle hold hfind
    rw [Option.getD_some, RequestRecord.settle_lifecycle_of_old (by simp [hrec]), hrec]

end AdmissionFabric

namespace Coordinator

variable {c : Coordinator F} {s : Handling F} {client : ConnId} {d : AdmissionDescriptor F}
  {dated now : TimePoint} {base : AdmissionPolicy F}

/-! ## Two readings of the clock -/

/-- The decision on an evaluation request and the coordinator it leaves behind: the placeholder is
dated with one reading of the clock, the evaluation takes another. -/
def evaluateRequest (c : Coordinator F) (dated now : TimePoint) (d : AdmissionDescriptor F) :
    AdmissionDecision F × Coordinator F :=
  let (dec, engine) := (c.engine.setSnapshot (c.snapshotFor dated d)).evaluate now d
  (dec, { c with engine })

/-- With equal readings this is the step of the coordinator. -/
theorem step_evaluateRequest (c : Coordinator F) (now : TimePoint) (d : AdmissionDescriptor F) :
    c.step (.client now (.evaluate d)) =
      (.decision (c.evaluateRequest now now d).1, (c.evaluateRequest now now d).2) := rfl

/-- A handler whose steps follow each other answers with this decision and leaves this
coordinator. -/
theorem replies_evaluateRequest (hnew : s.running.find? client = none)
    (dated now : TimePoint) (d : AdmissionDescriptor F) :
    (handling c).replies s [.choose client d, .set client dated, .evaluate client now] =
        [none, none, some (s.coordinator.evaluateRequest dated now d).1] ∧
      ((handling c).run s
          [.choose client d, .set client dated, .evaluate client now]).coordinator =
        (s.coordinator.evaluateRequest dated now d).2 := by
  simp only [Machine.run_cons, Machine.run_nil, Machine.replies, Machine.reply, Machine.next,
    handling]
  rw [handlerStep_choose hnew, handlerStep_set (OrdMap.find?_insert_self _ _ _) rfl,
    handlerStep_evaluate now (OrdMap.find?_insert_self _ _ _) rfl]
  exact ⟨rfl, rfl⟩

/-! ## Held over -/

/-- The request is deferred, its record as well, and it passes the entry checks of any later
evaluation. -/
def HeldOver (c : Coordinator F) (dated now : TimePoint) (d : AdmissionDescriptor F) : Prop :=
  (c.evaluateRequest dated now d).1.outcome = .defer ∧
    (c.evaluateRequest dated now d).2.engine.lifecycle? d.admissionRequestId = some .deferred ∧
    ∀ later, (c.evaluateRequest dated now d).2.engine.entryGate later d = .ok ()

/-- A request that no agent qualifies for is evaluated against the placeholder. -/
theorem snapshotFor_of_none (h : c.chooseSnapshot d = none) :
    c.snapshotFor dated d = c.emptySnapshot dated := by
  rw [snapshotFor, chosen, h]
  rfl

theorem not_accepted_emptySnapshot (pol : AdmissionPolicy F) :
    ¬ (c.engine.setSnapshot (c.emptySnapshot dated)).SnapshotAccepted now pol := by
  rintro ⟨-, havail⟩
  have hsnap : (c.emptySnapshot dated).hasUnavailableDimension = false := havail
  revert hsnap
  simp [ResourceSnapshot.hasUnavailableDimension, emptySnapshot, ResourceId.all]

/-- Against the placeholder a request is rejected for the backend that it declares, or for the age
of the placeholder. -/
theorem rejects_emptySnapshot_iff (pol : AdmissionPolicy F) :
    (c.engine.setSnapshot (c.emptySnapshot dated)).Rejects now pol d ↔
      d.backend.isEmpty = false ∨
        now - dated > pol.maxSnapshotAge ∧ pol.acceptStaleSnapshot = false := by
  have hcap : (c.engine.setSnapshot (c.emptySnapshot dated)).classifyCapability d =
      .rejectCapability ↔ d.backend.isEmpty = false := by
    rw [← not_iff_not, ← ne_eq, AdmissionFabric.classifyCapability_ne_iff]
    constructor
    · intro hoffers hdecl
      have hnone := (hoffers hdecl).backend hdecl
      cases hnone
    · exact fun hnone hdecl => absurd hdecl hnone
  rw [AdmissionFabric.Rejects, hcap]
  refine or_congr_right ⟨?_, fun h => .inl ⟨rfl, decide_eq_true h.1, h.2⟩⟩
  rintro (⟨-, hstale, haccept⟩ | ⟨haccepted, -⟩)
  · exact ⟨of_decide_eq_true hstale, haccept⟩
  · exact absurd haccepted (not_accepted_emptySnapshot pol)

/-- Without an eligible agent a valid request that is new or deferred is deferred exactly when it
declares no backend and the placeholder is not stale when it is evaluated. -/
theorem defer_iff_of_none (hpol : c.engine.policy.latest = some base)
    (hnone : c.chooseSnapshot d = none) (hvalid : d.validate.isOk = true)
    (hold : c.engine.lifecycle? d.admissionRequestId = none ∨
      c.engine.lifecycle? d.admissionRequestId = some .deferred) :
    (c.evaluateRequest dated now d).1.outcome = .defer ↔ d.backend.isEmpty = true ∧
      ¬ (now - dated > (base.effective d).maxSnapshotAge ∧
        (base.effective d).acceptStaleSnapshot = false) := by
  have hopen : ∀ record, c.engine.requests.find? d.admissionRequestId = some record →
      record.lifecycle = .deferred := fun _ => AdmissionFabric.deferred_of_lifecycle hold
  have hentry : (c.engine.setSnapshot (c.emptySnapshot dated)).entryGate now d = .ok () :=
    AdmissionFabric.entryGate_eq_ok_iff.mpr ⟨hvalid, fun record hfind => by
      rw [hopen record hfind]
      rfl⟩
  have hnot : ¬ (c.engine.setSnapshot (c.emptySnapshot dated)).Clears now (base.effective d) d :=
    fun hclears => not_accepted_emptySnapshot _ hclears.snapshot
  show ((c.engine.setSnapshot (c.snapshotFor dated d)).evaluate now d).1.outcome = .defer ↔ _
  rw [snapshotFor_of_none hnone, AdmissionFabric.defer_iff hentry]
  constructor
  · rintro ⟨base', hpol', -, hrejects⟩
    obtain rfl := Option.some.inj (hpol.symm.trans hpol')
    rw [rejects_emptySnapshot_iff, not_or] at hrejects
    exact ⟨by simpa using hrejects.1, hrejects.2⟩
  · rintro ⟨hbackend, hfresh⟩
    refine ⟨base, hpol, hnot, fun hrejects => ?_⟩
    rcases (rejects_emptySnapshot_iff _).mp hrejects with hdecl | hstale
    · cases hbackend.symm.trans hdecl
    · exact hfresh hstale

/-- A request that is deferred can be evaluated again. -/
theorem heldOver_iff_defer (hvalid : d.validate.isOk = true)
    (hold : c.engine.lifecycle? d.admissionRequestId = none ∨
      c.engine.lifecycle? d.admissionRequestId = some .deferred) :
    c.HeldOver dated now d ↔ (c.evaluateRequest dated now d).1.outcome = .defer := by
  refine ⟨And.left, fun hout => ⟨hout, ?_⟩⟩
  obtain ⟨record, hfind, hlife⟩ := AdmissionFabric.exists_deferred_of_defer
    (f := c.engine.setSnapshot (c.snapshotFor dated d)) hold hout
  have hfind' : (c.evaluateRequest dated now d).2.engine.requests.find? d.admissionRequestId =
      some record := hfind
  constructor
  · rw [AdmissionFabric.lifecycle?, AdmissionFabric.request, hfind', Option.map_some, hlife]
  · refine fun later => AdmissionFabric.entryGate_eq_ok_iff.mpr ⟨hvalid, fun other hother => ?_⟩
    obtain rfl := Option.some.inj (hfind'.symm.trans hother)
    rw [hlife]
    rfl

/-- Under a policy, a valid request that is new or deferred and that no agent qualifies for is held
over exactly when it declares no backend and the placeholder is not stale when it is evaluated. -/
theorem held_over_iff (hpol : c.engine.policy.latest = some base)
    (hnone : c.chooseSnapshot d = none) (hvalid : d.validate.isOk = true)
    (hold : c.engine.lifecycle? d.admissionRequestId = none ∨
      c.engine.lifecycle? d.admissionRequestId = some .deferred) :
    c.HeldOver dated now d ↔ d.backend.isEmpty = true ∧
      ¬ (now - dated > (base.effective d).maxSnapshotAge ∧
        (base.effective d).acceptStaleSnapshot = false) := by
  rw [heldOver_iff_defer hvalid hold]
  exact defer_iff_of_none hpol hnone hvalid hold

end Coordinator

namespace Sample

/-- A policy is installed, and no agent has registered. -/
def deserted : List (CoordinatorEvent Binary64) := [.host 0 (.installPolicy policy)]

/-- A request for a backend. -/
def accelerated : AdmissionDescriptor Binary64 := { descriptor 1 with backend := ascii "cuda" }

end Sample

namespace Coordinator

theorem held_over_iff_deserted :
    ((coordinator Binary64).after Sample.deserted).HeldOver 0 1 (Sample.descriptor 1) ↔
      (Sample.descriptor 1).backend.isEmpty = true ∧
        ¬ (1 - 0 > (({ Sample.policy with generation := ⟨1⟩ } : AdmissionPolicy Binary64).effective
            (Sample.descriptor 1)).maxSnapshotAge ∧
          (({ Sample.policy with generation := ⟨1⟩ } : AdmissionPolicy Binary64).effective
            (Sample.descriptor 1)).acceptStaleSnapshot = false) :=
  held_over_iff rfl rfl (by decide +kernel) (.inl rfl)

/-- A valid new request for a backend is rejected for good while no agent is there. -/
theorem held_over_fails :
    ((coordinator Binary64).after Sample.deserted).engine.policy.latest.isSome = true ∧
      ((coordinator Binary64).after Sample.deserted).chooseSnapshot Sample.accelerated = none ∧
      Sample.accelerated.validate.isOk = true ∧
      ((coordinator Binary64).after Sample.deserted).engine.lifecycle? ⟨1⟩ = none ∧
      ((((coordinator Binary64).after Sample.deserted).evaluateRequest 0 0
        Sample.accelerated).2.engine.lifecycle? ⟨1⟩ = some .rejected) ∧
      ¬ ((coordinator Binary64).after Sample.deserted).HeldOver 0 0 Sample.accelerated := by
  refine ⟨rfl, rfl, by decide +kernel, rfl, by decide +kernel, fun h => ?_⟩
  have hout : (((coordinator Binary64).after Sample.deserted).evaluateRequest 0 0
      Sample.accelerated).1.outcome = .reject := by
    decide +kernel
  cases hout.symm.trans h.1

end Coordinator

end Fabric

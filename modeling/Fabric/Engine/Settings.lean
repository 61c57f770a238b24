import Fabric.Engine.Steps
import Fabric.Policy.History

/-!
# What requests leave alone

Evaluations, commits, releases and cancels do not touch what the configuration calls set: the
policies, the predictor, the snapshot and its total, the quota and the fairness weights
(`settings_kept`). The total that the reservations are checked against is the one of the snapshot
(`total_after`). Only `install_policy` changes the policies, so every installed policy of a
reachable engine carries the generation it is filed under (`numbered_after`).
-/

namespace Fabric

open Support

variable {F : Type} [Double F]

namespace AdmissionFabric

/-- The configuration is as before. -/
structure SameSettings (f f' : AdmissionFabric F) : Prop where
  policy : f'.policy = f.policy
  predictor : f'.predictor = f.predictor
  snapshot : f'.snapshot = f.snapshot
  hasSnapshot : f'.hasSnapshot = f.hasSnapshot
  quota : f'.quota = f.quota
  fairness : f'.fairness = f.fairness
  total : f'.reservations.total = f.reservations.total

variable {f : AdmissionFabric F}

theorem settings_evaluate (f : AdmissionFabric F) (now : TimePoint) (d : AdmissionDescriptor F) :
    f.SameSettings (f.evaluate now d).2 := by
  by_cases h : f.Admissible now d
  · obtain ⟨a⟩ := h
    obtain ⟨dec, metrics, -, -, -, heq⟩ := evaluate_of_admission a
    rw [heq]
    exact ⟨rfl, rfl, rfl, rfl, rfl, rfl, rfl⟩
  · obtain ⟨r, base, mode, allowance, counter, metrics, -, -, heq⟩ :=
      evaluate_of_not_admissible h
    rw [heq]
    exact ⟨rfl, rfl, rfl, rfl, rfl, rfl, rfl⟩

/-- An operation of the manager that keeps its total keeps the settings. -/
theorem SameSettings.of_manager {m : ReservationManager}
    {requests : OrdMap AdmissionRequestId (RequestRecord F)} {metrics : Metrics}
    (htotal : m.total = f.reservations.total) :
    f.SameSettings { f with reservations := m, requests, metrics } :=
  ⟨rfl, rfl, rfl, rfl, rfl, rfl, htotal⟩

end AdmissionFabric

namespace ReservationManager

variable {m : ReservationManager}

theorem expireUnsafe_total (m : ReservationManager) (id : ReservationId)
    (r : ResourceReservation) : (m.expireUnsafe id r).total = m.total := by
  unfold expireUnsafe
  split <;> rfl

theorem commit_total (m : ReservationManager) (now : TimePoint) (id : ReservationId)
    (ar : AdmissionRequestId) (gen : AdmissionGeneration) :
    (m.commit now id ar gen).2.total = m.total := by
  unfold commit
  cases m.reservations.find? id with
  | none => rfl
  | some r =>
    simp only
    split_ifs
    · rfl
    · rfl
    · exact expireUnsafe_total m id r
    · split <;> rfl

theorem rollback_total (m : ReservationManager) (id : ReservationId) :
    (m.rollback id).2.total = m.total := by
  unfold rollback
  cases m.reservations.find? id with
  | none => rfl
  | some r =>
    simp only
    split_ifs
    · rfl
    · rfl
    · split <;> rfl

theorem release_total (m : ReservationManager) (id : ReservationId) :
    (m.release id).2.total = m.total := by
  unfold release
  cases m.reservations.find? id with
  | none => rfl
  | some r =>
    simp only
    split_ifs
    · rfl
    · split <;> rfl
    · split <;> rfl
    · rfl

end ReservationManager

namespace AdmissionFabric

variable {f : AdmissionFabric F}

theorem settings_commit (f : AdmissionFabric F) (now : TimePoint) (x : AdmissionRequestId)
    (g : AdmissionGeneration) : f.SameSettings (f.commitAdmission now x g).2 := by
  have hsame : f.SameSettings f := ⟨rfl, rfl, rfl, rfl, rfl, rfl, rfl⟩
  unfold commitAdmission
  cases f.requests.find? x with
  | none => exact hsame
  | some record =>
    simp only
    cases record.lastDecision with
    | none => exact hsame
    | some dec =>
      simp only
      split_ifs
      · exact hsame
      · cases dec.reservationId with
        | none => exact hsame
        | some rid =>
          have htotal := f.reservations.commit_total now rid x g
          simp only
          split_ifs
          · exact .of_manager htotal
          · exact .of_manager htotal

theorem settings_release (f : AdmissionFabric F) (now : TimePoint) (rid : ReservationId) :
    f.SameSettings (f.releaseReservation now rid).2 := by
  have htotal := f.reservations.release_total rid
  unfold releaseReservation
  simp only
  split_ifs
  · exact .of_manager htotal
  · exact .of_manager htotal

theorem settings_cancel (f : AdmissionFabric F) (now : TimePoint) (x : AdmissionRequestId) :
    f.SameSettings (f.cancelRequest now x).2 := by
  unfold cancelRequest
  cases f.requests.find? x with
  | none => exact .of_manager rfl
  | some record =>
    simp only
    cases record.lifecycle with
    | reserved =>
      simp only
      cases record.reservation? with
      | none => exact .of_manager rfl
      | some rid => exact .of_manager (f.reservations.rollback_total rid)
    | _ => exact .of_manager rfl

/-- Only configuration calls change the configuration. -/
theorem settings_kept {c : EngineCall F} (hop : ¬ c.op.IsConfiguration) :
    f.SameSettings (f.call c).2 := by
  obtain ⟨now, op⟩ := c
  cases op with
  | evaluate d => exact settings_evaluate f now d
  | commit x g => exact settings_commit f now x g
  | release rid => exact settings_release f now rid
  | cancel x => exact settings_cancel f now x
  | _ => exact absurd trivial hop

/-- The checks look at the total of the last snapshot. -/
theorem total_after (h : List (EngineCall F)) :
    ((engine F).after h).reservations.total = ((engine F).after h).snapshot.total := by
  refine (engine F).invariant (P := fun f => f.reservations.total = f.snapshot.total) rfl
    (fun f c hf => ?_) h
  show (f.call c).2.reservations.total = (f.call c).2.snapshot.total
  by_cases hop : c.op.IsConfiguration
  · obtain ⟨now, op⟩ := c
    cases op with
    | setSnapshot s => rfl
    | installPolicy p =>
      have heq : (f.installPolicy p).2.reservations.total = f.reservations.total ∧
          (f.installPolicy p).2.snapshot = f.snapshot := by
        unfold installPolicy
        simp only
        split_ifs
        · exact ⟨rfl, rfl⟩
        · split <;> exact ⟨rfl, rfl⟩
      exact heq.1.trans (hf.trans (congrArg _ heq.2.symm))
    | evaluate | commit | release | cancel => exact absurd hop id
    | _ => exact hf
  · rw [(settings_kept hop).total, (settings_kept hop).snapshot]
    exact hf

/-! ## The installed policies -/

theorem policy_installPolicy (f : AdmissionFabric F) (p : AdmissionPolicy F) :
    (f.installPolicy p).2.policy = (f.policy.install p).2 := by
  unfold installPolicy
  simp only
  split_ifs
  · rfl
  · split <;> rfl

/-- The policies of a reachable engine carry the generation they are filed under. -/
theorem numbered_after (h : List (EngineCall F)) : ((engine F).after h).policy.Numbered := by
  refine (engine F).invariant (P := fun f => f.policy.Numbered) (fun _ _ hq => by cases hq)
    (fun f c hf => ?_) h
  show (f.call c).2.policy.Numbered
  by_cases hop : c.op.IsConfiguration
  · obtain ⟨now, op⟩ := c
    cases op with
    | installPolicy p =>
      have heq : (f.call ⟨now, .installPolicy p⟩).2.policy = (f.policy.install p).2 :=
        policy_installPolicy f p
      rw [heq]
      exact PolicyEngine.numbered_call hf (.install p)
    | evaluate | commit | release | cancel => exact absurd hop id
    | _ => exact hf
  · rw [(settings_kept hop).policy]
    exact hf

end AdmissionFabric

end Fabric

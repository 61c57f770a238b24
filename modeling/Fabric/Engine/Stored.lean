import Fabric.Engine.Progress
import Fabric.Engine.Settings
import Fabric.Prediction.History

/-!
# What a reachable engine stores

`Stored` collects what holds of the tables of every reachable engine when they are saved: the
policies are valid, carry their number and are at most `kMaxGenerations`, the profiles are at
most `kMaxProfiles`, an engine without a snapshot has the default one, and no entry of the
reservation table is empty-handed.
-/

namespace Fabric

open Support

variable {F : Type} [Double F]

/-! ## Policies -/

namespace PolicyEngine

/-- What holds of the installed policies. -/
structure Stored (e : PolicyEngine F) : Prop where
  valid : ∀ g p, e.byGeneration g = some p → p.validate.isOk = true
  numbered : e.Numbered
  bounded : e.policies.size ≤ kMaxGenerations

variable {e : PolicyEngine F}

theorem stored_install (he : e.Stored) (p : AdmissionPolicy F) : (e.install p).2.Stored := by
  refine ⟨fun g q hq => ?_, numbered_call he.numbered (.install p), ?_⟩
  · rcases e.install_cases p with ⟨-, -, hkept, -⟩ | ⟨-, ⟨hvalid, -⟩, -, hby⟩
    · rw [byGeneration, hkept] at hq
      exact he.valid g q hq
    · rw [hby] at hq
      split_ifs at hq
      · obtain rfl := Option.some.inj hq
        exact hvalid
      · exact he.valid g q hq
  · unfold install
    generalize (if e.counter = maxU64 then 1 else e.counter + 1) = moved
    simp only
    split_ifs with hvalid hfull
    · exact he.bounded
    · exact he.bounded
    · rw [OrdMap.emplace_erase]
      cases hfind : e.policies.find? ⟨e.counter⟩ with
      | some q =>
        rw [OrdMap.size_insert_of_some _ hfind]
        exact he.bounded
      | none =>
        have hroom : ¬ e.policies.size ≥ kMaxGenerations := fun h =>
          hfull ⟨h, OrdMap.contains_eq_false_iff.mpr hfind⟩
        rw [OrdMap.size_insert_of_none _ hfind]
        omega

/-- A valid policy is recovered under the number it carries when the number is free. -/
theorem installAtGeneration_new {p : AdmissionPolicy F} (hvalid : p.validate.isOk = true)
    (hfree : e.byGeneration p.generation = none) :
    ∃ e', e.installAtGeneration p p.generation = (.success, e') ∧
      e'.policies = e.policies.insert p.generation p := by
  have hinvalid : ¬ p.validate.isOk = false := by simp [hvalid]
  have hpresent : ¬ e.policies.contains p.generation = true := by
    rw [OrdMap.contains_eq_false_iff.mpr hfree]
    exact Bool.false_ne_true
  unfold installAtGeneration
  simp only [if_neg hinvalid, if_neg hpresent]
  exact ⟨_, rfl, OrdMap.emplace_of_none p hfree⟩

end PolicyEngine

/-! ## Profiles -/

namespace WorkloadPredictor

/-- A key that is marked as seen has a profile, and the profiles are bounded. -/
structure Stored (w : WorkloadPredictor F) : Prop where
  tracked : ∀ key, w.seen.find? key = some true → ∃ p, w.profs.find? key = some p
  bounded : w.profs.size ≤ kMaxProfiles

variable {w : WorkloadPredictor F}

theorem stored_registerProfile (hw : w.Stored) (prof : PredictionProfile F) :
    (w.registerProfile prof).2.Stored := by
  unfold registerProfile
  simp only
  split_ifs with hfull
  · refine ⟨fun key hkey => ?_, hw.bounded⟩
    rw [OrdMap.find?_insert] at hkey
    split_ifs at hkey
    · cases hkey
    · exact hw.tracked key hkey
  · constructor
    · intro key hkey
      simp only [OrdMap.find?_insert] at hkey ⊢
      split_ifs at hkey ⊢
      · exact ⟨_, rfl⟩
      · exact hw.tracked key hkey
    · simp only
      cases hfind : w.profs.find? prof.key with
      | some q =>
        rw [OrdMap.size_insert_of_some _ hfind]
        exact hw.bounded
      | none =>
        have hunseen : (w.seen.find? prof.key).getD false = false := by
          cases hseen : w.seen.find? prof.key with
          | none => rfl
          | some b =>
            cases b with
            | false => rfl
            | true =>
              obtain ⟨q, hq⟩ := hw.tracked _ hseen
              cases hfind.symm.trans hq
        have hroom : ¬ w.profs.size ≥ kMaxProfiles := fun h => hfull ⟨hunseen, h⟩
        rw [OrdMap.size_insert_of_none _ hfind]
        omega

end WorkloadPredictor

/-! ## The engine -/

namespace AdmissionFabric

/-- What holds of everything an engine saves. -/
structure Stored (f : AdmissionFabric F) : Prop where
  policy : f.policy.Stored
  predictor : f.predictor.Stored
  snapshot : f.hasSnapshot = false → f.snapshot = {}
  demand : ∀ rid r, f.table.find? rid = some r → r.demand.isZero = false

variable {f f' : AdmissionFabric F} {c : EngineCall F} {reply : EngineReply F}

/-- A call brings in no entry without demand. -/
theorem CallEffect.demand (he : f.CallEffect c reply f')
    (hf : ∀ rid r, f.table.find? rid = some r → r.demand.isZero = false) {rid : ReservationId}
    {r' : ResourceReservation} (hr' : f'.table.find? rid = some r') : r'.demand.isZero = false := by
  cases hr : f.table.find? rid with
  | some r =>
    obtain ⟨r₁, hr₁, hfollows⟩ := he.entry_kept hr
    obtain rfl := Option.some.inj (hr'.symm.trans hr₁)
    rw [hfollows.demand]
    exact hf rid r hr
  | none =>
    obtain ⟨d, a, -, -, -, -, hdemand⟩ := he.entry_new hr hr'
    have hfits := a.fits
    rw [prepared_reservations] at hfits
    rw [hdemand]
    exact (ReservationManager.reserveCheck_eq_ok_iff.mp hfits).2.1

theorem installPolicy_kept (f : AdmissionFabric F) (p : AdmissionPolicy F) :
    (f.installPolicy p).2.predictor = f.predictor ∧
      (f.installPolicy p).2.hasSnapshot = f.hasSnapshot ∧
      (f.installPolicy p).2.snapshot = f.snapshot := by
  unfold installPolicy
  simp only
  split_ifs
  · exact ⟨rfl, rfl, rfl⟩
  · split <;> exact ⟨rfl, rfl, rfl⟩

/-- A configuration call keeps what holds of policies, profiles and snapshot. -/
theorem stored_configuration (hf : f.Stored) (hop : c.op.IsConfiguration) :
    (f.call c).2.policy.Stored ∧ (f.call c).2.predictor.Stored ∧
      ((f.call c).2.hasSnapshot = false → (f.call c).2.snapshot = {}) := by
  obtain ⟨now, op⟩ := c
  cases op with
  | installPolicy p =>
    have hpolicy : (f.call ⟨now, .installPolicy p⟩).2.policy = (f.policy.install p).2 :=
      policy_installPolicy f p
    obtain ⟨hpredictor, hhas, hsnapshot⟩ := f.installPolicy_kept p
    refine ⟨hpolicy ▸ PolicyEngine.stored_install hf.policy p, ?_, ?_⟩
    · show (f.installPolicy p).2.predictor.Stored
      rw [hpredictor]
      exact hf.predictor
    · show (f.installPolicy p).2.hasSnapshot = false → (f.installPolicy p).2.snapshot = {}
      rw [hhas, hsnapshot]
      exact hf.snapshot
  | registerProfile prof =>
    exact ⟨hf.policy, WorkloadPredictor.stored_registerProfile hf.predictor prof, hf.snapshot⟩
  | setSnapshot s => exact ⟨hf.policy, hf.predictor, fun h => by cases h⟩
  | observe o =>
    refine ⟨hf.policy, ?_, hf.snapshot⟩
    show (f.predictor.observe o).Stored
    unfold WorkloadPredictor.observe
    split_ifs
    · exact hf.predictor
    · exact ⟨hf.predictor.tracked, hf.predictor.bounded⟩
  | evaluate | commit | release | cancel => exact absurd hop id
  | _ => exact ⟨hf.policy, hf.predictor, hf.snapshot⟩

theorem stored_next (hf : f.Stored) (hl : f.Linked) (c : EngineCall F) : (f.call c).2.Stored := by
  have hdemand : ∀ rid r, (f.call c).2.table.find? rid = some r → r.demand.isZero = false :=
    fun _ _ hr => (call_effect hl.accounting c).demand hf.demand hr
  by_cases hop : c.op.IsConfiguration
  · obtain ⟨hpolicy, hpredictor, hsnapshot⟩ := stored_configuration hf hop
    exact ⟨hpolicy, hpredictor, hsnapshot, hdemand⟩
  · have hsame := settings_kept (f := f) hop
    refine ⟨?_, ?_, ?_, hdemand⟩
    · rw [hsame.policy]
      exact hf.policy
    · rw [hsame.predictor]
      exact hf.predictor
    · rw [hsame.hasSnapshot, hsame.snapshot]
      exact hf.snapshot

theorem stored_fresh : ({} : AdmissionFabric F).Stored where
  policy :=
    { valid := fun _ _ h => by cases h
      numbered := fun _ _ h => by cases h
      bounded := Nat.zero_le _ }
  predictor :=
    { tracked := fun _ h => by cases h
      bounded := Nat.zero_le _ }
  snapshot _ := rfl
  demand _ _ h := by cases h

theorem stored_after (h : List (EngineCall F)) : ((engine F).after h).Stored := by
  have hboth : ((engine F).after h).Stored ∧ ((engine F).after h).Linked :=
    (engine F).invariant (P := fun f => f.Stored ∧ f.Linked) ⟨stored_fresh, linked_after []⟩
      (fun _ c hf => ⟨stored_next hf.1 hf.2 c, linked_next hf.2 c⟩) h
  exact hboth.1

/-! ## The predictor -/

/-- A call of the engine makes at most one call of its predictor. -/
theorem predictor_call (f : AdmissionFabric F) (c : EngineCall F) :
    (f.call c).2.predictor = f.predictor ∨
      ∃ pc, (f.call c).2.predictor = (f.predictor.call pc).2 := by
  by_cases hop : c.op.IsConfiguration
  · obtain ⟨now, op⟩ := c
    cases op with
    | installPolicy p => exact .inl (f.installPolicy_kept p).1
    | registerProfile prof => exact .inr ⟨.registerProfile prof, rfl⟩
    | observe o => exact .inr ⟨.observe o, rfl⟩
    | evaluate | commit | release | cancel => exact absurd hop id
    | _ => exact .inl rfl
  · exact .inl (settings_kept hop).predictor

/-- The predictor of a reachable engine has a history of its own. -/
theorem exists_predictor_history (h : List (EngineCall F)) :
    ∃ calls, ((engine F).after h).predictor = (WorkloadPredictor.machine F).after calls := by
  refine (engine F).invariant (P := fun f => ∃ calls, f.predictor =
    (WorkloadPredictor.machine F).after calls) ⟨[], rfl⟩ ?_ h
  rintro f c ⟨calls, hcalls⟩
  rcases predictor_call f c with hsame | ⟨pc, hnext⟩
  · exact ⟨calls, hsame.trans hcalls⟩
  · refine ⟨calls ++ [pc], hnext.trans ?_⟩
    rw [Machine.after_snoc, hcalls]
    rfl

end AdmissionFabric

end Fabric

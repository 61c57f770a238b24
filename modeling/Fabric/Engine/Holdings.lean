import Fabric.Engine.Progress
import Fabric.Engine.Settings
import Mathlib.Algebra.Order.Group.Nat

/-!
# What a set of reservations holds

`heldBy` is the demand of the live entries of a table whose ids have some property. No call
increases it for ids that the table knows (`CallEffect.heldBy_le`): entries never come back to
life and a new entry has a new id. An admission without overcommit leaves everything that is held
inside the total it was checked against (`held_of_admission`), whatever total the earlier
admissions were checked against.
-/

namespace Fabric

open Support

variable {F : Type} [Double F]

/-- The demand of an entry while it is live. -/
def ResourceReservation.liveDemand (r : ResourceReservation) : ResourceId → ℕ :=
  if r.status.isLive then r.demand.quantities else 0

/-- The demand of the live entries whose id has the property `p`. -/
def heldBy (p : ReservationId → Prop) [DecidablePred p] (table : Reservations) : ResourceId → ℕ :=
  table.sum fun rid r => if p rid then r.liveDemand else 0

namespace ResourceReservation

variable {r r' : ResourceReservation}

theorem liveDemand_eq (r : ResourceReservation) :
    r.liveDemand = r.demandAs .reserved + r.demandAs .committed := by
  unfold liveDemand demandAs
  cases r.status <;> simp [ReservationStatus.isLive]

/-- What becomes of an entry holds no more. -/
theorem Follows.liveDemand_le (h : r.Follows r') : r'.liveDemand ≤ r.liveDemand := by
  unfold liveDemand
  by_cases hr : r.status.isLive = true
  · rw [if_pos hr, ← h.demand]
    split_ifs
    · exact le_rfl
    · exact fun _ => Nat.zero_le _
  · have hdead := h.dead (by simpa using hr)
    rw [if_neg hr, if_neg (by simp [hdead])]

end ResourceReservation

variable {p : ReservationId → Prop} [DecidablePred p] {table : Reservations}
  {rid : ReservationId} {r r' : ResourceReservation}

/-- An entry that is added under an id without the property does not count. -/
theorem heldBy_insert_new (hnew : table.find? rid = none) (hp : ¬ p rid) :
    heldBy p (table.insert rid r) = heldBy p table := by
  rw [heldBy, OrdMap.sum_insert_of_none _ _ hnew, if_neg hp, zero_add]
  rfl

/-- An entry that moves on does not add to what is held. -/
theorem heldBy_insert_le (hr : table.find? rid = some r) (hfollows : r.Follows r') :
    heldBy p (table.insert rid r') ≤ heldBy p table := by
  have hsum := OrdMap.sum_insert_of_some
    (fun rid (r : ResourceReservation) => if p rid then r.liveDemand else 0) r' hr
  have hle : (if p rid then r'.liveDemand else 0) ≤ if p rid then r.liveDemand else 0 := by
    split_ifs
    · exact hfollows.liveDemand_le
    · exact le_rfl
  intro i
  show heldBy p (table.insert rid r') i ≤ heldBy p table i
  have hi : heldBy p (table.insert rid r') i + (if p rid then r.liveDemand else 0) i =
      heldBy p table i + (if p rid then r'.liveDemand else 0) i := congrFun hsum i
  have hlei : (if p rid then r'.liveDemand else 0) i ≤ (if p rid then r.liveDemand else 0) i :=
    hle i
  omega

/-- What some reservations hold is at most what the manager holds. -/
theorem heldBy_le_held {m : ReservationManager} (hm : m.Accounting) (i : ResourceId) :
    heldBy p m.reservations i ≤ m.held i := by
  have hall : heldBy p m.reservations ≤
      m.reservations.sum fun _ r => r.demandAs .reserved + r.demandAs .committed := by
    refine OrdMap.sum_le_sum fun rid r _ => ?_
    rw [← r.liveDemand_eq]
    split_ifs
    · exact le_rfl
    · exact fun _ => Nat.zero_le _
  rw [OrdMap.sum_add] at hall
  have hi : heldBy p m.reservations i ≤ m.demandOf .reserved i + m.demandOf .committed i := hall i
  have hres := congrFun hm.reserved i
  have huse := congrFun hm.used i
  rw [ReservationManager.held, hres, huse]
  omega

namespace AdmissionFabric

variable {f f' : AdmissionFabric F} {c : EngineCall F} {reply : EngineReply F}

/-- No call adds to what known reservations hold. -/
theorem CallEffect.heldBy_le (he : f.CallEffect c reply f')
    (hp : ∀ rid, p rid → ∃ r, f.table.find? rid = some r) :
    heldBy p f'.table ≤ heldBy p f.table := by
  rcases he.table_cases with htable | ⟨rid, r, r', hr, hfollows, htable⟩ |
    ⟨_, _, _, rid, _, -, -, -, hnew, -, htable⟩
  · rw [htable]
  · rw [htable]
    exact heldBy_insert_le hr hfollows
  · have hnot : ¬ p rid := by
      intro hrid
      obtain ⟨r, hr⟩ := hp rid hrid
      cases hnew.symm.trans hr
    rw [htable, heldBy_insert_new hnew hnot]

/-- Known reservations stay known through any calls, and hold no more. -/
theorem heldBy_run_le (hacc : f.reservations.Accounting)
    (hp : ∀ rid, p rid → ∃ r, f.table.find? rid = some r) (calls : List (EngineCall F)) :
    (∀ rid, p rid → ∃ r, ((engine F).run f calls).table.find? rid = some r) ∧
      heldBy p ((engine F).run f calls).table ≤ heldBy p f.table := by
  have hrun : ((engine F).run f calls).reservations.Accounting ∧
      (∀ rid, p rid → ∃ r, ((engine F).run f calls).table.find? rid = some r) ∧
        heldBy p ((engine F).run f calls).table ≤ heldBy p f.table := by
    refine Machine.run_keeps (M := engine F) (P := fun g => g.reservations.Accounting ∧
      (∀ rid, p rid → ∃ r, g.table.find? rid = some r) ∧ heldBy p g.table ≤ heldBy p f.table)
      ?_ ⟨hacc, hp, le_rfl⟩
    rintro g call - ⟨hacc, hknown, hle⟩
    have he := call_effect hacc call
    refine ⟨accounting_next hacc call, fun rid hrid => ?_, (he.heldBy_le hknown).trans hle⟩
    obtain ⟨r, hr⟩ := hknown rid hrid
    obtain ⟨r', hr', -⟩ := he.entry_kept hr
    exact ⟨r', hr'⟩
  exact hrun.2

end AdmissionFabric

/-! ## Policies without overcommit -/

/-- The policy does not overcommit for any descriptor. -/
structure AdmissionPolicy.Plain (p : AdmissionPolicy F) : Prop where
  overcommit : p.overcommit = .none
  overrides : p.overrides = []

/-- Every installed policy is plain. -/
def PolicyEngine.Plain (e : PolicyEngine F) : Prop :=
  ∀ g p, e.byGeneration g = some p → p.Plain

theorem AdmissionPolicy.Plain.effective {p : AdmissionPolicy F} (h : p.Plain)
    (d : AdmissionDescriptor F) : p.effective d = p := by
  rw [AdmissionPolicy.effective, h.overrides]
  rfl

theorem PolicyEngine.Plain.install {e : PolicyEngine F} (he : e.Plain) {p : AdmissionPolicy F}
    (hp : p.Plain) : (e.install p).2.Plain := by
  intro g q hq
  rcases PolicyEngine.install_cases e p with ⟨-, -, hpolicies, -⟩ | ⟨-, -, -, hby⟩
  · rw [PolicyEngine.byGeneration, hpolicies] at hq
    exact he g q hq
  · rw [hby] at hq
    split_ifs at hq
    · obtain rfl := Option.some.inj hq
      exact ⟨hp.overcommit, hp.overrides⟩
    · exact he g q hq

namespace AdmissionFabric

variable {f : AdmissionFabric F} {now : TimePoint} {d : AdmissionDescriptor F}

/-- Only plain policies enter while no other is installed. -/
theorem plain_call (hf : f.policy.Plain) {c : EngineCall F}
    (hc : ∀ p, c.op = .installPolicy p → p.Plain) : (f.call c).2.policy.Plain := by
  by_cases hop : c.op.IsConfiguration
  · obtain ⟨now, op⟩ := c
    cases op with
    | installPolicy p =>
      have heq : (f.call ⟨now, .installPolicy p⟩).2.policy = (f.policy.install p).2 :=
        policy_installPolicy f p
      rw [heq]
      exact hf.install (hc p rfl)
    | evaluate | commit | release | cancel => exact absurd hop id
    | _ => exact hf
  · rw [(settings_kept hop).policy]
    exact hf

/-- An admission under a plain policy leaves everything that is held inside the total. -/
theorem held_of_admission (hf : f.policy.Plain) (a : f.Admission now d) {i : ResourceId}
    (hi : f.reservations.total.get i ≠ 0) :
    (f.evaluate now d).2.reservations.held i ≤ (f.reservations.total.get i).toNat := by
  have hplain : a.base.Plain := hf _ _ a.policy
  have hfits := a.fits
  rw [prepared_reservations, hplain.effective, hplain.overcommit] at hfits
  obtain ⟨-, -, -, hle⟩ := ReservationManager.reserveCheck_eq_ok_iff.mp hfits
  have hceiling := hle i
  rw [ReservationManager.dimCeiling, if_neg hi, if_neg (by simp)] at hceiling
  obtain ⟨dec, metrics, -, -, -, heq⟩ := evaluate_of_admission a
  rw [heq]
  calc f.reservations.usedSum.quantities i + a.reserved.quantities i
      ≤ (Fabric.satAdd (f.reservations.total.get i) 0).toNat := hceiling
    _ ≤ (f.reservations.total.get i).toNat := by
      rw [toNat_satAdd]
      exact Nat.min_le_left _ _

end AdmissionFabric

end Fabric

import Fabric.Persistence.Install
import Fabric.Persistence.Recovery

/-!
# When a failed recovery leaves the engine alone

`restore_state` clears the requests before it reads anything, and applies every section before it
reads the next. So a failure leaves an engine as it was, whatever its requests are, only where there
is none: when the trailer is not valid, which is checked first, or when the payload is accepted
(`fails_cleanly_iff`).
-/

namespace Fabric

open Support Support.ByteReader ByteReader

variable {F : Type} [DoubleBits F]

namespace AdmissionFabric

/-- Everything that recovery can change is as before. -/
structure Untouched (f f' : AdmissionFabric F) : Prop where
  policy : f'.policy = f.policy
  profiles : f'.predictor.profs = f.predictor.profs
  reservations : f'.reservations = f.reservations
  requests : f'.requests = f.requests
  quota : f'.quota = f.quota
  admissionGeneration : f'.admissionGeneration = f.admissionGeneration
  reservationCounter : f'.reservationCounter = f.reservationCounter
  hasSnapshot : f'.hasSnapshot = f.hasSnapshot
  snapshot : f'.snapshot = f.snapshot

/-- If the payload is refused, the engine is as before. -/
def FailsCleanly (f : AdmissionFabric F) (now : TimePoint) (payload : ByteString)
    (cfg : PersistenceConfig) : Prop :=
  (f.applyPayload now payload cfg).1.isOk = false → f.Untouched (f.applyPayload now payload cfg).2

variable {f : AdmissionFabric F} {now : TimePoint} {payload : ByteString} {cfg : PersistenceConfig}

/-- Past the trailer, the requests of the engine do not matter. -/
theorem applyPayload_requests {body : ByteString}
    (hparse : parseFrame cfg.magic cfg.version payload = .ok body) (requests : Requests F) :
    ({ f with requests } : AdmissionFabric F).applyPayload now payload cfg =
      f.applyPayload now payload cfg := by
  have hclear : restoreState now ({ f with requests }, ⟨body, false, ""⟩) =
      restoreState now (f, ⟨body, false, ""⟩) := rfl
  simp only [applyPayload, hparse, hclear]

theorem exists_other_requests (requests : Requests F) : ∃ other : Requests F, other ≠ requests := by
  by_cases hempty : requests = .empty
  · refine ⟨requests.insert ⟨0⟩ {}, fun h => ?_⟩
    have hfind := OrdMap.find?_insert_self requests ⟨0⟩ ({} : RequestRecord F)
    rw [h, hempty] at hfind
    cases hfind
  · exact ⟨.empty, Ne.symm hempty⟩

theorem fails_cleanly_iff (f : AdmissionFabric F) (now : TimePoint) (payload : ByteString)
    (cfg : PersistenceConfig) :
    (∀ requests, ({ f with requests } : AdmissionFabric F).FailsCleanly now payload cfg) ↔
      (∃ err, parseFrame cfg.magic cfg.version payload = .error err) ∨
        ∃ saved, cfg.Holds payload saved ∧ f.Installable saved := by
  constructor
  · intro h
    cases hparse : parseFrame cfg.magic cfg.version payload with
    | error err => exact .inl ⟨err, rfl⟩
    | ok body =>
      right
      by_contra hnot
      obtain ⟨other, hne⟩ := exists_other_requests (f.applyPayload now payload cfg).2.requests
      have hfails : (f.applyPayload now payload cfg).1.isOk = false :=
        Bool.eq_false_of_not_eq_true fun hok => hnot (accepts_iff_installable.mp hok)
      have hclean := h other
      rw [FailsCleanly, applyPayload_requests hparse] at hclean
      exact hne (hclean hfails).requests.symm
  · rintro (⟨err, hparse⟩ | haccepted) requests hfails
    · rw [applyPayload, hparse]
      exact ⟨rfl, rfl, rfl, rfl, rfl, rfl, rfl, rfl, rfl⟩
    · have hok : (({ f with requests } : AdmissionFabric F).applyPayload now payload cfg).1.isOk =
          true := accepts_iff_installable.mpr haccepted
      rw [hok] at hfails
      cases hfails

end AdmissionFabric

/-- An empty body with a valid trailer. -/
def Sample.bodiless : ByteString := ByteWriter.frame 0xAF1FA000 1 []

namespace AdmissionFabric

/-- A payload without a state is refused, and the admitted request is gone. -/
theorem fails_cleanly_fails :
    ¬ ((engine Binary64).after Sample.admitted).FailsCleanly 0 Sample.bodiless {} := by
  intro h
  have hrequests := congrArg OrdMap.size (h (by decide +kernel)).requests
  revert hrequests
  decide +kernel

end AdmissionFabric

end Fabric

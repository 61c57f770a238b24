import Fabric.Persistence.Saved
import Fabric.Reservation.Restore

/-!
# Which saved states can be installed

A saved state can be installed in an engine when its policies are valid and have generations that
are new to the engine, its reservation table passes the checks of the manager, and no two of its
requests have the same id (`exists_install_iff`). `install_eq_some_iff` says what the engine is then.
-/

namespace Fabric

open Support Support.Checks

variable {F : Type} [DoubleBits F]

/-! ## Parts -/

/-- Install a saved policy under its generation. -/
def PolicyEngine.addSaved (e : PolicyEngine F) (p : AdmissionPolicy F) : Option (PolicyEngine F) :=
  ifOk (e.installAtGeneration p p.generation)

/-- Take over the saved table, sums and overcommit settings. -/
def ReservationManager.addSaved (m : ReservationManager)
    (saved : AdmissionFabric.SavedReservations) : Option ReservationManager :=
  (ifOk (m.restore saved.list saved.reserved saved.used)).map fun m =>
    (m.setOvercommitMode saved.mode).setOvercommitAllowance saved.allowance

/-- Enter a saved request. -/
def addSavedRequest (now : TimePoint) (requests : OrdMap AdmissionRequestId (RequestRecord F))
    (q : SavedRequest F) : Option (OrdMap AdmissionRequestId (RequestRecord F)) :=
  if requests.contains q.id then none else some (requests.emplace q.id (q.record now))

/-! ### Policies -/

namespace PolicyEngine

variable {e e' : PolicyEngine F} {p : AdmissionPolicy F}

theorem addSaved_eq_some_iff : e.addSaved p = some e' ↔
    (p.validate.isOk = true ∧ e.policies.find? p.generation = none) ∧
      e' = { e with
        policies := e.policies.insert p.generation p
        latestGeneration :=
          if p.generation.value ≥ e.latestGeneration.value then p.generation
          else e.latestGeneration } := by
  unfold addSaved installAtGeneration
  by_cases hvalid : p.validate.isOk = true
  · have hno : ¬ p.validate.isOk = false := by simp [hvalid]
    simp only [if_neg hno]
    cases hfind : e.policies.find? p.generation with
    | some q =>
      rw [if_pos (OrdMap.contains_iff.mpr ⟨q, hfind⟩)]
      exact iff_of_false (fun h => by cases h) fun h => by cases h.1.2
    | none =>
      have hnew : ¬ e.policies.contains p.generation = true := by simp [hfind]
      rw [if_neg hnew, OrdMap.emplace_of_none _ hfind]
      exact Option.some_inj.trans ⟨fun h => ⟨⟨hvalid, rfl⟩, h.symm⟩, fun h => h.2.symm⟩
  · have hinvalid : p.validate.isOk = false := Bool.eq_false_of_not_eq_true hvalid
    simp only [if_pos hinvalid]
    rw [ifOk, if_neg hvalid]
    exact iff_of_false (fun h => by cases h) fun h => hvalid h.1.1

theorem addSaved_isSome_iff (e : PolicyEngine F) (p : AdmissionPolicy F) :
    (e.addSaved p).isSome = true ↔
      p.validate.isOk = true ∧ e.policies.find? p.generation = none := by
  rw [Option.isSome_iff_exists]
  exact ⟨fun ⟨_, h⟩ => (addSaved_eq_some_iff.mp h).1, fun h => ⟨_, addSaved_eq_some_iff.mpr ⟨h, rfl⟩⟩⟩

/-- The policies that are installed one after the other have new and different generations. -/
theorem addAll_isSome_iff (e : PolicyEngine F) (ps : List (AdmissionPolicy F)) :
    (ps.foldlM addSaved e).isSome = true ↔
      (∀ p ∈ ps, p.validate.isOk = true ∧ e.policies.find? p.generation = none) ∧
        (ps.map AdmissionPolicy.generation).Nodup := by
  refine foldlM_isSome_iff (fun (e : PolicyEngine F) gen => e.policies.find? gen = none)
    addSaved_isSome_iff ?_ e
  intro e p e' h gen
  obtain ⟨-, rfl⟩ := addSaved_eq_some_iff.mp h
  rw [OrdMap.find?_insert]
  split_ifs with hgen
  · exact iff_of_false nofun fun h => h.2 hgen
  · exact (and_iff_left hgen).symm

end PolicyEngine

/-! ### Reservations -/

theorem ReservationManager.addSaved_eq_some_iff {m m' : ReservationManager}
    {saved : AdmissionFabric.SavedReservations} : m.addSaved saved = some m' ↔
      restoreCheck saved.list saved.reserved saved.used = .ok () ∧
        m' = { m with
          reservations := saved.list.foldl (fun table r => table.emplace r.id r) .empty
          reservedSum := saved.reserved
          usedSum := saved.used
          overcommitMode := saved.mode
          overcommitAllowance := saved.allowance } := by
  rw [addSaved, ifOk, restore]
  cases hcheck : restoreCheck saved.list saved.reserved saved.used with
  | error s =>
    have hfailure : s.isOk = false := restoreCheck_failsWith _ _ _ s hcheck
    rw [if_neg (by simp [hfailure])]
    exact iff_of_false (fun h => by cases h) fun h => by cases h.1
  | ok u => exact Option.some_inj.trans ⟨fun h => ⟨rfl, h.symm⟩, fun h => h.2.symm⟩

/-! ### Requests -/

section Requests

variable {now : TimePoint} {requests requests' : OrdMap AdmissionRequestId (RequestRecord F)}
  {q : SavedRequest F}

theorem addSavedRequest_eq_some_iff : addSavedRequest now requests q = some requests' ↔
    requests.find? q.id = none ∧ requests' = requests.insert q.id (q.record now) := by
  rw [addSavedRequest]
  cases hfind : requests.find? q.id with
  | some record =>
    rw [if_pos (OrdMap.contains_iff.mpr ⟨record, hfind⟩)]
    exact iff_of_false nofun nofun
  | none =>
    rw [if_neg (by simp [hfind]), OrdMap.emplace_of_none _ hfind]
    exact Option.some_inj.trans ⟨fun h => ⟨rfl, h.symm⟩, fun h => h.2.symm⟩

theorem addRequests_isSome_iff (now : TimePoint)
    (requests : OrdMap AdmissionRequestId (RequestRecord F)) (qs : List (SavedRequest F)) :
    (qs.foldlM (addSavedRequest now) requests).isSome = true ↔
      (∀ q ∈ qs, True ∧ requests.find? q.id = none) ∧ (qs.map SavedRequest.id).Nodup := by
  refine foldlM_isSome_iff
    (fun (requests : OrdMap AdmissionRequestId (RequestRecord F)) id => requests.find? id = none)
    (fun requests q => ?_) ?_ requests
  · rw [Option.isSome_iff_exists, true_and]
    exact ⟨fun ⟨_, h⟩ => (addSavedRequest_eq_some_iff.mp h).1,
      fun h => ⟨_, addSavedRequest_eq_some_iff.mpr ⟨h, rfl⟩⟩⟩
  · intro requests q requests' h id
    obtain ⟨-, rfl⟩ := addSavedRequest_eq_some_iff.mp h
    rw [OrdMap.find?_insert]
    split_ifs with hid
    · exact iff_of_false nofun fun h => h.2 hid
    · exact (and_iff_left hid).symm

theorem perm_addRequests {qs : List (SavedRequest F)}
    (h : qs.foldlM (addSavedRequest now) requests = some requests') :
    requests'.entries.Perm (qs.map (fun q => (q.id, q.record now)) ++ requests.entries) := by
  induction qs generalizing requests with
  | nil =>
    cases h
    exact List.Perm.refl _
  | cons q qs ih =>
    rw [List.foldlM_cons] at h
    obtain ⟨requests₁, hq, hqs⟩ := Option.bind_eq_some_iff.mp h
    obtain ⟨hfree, rfl⟩ := addSavedRequest_eq_some_iff.mp hq
    exact (ih hqs).trans (((OrdMap.perm_insert_of_none _ hfree).append_left _).trans
      List.perm_middle)

theorem find?_addRequests {qs : List (SavedRequest F)}
    (h : qs.foldlM (addSavedRequest now) .empty = some requests) (x : AdmissionRequestId)
    (record : RequestRecord F) : requests.find? x = some record ↔
      ∃ q ∈ qs, q.id = x ∧ q.record now = record := by
  rw [OrdMap.find?_eq_some_iff, (perm_addRequests h).mem_iff]
  simp [OrdMap.empty]

end Requests

/-! ## All sections -/

namespace AdmissionFabric

variable {f g : AdmissionFabric F} {now : TimePoint} {saved : SavedState F}

/-- The engine with everything from the saved state but its profiles, which every engine takes. -/
def withSaved (f : AdmissionFabric F) (policy : PolicyEngine F) (reservations : ReservationManager)
    (requests : OrdMap AdmissionRequestId (RequestRecord F)) (saved : SavedState F) :
    AdmissionFabric F :=
  (addRest saved.rest { f with
    policy
    predictor := saved.profiles.foldl (fun w p => (w.registerProfile p).2) f.predictor
    reservations
    requests }).rebindOvercommit

theorem addPolicies_eq (f : AdmissionFabric F) (ps : List (AdmissionPolicy F)) :
    ps.foldlM (fun f p => f.addPolicy p) f =
      (ps.foldlM PolicyEngine.addSaved f.policy).map fun policy => { f with policy } :=
  foldlM_of_part (fun policy => { f with policy }) (fun _ _ => rfl) ps f.policy

theorem addProfiles_eq (f : AdmissionFabric F) (ps : List (PredictionProfile F)) :
    ps.foldlM (fun f p => f.addProfile p) f =
      some { f with predictor := ps.foldl (fun w p => (w.registerProfile p).2) f.predictor } := by
  induction ps generalizing f with
  | nil => rfl
  | cons p ps ih => exact ih _

theorem addRequests_eq (f : AdmissionFabric F) (qs : List (SavedRequest F)) :
    qs.foldlM (fun f q => f.addRequest now q) f =
      (qs.foldlM (addSavedRequest now) f.requests).map fun requests => { f with requests } := by
  refine foldlM_of_part (fun requests => { f with requests }) (fun requests q => ?_) qs f.requests
  rw [addRequest, addSavedRequest]
  split_ifs <;> rfl

theorem install_eq_some_iff : f.install now saved = some g ↔
    ∃ policy reservations requests,
      saved.policies.foldlM PolicyEngine.addSaved f.policy = some policy ∧
      f.reservations.addSaved saved.reservations = some reservations ∧
      saved.requests.foldlM (addSavedRequest now) .empty = some requests ∧
      g = f.withSaved policy reservations requests saved := by
  have htable : ∀ f : AdmissionFabric F, f.addTable saved.reservations =
      (f.reservations.addSaved saved.reservations).map fun reservations =>
        { f with reservations } := by
    intro f
    rw [addTable, ReservationManager.addSaved, Option.map_map]
    rfl
  simp only [install, addPolicies_eq, addProfiles_eq, addRequests_eq, htable, Option.bind_eq_bind,
    Option.bind_some, Option.bind_map, Option.bind_eq_some_iff, Option.pure_def, Function.comp_apply]
  constructor
  · rintro ⟨policy, hpolicy, reservations, htable, requests, hrequests, hg⟩
    exact ⟨policy, reservations, requests, hpolicy, htable, hrequests, (Option.some.inj hg).symm⟩
  · rintro ⟨policy, reservations, requests, hpolicy, htable, hrequests, rfl⟩
    exact ⟨policy, hpolicy, reservations, htable, requests, hrequests, rfl⟩

theorem withSaved_eq (f : AdmissionFabric F) (policy : PolicyEngine F) (m : ReservationManager)
    (requests : OrdMap AdmissionRequestId (RequestRecord F)) (saved : SavedState F) :
    ∃ total, f.withSaved policy m requests saved = { f with
      policy
      predictor := saved.profiles.foldl (fun w p => (w.registerProfile p).2) f.predictor
      reservations := { m with
        total
        overcommitMode := policy.latest.elim m.overcommitMode AdmissionPolicy.overcommit
        overcommitAllowance := policy.latest.elim m.overcommitAllowance
          AdmissionPolicy.boundAllowance }
      requests
      quota := saved.rest.quota
      admissionGeneration := saved.rest.admissionGeneration
      reservationCounter := saved.rest.reservationCounter
      hasSnapshot := saved.rest.snapshot.isSome
      snapshot := saved.rest.snapshot.getD f.snapshot } := by
  rw [withSaved, rebindOvercommit_eq, addRest]
  cases saved.rest.snapshot with
  | none => exact ⟨m.total, rfl⟩
  | some s => exact ⟨s.total, rfl⟩

/-- The checks that `restore_state` makes of a saved state as a whole. -/
def Installable (f : AdmissionFabric F) (saved : SavedState F) : Prop :=
  ((∀ p ∈ saved.policies, p.validate.isOk = true ∧ f.policy.policies.find? p.generation = none) ∧
      (saved.policies.map AdmissionPolicy.generation).Nodup) ∧
    ReservationManager.restoreCheck saved.reservations.list saved.reservations.reserved
      saved.reservations.used = .ok () ∧
    (saved.requests.map SavedRequest.id).Nodup

theorem exists_install_iff : (∃ g, f.install now saved = some g) ↔ f.Installable saved := by
  have hpolicies := PolicyEngine.addAll_isSome_iff f.policy saved.policies
  have hrequests := addRequests_isSome_iff now .empty saved.requests
  rw [Option.isSome_iff_exists] at hpolicies hrequests
  rw [Installable, ← hpolicies]
  constructor
  · rintro ⟨g, hg⟩
    obtain ⟨policy, reservations, requests, hpolicy, htable, hreqs, -⟩ := install_eq_some_iff.mp hg
    exact ⟨⟨policy, hpolicy⟩, (ReservationManager.addSaved_eq_some_iff.mp htable).1,
      (hrequests.mp ⟨requests, hreqs⟩).2⟩
  · rintro ⟨⟨policy, hpolicy⟩, hcheck, hnodup⟩
    obtain ⟨requests, hreqs⟩ := hrequests.mpr ⟨fun q _ => ⟨trivial, rfl⟩, hnodup⟩
    exact ⟨_, install_eq_some_iff.mpr ⟨policy, _, requests, hpolicy,
      ReservationManager.addSaved_eq_some_iff.mpr ⟨hcheck, rfl⟩, hreqs, rfl⟩⟩

/-- A payload is accepted when it holds a saved state that passes the checks. -/
theorem accepts_iff_installable {payload : ByteString} {cfg : PersistenceConfig} :
    (f.applyPayload now payload cfg).1.isOk = true ↔
      ∃ saved, cfg.Holds payload saved ∧ f.Installable saved := by
  constructor
  · intro hok
    obtain ⟨saved, hholds, hinstall⟩ := accepts_iff.mp ⟨hok, rfl⟩
    exact ⟨saved, hholds, exists_install_iff.mp ⟨_, hinstall⟩⟩
  · rintro ⟨saved, hholds, hinstallable⟩
    obtain ⟨g, hg⟩ := exists_install_iff.mpr hinstallable
    exact (accepts_iff.mpr ⟨saved, hholds, hg⟩).1

end AdmissionFabric

end Fabric

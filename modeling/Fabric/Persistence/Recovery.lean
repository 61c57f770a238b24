import Fabric.Persistence.Sections
import Fabric.Persistence.Size

/-!
# Recovering a saved engine

When the payload built from a reachable engine is accepted by a fresh engine and brings back
its policies, reservations, requests, quota, snapshot and counters. The writer emits the whole
reservation table, but the reader refuses terminal entries that carry a demand, and every entry
carries one; so a state is recovered exactly when its reservations are all live and the sizes
are within the limits of the reader (`recovers_iff`).
-/

namespace Fabric

open Support

variable {F : Type} [DoubleBits F]

namespace AdmissionFabric

/-- What recovery must bring back of an engine. -/
structure Recovered (f g : AdmissionFabric F) : Prop where
  policies : ∀ gen, g.policy.byGeneration gen = f.policy.byGeneration gen
  table : g.table = f.table
  reserved : g.reservations.reservedSum = f.reservations.reservedSum
  used : g.reservations.usedSum = f.reservations.usedSum
  lifecycles : ∀ x, g.lifecycle? x = f.lifecycle? x
  descriptors : ∀ x, (g.request x).map RequestRecord.descriptor =
    (f.request x).map RequestRecord.descriptor
  quota : g.quota = f.quota
  hasSnapshot : g.hasSnapshot = f.hasSnapshot
  snapshot : g.snapshot = f.snapshot
  admissionGeneration : g.admissionGeneration = f.admissionGeneration
  reservationCounter : g.reservationCounter = f.reservationCounter

/-- The payload of `f` is accepted by a fresh engine, which then has what `f` had. -/
def Recovers (f : AdmissionFabric F) (cfg : PersistenceConfig) (now : TimePoint) : Prop :=
  (({} : AdmissionFabric F).applyPayload now (f.buildPayload cfg) cfg).1.isOk = true ∧
    f.Recovered (({} : AdmissionFabric F).applyPayload now (f.buildPayload cfg) cfg).2

/-- The strings and lists in an engine are within the limits of the reader. -/
def fits (f : AdmissionFabric F) : Bool :=
  (f.policy.policies.entries.all fun e => e.2.fits) ∧
    (f.predictor.profs.entries.all fun e => e.2.fits) ∧
    (f.requests.entries.all fun e => e.2.fits) ∧ f.quota.fits ∧ f.snapshot.fits

/-- All reservations are live, and the tables and the saved bytes are not too many. -/
structure Recoverable (f : AdmissionFabric F) : Prop where
  live : ∀ rid r, f.table.find? rid = some r → r.status.isLive = true
  reservations : f.table.size ≤ kMaxEntries
  requests : f.requests.size ≤ kMaxEntries
  bytes : f.savedSize < 2 ^ 32

variable {f : AdmissionFabric F}

theorem live_of_all (h : f.table.entries.all (fun e => e.2.status.isLive) = true) :
    ∀ rid r, f.table.find? rid = some r → r.status.isLive = true :=
  fun rid r hr => List.all_eq_true.mp h (rid, r) (OrdMap.find?_eq_some_iff.mp hr)

/-! ## From the saved state to the payload -/

theorem applyPayload_of_loads (cfg : PersistenceConfig) (now : TimePoint) {f₀ g : AdmissionFabric F}
    (hbytes : f.savedSize < 2 ^ 32) (h : Loads (restoreState now) f₀ f.saveState () g) :
    f₀.applyPayload now (f.buildPayload cfg) cfg = (.success, g) := by
  have hrun := h []
  rw [List.append_nil] at hrun
  rw [applyPayload, buildPayload, parseFrame_frame, length_saveState, if_pos hbytes]
  simp only [hrun]
  rfl

theorem applyPayload_of_fails (cfg : PersistenceConfig) (now : TimePoint) {f₀ : AdmissionFabric F}
    (hbytes : f.savedSize < 2 ^ 32) (h : Fails (restoreState now) f₀ f.saveState) :
    (f₀.applyPayload now (f.buildPayload cfg) cfg).1.isOk = false := by
  obtain ⟨s, ⟨g, r⟩, hs, hrun⟩ := h []
  rw [List.append_nil] at hrun
  rw [applyPayload, buildPayload, parseFrame_frame, length_saveState, if_pos hbytes]
  simp only [hrun]
  exact hs

theorem applyPayload_of_long (cfg : PersistenceConfig) (now : TimePoint) (f₀ : AdmissionFabric F)
    (hbytes : ¬ f.savedSize < 2 ^ 32) :
    (f₀.applyPayload now (f.buildPayload cfg) cfg).1.isOk = false := by
  rw [applyPayload, buildPayload, parseFrame_frame, length_saveState, if_neg hbytes]
  rfl

/-! ## Reading a whole engine -/

theorem snapshot_withRest (hf : f.Stored) {f₀ : AdmissionFabric F} (h₀ : f₀.snapshot = {}) :
    (f₀.withRest f).snapshot = f.snapshot := by
  rw [withRest]
  cases hhas : f.hasSnapshot with
  | false =>
    rw [hf.snapshot hhas]
    exact h₀
  | true => rfl

/-- A fresh engine that has read the first four sections of `f`. -/
def reread (f : AdmissionFabric F) (policy : PolicyEngine F) (predictor : WorkloadPredictor F)
    (now : TimePoint) : AdmissionFabric F :=
  { policy
    predictor
    reservations := takeOver {} f.reservations
    requests := f.requests.mapValues (restoredRecord now) }

/-- What is read after that completes the recovery. -/
theorem recovered_reread (hf : f.Stored) {policy : PolicyEngine F}
    (hpolicy : policy.policies = f.policy.policies) (predictor : WorkloadPredictor F)
    (now : TimePoint) :
    f.Recovered ((f.reread policy predictor now).withRest f).rebindOvercommit := by
  have hreservations : ∃ total, ((f.reread policy predictor now).withRest f).reservations =
      { takeOver {} f.reservations with total } := by
    rw [withRest]
    cases f.hasSnapshot with
    | false => exact ⟨_, rfl⟩
    | true => exact ⟨_, rfl⟩
  obtain ⟨total, htotal⟩ := hreservations
  have hrequest : ∀ x, (f.requests.mapValues (restoredRecord now)).find? x =
      (f.request x).map (restoredRecord now x) := fun x => OrdMap.find?_mapValues _ _ x
  rw [rebindOvercommit_eq]
  constructor
  · intro gen
    show policy.policies.find? gen = f.policy.policies.find? gen
    rw [hpolicy]
  · show ((f.reread policy predictor now).withRest f).reservations.reservations = _
    rw [htotal]
    rfl
  · show ((f.reread policy predictor now).withRest f).reservations.reservedSum = _
    rw [htotal]
    rfl
  · show ((f.reread policy predictor now).withRest f).reservations.usedSum = _
    rw [htotal]
    rfl
  · intro x
    show ((f.requests.mapValues (restoredRecord now)).find? x).map RequestRecord.lifecycle = _
    rw [hrequest, Option.map_map]
    rfl
  · intro x
    show ((f.requests.mapValues (restoredRecord now)).find? x).map RequestRecord.descriptor = _
    rw [hrequest, Option.map_map]
    rfl
  · rfl
  · rfl
  · exact snapshot_withRest hf rfl
  · rfl
  · rfl

/-- The policies and the profiles are read into a fresh engine. -/
theorem exists_loads (hf : f.Stored) (hfit : f.fits = true) :
    ∃ (policy : PolicyEngine F) (predictor : WorkloadPredictor F),
      policy.policies = f.policy.policies ∧
      Loads restorePolicies {} f.savePolicies () ({ policy } : AdmissionFabric F) ∧
      Loads restoreProfiles { policy } f.saveProfiles () ({ policy, predictor } : AdmissionFabric F) := by
  obtain ⟨hpols, hprofs, -⟩ := of_decide_eq_true hfit
  obtain ⟨policy, hpolicy, hpolicies⟩ := loads_policies hf.policy
    (List.all_eq_true.mp hpols) {} rfl
  obtain ⟨predictor, hprofiles⟩ := loads_profiles hf.predictor (List.all_eq_true.mp hprofs)
    { policy }
  exact ⟨policy, predictor, hpolicy, hpolicies, hprofiles⟩

/-- A recoverable state is read into a fresh engine. -/
theorem loads_state (hf : f.Stored) (hl : f.Linked) (hfit : f.fits = true) (hrec : f.Recoverable)
    (now : TimePoint) : ∃ g, Loads (restoreState now) {} f.saveState () g ∧ f.Recovered g := by
  obtain ⟨policy, predictor, hpolicy, hpolicies, hprofiles⟩ := exists_loads hf hfit
  obtain ⟨-, -, hreqs, hquota, hsnap⟩ := of_decide_eq_true hfit
  have htable := loads_reservations hl.accounting hl.links.keyed hrec.live hrec.reservations
    ({ policy, predictor } : AdmissionFabric F)
  have hrequests := loads_requests (List.all_eq_true.mp hreqs) hrec.requests now
    { policy, predictor, reservations := takeOver {} f.reservations } rfl
  refine ⟨((f.reread policy predictor now).withRest f).rebindOvercommit, ?_,
    recovered_reread hf hpolicy predictor now⟩
  apply (Loads.update _).step
  apply hpolicies.cons
  apply hprofiles.cons
  apply htable.cons
  apply hrequests.cons
  apply (loads_rest hquota hsnap _).cons
  apply (Loads.update rebindOvercommit).step
  exact Loads.decode fun _ => rfl

/-- What stops the reservation section stops the recovery. -/
theorem fails_state_of_reservations (hf : f.Stored) (hfit : f.fits = true)
    (h : ∀ f₀ : AdmissionFabric F, Fails restoreReservations f₀ (saveReservations f.reservations)) (now : TimePoint) :
    Fails (restoreState now) ({} : AdmissionFabric F) f.saveState := by
  obtain ⟨policy, predictor, -, hpolicies, hprofiles⟩ := exists_loads hf hfit
  apply Refuses.step (Loads.update _)
  apply Refuses.cons hpolicies
  apply Refuses.cons hprofiles
  rw [List.flatten_cons]
  exact (h _).bind.append _

/-- What stops the request section stops the recovery of live reservations. -/
theorem fails_state_of_requests (hf : f.Stored) (hl : f.Linked) (hfit : f.fits = true)
    (hlive : ∀ rid r, f.table.find? rid = some r → r.status.isLive = true)
    (hsize : f.table.size ≤ kMaxEntries) (now : TimePoint)
    (h : ∀ f₀ : AdmissionFabric F, Fails (restoreRequests now) f₀ f.saveRequests) :
    Fails (restoreState now) ({} : AdmissionFabric F) f.saveState := by
  obtain ⟨policy, predictor, -, hpolicies, hprofiles⟩ := exists_loads hf hfit
  have htable := loads_reservations hl.accounting hl.links.keyed hlive hsize
    ({ policy, predictor } : AdmissionFabric F)
  apply Refuses.step (Loads.update _)
  apply Refuses.cons hpolicies
  apply Refuses.cons hprofiles
  apply Refuses.cons htable
  rw [List.flatten_cons]
  exact (h _).bind.append _

/-! ## Which states are recovered -/

theorem recovers_of_recoverable (hf : f.Stored) (hl : f.Linked) (hfit : f.fits = true)
    (hrec : f.Recoverable) (cfg : PersistenceConfig) (now : TimePoint) : f.Recovers cfg now := by
  obtain ⟨g, hloads, hback⟩ := loads_state hf hl hfit hrec now
  rw [Recovers, applyPayload_of_loads cfg now hrec.bytes hloads]
  exact ⟨rfl, hback⟩

/-- An engine with a terminal reservation is not recovered: the entry still has its demand. -/
theorem not_recovers_of_dead (hf : f.Stored) (hfit : f.fits = true) {rid : ReservationId}
    {r : ResourceReservation} (hr : f.table.find? rid = some r) (hdead : r.status.isLive = false)
    (cfg : PersistenceConfig) (now : TimePoint) : ¬ f.Recovers cfg now := by
  rintro ⟨hok, -⟩
  by_cases hbytes : f.savedSize < 2 ^ 32
  · have hle := f.size_le_savedSize
    have hlt : f.table.size < 2 ^ 32 := by omega
    have hfails : Fails (restoreState now) ({} : AdmissionFabric F) f.saveState := by
      apply fails_state_of_reservations hf hfit
      intro f₀
      by_cases hsize : f.table.size ≤ kMaxEntries
      · exact fails_dead_reservation hr hdead (hf.demand rid r hr) hsize f₀
      · exact fails_many_reservations (Nat.not_le.mp hsize) hlt f₀
    simp [applyPayload_of_fails cfg now hbytes hfails] at hok
  · simp [applyPayload_of_long cfg now {} hbytes] at hok

/-- A reachable engine whose strings and lists can be read is recovered exactly when its
reservations are all live and its tables and bytes are not too many. -/
theorem recovers_iff (h : List (EngineCall F)) (hfit : ((engine F).after h).fits = true)
    (cfg : PersistenceConfig) (now : TimePoint) :
    ((engine F).after h).Recovers cfg now ↔ ((engine F).after h).Recoverable := by
  have hf := stored_after h
  have hl := linked_after h
  generalize (engine F).after h = f at hfit hf hl
  constructor
  · intro hrec
    have hlive : ∀ rid r, f.table.find? rid = some r → r.status.isLive = true := by
      intro rid r hr
      by_contra hdead
      exact not_recovers_of_dead hf hfit hr (by simpa using hdead) cfg now hrec
    have hbytes : f.savedSize < 2 ^ 32 := by
      by_contra hlong
      have hfail := applyPayload_of_long cfg now {} hlong
      simp [hrec.1] at hfail
    have hle := f.size_le_savedSize
    have hreservations : f.table.size ≤ kMaxEntries := by
      have hlt : f.table.size < 2 ^ 32 := by omega
      by_contra hmany
      have hfail := applyPayload_of_fails cfg now hbytes (fails_state_of_reservations hf hfit
        (fun f₀ => fails_many_reservations (Nat.not_le.mp hmany) hlt f₀) now)
      simp [hrec.1] at hfail
    refine ⟨hlive, hreservations, ?_, hbytes⟩
    by_contra hmany
    have hfail := applyPayload_of_fails cfg now hbytes (fails_state_of_requests hf hl hfit hlive
      hreservations now fun f₀ => fails_many_requests (by omega) (by omega) now f₀)
    simp [hrec.1] at hfail
  · exact fun hrec => recovers_of_recoverable hf hl hfit hrec cfg now

end AdmissionFabric

/-- One request, admitted and committed. -/
def Sample.admitted : List (EngineCall Binary64) :=
  Sample.opening ++ [⟨0, .evaluate (Sample.descriptor 1)⟩, ⟨0, .commit ⟨1⟩ ⟨1⟩⟩]

/-- The same request, released afterwards. -/
def Sample.finished : List (EngineCall Binary64) := Sample.admitted ++ [⟨0, .release ⟨1⟩⟩]

namespace AdmissionFabric

theorem recoverable_admitted : ((engine Binary64).after Sample.admitted).Recoverable := by
  constructor
  · exact live_of_all (by decide +kernel)
  · decide +kernel
  · decide +kernel
  · decide +kernel

/-- A state with one admitted request is recovered. -/
theorem recovers_iff_admitted : ((engine Binary64).after Sample.admitted).Recovers {} 0 :=
  (recovers_iff Sample.admitted (by decide +kernel) {} 0).mpr recoverable_admitted

/-- Once the request is released, the saved state is not recovered. -/
theorem recovers_fails : ((engine Binary64).after Sample.finished).fits = true ∧
    ¬ ((engine Binary64).after Sample.finished).Recovers {} 0 := by
  have hfit : ((engine Binary64).after Sample.finished).fits = true := by decide +kernel
  have hentry : (((engine Binary64).after Sample.finished).table.find? ⟨1⟩).map (·.status) =
      some .released := by decide +kernel
  obtain ⟨r, hr, hstatus⟩ := Option.map_eq_some_iff.mp hentry
  refine ⟨hfit, not_recovers_of_dead (stored_after _) hfit hr ?_ {} 0⟩
  rw [hstatus]
  rfl

end AdmissionFabric

end Fabric

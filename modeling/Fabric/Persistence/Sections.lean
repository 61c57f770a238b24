import Fabric.Persistence.State
import Fabric.Engine.Stored
import Fabric.Reservation.Restore

/-!
# Reading the sections back

Each section of a saved engine, read into another engine. Policies, profiles, requests and the
rest are taken over whenever their strings and lists are within the limits of the reader; the
reservation section is taken over when all entries are live and their number is allowed, and
refused otherwise.
-/

namespace Fabric

open Support

variable {F : Type} [DoubleBits F]

theorem Status.failure?_eq_some {s : Status} (h : s.isOk = false) : s.failure? = some s := by
  rw [failure?, if_neg (by simp [h])]

/-- A loader that stops with a failure on every input that starts with `bytes`. -/
abbrev Fails (m : AdmissionFabric.Restore F Unit) (f₀ : AdmissionFabric F) (bytes : ByteString) :
    Prop := Refuses (fun s : Status => s.isOk = false) m f₀ bytes

/-- The strings and lists of a record are within the limits of the reader. -/
def RequestRecord.fits (record : RequestRecord F) : Bool :=
  record.descriptor.fits ∧ record.lastDecision.all AdmissionDecision.fits

namespace AdmissionFabric

variable {f : AdmissionFabric F}

/-! ## Policies and profiles -/

theorem loads_policies (hf : f.policy.Stored)
    (hfit : ∀ e ∈ f.policy.policies.entries, e.2.fits = true) (f₀ : AdmissionFabric F)
    (h₀ : f₀.policy = {}) :
    ∃ policy : PolicyEngine F, policy.policies = f.policy.policies ∧
      Loads restorePolicies f₀ f.savePolicies () { f₀ with policy } := by
  have hmax : PolicyEngine.kMaxGenerations = 128 := rfl
  have hbounded := hf.bounded
  obtain ⟨n, hn, hcount⟩ := decodes_count (E := Status) (n := f.policy.policies.size) (by omega)
  -- After a part of the policies is read, exactly these are installed.
  obtain ⟨_, hloop, policy, rfl, hpolicies⟩ := Loads.times restorePolicy
    (fun e : PolicyGeneration × AdmissionPolicy F => encodePolicy e.2) f.policy.policies.entries
    (s := f₀) (I := fun pre g => ∃ policy, g = { f₀ with policy } ∧ policy.policies = .ofEntries pre)
    ⟨f₀.policy, rfl, by rw [h₀]; rfl⟩ <| by
      rintro pre e post _ hp ⟨policy, rfl, hpolicies⟩
      have hmem : e ∈ f.policy.policies.entries := by simp [hp]
      have hfind := OrdMap.find?_eq_some_iff.mpr hmem
      have hvalid := hf.valid e.1 e.2 hfind
      have hnumber : e.2.generation = e.1 := hf.numbered e.1 e.2 hfind
      have hfree : policy.policies.find? e.2.generation = none := by
        rw [hpolicies, hnumber]
        exact OrdMap.find?_ofEntries_of_sorted (hp ▸ f.policy.policies.sorted)
      obtain ⟨policy', hinstall, hpolicies'⟩ :=
        PolicyEngine.installAtGeneration_new (e := policy) hvalid hfree
      refine ⟨{ f₀ with policy := policy' }, ?_, policy', rfl, ?_⟩
      · apply (Loads.decode (decodes_policy (hfit e hmem))).last
        apply Loads.attempt
        simp only [hinstall]
        rfl
      · rw [hpolicies', OrdMap.ofEntries_snoc, hpolicies, hnumber]
  rw [OrdMap.ofEntries_entries] at hpolicies
  refine ⟨policy, hpolicies, ?_⟩
  apply (Loads.decode hcount).cons
  apply (Loads.require (by omega) _).step
  rw [hn, List.flatten_singleton]
  exact hloop

theorem loads_profiles (hf : f.predictor.Stored)
    (hfit : ∀ e ∈ f.predictor.profs.entries, e.2.fits = true) (f₀ : AdmissionFabric F) :
    ∃ predictor, Loads restoreProfiles f₀ f.saveProfiles () { f₀ with predictor } := by
  have hmax : WorkloadPredictor.kMaxProfiles = 256 := rfl
  have hbounded := hf.bounded
  obtain ⟨n, hn, hcount⟩ := decodes_count (E := Status) (n := f.predictor.profs.size) (by omega)
  obtain ⟨_, hloop, predictor, rfl⟩ := Loads.times restoreProfile
    (fun e : ByteString × PredictionProfile F => encodePredictionProfile e.2)
    f.predictor.profs.entries (s := f₀) (I := fun _ g => ∃ predictor, g = { f₀ with predictor }) ⟨f₀.predictor, rfl⟩ <| by
      rintro pre e post _ hp ⟨predictor, rfl⟩
      have hmem : e ∈ f.predictor.profs.entries := by simp [hp]
      refine ⟨{ f₀ with predictor := (predictor.registerProfile e.2).2 }, ?_, _, rfl⟩
      apply (Loads.decode (decodes_predictionProfile (hfit e hmem))).last
      exact Loads.update _
  refine ⟨predictor, ?_⟩
  apply (Loads.decode hcount).cons
  apply (Loads.require (by omega) _).step
  rw [hn, List.flatten_singleton]
  exact hloop

/-! ## Reservations -/

variable {m : ReservationManager}

/-- What a manager saves after the count of its entries. -/
def savedReservations (m : ReservationManager) : SavedReservations :=
  { list := m.saved
    reserved := m.reservedSum
    used := m.usedSum
    mode := m.overcommitMode
    allowance := m.overcommitAllowance }

theorem decodes_reservations (m : ReservationManager) :
    Decodes (decodeReservations m.reservations.size)
      [m.reservations.entries.flatMap fun e => encodeReservation e.2,
        ByteWriter.resourceVector m.reservedSum, ByteWriter.resourceVector m.usedSum,
        ByteWriter.enum m.overcommitMode,
        ByteWriter.resourceVector m.overcommitAllowance].flatten (savedReservations m) := by
  have hlist := Decodes.times m.saved fun r _ => decodes_reservation r
  rw [ReservationManager.saved, List.length_map, List.flatMap_map] at hlist
  apply hlist.cons
  apply (decodes_resourceVector _).cons
  apply Decodes.ensureOk
  apply (decodes_resourceVector _).cons
  apply Decodes.ensureOk
  apply (decodes_enum _).cons
  apply (decodes_resourceVector _).cons
  apply Decodes.ensureOk
  exact Decodes.pure _

/-- The manager that has taken over the table, the sums and the settings of `m`. -/
def takeOver (m₀ m : ReservationManager) : ReservationManager :=
  { m₀ with
    reservations := m.reservations
    reservedSum := m.reservedSum
    usedSum := m.usedSum
    overcommitMode := m.overcommitMode
    overcommitAllowance := m.overcommitAllowance }

theorem loads_reservations (hm : m.Accounting)
    (hkeyed : ∀ rid r, m.reservations.find? rid = some r → r.id = rid)
    (hlive : ∀ rid r, m.reservations.find? rid = some r → r.status.isLive = true)
    (hsize : m.reservations.size ≤ kMaxEntries) (f₀ : AdmissionFabric F) :
    Loads restoreReservations f₀ (saveReservations m) ()
      { f₀ with reservations := takeOver f₀.reservations m } := by
  have hmax : kMaxEntries = 1048576 := rfl
  obtain ⟨n, hn, hcount⟩ := decodes_count (E := Status) (n := m.reservations.size) (by omega)
  have hrestore : f₀.reservations.restore (savedReservations m).list (savedReservations m).reserved
      (savedReservations m).used = _ :=
    ReservationManager.restore_of_live hm hkeyed hlive f₀.reservations
  apply (Loads.decode hcount).cons
  apply (Loads.require (by omega) _).step
  rw [hn]
  apply (Loads.decode (decodes_reservations m)).last
  apply Loads.step
  · apply Loads.attempt
    simp only [hrestore]
    rfl
  · exact Loads.update _

/-- More entries than allowed are refused. -/
theorem fails_many_reservations (hsize : kMaxEntries < m.reservations.size)
    (hlt : m.reservations.size < 2 ^ 32) (f₀ : AdmissionFabric F) :
    Fails restoreReservations f₀ (saveReservations m) := by
  obtain ⟨n, hn, hcount⟩ := decodes_count (E := Status) hlt
  apply Refuses.cons (Loads.decode hcount)
  apply Refuses.bind
  exact Refuses.require (by omega) rfl

/-- A terminal entry with a demand is refused. -/
theorem fails_dead_reservation {rid : ReservationId} {r : ResourceReservation}
    (hr : m.reservations.find? rid = some r) (hdead : r.status.isLive = false)
    (hdemand : r.demand.isZero = false) (hsize : m.reservations.size ≤ kMaxEntries)
    (f₀ : AdmissionFabric F) : Fails restoreReservations f₀ (saveReservations m) := by
  have hmax : kMaxEntries = 1048576 := rfl
  obtain ⟨n, hn, hcount⟩ := decodes_count (E := Status) (n := m.reservations.size) (by omega)
  have hmem : r ∈ (savedReservations m).list :=
    List.mem_map.mpr ⟨(rid, r), OrdMap.find?_eq_some_iff.mp hr, rfl⟩
  have hfail : (f₀.reservations.restore (savedReservations m).list (savedReservations m).reserved
      (savedReservations m).used).1.isOk = false :=
    ReservationManager.restore_of_dead f₀.reservations hmem hdead hdemand
  apply Refuses.cons (Loads.decode hcount)
  apply Refuses.step (Loads.require (by omega) _)
  rw [hn, ← List.append_nil (List.flatten _)]
  apply Refuses.after (Loads.decode (decodes_reservations m))
  apply Refuses.bind
  exact Refuses.attempt (Status.failure?_eq_some hfail) hfail

/-! ## Requests -/

/-- A record as it is read back at time `now`. -/
def restoredRecord (now : TimePoint) (id : AdmissionRequestId) (record : RequestRecord F) :
    RequestRecord F :=
  { id
    lifecycle := record.lifecycle
    descriptor := record.descriptor
    lastDecision := record.lastDecision.map AdmissionDecision.recorded
    createdAt := now
    updatedAt := now }

theorem loads_request {e : AdmissionRequestId × RequestRecord F} (hfit : e.2.fits = true)
    (now : TimePoint) {g : AdmissionFabric F} (hfree : g.requests.find? e.1 = none) :
    Loads (restoreRequest now) g (saveRequest e) ()
      { g with requests := g.requests.insert e.1 (restoredRecord now e.1 e.2) } := by
  obtain ⟨hdescriptor, hdecision⟩ := of_decide_eq_true hfit
  have hlast : Decodes (ByteReader.opt decodeDecision)
      (ByteWriter.opt encodeDecision e.2.lastDecision)
      (e.2.lastDecision.map AdmissionDecision.recorded) := by
    apply decodes_opt_map
    intro dec hdec
    rw [hdec] at hdecision
    exact decodes_decision hdecision
  have hnew : ¬ g.requests.contains e.1 = true := by
    rw [OrdMap.contains_eq_false_iff.mpr hfree]
    exact Bool.false_ne_true
  apply (Loads.decode (decodes_ident _)).cons
  apply (Loads.decode (Decodes.u8 _)).cons
  rw [RequestLifecycle.ofByte?_toByte]
  apply (Loads.decode (decodes_descriptor hdescriptor)).cons
  apply (Loads.decode hlast).cons
  apply Loads.attempt
  simp only [if_neg hnew]
  rw [OrdMap.emplace_of_none _ hfree]
  rfl

theorem loads_requests (hfit : ∀ e ∈ f.requests.entries, e.2.fits = true)
    (hsize : f.requests.size ≤ kMaxEntries) (now : TimePoint) (f₀ : AdmissionFabric F)
    (h₀ : f₀.requests = .empty) :
    Loads (restoreRequests now) f₀ f.saveRequests ()
      { f₀ with requests := f.requests.mapValues (restoredRecord now) } := by
  have hmax : kMaxEntries = 1048576 := rfl
  obtain ⟨n, hn, hcount⟩ := decodes_count (E := Status) (n := f.requests.size) (by omega)
  let restored := f.requests.mapValues (restoredRecord now)
  have hempty : (OrdMap.ofEntries [] : Requests F) = f₀.requests := h₀.symm
  -- After a part of the requests is read, the table has exactly their records.
  obtain ⟨_, hloop, rfl⟩ := Loads.times (restoreRequest now) saveRequest f.requests.entries
    (s := f₀) (I := fun pre g => g = { f₀ with
      requests := .ofEntries (pre.map fun e => (e.1, restoredRecord now e.1 e.2)) })
    (by rw [List.map_nil, hempty]) <| by
      rintro pre e post _ hp rfl
      have hmem : e ∈ f.requests.entries := by simp [hp]
      have hsorted := restored.sorted
      have hentries : restored.entries = pre.map (fun e => (e.1, restoredRecord now e.1 e.2)) ++
          (e.1, restoredRecord now e.1 e.2) ::
            post.map fun e => (e.1, restoredRecord now e.1 e.2) := by
        show f.requests.entries.map _ = _
        rw [hp, List.map_append, List.map_cons]
      rw [hentries] at hsorted
      have hfree : (OrdMap.ofEntries (pre.map fun e =>
          (e.1, restoredRecord now e.1 e.2))).find? e.1 = none :=
        OrdMap.find?_ofEntries_of_sorted (e := (e.1, restoredRecord now e.1 e.2)) hsorted
      refine ⟨_, loads_request (hfit e hmem) now hfree, ?_⟩
      rw [List.map_append, List.map_singleton, OrdMap.ofEntries_snoc]
  have hrestored : OrdMap.ofEntries (f.requests.entries.map fun e =>
      (e.1, restoredRecord now e.1 e.2)) = restored := OrdMap.ofEntries_entries restored
  rw [hrestored] at hloop
  apply (Loads.decode hcount).cons
  apply (Loads.require (by omega) _).step
  rw [hn, List.flatten_singleton]
  exact hloop

/-- More requests than allowed are refused. -/
theorem fails_many_requests (hsize : kMaxEntries < f.requests.size)
    (hlt : f.requests.size < 2 ^ 32) (now : TimePoint) (f₀ : AdmissionFabric F) :
    Fails (restoreRequests now) f₀ f.saveRequests := by
  obtain ⟨n, hn, hcount⟩ := decodes_count (E := Status) hlt
  apply Refuses.cons (Loads.decode hcount)
  apply Refuses.bind
  exact Refuses.require (by omega) rfl

/-! ## Quota, counters and snapshot -/

/-- The engine that has taken over the quota, the counters and the snapshot of `f`. -/
def withRest (f₀ f : AdmissionFabric F) : AdmissionFabric F :=
  { f₀ with
    quota := f.quota
    admissionGeneration := f.admissionGeneration
    reservationCounter := f.reservationCounter
    hasSnapshot := f.hasSnapshot
    snapshot := if f.hasSnapshot then f.snapshot else f₀.snapshot
    reservations :=
      if f.hasSnapshot then f₀.reservations.setTotal f.snapshot.total else f₀.reservations }

theorem loads_rest (hquota : f.quota.fits = true) (hsnapshot : f.snapshot.fits = true)
    (f₀ : AdmissionFabric F) : Loads restoreRest f₀ f.saveRest () (f₀.withRest f) := by
  apply (Loads.decode (decodes_quota hquota)).cons
  apply (Loads.update _).step
  apply (Loads.decode (decodes_ident _)).cons
  apply (Loads.update _).step
  apply (Loads.decode (decodes_u64 _)).cons
  apply (Loads.update _).step
  apply (Loads.decode (decodes_flag _)).cons
  apply (Loads.update _).step
  rw [List.flatten_singleton, withRest]
  cases f.hasSnapshot with
  | false => exact Loads.pure ()
  | true => exact (Loads.decode (decodes_snapshot hsnapshot)).last (Loads.update _)

end AdmissionFabric

end Fabric

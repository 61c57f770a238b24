import Fabric.Persistence.Fidelity
import Fabric.Persistence.Files

/-!
# Restarts

An engine that is restored from its own payload has the tables that were saved, and keeps what
holds between them. So does every engine of a process that is saved, ended and restored again and
again (`regular_after_restarts`). Commits, releases and cancellations get the answers after a
restart that the saved engine would have given (`answers_resumed`).
-/

namespace Fabric

open Support

variable {F : Type} [DoubleBits F]

/-! ## What the answers depend on -/

/-- The managers hold the same entries. -/
structure ReservationManager.SameEntries (m m' : ReservationManager) : Prop where
  table : m'.reservations = m.reservations
  reserved : m'.reservedSum = m.reservedSum
  used : m'.usedSum = m.usedSum

namespace ReservationManager.SameEntries

variable {m m' : ReservationManager}

theorem expireUnsafe (h : m.SameEntries m') (id : ReservationId) (r : ResourceReservation) :
    (m.expireUnsafe id r).SameEntries (m'.expireUnsafe id r) := by
  obtain ⟨htable, hreserved, hused⟩ := h
  rw [ReservationManager.expireUnsafe, ReservationManager.expireUnsafe, hreserved, htable]
  cases m.reservedSum.trySub r.demand with
  | none => exact ⟨htable, hreserved, hused⟩
  | some r2 => exact ⟨rfl, rfl, hused⟩

theorem commit (h : m.SameEntries m') (now : TimePoint) (id : ReservationId)
    (ar : AdmissionRequestId) (gen : AdmissionGeneration) :
    (m'.commit now id ar gen).1 = (m.commit now id ar gen).1 ∧
      (m.commit now id ar gen).2.SameEntries (m'.commit now id ar gen).2 := by
  have hexpire := fun r => h.expireUnsafe id r
  obtain ⟨htable, hreserved, hused⟩ := h
  rw [ReservationManager.commit, ReservationManager.commit, htable, hreserved, hused]
  cases m.reservations.find? id with
  | none => exact ⟨rfl, htable, hreserved, hused⟩
  | some r =>
    simp only
    split_ifs
    · exact ⟨rfl, htable, hreserved, hused⟩
    · exact ⟨rfl, htable, hreserved, hused⟩
    · exact ⟨rfl, hexpire r⟩
    · cases m.reservedSum.trySub r.demand with
      | none => exact ⟨rfl, htable, hreserved, hused⟩
      | some r2 =>
        cases m.usedSum.tryAdd r.demand with
        | none => exact ⟨rfl, htable, hreserved, hused⟩
        | some u2 => exact ⟨rfl, rfl, rfl, rfl⟩

theorem rollback (h : m.SameEntries m') (id : ReservationId) :
    (m.rollback id).2.SameEntries (m'.rollback id).2 := by
  obtain ⟨htable, hreserved, hused⟩ := h
  rw [ReservationManager.rollback, ReservationManager.rollback, htable, hreserved]
  cases m.reservations.find? id with
  | none => exact ⟨htable, hreserved, hused⟩
  | some r =>
    simp only
    split_ifs
    · exact ⟨htable, hreserved, hused⟩
    · exact ⟨htable, hreserved, hused⟩
    · cases m.reservedSum.trySub r.demand with
      | none => exact ⟨htable, hreserved, hused⟩
      | some r2 => exact ⟨rfl, rfl, hused⟩

theorem release (h : m.SameEntries m') (id : ReservationId) :
    (m'.release id).1 = (m.release id).1 ∧ (m.release id).2.SameEntries (m'.release id).2 := by
  obtain ⟨htable, hreserved, hused⟩ := h
  rw [ReservationManager.release, ReservationManager.release, htable, hreserved, hused]
  cases m.reservations.find? id with
  | none => exact ⟨rfl, htable, hreserved, hused⟩
  | some r =>
    simp only
    split_ifs
    · exact ⟨rfl, htable, hreserved, hused⟩
    · cases m.reservedSum.trySub r.demand with
      | none => exact ⟨rfl, htable, hreserved, hused⟩
      | some r2 => exact ⟨rfl, rfl, rfl, rfl⟩
    · cases m.usedSum.trySub r.demand with
      | none => exact ⟨rfl, htable, hreserved, hused⟩
      | some u2 => exact ⟨rfl, rfl, rfl, rfl⟩
    · exact ⟨rfl, rfl, rfl, rfl⟩

end ReservationManager.SameEntries

/-- Of a record, what commits, releases and cancellations look at. -/
def RequestRecord.claim (record : RequestRecord F) :
    RequestLifecycle × Option (AdmissionGeneration × Option ReservationId) :=
  (record.lifecycle,
    record.lastDecision.map fun dec => (dec.admissionGeneration, dec.reservationId))

/-- The call commits, releases or cancels. -/
def EngineOp.IsSettlement : EngineOp F → Prop
  | .commit _ _ => True
  | .release _ => True
  | .cancel _ => True
  | _ => False

namespace AdmissionFabric

/-- The engines cannot be told apart by commits, releases and cancellations. -/
structure SameClaims (f g : AdmissionFabric F) : Prop where
  entries : f.reservations.SameEntries g.reservations
  claims : ∀ x, (g.request x).map RequestRecord.claim = (f.request x).map RequestRecord.claim

namespace SameClaims

variable {f g : AdmissionFabric F} {x : AdmissionRequestId} {record record' : RequestRecord F}

theorem reservation?_of_claim (h : record'.claim = record.claim) :
    record'.reservation? = record.reservation? := by
  have hdecisions := congrArg (fun p => p.2.bind Prod.snd) h
  simpa [RequestRecord.claim, RequestRecord.reservation?, Option.bind_map, Function.comp_def]
    using hdecisions

/-- A request is known to both or to neither, with the same claim. -/
theorem cases (h : f.SameClaims g) (x : AdmissionRequestId) :
    f.requests.find? x = none ∧ g.requests.find? x = none ∨
      ∃ record record', f.requests.find? x = some record ∧ g.requests.find? x = some record' ∧
        record'.claim = record.claim := by
  have hclaim := h.claims x
  rw [request, request] at hclaim
  cases hf : f.requests.find? x with
  | none =>
    rw [hf] at hclaim
    exact .inl ⟨rfl, Option.map_eq_none_iff.mp hclaim⟩
  | some record =>
    rw [hf, Option.map_some] at hclaim
    obtain ⟨record', hg, hsame⟩ := Option.map_eq_some_iff.mp hclaim
    exact .inr ⟨record, record', rfl, hg, hsame⟩

/-- Both move a request to the same lifecycle. -/
theorem move (h : f.SameClaims g) (x : AdmissionRequestId) {m m' : ReservationManager}
    (hm : m.SameEntries m') (hrecord : record'.claim.2 = record.claim.2)
    (life : RequestLifecycle) (now : TimePoint) :
    SameClaims
      { f with
        reservations := m
        requests := f.requests.insert x { record with lifecycle := life, updatedAt := now } }
      { g with
        reservations := m'
        requests := g.requests.insert x { record' with lifecycle := life, updatedAt := now } } := by
  refine ⟨hm, fun y => ?_⟩
  show ((g.requests.insert x _).find? y).map _ = ((f.requests.insert x _).find? y).map _
  rw [OrdMap.find?_insert, OrdMap.find?_insert]
  split_ifs with hy
  · exact congrArg (fun decisions => some (life, decisions)) hrecord
  · exact h.claims y

theorem commit (h : f.SameClaims g) (now : TimePoint) (x : AdmissionRequestId)
    (gen : AdmissionGeneration) :
    (g.commitAdmission now x gen).1 = (f.commitAdmission now x gen).1 ∧
      (f.commitAdmission now x gen).2.SameClaims (g.commitAdmission now x gen).2 := by
  rw [commitAdmission, commitAdmission]
  rcases h.cases x with ⟨hf, hg⟩ | ⟨record, record', hf, hg, hclaim⟩
  · rw [hf, hg]
    exact ⟨rfl, h⟩
  · rw [hf, hg]
    simp only
    have hdecisions :
        record'.lastDecision.map (fun dec => (dec.admissionGeneration, dec.reservationId)) =
          record.lastDecision.map fun dec => (dec.admissionGeneration, dec.reservationId) :=
      congrArg Prod.snd hclaim
    cases hdec : record.lastDecision with
    | none =>
      rw [hdec] at hdecisions
      rw [Option.map_eq_none_iff.mp hdecisions]
      exact ⟨rfl, h⟩
    | some dec =>
      rw [hdec, Option.map_some] at hdecisions
      obtain ⟨dec', hdec', hsame⟩ := Option.map_eq_some_iff.mp hdecisions
      obtain ⟨hgen, hrid⟩ := Prod.mk.inj hsame
      rw [hdec']
      simp only [hgen, hrid]
      split_ifs with hstale
      · exact ⟨rfl, h⟩
      · cases dec.reservationId with
        | none => exact ⟨rfl, h⟩
        | some rid =>
          obtain ⟨hreply, hentries⟩ := h.entries.commit now rid x gen
          have hmove := h.move x hentries (congrArg Prod.snd hclaim) .admitted now
          rw [hdec, hdec'] at hmove
          simp only [hreply]
          split_ifs
          · exact ⟨rfl, hentries, h.claims⟩
          · exact ⟨rfl, hmove⟩

theorem claim_releaseRecord (h : record'.claim = record.claim) (now : TimePoint)
    (rid : ReservationId) :
    (releaseRecord now rid record').claim = (releaseRecord now rid record).claim := by
  have hlife : record'.lifecycle = record.lifecycle := congrArg Prod.fst h
  rw [releaseRecord, releaseRecord, reservation?_of_claim h, hlife]
  split_ifs
  · exact congrArg (fun decisions => (RequestLifecycle.released, decisions)) (congrArg Prod.snd h)
  · exact h

theorem release (h : f.SameClaims g) (now : TimePoint) (rid : ReservationId) :
    (g.releaseReservation now rid).1 = (f.releaseReservation now rid).1 ∧
      (f.releaseReservation now rid).2.SameClaims (g.releaseReservation now rid).2 := by
  obtain ⟨hreply, hentries⟩ := h.entries.release rid
  rw [releaseReservation, releaseReservation]
  simp only [hreply]
  split_ifs
  · exact ⟨rfl, hentries, h.claims⟩
  · refine ⟨rfl, hentries, fun x => ?_⟩
    show ((g.requests.mapValues _).find? x).map _ = ((f.requests.mapValues _).find? x).map _
    rw [OrdMap.find?_mapValues, OrdMap.find?_mapValues]
    rcases h.cases x with ⟨hf, hg⟩ | ⟨record, record', hf, hg, hclaim⟩
    · rw [hf, hg]
    · rw [hf, hg]
      exact congrArg some (claim_releaseRecord hclaim now rid)

theorem cancel (h : f.SameClaims g) (now : TimePoint) (x : AdmissionRequestId) :
    (g.cancelRequest now x).1 = (f.cancelRequest now x).1 ∧
      (f.cancelRequest now x).2.SameClaims (g.cancelRequest now x).2 := by
  rw [cancelRequest, cancelRequest]
  rcases h.cases x with ⟨hf, hg⟩ | ⟨record, record', hf, hg, hclaim⟩
  · rw [hf, hg]
    exact ⟨rfl, h⟩
  · have hlife : record'.lifecycle = record.lifecycle := congrArg Prod.fst hclaim
    have hmove := fun m m' (hm : ReservationManager.SameEntries m m') =>
      h.move x hm (congrArg Prod.snd hclaim) .cancelled now
    rw [hf, hg]
    simp only [hlife, reservation?_of_claim hclaim]
    cases record.lifecycle with
    | proposed | evaluating | deferred => exact ⟨rfl, hmove _ _ h.entries⟩
    | reserved =>
      cases record.reservation? with
      | none => exact ⟨rfl, hmove _ _ h.entries⟩
      | some rid => exact ⟨rfl, hmove _ _ (h.entries.rollback rid)⟩
    | _ => exact ⟨rfl, h⟩

/-- Commits, releases and cancellations answer the same and keep the claims the same. -/
theorem call (h : f.SameClaims g) {c : EngineCall F} (hc : c.op.IsSettlement) :
    (engine F).reply f c = (engine F).reply g c ∧
      ((engine F).next f c).SameClaims ((engine F).next g c) := by
  obtain ⟨now, op⟩ := c
  cases op with
  | commit x gen =>
    obtain ⟨hreply, hnext⟩ := h.commit now x gen
    exact ⟨congrArg EngineReply.status hreply.symm, hnext⟩
  | release rid =>
    obtain ⟨hreply, hnext⟩ := h.release now rid
    exact ⟨congrArg EngineReply.status hreply.symm, hnext⟩
  | cancel x =>
    obtain ⟨hreply, hnext⟩ := h.cancel now x
    exact ⟨congrArg EngineReply.status hreply.symm, hnext⟩
  | _ => exact absurd hc id

end SameClaims

variable {f g : AdmissionFabric F}

theorem SameClaims.lifecycle? (h : f.SameClaims g) (x : AdmissionRequestId) :
    g.lifecycle? x = f.lifecycle? x := by
  have hclaim := congrArg (Option.map Prod.fst) (h.claims x)
  rwa [Option.map_map, Option.map_map] at hclaim

/-! ## Engines that are restored -/

/-- What holds of every engine that calls and restarts have led to. -/
structure Regular (f : AdmissionFabric F) : Prop where
  stored : f.Stored
  linked : f.Linked

theorem regular_fresh : ({} : AdmissionFabric F).Regular := ⟨stored_fresh, linked_after []⟩

theorem Regular.call (hf : f.Regular) (c : EngineCall F) : (f.call c).2.Regular :=
  ⟨stored_next hf.stored hf.linked c, linked_next hf.linked c⟩

/-- What recovering from the payload of `f` brings back. -/
structure Resumed (f g : AdmissionFabric F) (now : TimePoint) : Prop where
  policies : g.policy.policies = f.policy.policies
  predictor : g.predictor.Stored
  entries : f.reservations.SameEntries g.reservations
  requests : g.requests = f.requests.mapValues (restoredRecord now)
  admissionGeneration : g.admissionGeneration = f.admissionGeneration
  snapshot : g.hasSnapshot = false → g.snapshot = {}

variable {now : TimePoint} {cfg : PersistenceConfig}

theorem resumed_of_accepts (hf : f.Regular)
    (hok : (({} : AdmissionFabric F).applyPayload now (f.buildPayload cfg) cfg).1.isOk = true) :
    f.Resumed (({} : AdmissionFabric F).applyPayload now (f.buildPayload cfg) cfg).2 now := by
  obtain ⟨-, -, hinstall⟩ := install_of_accepts hok
  obtain ⟨policy, m, requests, hpolicy, htable, hrequests, heq⟩ := install_eq_some_iff.mp hinstall
  obtain ⟨hpolicies, -⟩ := PolicyEngine.addAll_entries hf.stored.policy.numbered hpolicy
  obtain ⟨-, rfl⟩ := ReservationManager.addSaved_eq_some_iff.mp htable
  obtain rfl := restored_requests hrequests
  have hpredictor : ∀ (ps : List (PredictionProfile F)) (w : WorkloadPredictor F), w.Stored →
      (ps.foldl (fun w p => (w.registerProfile p).2) w).Stored := by
    intro ps
    induction ps with
    | nil => exact fun w hw => hw
    | cons p ps ih => exact fun w hw => ih _ (WorkloadPredictor.stored_registerProfile hw p)
  obtain ⟨total, hwith⟩ := withSaved_eq ({} : AdmissionFabric F) policy _
    (f.requests.mapValues (restoredRecord now)) f.contents
  rw [heq, hwith]
  refine ⟨hpolicies, hpredictor _ _ stored_fresh.predictor, ⟨?_, rfl, rfl⟩, rfl, rfl, ?_⟩
  · exact ReservationManager.rebuilt hf.linked.links.keyed
  · intro hnone
    show f.contents.rest.snapshot.getD {} = {}
    rw [Option.isSome_eq_false_iff.mp hnone |> Option.isNone_iff_eq_none.mp]
    rfl

theorem Resumed.names (h : f.Resumed g now) {x : AdmissionRequestId} {record' : RequestRecord F}
    {rid : ReservationId} (hnames : Names g.requests x record' rid) :
    ∃ record, Names f.requests x record rid ∧ record'.lifecycle = record.lifecycle := by
  obtain ⟨hfind, hlink⟩ := hnames
  rw [h.requests, OrdMap.find?_mapValues] at hfind
  obtain ⟨record, hrecord, rfl⟩ := Option.map_eq_some_iff.mp hfind
  refine ⟨record, ⟨hrecord, ?_⟩, rfl⟩
  rw [← hlink]
  simp only [RequestRecord.reservation?, restoredRecord, Option.bind_map]
  rfl

theorem Resumed.links (hf : Links f.requests f.table) (h : f.Resumed g now) :
    Links g.requests g.table := by
  have hrecords : ∀ x record', g.requests.find? x = some record' →
      ∃ record, f.requests.find? x = some record ∧ restoredRecord now x record = record' := by
    intro x record' hfind
    rw [h.requests, OrdMap.find?_mapValues] at hfind
    exact Option.map_eq_some_iff.mp hfind
  have htable : g.table = f.table := h.entries.table
  rw [htable]
  constructor
  · intro x record' hfind
    obtain ⟨record, hrecord, rfl⟩ := hrecords x record' hfind
    show (record.lastDecision.map _).isSome = true
    rw [Option.isSome_map]
    exact hf.decided x record hrecord
  · intro x record' hfind
    obtain ⟨record, hrecord, rfl⟩ := hrecords x record' hfind
    exact hf.settled x record hrecord
  · intro x record' rid hnames
    obtain ⟨record, hnames, -⟩ := h.names hnames
    exact hf.present x record rid hnames
  · intro x record' dec' hfind hdec
    obtain ⟨record, hrecord, rfl⟩ := hrecords x record' hfind
    obtain ⟨dec, hlast, rfl⟩ := Option.map_eq_some_iff.mp hdec
    exact hf.real x record dec hrecord hlast
  · intro x y record' record₁' rid hx hy
    obtain ⟨record, hx, -⟩ := h.names hx
    obtain ⟨record₁, hy, -⟩ := h.names hy
    exact hf.unique x y record record₁ rid hx hy
  · intro x record' rid r hnames hr hstatus
    obtain ⟨record, hnames, hlife⟩ := h.names hnames
    rw [hlife]
    exact hf.committed x record rid r hnames hr hstatus
  · exact hf.keyed

theorem Resumed.regular (hf : f.Regular) (h : f.Resumed g now) : g.Regular := by
  obtain ⟨⟨hpolicy, -, -, hdemand⟩, hlinks, hgeneration, hreserved, hused, hbounded⟩ := hf
  have htable : g.table = f.table := h.entries.table
  refine ⟨⟨⟨?_, ?_, ?_⟩, h.predictor, h.snapshot, ?_⟩, h.links hlinks, ?_, ?_, ?_, ?_⟩
  · intro gen p hp
    rw [PolicyEngine.byGeneration, h.policies] at hp
    exact hpolicy.valid gen p hp
  · intro gen p hp
    rw [PolicyEngine.byGeneration, h.policies] at hp
    exact hpolicy.numbered gen p hp
  · rw [h.policies]
    exact hpolicy.bounded
  · rw [htable]
    exact hdemand
  · rw [h.admissionGeneration]
    exact hgeneration
  · rw [h.entries.reserved, ReservationManager.demandOf, h.entries.table]
    exact hreserved
  · rw [h.entries.used, ReservationManager.demandOf, h.entries.table]
    exact hused
  · rw [h.entries.reserved, h.entries.used]
    exact hbounded

/-- What comes back has the claims that were saved. -/
theorem Resumed.sameClaims (h : f.Resumed g now) : f.SameClaims g := by
  refine ⟨h.entries, fun x => ?_⟩
  rw [request, request, h.requests, OrdMap.find?_mapValues, Option.map_map]
  apply congrArg fun convert => Option.map convert (f.requests.find? x)
  funext record
  simp only [Function.comp_apply, RequestRecord.claim, restoredRecord, Option.map_map]
  rfl

end AdmissionFabric

/-! ## A process that is restarted -/

namespace Host

variable {s : StateFile} {h : Host F} {e : HostEvent F}

/-- Only new engines are loaded into, and the loads succeed. -/
def LoadsWell (s : StateFile) (h : Host F) (e : HostEvent F) : Prop :=
  ∀ now, e = .load now → h.engine = {} ∧ (h.step s e).1 = some .success

/-- The engine is regular, and so are those that the payloads in memory and in the file come
from. -/
structure Regular (s : StateFile) (h : Host F) : Prop where
  written : h.Written s
  engine : h.engine.Regular
  saving : ∀ v, h.saving = some v →
    ∃ f : AdmissionFabric F, f.Regular ∧ v.payload = f.buildPayload s.toPersistenceConfig
  file : ∀ bytes, h.files s.path = some bytes →
    ∃ f : AdmissionFabric F, f.Regular ∧ bytes = f.buildPayload s.toPersistenceConfig

theorem engine_step (hh : h.Regular s) (he : h.LoadsWell s e) : (h.step s e).2.engine.Regular := by
  cases e with
  | call c => exact hh.engine.call c
  | restart => exact AdmissionFabric.regular_fresh
  | save =>
    rw [step]
    cases h.saving <;> exact hh.engine
  | system e =>
    rw [step]
    cases h.saving with
    | none => exact hh.engine
    | some v =>
      rcases hr : v.step s h.files e with ⟨result, files⟩
      cases result <;>
        · simp only [hr]
          exact hh.engine
  | load now =>
    obtain ⟨hnew, hok⟩ := he now rfl
    have hreply : (h.engine.load now s h.files).1 = .success := Option.some.inj hok
    show (h.engine.load now s h.files).2.Regular
    rw [hnew] at hreply ⊢
    cases hfile : h.files s.path with
    | none =>
      rw [AdmissionFabric.load, loadPayload, hfile] at hreply
      cases congrArg Status.code hreply
    | some bytes =>
      obtain ⟨f, hf, rfl⟩ := hh.file bytes hfile
      rw [AdmissionFabric.load_of_file {} now hfile (f.buildPayload_ne_nil _)] at hreply ⊢
      exact (AdmissionFabric.resumed_of_accepts hf (by rw [hreply]; rfl)).regular hf

theorem Regular.step (hh : h.Regular s) (he : h.LoadsWell s e) : (h.step s e).2.Regular s := by
  obtain ⟨hturn, hwritten⟩ := turn_step hh.written e
  have hkept : (h.step s e).2.files s.path = h.files s.path → ∀ bytes,
      (h.step s e).2.files s.path = some bytes →
      ∃ f : AdmissionFabric F, f.Regular ∧ bytes = f.buildPayload s.toPersistenceConfig :=
    fun hsame bytes hfile => hh.file bytes (hsame.symm.trans hfile)
  refine ⟨hwritten, engine_step hh he, ?_, ?_⟩
  · intro v hv
    cases hturn with
    | begins _ _ saving _ =>
      obtain rfl := Option.some.inj (saving.symm.trans hv)
      exact ⟨h.engine, hh.engine, rfl⟩
    | waits v₀ v' before saving payload _ _ =>
      obtain rfl := Option.some.inj (saving.symm.trans hv)
      rw [payload]
      exact hh.saving v₀ before
    | stops saving _ _ => cases saving.symm.trans hv
    | saves _ _ saving _ _ => cases saving.symm.trans hv
  · cases hturn with
    | begins _ _ _ file => exact hkept file
    | waits _ _ _ _ _ file _ => exact hkept file
    | stops _ file _ => exact hkept file
    | saves v before _ file _ =>
      intro bytes hbytes
      obtain rfl := Option.some.inj (file.symm.trans hbytes)
      exact hh.saving v before

end Host

section Restarts

variable {s : StateFile} {files₀ : Files}

theorem regular_host (hnone : files₀ s.path = none) {is : List (HostEvent F)}
    (hloads : (host F s files₀).Guarded (Host.LoadsWell s) is) :
    ((host F s files₀).after is).Regular s := by
  refine Machine.invariant_of_guarded (I := fun _ => True) (fun _ => trivial) ?_
    (fun _ e _ he hh => hh.step he) hloads
  refine ⟨fun _ h => (by cases h), AdmissionFabric.regular_fresh, fun _ h => (by cases h),
    fun bytes hbytes => ?_⟩
  cases hnone.symm.trans hbytes

variable (s files₀)

/-- Whatever is saved, ended and restored, the tables of the engine agree as in one that never
stopped. -/
theorem regular_after_restarts (hnone : files₀ s.path = none) (is : List (HostEvent F))
    (hloads : (host F s files₀).Guarded (Host.LoadsWell s) is) :
    ((host F s files₀).after is).engine.Regular :=
  (regular_host hnone hloads).engine

/-- After a restart, commits, releases and cancellations are answered as by the engine that the
last successful save found, and lead to the same lifecycles and the same reservations. -/
theorem answers_resumed (hnone : files₀ s.path = none) (is : List (HostEvent F))
    (hloads : (host F s files₀).Guarded (Host.LoadsWell s) is) (f : AdmissionFabric F)
    (hlast : LastSaved s files₀ is f) (now : TimePoint)
    (hok : (host F s files₀).reply ((host F s files₀).after (is ++ [.restart])) (.load now) =
      some .success)
    (calls : List (EngineCall F)) (hcalls : ∀ c ∈ calls, c.op.IsSettlement) :
    (engine F).replies ((host F s files₀).after (is ++ [.restart, .load now])).engine calls =
        (engine F).replies f calls ∧
      (∀ x, ((engine F).run ((host F s files₀).after (is ++ [.restart, .load now])).engine
          calls).lifecycle? x = ((engine F).run f calls).lifecycle? x) ∧
      ((engine F).run ((host F s files₀).after (is ++ [.restart, .load now])).engine calls).table =
        ((engine F).run f calls).table := by
  have hf : f.Regular := by
    obtain ⟨_, e, post, rfl, ⟨pre, mid, rfl, -, rfl, -⟩, -, -⟩ := hlast
    rw [List.append_assoc] at hloads
    exact (regular_host hnone hloads.prefix).engine
  obtain ⟨hload, hengine⟩ := after_restart_load hlast.file now
  have hreply := Option.some.inj (hload.symm.trans hok)
  have hsame := (AdmissionFabric.resumed_of_accepts hf (by rw [hreply]; rfl)).sameClaims
  rw [hengine]
  obtain ⟨hreplies, hrun⟩ :=
    Machine.replies_eq_of_simulation (fun f g c hc h => AdmissionFabric.SameClaims.call h hc)
      hsame hcalls
  exact ⟨hreplies.symm, hrun.lifecycle?, hrun.entries.table⟩

end Restarts

/-- Without a load there is nothing to ask of loads. -/
theorem guarded_of_no_load {s : StateFile} {files₀ : Files} {is : List (HostEvent F)}
    (h : ∀ now, HostEvent.load now ∉ is) :
    (host F s files₀).Guarded (Host.LoadsWell s) is := by
  rintro pre e post rfl now rfl
  exact absurd (List.mem_append_right _ List.mem_cons_self) (h now)

namespace Sample

theorem guarded_savedOnce : (host Binary64 stateFile fun _ => none).Guarded
    (Host.LoadsWell stateFile) (savedOnce ++ [.restart]) := by
  apply guarded_of_no_load
  intro now hmem
  simp [savedOnce, saved] at hmem

/-- The process that is interrupted while it saves is restored by the next one. -/
theorem guarded_restored : (host Binary64 stateFile fun _ => none).Guarded
    (Host.LoadsWell stateFile) (savedOnce ++ [.restart] ++ [.load 0]) := by
  refine Machine.guarded_snoc.mpr ⟨guarded_savedOnce, fun now hnow => ?_⟩
  cases hnow
  refine ⟨by rw [after_restart], ?_⟩
  exact (after_restart_load lastSaved_savedOnce.file 0).1.trans (congrArg some applies_admitted)

end Sample

theorem regular_after_restarts_restored :
    ((host Binary64 Sample.stateFile fun _ => none).after
      (Sample.savedOnce ++ [.restart] ++ [.load 0])).engine.Regular :=
  regular_after_restarts Sample.stateFile (fun _ => none) rfl _ Sample.guarded_restored

theorem answers_resumed_release :
    (engine Binary64).replies ((host Binary64 Sample.stateFile fun _ => none).after
        (Sample.savedOnce ++ [.restart, .load 0])).engine [⟨0, .release ⟨1⟩⟩] =
      (engine Binary64).replies ((engine Binary64).after Sample.admitted) [⟨0, .release ⟨1⟩⟩] := by
  refine (answers_resumed Sample.stateFile (fun _ => none) rfl Sample.savedOnce
    Sample.guarded_savedOnce.prefix _ Sample.lastSaved_savedOnce 0 ?_ _ ?_).1
  · exact (after_restart_load Sample.lastSaved_savedOnce.file 0).1.trans
      (congrArg some Sample.applies_admitted)
  · intro c hc
    obtain rfl := List.mem_singleton.mp hc
    trivial

end Fabric

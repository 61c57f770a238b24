import Fabric.Persistence.State
import Fabric.Support.Replay

/-!
# The contents of a saved engine

`restore_state` reads a section and applies it before it reads the next one. Its successes do not
depend on this order: they are the readings of the whole buffer as a `SavedState` that `install` can
apply to the engine (`replays_state`). So a payload is accepted exactly when its trailer is
valid, its body is the encoding of a saved state and nothing else, and that state can be installed
(`accepts_iff`).
-/

namespace Fabric

open Support Support.ByteReader ByteReader

variable {F : Type} [DoubleBits F] {E α Tag : Type}

/-! ## Sections -/

/-- One entry of the request section. -/
structure SavedRequest (F : Type) [DoubleBits F] where
  id : AdmissionRequestId
  lifecycle : RequestLifecycle
  descriptor : AdmissionDescriptor F
  lastDecision : Option (AdmissionDecision F)

/-- The last section: quota, counters and snapshot. -/
structure SavedRest where
  quota : QuotaSnapshot
  admissionGeneration : AdmissionGeneration
  reservationCounter : UInt64
  snapshot : Option ResourceSnapshot

/-- The record of a saved request that is restored at time `now`. -/
def SavedRequest.record (now : TimePoint) (q : SavedRequest F) : RequestRecord F :=
  { id := q.id
    lifecycle := q.lifecycle
    descriptor := q.descriptor
    lastDecision := q.lastDecision
    createdAt := now
    updatedAt := now }

structure SavedState (F : Type) [DoubleBits F] where
  policies : List (AdmissionPolicy F)
  profiles : List (PredictionProfile F)
  reservations : AdmissionFabric.SavedReservations
  requests : List (SavedRequest F)
  rest : SavedRest

/-! ## Reading -/

variable {limit : ℕ} {message : String} {d : ℕ → Decoder Status α}

/-- A section that starts with the number of its entries. -/
def decodeCounted (limit : ℕ) (message : String) (d : ℕ → Decoder Status α) :
    Decoder Status α := do
  let n ← u32
  if n.toNat ≤ limit then d n.toNat else throw (.failure .persistenceInvalidCount message)

def decodePolicies : Decoder Status (List (AdmissionPolicy F)) :=
  decodeCounted PolicyEngine.kMaxGenerations "policy count" (times decodePolicy)

def decodeProfiles : Decoder Status (List (PredictionProfile F)) :=
  decodeCounted WorkloadPredictor.kMaxProfiles "profile count" (times decodePredictionProfile)

def decodeTable : Decoder Status AdmissionFabric.SavedReservations :=
  decodeCounted AdmissionFabric.kMaxEntries "reservation count" AdmissionFabric.decodeReservations

def decodeRequest : Decoder Status (SavedRequest F) := do
  let id ← ident
  let raw ← u8
  match RequestLifecycle.ofByte? raw with
  | none => throw (.failure .persistenceCorrupt "bad lifecycle")
  | some lifecycle =>
    let descriptor ← decodeDescriptor
    let lastDecision ← opt decodeDecision
    pure { id, lifecycle, descriptor, lastDecision }

def decodeRequests : Decoder Status (List (SavedRequest F)) :=
  decodeCounted AdmissionFabric.kMaxEntries "request count" (times decodeRequest)

def decodeRest : Decoder Status SavedRest := do
  let quota ← decodeQuota
  let admissionGeneration ← ident
  let reservationCounter ← u64
  let hasSnapshot ← flag
  if hasSnapshot then do
    let s ← decodeSnapshot
    pure { quota, admissionGeneration, reservationCounter, snapshot := some s }
  else pure { quota, admissionGeneration, reservationCounter, snapshot := none }

def decodeState : Decoder Status (SavedState F) :=
  (fun (policies, profiles, reservations, requests, rest, _) =>
      { policies, profiles, reservations, requests, rest }) <$>
    both decodePolicies (both decodeProfiles (both decodeTable (both decodeRequests
      (both decodeRest finish))))

instance [hd : ∀ n, Exact (d n)] : Exact (decodeCounted limit message d) := by
  unfold decodeCounted
  infer_instance

instance : Exact (decodePolicies (F := F)) := by
  unfold decodePolicies
  infer_instance

instance : Exact (decodeProfiles (F := F)) := by
  unfold decodeProfiles
  infer_instance

instance (n : ℕ) : Exact (AdmissionFabric.decodeReservations n) := by
  unfold AdmissionFabric.decodeReservations
  infer_instance

instance : Exact decodeTable := by
  unfold decodeTable
  infer_instance

instance : Exact (decodeRequest (F := F)) := by
  unfold decodeRequest
  refine Exact.step fun _ => Exact.step fun raw => ?_
  cases RequestLifecycle.ofByte? raw with
  | none => exact Exact.throw _
  | some lifecycle => exact Exact.step fun _ => Exact.step fun _ => Exact.pure _

instance : Exact (decodeRequests (F := F)) := by
  unfold decodeRequests
  infer_instance

instance : Exact decodeRest := by
  unfold decodeRest
  infer_instance

instance : Exact (decodeState (F := F)) := Exact.map _

/-! ## Applying -/

/-- What an operation has changed, if its status is no failure. -/
def ifOk {σ : Type} (p : Status × σ) : Option σ := if p.1.isOk then some p.2 else none

namespace AdmissionFabric

def addPolicy (p : AdmissionPolicy F) (f : AdmissionFabric F) : Option (AdmissionFabric F) :=
  (ifOk (f.policy.installAtGeneration p p.generation)).map fun policy => { f with policy }

def addProfile (p : PredictionProfile F) (f : AdmissionFabric F) : Option (AdmissionFabric F) :=
  some (f.registerProfile p).2

def addTable (saved : SavedReservations) (f : AdmissionFabric F) : Option (AdmissionFabric F) :=
  (ifOk (f.reservations.restore saved.list saved.reserved saved.used)).map fun reservations =>
    { f with
      reservations :=
        (reservations.setOvercommitMode saved.mode).setOvercommitAllowance saved.allowance }

def addRequest (now : TimePoint) (q : SavedRequest F) (f : AdmissionFabric F) :
    Option (AdmissionFabric F) :=
  if f.requests.contains q.id then none
  else some { f with requests := f.requests.emplace q.id (q.record now) }

def addRest (rest : SavedRest) (f : AdmissionFabric F) : AdmissionFabric F :=
  let f := { f with
    quota := rest.quota
    admissionGeneration := rest.admissionGeneration
    reservationCounter := rest.reservationCounter
    hasSnapshot := rest.snapshot.isSome }
  match rest.snapshot with
  | some s => f.setSnapshot s
  | none => f

/-- Apply a saved state to an engine, section by section. -/
def install (now : TimePoint) (saved : SavedState F) (f : AdmissionFabric F) :
    Option (AdmissionFabric F) := do
  let f ← saved.policies.foldlM (fun f p => f.addPolicy p) { f with requests := .empty }
  let f ← saved.profiles.foldlM (fun f p => f.addProfile p) f
  let f ← f.addTable saved.reservations
  let f ← saved.requests.foldlM (fun f q => f.addRequest now q) f
  return (f.addRest saved.rest).rebindOvercommit

end AdmissionFabric

/-! ## Errors -/

/-- The error is a failure. -/
abbrev IsFailure (s : Status) : Prop := s.isOk = false

section Errors

variable {P : E → Prop}

instance : Raises P (ByteReader.u32 : Decoder E UInt32) := Raises.map _

instance : Raises P (ByteReader.u64 : Decoder E UInt64) := Raises.map _

instance : Raises P (ByteReader.i64 : Decoder E Int64) := Raises.map _

instance : Raises P (ByteReader.i32 : Decoder E Int32) := Raises.map _

instance : Raises P (ByteReader.f64 : Decoder E F) := Raises.map _

instance : Raises P (ByteReader.flag : Decoder E Bool) := Raises.map _

instance [ByteEnum α] : Raises P (ByteReader.enum : Decoder E α) := Raises.map _

instance : Raises P (ByteReader.ident : Decoder E (Id Tag)) := Raises.map _

instance : Raises P (ByteReader.resourceVector : Decoder E ResourceVector) := Raises.map _

instance : Raises P (ByteReader.string : Decoder E ByteString) := by
  unfold ByteReader.string
  infer_instance

instance : Raises P (ByteReader.stringvec : Decoder E (List ByteString)) := by
  unfold ByteReader.stringvec
  infer_instance

instance : Raises P (ByteReader.capabilities : Decoder E Capabilities) := Raises.map _

instance {m : Decoder E α} [Raises P m] : Raises P (ByteReader.opt m) := by
  unfold ByteReader.opt
  infer_instance

instance (message : String) : Raises IsFailure (orCorrupt message) :=
  Raises.ensureOk fun _ => rfl

instance : Raises IsFailure finish := Raises.ensureOk fun _ => rfl

instance : Raises IsFailure (decodeDescriptor (F := F)) := by
  unfold decodeDescriptor
  repeat refine Raises.step fun _ => ?_
  exact Raises.pure _

instance : Raises IsFailure decodeSnapshot := by
  unfold decodeSnapshot
  repeat refine Raises.step fun _ => ?_
  exact Raises.pure _

instance : Raises IsFailure decodeReservation := by
  unfold decodeReservation
  repeat refine Raises.step fun _ => ?_
  split
  · exact Raises.throw rfl
  · exact Raises.step fun _ => Raises.pure _

instance : Raises IsFailure (decodeOverride (F := F)) := by
  unfold decodeOverride
  repeat refine Raises.step fun _ => ?_
  exact Raises.pure _

instance : Raises IsFailure (decodePolicy (F := F)) := by
  unfold decodePolicy
  repeat refine Raises.step fun _ => ?_
  split
  · exact Raises.throw rfl
  · infer_instance

instance : Raises IsFailure decodeQuota := by
  unfold decodeQuota
  repeat refine Raises.step fun _ => ?_
  exact Raises.pure _

instance : Raises IsFailure (decodeDecision (F := F)) := by
  unfold decodeDecision
  repeat refine Raises.step fun _ => ?_
  exact Raises.pure _

instance : Raises IsFailure (decodePredictionProfile (F := F)) := by
  unfold decodePredictionProfile
  repeat refine Raises.step fun _ => ?_
  exact Raises.pure _

instance (n : ℕ) : Raises IsFailure (AdmissionFabric.decodeReservations n) := by
  unfold AdmissionFabric.decodeReservations
  infer_instance

end Errors

/-! ## One after the other -/

namespace AdmissionFabric

/-- An operation with a status, whose failure is an error. -/
theorem replays_status {τ σ β : Type} (op : σ → Status × τ) (put : τ → σ → σ) {g : σ → σ} {b : β}
    {step : β → σ → Option σ} (hstep : ∀ s, step b s = (ifOk (op (g s))).map (put · (g s))) :
    Replays IsFailure g (Loader.attempt fun s => ((op s).1.failure?, put (op s).2 s))
      (pure b : Decoder Status β) step := by
  refine Replays.attempt (fun s => ?_) fun s e s' h => ?_
  · rw [hstep, ifOk, Status.failure?]
    cases (op (g s)).1.isOk <;> rfl
  · obtain ⟨herror, -⟩ := Prod.mk.inj h
    rw [Status.failure?] at herror
    cases hok : (op s).1.isOk with
    | true =>
      rw [hok] at herror
      cases herror
    | false =>
      rw [hok] at herror
      cases herror
      exact hok

theorem replays_policy : Replays IsFailure id (restorePolicy (F := F)) decodePolicy addPolicy :=
  Replays.read fun p => replays_status
    (fun f : AdmissionFabric F => f.policy.installAtGeneration p p.generation)
    (fun policy f => { f with policy }) fun _ => rfl

theorem replays_policies : Replays IsFailure id (restorePolicies (F := F)) decodePolicies
    fun ps f => ps.foldlM (fun f p => f.addPolicy p) f :=
  Replays.decode fun n => Replays.require rfl (Replays.times replays_policy n.toNat)

theorem replays_profile : Replays IsFailure id (restoreProfile (F := F)) decodePredictionProfile
    addProfile := Replays.read fun _ => Replays.update_last fun _ => rfl

theorem replays_profiles : Replays IsFailure id (restoreProfiles (F := F)) decodeProfiles
    fun ps f => ps.foldlM (fun f p => f.addProfile p) f :=
  Replays.decode fun n => Replays.require rfl (Replays.times replays_profile n.toNat)

theorem replays_table : Replays IsFailure id (restoreReservations (F := F)) decodeTable
    addTable := by
  refine Replays.decode fun n => Replays.require rfl (Replays.read fun saved => ?_)
  have hrestore : Replays IsFailure id
      (Loader.attempt fun f : AdmissionFabric F =>
        ((f.reservations.restore saved.list saved.reserved saved.used).1.failure?,
          { f with
            reservations := (f.reservations.restore saved.list saved.reserved saved.used).2 }))
      (pure saved : Decoder Status SavedReservations)
      fun saved f => (ifOk (f.reservations.restore saved.list saved.reserved saved.used)).map
        fun reservations => { f with reservations } :=
    replays_status (fun f : AdmissionFabric F =>
      f.reservations.restore saved.list saved.reserved saved.used)
      (fun reservations f => { f with reservations }) fun _ => rfl
  refine hrestore.then_update fun f => ?_
  rw [addTable, Option.map_map]
  rfl

theorem replays_request (now : TimePoint) : Replays IsFailure id (restoreRequest (F := F) now)
    decodeRequest (addRequest now) := by
  refine Replays.decode fun id => Replays.decode fun raw => ?_
  cases RequestLifecycle.ofByte? raw with
  | none => exact Replays.throw rfl
  | some lifecycle =>
    refine Replays.decode fun descriptor => Replays.decode fun lastDecision => ?_
    refine Replays.attempt (fun f => ?_) fun f e f' h => ?_
    · rw [addRequest]
      by_cases hmem : f.requests.contains id
      · simp [hmem]
      · simp [hmem]
        rfl
    · split_ifs at h
      · cases h
        rfl
      · cases h

theorem replays_requests (now : TimePoint) : Replays IsFailure id (restoreRequests (F := F) now)
    decodeRequests fun qs f => qs.foldlM (fun f q => f.addRequest now q) f :=
  Replays.decode fun n => Replays.require rfl (Replays.times (replays_request now) n.toNat)

theorem replays_rest : Replays IsFailure id (restoreRest (F := F)) decodeRest
    fun rest f => some (f.addRest rest) := by
  refine Replays.decode fun quota => Replays.update ?_
  refine Replays.decode fun generation => Replays.update ?_
  refine Replays.decode fun counter => Replays.update ?_
  refine Replays.decode fun hasSnapshot => Replays.update ?_
  cases hasSnapshot with
  | false => exact Replays.pure fun f => rfl
  | true => exact Replays.decode fun s => Replays.update_last fun f => rfl

theorem replays_state (now : TimePoint) : Replays IsFailure id (restoreState (F := F) now)
    decodeState (install now) := by
  have hfinish : Replays IsFailure id
      (Loader.update (rebindOvercommit (F := F)) >>= fun _ => Loader.decode finish) finish
      fun _ f => some f.rebindOvercommit := Replays.update (Replays.decode_last fun _ => rfl)
  have hsections := replays_policies.seq (f := fun _ => _) <| replays_profiles.seq (f := fun _ => _) <|
    replays_table.seq (f := fun _ => _) <| (replays_requests now).seq (f := fun _ => _) <|
    replays_rest.seq (f := fun _ => _) hfinish
  exact (Replays.update hsections.pending).map fun _ f => rfl

end AdmissionFabric

/-! ## Payloads -/

/-- The payload holds this saved state and nothing else, and its trailer is valid. -/
def PersistenceConfig.Holds (cfg : PersistenceConfig) (payload : ByteString)
    (saved : SavedState F) : Prop :=
  ∃ body, parseFrame cfg.magic cfg.version payload = .ok body ∧ Decodes decodeState body saved

variable {f g : AdmissionFabric F} {now : TimePoint} {payload : ByteString}
  {cfg : PersistenceConfig} {saved : SavedState F}

theorem PersistenceConfig.Holds.unique {saved' : SavedState F} (h : cfg.Holds payload saved)
    (h' : cfg.Holds payload saved') : saved = saved' := by
  obtain ⟨body, hparse, hread⟩ := h
  obtain ⟨body', hparse', hread'⟩ := h'
  rw [hparse] at hparse'
  cases hparse'
  exact (hread.unique hread' (rfl : body ++ [] = body ++ [])).1

namespace AdmissionFabric

/-- A payload is accepted when it holds a saved state that can be installed. -/
theorem accepts_iff : ((f.applyPayload now payload cfg).1.isOk = true ∧
    (f.applyPayload now payload cfg).2 = g) ↔
      ∃ saved, cfg.Holds payload saved ∧ f.install now saved = some g := by
  have hreplays := replays_state (F := F) now
  unfold applyPayload PersistenceConfig.Holds
  cases hparse : parseFrame cfg.magic cfg.version payload with
  | error err =>
    constructor
    · rintro ⟨hok, -⟩
      cases hok
    · rintro ⟨saved, ⟨body, h, -⟩, -⟩
      cases h
  | ok body =>
    simp only
    constructor
    · cases hrun : restoreState now (f, ⟨body, false, ""⟩) with
      | error s f' =>
        have hfailure : s.isOk = false := hreplays.error hrun
        rintro ⟨hok, -⟩
        rw [hfailure] at hok
        cases hok
      | ok u f' =>
        obtain ⟨f', r⟩ := f'
        simp only
        split_ifs with hfailed hrest
        · rintro ⟨hok, -⟩
          cases hok
        · rintro ⟨hok, -⟩
          cases hok
        · rintro ⟨-, rfl⟩
          have hgood : r.failed = false := by simpa using hfailed
          obtain ⟨saved, hread, hinstall⟩ := (hreplays.run_iff hgood).mp hrun
          obtain ⟨bytes, rest, rfl, rfl, hdecodes⟩ := Exact.sound hread hgood
          obtain rfl : rest = [] := by simpa using hrest
          rw [List.append_nil]
          exact ⟨saved, ⟨bytes, rfl, hdecodes⟩, hinstall⟩
    · rintro ⟨saved, ⟨_, heq, hread⟩, hinstall⟩
      cases heq
      have hrun : restoreState now (f, ⟨body, false, ""⟩) = .ok () (g, ⟨[], false, ""⟩) :=
        (hreplays.run_iff rfl).mpr ⟨saved, hread.run, hinstall⟩
      simp only [hrun]
      exact ⟨rfl, rfl⟩

end AdmissionFabric

end Fabric

import Fabric.Codec.Domain

/-!
# Saving and restoring an engine

`save_state` and `restore_state` of `engine.cpp`, and the `StateStore` around them. Saving
writes the policies, the profiles, the reservation table with its sums, the requests, the
quota, two counters and the snapshot, section by section. Restoring reads the sections in the
same order and applies each one to the engine as soon as it is read, so a failure leaves what
came before it in place.
-/

namespace Fabric

open Support

variable {F : Type} [DoubleBits F]

/-! ## Saving -/

namespace AdmissionFabric

open ByteWriter

def savePolicies (f : AdmissionFabric F) : ByteString :=
  [count f.policy.policies.size,
    f.policy.policies.entries.flatMap fun e => encodePolicy e.2].flatten

def saveProfiles (f : AdmissionFabric F) : ByteString :=
  [count f.predictor.profs.size,
    f.predictor.profs.entries.flatMap fun e => encodePredictionProfile e.2].flatten

def saveReservations (m : ReservationManager) : ByteString :=
  [count m.reservations.size, m.reservations.entries.flatMap fun e => encodeReservation e.2,
    resourceVector m.reservedSum, resourceVector m.usedSum, enum m.overcommitMode,
    resourceVector m.overcommitAllowance].flatten

/-- One turn of the loop over the requests. -/
def saveRequest (e : AdmissionRequestId × RequestRecord F) : ByteString :=
  [ident e.1, u8 e.2.lifecycle.toByte, encodeDescriptor e.2.descriptor,
    opt encodeDecision e.2.lastDecision].flatten

def saveRequests (f : AdmissionFabric F) : ByteString :=
  [count f.requests.size, f.requests.entries.flatMap saveRequest].flatten

/-- Quota, counters and snapshot. -/
def saveRest (f : AdmissionFabric F) : ByteString :=
  [encodeQuota f.quota, ident f.admissionGeneration, u64 f.reservationCounter, flag f.hasSnapshot,
    if f.hasSnapshot then encodeSnapshot f.snapshot else []].flatten

/-- `save_state`, which cannot fail. -/
def saveState (f : AdmissionFabric F) : ByteString :=
  [f.savePolicies, f.saveProfiles, saveReservations f.reservations, f.saveRequests,
    f.saveRest].flatten

end AdmissionFabric

/-! ## Restoring -/

/-- The failure a status stands for. -/
def Status.failure? (s : Status) : Option Status := if s.isOk then none else some s

namespace AdmissionFabric

open Support.ByteReader ByteReader Loader

/-- A computation that fills an engine from saved bytes. -/
abbrev Restore (F : Type) [DoubleBits F] := Loader (AdmissionFabric F) Status

def restorePolicy : Restore F Unit := do
  let p ← decode decodePolicy
  attempt fun f =>
    let (s, policy) := f.policy.installAtGeneration p p.generation
    (s.failure?, { f with policy })

def restorePolicies : Restore F Unit := do
  let n ← decode u32
  require (n.toNat ≤ PolicyEngine.kMaxGenerations)
    (.failure .persistenceInvalidCount "policy count")
  times restorePolicy n.toNat

def restoreProfile : Restore F Unit := do
  let p ← decode decodePredictionProfile
  update fun f => (f.registerProfile p).2

def restoreProfiles : Restore F Unit := do
  let n ← decode u32
  require (n.toNat ≤ WorkloadPredictor.kMaxProfiles)
    (.failure .persistenceInvalidCount "profile count")
  times restoreProfile n.toNat

/-- The limit on the numbers of reservations and requests. -/
def kMaxEntries : ℕ := 2 ^ 20

/-- What the reservation section holds after its count. -/
structure SavedReservations where
  list : List ResourceReservation
  reserved : ResourceVector
  used : ResourceVector
  mode : OvercommitMode
  allowance : ResourceVector

def decodeReservations (n : ℕ) : Decoder Status SavedReservations := do
  let list ← ByteReader.times decodeReservation n
  let reserved ← resourceVector
  orCorrupt "reservation sums"
  let used ← resourceVector
  orCorrupt "reservation sums"
  let mode ← enum
  let allowance ← resourceVector
  orCorrupt "overcommit allowance"
  pure { list, reserved, used, mode, allowance }

def restoreReservations : Restore F Unit := do
  let n ← decode u32
  require (n.toNat ≤ kMaxEntries) (.failure .persistenceInvalidCount "reservation count")
  let saved ← decode (decodeReservations n.toNat)
  attempt fun f =>
    let (s, reservations) := f.reservations.restore saved.list saved.reserved saved.used
    (s.failure?, { f with reservations })
  update fun f =>
    { f with
      reservations :=
        (f.reservations.setOvercommitMode saved.mode).setOvercommitAllowance saved.allowance }

/-- One turn of the loop over the requests. -/
def restoreRequest (now : TimePoint) : Restore F Unit := do
  let id ← decode ident
  let raw ← decode u8
  match RequestLifecycle.ofByte? raw with
  | none => throw (.failure .persistenceCorrupt "bad lifecycle")
  | some lifecycle =>
    let descriptor ← decode decodeDescriptor
    let lastDecision ← decode (opt decodeDecision)
    attempt fun f =>
      if f.requests.contains id then
        (some (.failure .persistenceDuplicateId "duplicate request id in state"), f)
      else
        (none,
          { f with
            requests := f.requests.emplace id
              { id, lifecycle, descriptor, lastDecision, createdAt := now, updatedAt := now } })

def restoreRequests (now : TimePoint) : Restore F Unit := do
  let n ← decode u32
  require (n.toNat ≤ kMaxEntries) (.failure .persistenceInvalidCount "request count")
  times (restoreRequest now) n.toNat

def restoreSnapshot : Restore F Unit := do
  let s ← decode decodeSnapshot
  update fun f => f.setSnapshot s

/-- Quota, counters and snapshot. -/
def restoreRest : Restore F Unit := do
  let quota ← decode decodeQuota
  update fun f => { f with quota }
  let admissionGeneration ← decode ident
  update fun f => { f with admissionGeneration }
  let reservationCounter ← decode u64
  update fun f => { f with reservationCounter }
  let hasSnapshot ← decode flag
  update fun f => { f with hasSnapshot }
  if hasSnapshot then restoreSnapshot else pure ()

/-- The overcommit settings follow the latest policy. -/
def rebindOvercommit (f : AdmissionFabric F) : AdmissionFabric F :=
  match f.policy.latest with
  | some p => f.bindOvercommit p
  | none => f

/-- Rebinding changes the overcommit settings only. -/
theorem rebindOvercommit_eq (f : AdmissionFabric F) :
    f.rebindOvercommit = { f with
      reservations := { f.reservations with
        overcommitMode := f.policy.latest.elim f.reservations.overcommitMode
          AdmissionPolicy.overcommit
        overcommitAllowance := f.policy.latest.elim f.reservations.overcommitAllowance
          AdmissionPolicy.boundAllowance } } := by
  unfold rebindOvercommit
  cases f.policy.latest with
  | none => rfl
  | some p => rfl

/-- `restore_state`. -/
def restoreState (now : TimePoint) : Restore F Unit := do
  update fun f => { f with requests := .empty }
  restorePolicies
  restoreProfiles
  restoreReservations
  restoreRequests now
  restoreRest
  update rebindOvercommit
  decode finish

end AdmissionFabric

/-! ## The state store -/

/-- `PersistenceConfig` without the path. -/
structure PersistenceConfig where
  magic : UInt32 := 0xAF1FA000
  version : UInt32 := 1

namespace AdmissionFabric

/-- `build_payload`. -/
def buildPayload (f : AdmissionFabric F) (cfg : PersistenceConfig) : ByteString :=
  ByteWriter.frame cfg.magic cfg.version f.saveState

/-- `apply_payload`. -/
def applyPayload (f : AdmissionFabric F) (now : TimePoint) (payload : ByteString)
    (cfg : PersistenceConfig) : Status × AdmissionFabric F :=
  match ByteReader.parseFrame cfg.magic cfg.version payload with
  | .error err => (.failure .persistenceChecksumMismatch err, f)
  | .ok body =>
    match restoreState now (f, ⟨body, false, ""⟩) with
    | .error s (f, _) => (s, f)
    | .ok _ (f, r) =>
      if r.failed then (.failure .persistenceCorrupt r.error, f)
      else if r.rest ≠ [] then (.failure .persistenceCorrupt "trailing bytes after state", f)
      else (.success, f)

end AdmissionFabric

end Fabric

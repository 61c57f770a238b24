import Fabric.Core.Enumerations
import Fabric.Core.ResourceVector
import Fabric.Support.OrdMap
import Fabric.Support.Checks

/-!
# The reservation manager

`reservation.hpp`: an identity-keyed table of reservations together with two cached sums,
`reservedSum` over the provisional entries and `usedSum` over the committed ones. An
operation returns its status (or the reservation id) and the manager it leaves behind; an
operation that reads the clock takes the reading as `now`.
-/

namespace Fabric

open Support Support.Checks

/-- `ReservationStatus`. -/
inductive ReservationStatus
  | reserved
  | committed
  | released
  | expired
  | rolledBack
  deriving DecidableEq

namespace ReservationStatus

/-- The entry still holds capacity. -/
def isLive : ReservationStatus → Bool
  | reserved | committed => true
  | released | expired | rolledBack => false

end ReservationStatus

/-- `ResourceReservation`: one claim against the governed capacity. -/
structure ResourceReservation where
  id : ReservationId
  owner : TenantId
  demand : ResourceVector
  createdAt : TimePoint
  expiresAt : TimePoint
  admissionRequestId : Option AdmissionRequestId := none
  admissionGeneration : Option AdmissionGeneration := none
  status : ReservationStatus := .reserved
  generation : UInt64 := 0

/-- `ReservationManager`. -/
structure ReservationManager where
  total : ResourceVector := .zero
  overcommitAllowance : ResourceVector := .zero
  reservedSum : ResourceVector := .zero
  usedSum : ResourceVector := .zero
  overcommitMode : OvercommitMode := .none
  reservations : OrdMap ReservationId ResourceReservation := .empty
  generation : UInt64 := 1

namespace ReservationManager

def setTotal (m : ReservationManager) (total : ResourceVector) : ReservationManager :=
  { m with total }

def setOvercommitMode (m : ReservationManager) (mode : OvercommitMode) : ReservationManager :=
  { m with overcommitMode := mode }

def setOvercommitAllowance (m : ReservationManager) (allowance : ResourceVector) :
    ReservationManager :=
  { m with overcommitAllowance := allowance }

/-! ## Capacity -/

/-- `kUnbounded`: the ceiling of a dimension the snapshot does not govern. -/
def kUnbounded : UInt64 := maxU64 / 4

/-- `dim_ceiling`: total plus allowance, or `kUnbounded` where the total is zero. -/
def dimCeiling (m : ReservationManager) (id : ResourceId) : UInt64 :=
  if m.total.get id = 0 then kUnbounded
  else Fabric.satAdd (m.total.get id)
    (if m.overcommitMode ≠ .none then m.overcommitAllowance.get id else 0)

def ceiling (m : ReservationManager) : ResourceVector := ⟨m.dimCeiling⟩

/-- `availability`: ceiling minus reserved and used, at least zero. -/
def availability (m : ReservationManager) : ResourceVector :=
  ⟨fun id => Fabric.satSub (m.dimCeiling id)
    (Fabric.satAdd (m.reservedSum.get id) (m.usedSum.get id))⟩

/-- The availability in exact numbers: what is held counts with at most the largest number. -/
theorem quantities_availability (m : ReservationManager) (i : ResourceId) :
    m.availability.quantities i = (m.dimCeiling i).toNat -
      min (m.reservedSum.quantities i + m.usedSum.quantities i) (2 ^ 64 - 1) := by
  show (Fabric.satSub (m.dimCeiling i)
    (Fabric.satAdd (m.reservedSum.get i) (m.usedSum.get i))).toNat = _
  rw [toNat_satSub, toNat_satAdd]
  rfl

/-- `next_generation_`: the counter is moved first, and wraps to one. -/
def nextGeneration (m : ReservationManager) : UInt64 :=
  if m.generation = maxU64 then 1 else m.generation + 1

/-! ## Operations -/

/-- The checks of `reserve`; what passes is the reserved sum with the demand added. -/
def reserveCheck (m : ReservationManager) (id : ReservationId) (demand : ResourceVector) :
    Except Status ResourceVector := do
  require (m.reservations.contains id = false)
    (.failure .reservationIdentityCollision "reservation id already exists")
  require (demand.isZero = false) (.failure .invalidArgument "reservation demand is all-zero")
  let next ← orFail (m.reservedSum.tryAdd demand)
    (.failure .reservationOverflow "reserved+demand overflow")
  let usedPlusReserved ← orFail (m.usedSum.tryAdd next)
    (.failure .reservationOverflow "used+reserved overflow")
  match ResourceId.all.find? fun dim => usedPlusReserved.get dim > m.dimCeiling dim with
  | some dim => .error (.failure .insufficientCapacity ("insufficient " ++ dim.name))
  | none => .ok next

/-- `reserve`: the whole demand or nothing. -/
def reserve (m : ReservationManager) (now : TimePoint) (id : ReservationId) (owner : TenantId)
    (demand : ResourceVector) (ttl : Nanoseconds) :
    Except Status ReservationId × ReservationManager :=
  match m.reserveCheck id demand with
  | .error s => (.error s, m)
  | .ok next =>
    (.ok id,
      { m with
        reservedSum := next
        generation := m.nextGeneration
        reservations := m.reservations.insert id
          { id, owner, demand, createdAt := now, expiresAt := now + ttl, status := .reserved,
            generation := m.nextGeneration } })

/-- `expire_unsafe`: free the demand of a provisional entry; an entry whose demand does not
come off the sum is left alone. -/
def expireUnsafe (m : ReservationManager) (id : ReservationId) (r : ResourceReservation) :
    ReservationManager :=
  match m.reservedSum.trySub r.demand with
  | some r2 =>
    { m with reservedSum := r2, reservations := m.reservations.insert id { r with status := .expired } }
  | none => m

/-- `commit`: tie a provisional reservation to an admission. -/
def commit (m : ReservationManager) (now : TimePoint) (id : ReservationId)
    (ar : AdmissionRequestId) (gen : AdmissionGeneration) : Status × ReservationManager :=
  match m.reservations.find? id with
  | none => (.failure .staleReservation "unknown reservation id", m)
  | some r =>
    if r.status = .committed then
      (.failure .doubleReservation "reservation already committed", m)
    else if r.status ≠ .reserved then
      (.failure .operationNotPermitted "reservation not in reserved state", m)
    else if now > r.expiresAt then
      (.failure .reservationExpired "reservation expired before commit", m.expireUnsafe id r)
    else
      match m.reservedSum.trySub r.demand, m.usedSum.tryAdd r.demand with
      | none, _ => (.failure .reservationRollbackError "reserved-commit underflow", m)
      | some _, none => (.failure .reservationOverflow "used-commit overflow", m)
      | some r2, some u2 =>
        (.success,
          { m with
            reservedSum := r2
            usedSum := u2
            reservations := m.reservations.insert id
              { r with
                status := .committed
                admissionRequestId := some ar
                admissionGeneration := some gen } })

/-- `rollback`: return a provisional reservation. -/
def rollback (m : ReservationManager) (id : ReservationId) : Status × ReservationManager :=
  match m.reservations.find? id with
  | none => (.failure .staleReservation "unknown reservation id", m)
  | some r =>
    if r.status = .rolledBack ∨ r.status = .released then (.success, m)
    else if r.status ≠ .reserved then
      (.failure .operationNotPermitted "only provisional reservations can be rolled back", m)
    else
      match m.reservedSum.trySub r.demand with
      | none => (.failure .reservationRollbackError "rollback underflow", m)
      | some r2 =>
        (.success,
          { m with
            reservedSum := r2
            reservations := m.reservations.insert id { r with status := .rolledBack } })

/-- `release`: return a reservation in any live or expired state. -/
def release (m : ReservationManager) (id : ReservationId) : Status × ReservationManager :=
  match m.reservations.find? id with
  | none => (.failure .staleReservation "unknown reservation id", m)
  | some r =>
    if r.status = .released ∨ r.status = .rolledBack then (.success, m)
    else if r.status = .reserved then
      match m.reservedSum.trySub r.demand with
      | none => (.failure .reservationRollbackError "release-rollback underflow", m)
      | some r2 =>
        (.success,
          { m with
            reservedSum := r2
            reservations := m.reservations.insert id { r with status := .released } })
    else if r.status = .committed then
      match m.usedSum.trySub r.demand with
      | none => (.failure .doubleRelease "used-release underflow (already released)", m)
      | some u2 =>
        (.success,
          { m with
            usedSum := u2
            reservations := m.reservations.insert id { r with status := .released } })
    else
      (.success,
        { m with reservations := m.reservations.insert id { r with status := .released } })

/-- One turn of the loop in `expire_stale`. -/
def expireEntry (now : TimePoint) (m : ReservationManager) (id : ReservationId) :
    ReservationManager :=
  match m.reservations.find? id with
  | some r => if r.status = .reserved ∧ now > r.expiresAt then m.expireUnsafe id r else m
  | none => m

/-- `expire_stale`: expire every provisional reservation past its lifetime. -/
def expireStale (m : ReservationManager) (now : TimePoint) : ReservationManager :=
  (m.reservations.entries.map Prod.fst).foldl (expireEntry now) m

/-! ## Recovery -/

/-- What the first loop of `restore` has gathered: the ids seen and the two sums. -/
structure Gathered where
  seen : OrdMap ReservationId Unit := .empty
  reserved : ResourceVector := .zero
  used : ResourceVector := .zero

/-- One turn of the first loop in `restore`. -/
def gather (g : Gathered) (r : ResourceReservation) : Except Status Gathered := do
  require (g.seen.contains r.id = false)
    (.failure .persistenceDuplicateId "duplicate reservation id")
  let seen := g.seen.insert r.id ()
  match r.status with
  | .reserved =>
    let reserved ← orFail (g.reserved.tryAdd r.demand)
      (.failure .persistenceInconsistentAccounting "reserved sum overflow")
    pure { g with seen, reserved }
  | .committed =>
    let used ← orFail (g.used.tryAdd r.demand)
      (.failure .persistenceInconsistentAccounting "used sum overflow")
    pure { g with seen, used }
  | .released | .expired | .rolledBack =>
    require (r.demand.isZero = true)
      (.failure .persistenceInconsistentAccounting "terminal reservation carries demand")
    pure { g with seen }

/-- The checks of `restore`. -/
def restoreCheck (list : List ResourceReservation) (reserved used : ResourceVector) :
    Except Status Unit := do
  let g ← list.foldlM gather {}
  require (g.reserved = reserved)
    (.failure .persistenceInconsistentAccounting "reserved accounting mismatch")
  require (g.used = used)
    (.failure .persistenceInconsistentAccounting "used accounting mismatch")

/-- `restore`: take over a saved table whose sums are the recorded ones. -/
def restore (m : ReservationManager) (list : List ResourceReservation)
    (reserved used : ResourceVector) : Status × ReservationManager :=
  match restoreCheck list reserved used with
  | .error s => (s, m)
  | .ok () =>
    (.success,
      { m with
        reservations := list.foldl (fun table r => table.emplace r.id r) .empty
        reservedSum := reserved
        usedSum := used })

end ReservationManager

end Fabric

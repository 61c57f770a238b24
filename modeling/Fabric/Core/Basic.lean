import Mathlib.Algebra.GroupWithZero.Nat
import Mathlib.Order.Lattice
import Mathlib.Order.Defs.LinearOrder
import Mathlib.Data.List.Lex

/-!
# Identities, strings, statuses, clock readings

The vocabulary of `id.hpp`, `error.hpp` and `units.hpp`. A `std::string` is its bytes, so
its order as a map key is the lexicographic order of unsigned bytes. An identity is a
64-bit number under a phantom tag, so identities of different domains do not mix. Durations
and clock readings are signed 64-bit nanosecond counts and their arithmetic wraps.
-/

namespace Fabric

/-! ## Strings -/

instance instLinearOrderByte : LinearOrder UInt8 where
  le_refl := UInt8.le_refl
  le_trans _ _ _ := UInt8.le_trans
  le_antisymm _ _ := UInt8.le_antisymm
  le_total := UInt8.le_total
  lt_iff_le_not_ge _ _ := by
    simp only [UInt8.lt_iff_toNat_lt, UInt8.le_iff_toNat_le]
    omega
  toDecidableLE := inferInstance
  toDecidableLT := inferInstance
  toDecidableEq := inferInstance

/-- The bytes of a `std::string`. -/
abbrev ByteString := List UInt8

/-- A string literal of the source. -/
def ascii (s : String) : ByteString := s.toList.map fun c => c.toNat.toUInt8

/-- `std::to_string` of an unsigned number. -/
def toDecimal (n : Nat) : ByteString := (Nat.toDigits 10 n).map fun c => c.toNat.toUInt8

/-! ## Identities -/

/-- `Id<Tag>`: a 64-bit number that belongs to one identity domain. -/
structure Id (Tag : Type) where
  value : UInt64
  deriving DecidableEq

namespace Id

variable {Tag : Type}

theorem value_injective : Function.Injective (fun i : Id Tag => i.value.toNat) := by
  rintro ⟨a⟩ ⟨b⟩ h
  simpa [UInt64.toNat_inj] using h

instance : LinearOrder (Id Tag) := LinearOrder.lift' (fun i => i.value.toNat) value_injective

instance : Inhabited (Id Tag) := ⟨⟨0⟩⟩

/-- `is_nil`: the value reserved for "no identity". -/
def isNil (i : Id Tag) : Bool := i.value == 0

/-- `next`: one greater, staying at the largest value. -/
def next (i : Id Tag) : Id Tag :=
  ⟨if i.value.toNat = 2 ^ 64 - 1 then i.value else i.value + 1⟩

end Id

inductive AdmissionRequestIdTag
inductive RequestIdTag
inductive AttemptIdTag
inductive TenantIdTag
inductive ModelIdTag
inductive ModelRevisionTag
inductive AdapterIdTag
inductive PolicyGenerationTag
inductive AdmissionGenerationTag
inductive CoordinatorEpochTag
inductive ReservationIdTag
inductive ResourceSnapshotGenerationTag
inductive AgentIdTag
inductive AgentBootIdTag
inductive ObservationIdTag

abbrev AdmissionRequestId := Id AdmissionRequestIdTag
abbrev RequestId := Id RequestIdTag
abbrev AttemptId := Id AttemptIdTag
abbrev TenantId := Id TenantIdTag
abbrev ModelId := Id ModelIdTag
abbrev ModelRevision := Id ModelRevisionTag
abbrev AdapterId := Id AdapterIdTag
abbrev PolicyGeneration := Id PolicyGenerationTag
abbrev AdmissionGeneration := Id AdmissionGenerationTag
abbrev CoordinatorEpoch := Id CoordinatorEpochTag
abbrev ReservationId := Id ReservationIdTag
abbrev ResourceSnapshotGeneration := Id ResourceSnapshotGenerationTag
abbrev AgentId := Id AgentIdTag
abbrev AgentBootId := Id AgentBootIdTag
abbrev ObservationId := Id ObservationIdTag

/-! ## Statuses -/

/-- The numbers of the declared error codes. -/
def errorNumbers : List UInt32 :=
  [0, 1, 2, 3, 4, 5, 6, 20, 21, 22, 23, 24, 30, 31, 40, 41, 42, 50, 51, 52, 60, 61, 62, 63, 64,
   65, 66, 67, 70, 71, 72, 73, 74, 75, 76, 77, 78, 80, 81, 82, 90, 91, 92, 93, 94, 95, 96, 97, 98,
   99, 110, 111, 112, 113, 114, 115, 116, 117, 118, 120, 121, 122, 123, 124, 130, 131, 132, 133,
   134]

/-- `ErrorCode`. -/
inductive ErrorCode
  | ok
  | invalidArgument
  | malformedDescriptor
  | unknownError
  | notImplemented
  | operationNotPermitted
  | outOfRange
  | insufficientCapacity
  | negativeCapacity
  | capacityOverflow
  | noValidCapacity
  | hostCapacityMismatch
  | quotaViolation
  | quotaGenerationMismatch
  | capabilityMismatch
  | unsupportedDtype
  | unsupportedBackend
  | sloInfeasible
  | expiredDeadline
  | deadlineOverflow
  | staleEpoch
  | staleBootIdentity
  | staleAdmissionGeneration
  | staleReservation
  | staleSnapshotGeneration
  | stalePolicyGeneration
  | staleCapacityGeneration
  | staleInterpretation
  | doubleReservation
  | doubleRelease
  | reservationAfterRejection
  | reservationExpired
  | reservationIdentityCollision
  | admissionWithoutReservation
  | reservationLeak
  | reservationOverflow
  | reservationRollbackError
  | policyValidationError
  | unknownPolicyGeneration
  | policyConflict
  | persistenceCorrupt
  | persistenceTruncated
  | persistenceInvalidCount
  | persistenceUnknownVersion
  | persistenceDuplicateId
  | persistenceNegativeValue
  | persistenceInconsistentAccounting
  | persistenceImpossibleTransition
  | persistenceChecksumMismatch
  | persistenceIoError
  | malformedFrame
  | truncatedFrame
  | unknownMessage
  | unsupportedVersion
  | frameTooLarge
  | connectionReset
  | ioError
  | socketError
  | addressInUse
  | cudaError
  | cudaAllocationFailure
  | cudaKernelFailure
  | cudaDeviceMismatch
  | deviceNotPresent
  | agentLost
  | capacityFenced
  | agentAlreadyRegistered
  | noAgents
  | agentBootMismatch
  | undeclared (raw : UInt32) (h : raw ∉ errorNumbers)
  deriving DecidableEq

/-- `Error` and `Status`: a code and a message; `ok` is the success code. -/
structure Status where
  code : ErrorCode
  message : ByteString
  deriving DecidableEq

namespace Status

def success : Status := ⟨.ok, []⟩

def failure (c : ErrorCode) (message : String) : Status := ⟨c, ascii message⟩

def isOk (s : Status) : Bool := s.code == .ok

@[simp] theorem isOk_success : success.isOk = true := rfl

@[simp] theorem isOk_iff {s : Status} : s.isOk = true ↔ s.code = .ok := by
  simp [isOk]

end Status

/-! ## Clock readings -/

/-- `std::chrono::nanoseconds`: a signed 64-bit count. -/
abbrev Nanoseconds := Int64

/-- `SystemClock::time_point` as its nanoseconds since the epoch. -/
abbrev TimePoint := Int64

def milliseconds (n : Int64) : Nanoseconds := n * 1000000

def seconds (n : Int64) : Nanoseconds := n * 1000000000

end Fabric

import Fabric.Codec.Serialize
import Fabric.Engine.State

/-!
# Enumerators as numbers

The casts between an enumeration and its underlying number. A cast accepts any number, so an
enumeration that is decoded without a range check has a constructor for the numbers that no
enumerator has; the two that are checked have a partial cast.
-/

namespace Fabric

open Support Support.ByteReader

/-- The `static_cast`s between an enumeration and the byte under it. -/
class ByteEnum (α : Type) where
  toByte : α → UInt8
  ofByte : UInt8 → α
  ofByte_toByte : ∀ a, ofByte (toByte a) = a

instance : ByteEnum WorkloadType where
  toByte
    | .inference => 0
    | .prefill => 1
    | .decode => 2
    | .training => 3
    | .fineTune => 4
    | .embedding => 5
    | .rerank => 6
    | .other => 7
    | .undeclared raw _ => raw
  ofByte b :=
    if h : 7 < b then .undeclared b h
    else [.inference, .prefill, .decode, .training, .fineTune, .embedding, .rerank].getD b.toNat
      .other
  ofByte_toByte a := by
    cases a with
    | undeclared raw h => exact dif_pos h
    | _ => rfl

instance : ByteEnum LatencyClass where
  toByte
    | .bestEffort => 0
    | .interactive => 1
    | .realtime => 2
    | .fixedDeadline => 3
    | .softRealtime => 4
    | .undeclared raw _ => raw
  ofByte b :=
    if h : 4 < b then .undeclared b h
    else [.bestEffort, .interactive, .realtime, .fixedDeadline].getD b.toNat .softRealtime
  ofByte_toByte a := by
    cases a with
    | undeclared raw h => exact dif_pos h
    | _ => rfl

instance : ByteEnum PreemptionPermission where
  toByte
    | .notPermitted => 0
    | .preemptible => 1
    | .deferrable => 2
    | .undeclared raw _ => raw
  ofByte b :=
    if h : 2 < b then .undeclared b h else [.notPermitted, .preemptible].getD b.toNat .deferrable
  ofByte_toByte a := by
    cases a with
    | undeclared raw h => exact dif_pos h
    | _ => rfl

instance : ByteEnum Provenance where
  toByte
    | .measured => 1
    | .configured => 2
    | .derived => 3
    | .predicted => 4
    | .stale => 5
    | .unavailable => 6
    | .undeclared raw _ => raw
  ofByte b :=
    if h : b = 0 ∨ 6 < b then .undeclared b h
    else [.measured, .configured, .derived, .predicted, .stale].getD (b.toNat - 1) .unavailable
  ofByte_toByte a := by
    cases a with
    | undeclared raw h => exact dif_pos h
    | _ => rfl

instance : ByteEnum PressureLevel where
  toByte
    | .none => 0
    | .low => 1
    | .normal => 2
    | .high => 3
    | .critical => 4
    | .undeclared raw _ => raw
  ofByte b :=
    if h : 4 < b then .undeclared b h else [.none, .low, .normal, .high].getD b.toNat .critical
  ofByte_toByte a := by
    cases a with
    | undeclared raw h => exact dif_pos h
    | _ => rfl

instance : ByteEnum OvercommitMode where
  toByte
    | .none => 0
    | .bounded => 1
    | .predictionAware => 2
    | .undeclared raw _ => raw
  ofByte b :=
    if h : 2 < b then .undeclared b h else [.none, .bounded].getD b.toNat .predictionAware
  ofByte_toByte a := by
    cases a with
    | undeclared raw h => exact dif_pos h
    | _ => rfl

instance : ByteEnum AdmissionOutcome where
  toByte
    | .admitted => 0
    | .defer => 1
    | .reject => 2
    | .undeclared raw _ => raw
  ofByte b :=
    if h : 2 < b then .undeclared b h else [.admitted, .defer].getD b.toNat .reject
  ofByte_toByte a := by
    cases a with
    | undeclared raw h => exact dif_pos h
    | _ => rfl

instance : ByteEnum ObservationKind where
  toByte
    | .completed => 0
    | .failed => 1
    | .aborted => 2
    | .undeclared raw _ => raw
  ofByte b :=
    if h : 2 < b then .undeclared b h else [.completed, .failed].getD b.toNat .aborted
  ofByte_toByte a := by
    cases a with
    | undeclared raw h => exact dif_pos h
    | _ => rfl

namespace ReasonCode

/-- The code as the bits of its signed 32-bit number. -/
def toRaw : ReasonCode → UInt32
  | admitted => 0
  | admitWithReservation => 1
  | admitWithRisk => 2
  | deferCapacity => 3
  | deferQuota => 4
  | deferSlo => 5
  | deferCapability => 6
  | rejectInfeasible => 7
  | rejectPolicy => 8
  | rejectCapability => 9
  | rejectQuota => 10
  | rejectExpired => 11
  | rejectMalformed => 12
  | rejectUnsupported => 13
  | rejectStale => 14
  | undeclared raw _ => raw

def ofRaw (n : UInt32) : ReasonCode :=
  if h : 14 < n then undeclared n h
  else [admitted, admitWithReservation, admitWithRisk, deferCapacity, deferQuota, deferSlo,
    deferCapability, rejectInfeasible, rejectPolicy, rejectCapability, rejectQuota, rejectExpired,
    rejectMalformed, rejectUnsupported].getD n.toNat rejectStale

theorem ofRaw_toRaw (c : ReasonCode) : ofRaw c.toRaw = c := by
  cases c with
  | undeclared raw h => exact dif_pos h
  | _ => rfl

end ReasonCode

namespace ErrorCode

/-- The code as the bits of its signed 32-bit number. -/
def toRaw : ErrorCode → UInt32
  | ok => 0
  | invalidArgument => 1
  | malformedDescriptor => 2
  | unknownError => 3
  | notImplemented => 4
  | operationNotPermitted => 5
  | outOfRange => 6
  | insufficientCapacity => 20
  | negativeCapacity => 21
  | capacityOverflow => 22
  | noValidCapacity => 23
  | hostCapacityMismatch => 24
  | quotaViolation => 30
  | quotaGenerationMismatch => 31
  | capabilityMismatch => 40
  | unsupportedDtype => 41
  | unsupportedBackend => 42
  | sloInfeasible => 50
  | expiredDeadline => 51
  | deadlineOverflow => 52
  | staleEpoch => 60
  | staleBootIdentity => 61
  | staleAdmissionGeneration => 62
  | staleReservation => 63
  | staleSnapshotGeneration => 64
  | stalePolicyGeneration => 65
  | staleCapacityGeneration => 66
  | staleInterpretation => 67
  | doubleReservation => 70
  | doubleRelease => 71
  | reservationAfterRejection => 72
  | reservationExpired => 73
  | reservationIdentityCollision => 74
  | admissionWithoutReservation => 75
  | reservationLeak => 76
  | reservationOverflow => 77
  | reservationRollbackError => 78
  | policyValidationError => 80
  | unknownPolicyGeneration => 81
  | policyConflict => 82
  | persistenceCorrupt => 90
  | persistenceTruncated => 91
  | persistenceInvalidCount => 92
  | persistenceUnknownVersion => 93
  | persistenceDuplicateId => 94
  | persistenceNegativeValue => 95
  | persistenceInconsistentAccounting => 96
  | persistenceImpossibleTransition => 97
  | persistenceChecksumMismatch => 98
  | persistenceIoError => 99
  | malformedFrame => 110
  | truncatedFrame => 111
  | unknownMessage => 112
  | unsupportedVersion => 113
  | frameTooLarge => 114
  | connectionReset => 115
  | ioError => 116
  | socketError => 117
  | addressInUse => 118
  | cudaError => 120
  | cudaAllocationFailure => 121
  | cudaKernelFailure => 122
  | cudaDeviceMismatch => 123
  | deviceNotPresent => 124
  | agentLost => 130
  | capacityFenced => 131
  | agentAlreadyRegistered => 132
  | noAgents => 133
  | agentBootMismatch => 134
  | undeclared raw _ => raw

/-- The codes in the order of their numbers. -/
def named : List ErrorCode :=
  [.ok, .invalidArgument, .malformedDescriptor, .unknownError, .notImplemented,
   .operationNotPermitted, .outOfRange, .insufficientCapacity, .negativeCapacity,
   .capacityOverflow, .noValidCapacity, .hostCapacityMismatch, .quotaViolation,
   .quotaGenerationMismatch, .capabilityMismatch, .unsupportedDtype, .unsupportedBackend,
   .sloInfeasible, .expiredDeadline, .deadlineOverflow, .staleEpoch, .staleBootIdentity,
   .staleAdmissionGeneration, .staleReservation, .staleSnapshotGeneration, .stalePolicyGeneration,
   .staleCapacityGeneration, .staleInterpretation, .doubleReservation, .doubleRelease,
   .reservationAfterRejection, .reservationExpired, .reservationIdentityCollision,
   .admissionWithoutReservation, .reservationLeak, .reservationOverflow,
   .reservationRollbackError, .policyValidationError, .unknownPolicyGeneration, .policyConflict,
   .persistenceCorrupt, .persistenceTruncated, .persistenceInvalidCount,
   .persistenceUnknownVersion, .persistenceDuplicateId, .persistenceNegativeValue,
   .persistenceInconsistentAccounting, .persistenceImpossibleTransition,
   .persistenceChecksumMismatch, .persistenceIoError, .malformedFrame, .truncatedFrame,
   .unknownMessage, .unsupportedVersion, .frameTooLarge, .connectionReset, .ioError, .socketError,
   .addressInUse, .cudaError, .cudaAllocationFailure, .cudaKernelFailure, .cudaDeviceMismatch,
   .deviceNotPresent, .agentLost, .capacityFenced, .agentAlreadyRegistered, .noAgents,
   .agentBootMismatch]

def ofRaw (n : UInt32) : ErrorCode :=
  if h : n ∈ errorNumbers then named.getD (errorNumbers.idxOf n) .ok else .undeclared n h

theorem ofRaw_toRaw (c : ErrorCode) : ofRaw c.toRaw = c := by
  cases c with
  | undeclared raw h => exact dif_neg h
  | _ => rfl

end ErrorCode

namespace ReservationStatus

def toByte : ReservationStatus → UInt8
  | reserved => 0
  | committed => 1
  | released => 2
  | expired => 3
  | rolledBack => 4

def ofByte? (b : UInt8) : Option ReservationStatus :=
  [reserved, committed, released, expired, rolledBack][b.toNat]?

theorem ofByte?_toByte (s : ReservationStatus) : ofByte? s.toByte = some s := by
  cases s <;> rfl

end ReservationStatus

namespace RequestLifecycle

def toByte : RequestLifecycle → UInt8
  | unknown => 0
  | proposed => 1
  | evaluating => 2
  | deferred => 3
  | reserved => 4
  | admitted => 5
  | released => 6
  | rejected => 7
  | expired => 8
  | cancelled => 9

def ofByte? (b : UInt8) : Option RequestLifecycle :=
  [unknown, proposed, evaluating, deferred, reserved, admitted, released, rejected, expired,
    cancelled][b.toNat]?

theorem ofByte?_toByte (l : RequestLifecycle) : ofByte? l.toByte = some l := by
  cases l <;> rfl

end RequestLifecycle

/-! ## Declared enumerators -/

/-- An enumeration whose cast is undone by the cast back, with the values that have a name. -/
class NamedEnum (α : Type) extends ByteEnum α where
  isDeclared : α → Bool
  toByte_ofByte : ∀ b, toByte (ofByte b) = b

/-- A statement about all bytes, as one about the first 256 numbers. -/
theorem forall_byte {P : UInt8 → Prop} (h : ∀ n < 256, P (UInt8.ofNat n)) (b : UInt8) : P b := by
  have hb := h b.toNat b.toNat_lt
  rwa [UInt8.ofNat_toNat] at hb

theorem ReservationStatus.toByte_of_ofByte? {b : UInt8} {s : ReservationStatus}
    (h : ofByte? b = some s) : s.toByte = b := by
  have hall : ∀ b, ((ofByte? b).all fun s => s.toByte == b) = true :=
    forall_byte (by decide +kernel)
  have hb := hall b
  rw [h] at hb
  exact beq_iff_eq.mp hb

instance : NamedEnum WorkloadType where
  isDeclared
    | .undeclared _ _ => false
    | _ => true
  toByte_ofByte := forall_byte (by decide +kernel)

instance : NamedEnum LatencyClass where
  isDeclared
    | .undeclared _ _ => false
    | _ => true
  toByte_ofByte := forall_byte (by decide +kernel)

instance : NamedEnum PreemptionPermission where
  isDeclared
    | .undeclared _ _ => false
    | _ => true
  toByte_ofByte := forall_byte (by decide +kernel)

instance : NamedEnum Provenance where
  isDeclared
    | .undeclared _ _ => false
    | _ => true
  toByte_ofByte := forall_byte (by decide +kernel)

instance : NamedEnum PressureLevel where
  isDeclared
    | .undeclared _ _ => false
    | _ => true
  toByte_ofByte := forall_byte (by decide +kernel)

instance : NamedEnum OvercommitMode where
  isDeclared
    | .undeclared _ _ => false
    | _ => true
  toByte_ofByte := forall_byte (by decide +kernel)

instance : NamedEnum AdmissionOutcome where
  isDeclared
    | .undeclared _ _ => false
    | _ => true
  toByte_ofByte := forall_byte (by decide +kernel)

instance : NamedEnum ObservationKind where
  isDeclared
    | .undeclared _ _ => false
    | _ => true
  toByte_ofByte := forall_byte (by decide +kernel)

def ReasonCode.isDeclared : ReasonCode → Bool
  | undeclared _ _ => false
  | _ => true

theorem ReasonCode.toRaw_ofRaw (n : UInt32) : (ofRaw n).toRaw = n := by
  by_cases h : 14 < n
  · rw [ofRaw, dif_pos h]
    rfl
  · have hall : ∀ k < 15, (ofRaw (UInt32.ofNat k)).toRaw = UInt32.ofNat k := by decide +kernel
    have hn := hall n.toNat (by
      rw [UInt32.lt_iff_toNat_lt] at h
      have h14 : (14 : UInt32).toNat = 14 := rfl
      omega)
    rwa [UInt32.ofNat_toNat] at hn

/-! ## Reading and writing -/

variable {E α : Type} [ByteEnum α]

def ByteWriter.enum (a : α) : ByteString := u8 (ByteEnum.toByte a)

def ByteReader.enum : Decoder E α := ByteEnum.ofByte <$> u8

theorem decodes_enum (a : α) : Decodes (E := E) ByteReader.enum (ByteWriter.enum a) a := by
  have h := (Decodes.u8 (E := E) (ByteEnum.toByte a)).map (ByteEnum.ofByte : UInt8 → α)
  rwa [ByteEnum.ofByte_toByte] at h

instance : Exact (E := E) (ByteReader.enum (α := α)) := Exact.map _

theorem precise_enum {α : Type} [NamedEnum α] :
    Precise (E := E) (ByteReader.enum (α := α)) ByteWriter.enum fun _ => True :=
  Precise.u8.map (fun b _ => ⟨NamedEnum.toByte_ofByte b, trivial⟩)
    fun a _ => ⟨trivial, ByteEnum.ofByte_toByte a⟩

end Fabric

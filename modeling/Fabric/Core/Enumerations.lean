import Fabric.Core.Basic

/-!
# Enumerations stored in one byte

The `enum class ... : std::uint8_t` types of `descriptor.hpp`, `resource.hpp`,
`reservation.hpp`, `decision.hpp` and `observation.hpp` that a decoded record holds. Such a
type has a fixed underlying byte, so a decoded value may be none of the declared
enumerators; `undeclared` keeps that byte, with the fact that it names no enumerator.
-/

namespace Fabric

/-- `WorkloadType`. -/
inductive WorkloadType
  | inference
  | prefill
  | decode
  | training
  | fineTune
  | embedding
  | rerank
  | other
  | undeclared (raw : UInt8) (h : 7 < raw)
  deriving DecidableEq

/-- `LatencyClass`. -/
inductive LatencyClass
  | bestEffort
  | interactive
  | realtime
  | fixedDeadline
  | softRealtime
  | undeclared (raw : UInt8) (h : 4 < raw)
  deriving DecidableEq

/-- `PreemptionPermission`. -/
inductive PreemptionPermission
  | notPermitted
  | preemptible
  | deferrable
  | undeclared (raw : UInt8) (h : 2 < raw)
  deriving DecidableEq

/-- `Provenance`. Zero, the value of a fresh array element, is none of the enumerators. -/
inductive Provenance
  | measured
  | configured
  | derived
  | predicted
  | stale
  | unavailable
  | undeclared (raw : UInt8) (h : raw = 0 ∨ 6 < raw)
  deriving DecidableEq

theorem Provenance.zero_undeclared : (0 : UInt8) = 0 ∨ (6 : UInt8) < 0 := .inl rfl

/-- `PressureLevel`. -/
inductive PressureLevel
  | none
  | low
  | normal
  | high
  | critical
  | undeclared (raw : UInt8) (h : 4 < raw)
  deriving DecidableEq

/-- `OvercommitMode`. -/
inductive OvercommitMode
  | none
  | bounded
  | predictionAware
  | undeclared (raw : UInt8) (h : 2 < raw)
  deriving DecidableEq

/-- `AdmissionOutcome`. -/
inductive AdmissionOutcome
  | admitted
  | defer
  | reject
  | undeclared (raw : UInt8) (h : 2 < raw)
  deriving DecidableEq

/-- `ObservationKind`. -/
inductive ObservationKind
  | completed
  | failed
  | aborted
  | undeclared (raw : UInt8) (h : 2 < raw)
  deriving DecidableEq

end Fabric

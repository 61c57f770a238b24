import Fabric.Codec.Layout

/-!
# What the decoders accept

A decoder looks at the mark of its reader and at nothing else: it takes any byte but zero for a
set flag, any list for a set, any number for an enumerator, and it does not ask whether its input
ends where it has stopped reading.

* `MessageKind.eq_encode_iff`: an accepted message body is the encoding of its value exactly when
  its bytes are canonical.
* `DomainKind.isDeclared_iff`: the enumerators of a decoded value are declared exactly when those in
  the bytes are.
-/

namespace Fabric

open Support Support.ByteReader

variable {F : Type} [DoubleBits F] {E α β : Type}

/-! ## Looking at the reader -/

/-- A success leaves a reader that has not failed. -/
class Checked (m : Decoder E α) : Prop where
  failed_eq_false : ∀ {r r' : Support.ByteReader} {a : α}, m r = .ok a r' → r'.failed = false

namespace Checked

variable {m : Decoder E α} {f : α → Decoder E β}

theorem step (hf : ∀ a, Checked (f a)) : Checked (m >>= f) where
  failed_eq_false h := by
    obtain ⟨a, r₁, -, h₂⟩ := run_bind_eq_ok_iff.mp h
    exact (hf a).failed_eq_false h₂

theorem last {e : String → E} {b : β} : Checked (ensureOk e >>= fun _ => pure b) where
  failed_eq_false {r _ _} h := by
    obtain ⟨_, r₁, h₁, h₂⟩ := run_bind_eq_ok_iff.mp h
    cases h₂
    cases hfailed : r.failed with
    | true =>
      rw [ensureOk, if_pos hfailed] at h₁
      cases h₁
    | false =>
      rw [ensureOk, if_neg (by rw [hfailed]; exact Bool.false_ne_true)] at h₁
      cases h₁
      exact hfailed

theorem throw {e : E} : Checked (MonadExcept.throw e : Decoder E α) where
  failed_eq_false h := by cases h

theorem map [hm : Checked m] {g : α → β} : Checked (m >>= fun a => pure (g a)) where
  failed_eq_false h := by
    obtain ⟨a, r₁, h₁, h₂⟩ := run_bind_eq_ok_iff.mp h
    cases h₂
    exact hm.failed_eq_false h₁

end Checked

/-- `m` returns `a` from a buffer of these bytes. -/
def Accepts (m : Decoder E α) (x : ByteString) (a : α) : Prop := ∃ r, m ⟨x, false, ""⟩ = .ok a r

namespace Accepts

variable {m : Decoder E α} {x : ByteString} {a : α} {format : Format} {encode : α → ByteString}
  {D : α → Prop}

theorem of_decodes {bytes rest : ByteString} (h : Decodes m bytes a) :
    Accepts m (bytes ++ rest) a := ⟨_, h rest⟩

/-- What is accepted starts with what is read. -/
theorem exists_decodes [hm : Exact m] [hc : Checked m] (h : Accepts m x a) :
    ∃ bytes rest, x = bytes ++ rest ∧ Decodes m bytes a := by
  obtain ⟨r, hrun⟩ := h
  obtain ⟨bytes, rest, hx, -, hread⟩ := hm.sound hrun (hc.failed_eq_false hrun)
  exact ⟨bytes, rest, hx, hread⟩

theorem canonical_iff [Exact m] [Checked m] (hm : Described m format encode D)
    (h : Accepts m x a) : x = encode a ↔ format.canonical x = true := by
  obtain ⟨bytes, rest, rfl, hread⟩ := h.exists_decodes
  rw [(hm.covers hread).canonical_iff]
  refine ⟨fun heq => ⟨heq, ?_⟩, fun h => h.1⟩
  rw [← List.append_nil (encode a)] at heq
  exact (hread.unique (hm.back hread) heq).2.2

theorem declared_iff [Exact m] [Checked m] (hm : Described m format encode D)
    (h : Accepts m x a) : D a ↔ format.declared x = true := by
  obtain ⟨bytes, rest, rfl, hread⟩ := h.exists_decodes
  exact (hm.covers hread).declared_iff.symm

end Accepts

section Instances

instance : Checked (decodeDescriptor (F := F)) := by
  unfold decodeDescriptor
  repeat first | exact Checked.last | refine Checked.step fun _ => ?_

instance : Checked decodeSnapshot := by
  unfold decodeSnapshot
  repeat first | exact Checked.last | refine Checked.step fun _ => ?_

instance : Checked decodeReservation := by
  unfold decodeReservation
  repeat refine Checked.step fun _ => ?_
  split
  · exact Checked.throw
  · exact Checked.last

instance : Checked (decodePolicy (F := F)) := by
  unfold decodePolicy
  repeat refine Checked.step fun _ => ?_
  split
  · exact Checked.throw
  · refine Checked.step fun _ => ?_
    exact Checked.last

instance : Checked decodeQuota := by
  unfold decodeQuota
  repeat first | exact Checked.last | refine Checked.step fun _ => ?_

instance : Checked decodeObservation := by
  unfold decodeObservation
  repeat first | exact Checked.last | refine Checked.step fun _ => ?_

instance : Checked (decodeDecision (F := F)) := by
  unfold decodeDecision
  repeat first | exact Checked.last | refine Checked.step fun _ => ?_

instance : Checked decodeRegister := by
  unfold decodeRegister
  repeat first | exact Checked.last | refine Checked.step fun _ => ?_

instance : Checked decodeCommitRequest := by
  unfold decodeCommitRequest
  repeat first | exact Checked.last | refine Checked.step fun _ => ?_

instance : Checked decodeReleaseRequest := by
  unfold decodeReleaseRequest
  repeat first | exact Checked.last | refine Checked.step fun _ => ?_

instance : Checked decodeCapacityUpdate := by
  unfold decodeCapacityUpdate
  refine Checked.step fun _ => ?_
  exact Checked.map

end Instances

/-! ## Message bodies -/

/-- The messages whose body the coordinator decodes. -/
inductive MessageKind
  | register
  | capacityUpdate
  | evaluateRequest
  | commitRequest
  | releaseRequest
  | observationSubmit

namespace MessageKind

def Body (F : Type) : MessageKind → Type
  | register => RegisterMessage
  | capacityUpdate => UInt64 × ResourceSnapshot
  | evaluateRequest => AdmissionDescriptor F
  | commitRequest => AdmissionRequestId × AdmissionGeneration
  | releaseRequest => ReservationId
  | observationSubmit => Observation

/-- How the coordinator decodes a body. -/
def decode : (k : MessageKind) → Decoder Status (k.Body F)
  | register => decodeRegister
  | capacityUpdate => decodeCapacityUpdate
  | evaluateRequest => decodeDescriptor
  | commitRequest => decodeCommitRequest
  | releaseRequest => decodeReleaseRequest
  | observationSubmit => decodeObservation

/-- How the other side encodes it. -/
def encode : (k : MessageKind) → k.Body F → ByteString
  | register => encodeRegister
  | capacityUpdate => fun v => encodeCapacityUpdate v.1 v.2
  | evaluateRequest => encodeDescriptor
  | commitRequest => fun v => encodeCommitRequest v.1 v.2
  | releaseRequest => encodeReleaseRequest
  | observationSubmit => encodeObservation

def layout : MessageKind → Format
  | register => .all registerLayout
  | capacityUpdate => .all capacityUpdateLayout
  | evaluateRequest => .all descriptorLayout
  | commitRequest => .all commitRequestLayout
  | releaseRequest => .all releaseRequestLayout
  | observationSubmit => .all observationLayout

instance (k : MessageKind) : Exact (k.decode (F := F)) := by
  cases k with
  | register => exact inferInstanceAs (Exact decodeRegister)
  | capacityUpdate => exact inferInstanceAs (Exact decodeCapacityUpdate)
  | evaluateRequest => exact inferInstanceAs (Exact (decodeDescriptor (F := F)))
  | commitRequest => exact inferInstanceAs (Exact decodeCommitRequest)
  | releaseRequest => exact inferInstanceAs (Exact decodeReleaseRequest)
  | observationSubmit => exact inferInstanceAs (Exact decodeObservation)

instance (k : MessageKind) : Checked (k.decode (F := F)) := by
  cases k with
  | register => exact inferInstanceAs (Checked decodeRegister)
  | capacityUpdate => exact inferInstanceAs (Checked decodeCapacityUpdate)
  | evaluateRequest => exact inferInstanceAs (Checked (decodeDescriptor (F := F)))
  | commitRequest => exact inferInstanceAs (Checked decodeCommitRequest)
  | releaseRequest => exact inferInstanceAs (Checked decodeReleaseRequest)
  | observationSubmit => exact inferInstanceAs (Checked decodeObservation)

theorem exists_described (k : MessageKind) :
    ∃ D, Described (k.decode (F := F)) k.layout k.encode D := by
  cases k with
  | register => exact ⟨_, described_register⟩
  | capacityUpdate => exact ⟨_, described_capacityUpdate⟩
  | evaluateRequest => exact ⟨_, described_descriptor⟩
  | commitRequest => exact ⟨_, described_commitRequest⟩
  | releaseRequest => exact ⟨_, described_releaseRequest⟩
  | observationSubmit => exact ⟨_, described_observation⟩

/-- An accepted body is what the encoder writes for its value exactly when it ends with its last
field, has no flag but zero and one, and lists its sets in increasing order. -/
theorem eq_encode_iff (k : MessageKind) (payload : ByteString) (v : k.Body F)
    (h : Accepts k.decode payload v) : payload = k.encode v ↔ k.layout.canonical payload = true := by
  obtain ⟨D, hD⟩ := k.exists_described (F := F)
  exact h.canonical_iff hD

/-- A release of reservation 5, and a release of it with a byte more. -/
theorem eq_encode_iff_sample :
    (encodeReleaseRequest ⟨5⟩ ++ [] = encodeReleaseRequest ⟨5⟩ ↔
        (Format.all releaseRequestLayout).canonical [5, 0, 0, 0, 0, 0, 0, 0] = true) ∧
      (encodeReleaseRequest ⟨5⟩ ++ [1] = encodeReleaseRequest ⟨5⟩ ↔
        (Format.all releaseRequestLayout).canonical [5, 0, 0, 0, 0, 0, 0, 0, 1] = true) :=
  ⟨eq_encode_iff (F := Binary64) .releaseRequest _ ⟨5⟩ (.of_decodes (decodes_releaseRequest ⟨5⟩)),
    eq_encode_iff (F := Binary64) .releaseRequest _ ⟨5⟩ (.of_decodes (decodes_releaseRequest ⟨5⟩))⟩

/-- A byte behind a release request is not noticed. -/
theorem not_canonical :
    Accepts (releaseRequest.decode (F := Binary64)) [5, 0, 0, 0, 0, 0, 0, 0, 1] ⟨5⟩ ∧
      [5, 0, 0, 0, 0, 0, 0, 0, 1] ≠ releaseRequest.encode (F := Binary64) ⟨5⟩ := by
  have hbytes : encodeReleaseRequest ⟨5⟩ ++ [1] = [5, 0, 0, 0, 0, 0, 0, 0, 1] := by decide
  rw [← hbytes]
  exact ⟨.of_decodes (decodes_releaseRequest ⟨5⟩), by decide⟩

end MessageKind

/-! ## Domain structures -/

/-- The structures with a decoder that several parts of the program use. -/
inductive DomainKind
  | descriptor
  | snapshot
  | reservation
  | policy
  | quota
  | observation
  | decision

namespace DomainKind

def Value (F : Type) [Double F] : DomainKind → Type
  | descriptor => AdmissionDescriptor F
  | snapshot => ResourceSnapshot
  | reservation => ResourceReservation
  | policy => AdmissionPolicy F
  | quota => QuotaSnapshot
  | observation => Observation
  | decision => AdmissionDecision F

def decode : (k : DomainKind) → Decoder Status (k.Value F)
  | descriptor => decodeDescriptor
  | snapshot => decodeSnapshot
  | reservation => decodeReservation
  | policy => decodePolicy
  | quota => decodeQuota
  | observation => decodeObservation
  | decision => decodeDecision

def layout : DomainKind → Format
  | descriptor => .all descriptorLayout
  | snapshot => .all snapshotLayout
  | reservation => .all reservationLayout
  | policy => .all policyLayout
  | quota => .all quotaLayout
  | observation => .all observationLayout
  | decision => .all decisionLayout

/-- Every enumerator in the value has a name. The status of a reservation always has, and a quota
has no enumerator. -/
def isDeclared : (k : DomainKind) → k.Value F → Bool
  | descriptor => AdmissionDescriptor.isDeclared
  | snapshot => ResourceSnapshot.isDeclared
  | reservation => fun _ => true
  | policy => AdmissionPolicy.isDeclared
  | quota => fun _ => true
  | observation => Observation.isDeclared
  | decision => AdmissionDecision.isDeclared

/-- The encoder of a structure. -/
def encode : (k : DomainKind) → k.Value F → ByteString
  | descriptor => encodeDescriptor
  | snapshot => encodeSnapshot
  | reservation => encodeReservation
  | policy => encodePolicy
  | quota => encodeQuota
  | observation => encodeObservation
  | decision => encodeDecision

instance (k : DomainKind) : Exact (k.decode (F := F)) := by
  cases k with
  | descriptor => exact inferInstanceAs (Exact (decodeDescriptor (F := F)))
  | snapshot => exact inferInstanceAs (Exact decodeSnapshot)
  | reservation => exact inferInstanceAs (Exact decodeReservation)
  | policy => exact inferInstanceAs (Exact (decodePolicy (F := F)))
  | quota => exact inferInstanceAs (Exact decodeQuota)
  | observation => exact inferInstanceAs (Exact decodeObservation)
  | decision => exact inferInstanceAs (Exact (decodeDecision (F := F)))

instance (k : DomainKind) : Checked (k.decode (F := F)) := by
  cases k with
  | descriptor => exact inferInstanceAs (Checked (decodeDescriptor (F := F)))
  | snapshot => exact inferInstanceAs (Checked decodeSnapshot)
  | reservation => exact inferInstanceAs (Checked decodeReservation)
  | policy => exact inferInstanceAs (Checked (decodePolicy (F := F)))
  | quota => exact inferInstanceAs (Checked decodeQuota)
  | observation => exact inferInstanceAs (Checked decodeObservation)
  | decision => exact inferInstanceAs (Checked (decodeDecision (F := F)))

theorem described (k : DomainKind) :
    Described (k.decode (F := F)) k.layout k.encode fun v => k.isDeclared v = true := by
  cases k with
  | descriptor => exact described_descriptor
  | snapshot => exact described_snapshot
  | reservation => exact described_reservation.congr fun _ => (iff_of_true rfl trivial).symm
  | policy => exact described_policy
  | quota => exact described_quota.congr fun _ => (iff_of_true rfl trivial).symm
  | observation => exact described_observation
  | decision => exact described_decision

/-- The enumerators of a decoded value are declared exactly when the numbers at their places are
within their ranges. -/
theorem isDeclared_iff (k : DomainKind) (x : ByteString) (v : k.Value F)
    (h : Accepts k.decode x v) : k.isDeclared v = true ↔ k.layout.declared x = true := by
  have hiff := h.declared_iff (k.described (F := F))
  exact hiff

/-- An observation of a kind that has no name. -/
def Sample.unknownKind : Observation := { kind := .undeclared 7 (by decide) }

theorem isDeclared_iff_sample :
    Sample.unknownKind.isDeclared = true ↔ (Format.all observationLayout).declared
      (encodeObservation Sample.unknownKind ++ []) = true :=
  isDeclared_iff (F := Binary64) .observation _ Sample.unknownKind
    (.of_decodes (decodes_observation (by decide)))

/-- It is read back as it is, and its kind is none of the three. -/
theorem not_declared :
    Accepts (observation.decode (F := Binary64)) (encodeObservation Sample.unknownKind)
        Sample.unknownKind ∧
      observation.isDeclared (F := Binary64) Sample.unknownKind = false := by
  have hread : Accepts decodeObservation (encodeObservation Sample.unknownKind ++ [])
      Sample.unknownKind := .of_decodes (decodes_observation (by decide))
  rw [List.append_nil] at hread
  exact ⟨hread, rfl⟩

end DomainKind

end Fabric

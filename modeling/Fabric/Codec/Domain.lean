import Fabric.Codec.Enumerators

/-!
# Codecs of the domain structures

`codec.cpp`: every structure is written field by field, and its decoder reads the same fields
back, giving up with its own message where a read has failed. `fits` says of a value that its
strings and lists are within the limits of the reader; a value that fits is read back from its
encoding (`decodes_descriptor`, `decodes_snapshot`, `decodes_reservation`, `decodes_policy`,
`decodes_quota`, `decodes_observation`, `decodes_decision`, `decodes_predictionProfile`). A value
that is `counted` only, so that its sizes are written as they are, is read back if it fits and
refused otherwise (`settles_descriptor` and so on).
-/

namespace Fabric

open Support

variable {F : Type} [DoubleBits F] {E Tag : Type}

/-! ## Parts -/

namespace ByteWriter

/-- `encode_id`. -/
def ident (i : Id Tag) : ByteString := u64 i.value

/-- `encode_resource_vector`. -/
def resourceVector (v : ResourceVector) : ByteString := ResourceId.all.flatMap fun i => u64 (v.get i)

/-- `encode_capabilities`. -/
def capabilities (c : Capabilities) : ByteString := stringvec (c.tokens.entries.map Prod.fst)

end ByteWriter

namespace ByteReader

open Support.ByteReader

def ident : Decoder E (Id Tag) := Id.mk <$> u64

/-- `decode_resource_vector`, into a zero vector. -/
def resourceVector : Decoder E ResourceVector :=
  ResourceVector.mk <$> table u64 ResourceId.all ResourceVector.zero.get

def capabilities : Decoder E Capabilities :=
  (fun tokens => tokens.foldl Capabilities.add {}) <$> stringvec

end ByteReader

/-- The string is not too long to be read. -/
def ByteString.fits (s : ByteString) : Bool := s.length ≤ ByteReader.kMaxLen.toNat

/-- The list and its strings are not too long to be read. -/
def stringsFit (v : List ByteString) : Bool :=
  v.length ≤ ByteReader.kMaxCount.toNat ∧ v.all ByteString.fits

instance : Exact (ByteReader.ident : Decoder E (Id Tag)) := Exact.map _

instance : Exact (E := E) ByteReader.resourceVector := Exact.map _

theorem decodes_ident (i : Id Tag) : Decodes (E := E) ByteReader.ident (ByteWriter.ident i) i :=
  (decodes_u64 i.value).map Id.mk

theorem decodes_resourceVector (v : ResourceVector) :
    Decodes (E := E) ByteReader.resourceVector (ByteWriter.resourceVector v) v :=
  (Decodes.table ResourceId.mem_all fun i => decodes_u64 (v.get i)).map ResourceVector.mk

/-- The number of bytes fits the 32 bits it is written in. -/
def ByteString.counted (s : ByteString) : Bool := s.length < 2 ^ 32

/-- The numbers of strings and of their bytes fit the 32 bits they are written in. -/
def stringsCounted (v : List ByteString) : Bool := v.length < 2 ^ 32 ∧ v.all ByteString.counted

theorem ByteString.counted_of_fits {s : ByteString} (h : s.fits = true) : s.counted = true := by
  have hlen : s.length ≤ 67108864 := of_decide_eq_true h
  exact decide_eq_true (by omega)

theorem stringsCounted_of_fit {v : List ByteString} (h : stringsFit v = true) :
    stringsCounted v = true := by
  obtain ⟨hlen, hall⟩ := of_decide_eq_true h
  rw [toNat_kMaxCount] at hlen
  refine decide_eq_true ⟨by omega, List.all_eq_true.mpr fun s hs => ?_⟩
  exact ByteString.counted_of_fits (List.all_eq_true.mp hall s hs)

theorem decodes_string_of_fits {s : ByteString} (h : s.fits = true) :
    Decodes (E := E) ByteReader.string (ByteWriter.string s) s :=
  decodes_string (of_decide_eq_true h)

theorem settles_string_of_counted {s : ByteString} (h : s.counted = true) :
    Settles (E := E) ByteReader.string (ByteWriter.string s) s (s.fits = true) :=
  (settles_string (of_decide_eq_true h)).congr decide_eq_true_iff.symm

theorem settles_strings_of_counted {v : List ByteString} (h : stringsCounted v = true) :
    Settles (E := E) ByteReader.stringvec (ByteWriter.stringvec v) v (stringsFit v = true) := by
  obtain ⟨hlen, hall⟩ := of_decide_eq_true h
  have hs : ∀ s ∈ v, s.length < 2 ^ 32 := fun s hs =>
    of_decide_eq_true (List.all_eq_true.mp hall s hs)
  refine (settles_stringvec hlen hs).congr ?_
  simp only [stringsFit, decide_eq_true_iff, List.all_eq_true, ByteString.fits]

def Capabilities.fits (c : Capabilities) : Bool := stringsFit (c.tokens.entries.map Prod.fst)

def Capabilities.counted (c : Capabilities) : Bool :=
  stringsCounted (c.tokens.entries.map Prod.fst)

instance : Exact (E := E) ByteReader.capabilities := Exact.map _

theorem settles_capabilities {c : Capabilities} (h : c.counted = true) :
    Settles (E := E) ByteReader.capabilities (ByteWriter.capabilities c) c (c.fits = true) := by
  have hread := (settles_strings_of_counted (E := E) h).map fun tokens =>
    tokens.foldl Capabilities.add {}
  have hset : ∀ (l : List (ByteString × Unit)) (m : OrdMap ByteString Unit),
      (l.map Prod.fst).foldl Capabilities.add ⟨m⟩ =
        ⟨l.foldl (fun m e => m.insert e.1 e.2) m⟩ := by
    intro l
    induction l with
    | nil => exact fun m => rfl
    | cons e l ih => exact fun m => ih _
  have hback : (c.tokens.entries.map Prod.fst).foldl Capabilities.add {} = c := by
    rw [hset, ← OrdMap.ofEntries, OrdMap.ofEntries_entries]
  rwa [hback] at hread

theorem decodes_capabilities {c : Capabilities} (h : c.fits = true) :
    Decodes (E := E) ByteReader.capabilities (ByteWriter.capabilities c) c :=
  (settles_capabilities (stringsCounted_of_fit h)).decodes h

/-! ## Descriptors -/

open ByteWriter in
/-- `encode_descriptor`. -/
def encodeDescriptor (d : AdmissionDescriptor F) : ByteString :=
  [enum d.workloadType, ident d.admissionRequestId, ident d.requestId, ident d.attemptId,
    ident d.tenantId, ident d.modelId, ident d.modelRevision, opt ident d.adapterId,
    ident d.policyGeneration,
    u64 d.inputTokens, u64 d.expectedOutputTokens, u64 d.maxOutputTokens, flag d.batchable,
    u8 d.priority, enum d.latencyClass, opt i64 d.deadline, opt f64 d.requestedSlo,
    opt resourceVector d.expectedDemand, enum d.preemption, flag d.degradationPermitted,
    flag d.requiresReservation, i64 d.admissionTtl, string d.backend, string d.dtype,
    string d.quantization, string d.workloadClass, stringvec d.policyTags].flatten

open Support.ByteReader ByteReader in
/-- `decode_descriptor`. -/
def decodeDescriptor : Decoder Status (AdmissionDescriptor F) := do
  let workloadType ← enum
  let admissionRequestId ← ident
  orCorrupt "descriptor request id"
  let requestId ← ident
  orCorrupt "descriptor request id"
  let attemptId ← ident
  orCorrupt "descriptor attempt id"
  let tenantId ← ident
  orCorrupt "descriptor tenant id"
  let modelId ← ident
  orCorrupt "descriptor model id"
  let modelRevision ← ident
  orCorrupt "descriptor revision"
  let adapterId ← opt do
    let a ← ident
    orCorrupt "adapter id"
    pure a
  let policyGeneration ← ident
  orCorrupt "policy generation"
  let inputTokens ← u64
  let expectedOutputTokens ← u64
  let maxOutputTokens ← u64
  let batchable ← flag
  let priority ← u8
  let latencyClass ← enum
  let deadline ← opt i64
  let requestedSlo ← opt f64
  let expectedDemand ← opt do
    let v ← resourceVector
    orCorrupt "expected demand"
    pure v
  let preemption ← enum
  let degradationPermitted ← flag
  let requiresReservation ← flag
  let admissionTtl ← i64
  let backend ← string
  orCorrupt "descriptor strings"
  let dtype ← string
  orCorrupt "descriptor strings"
  let quantization ← string
  orCorrupt "descriptor strings"
  let workloadClass ← string
  orCorrupt "descriptor strings"
  let policyTags ← stringvec
  orCorrupt "policy tags"
  finish
  pure
    { admissionRequestId, requestId, attemptId, tenantId, modelId, modelRevision, adapterId,
      policyGeneration, workloadType, workloadClass, backend, dtype, quantization, inputTokens,
      expectedOutputTokens, maxOutputTokens, batchable, priority, latencyClass, deadline,
      requestedSlo, expectedDemand, preemption, degradationPermitted, requiresReservation,
      admissionTtl, policyTags }

def AdmissionDescriptor.fits (d : AdmissionDescriptor F) : Bool :=
  d.backend.fits ∧ d.dtype.fits ∧ d.quantization.fits ∧ d.workloadClass.fits ∧
    stringsFit d.policyTags

def AdmissionDescriptor.counted (d : AdmissionDescriptor F) : Bool :=
  d.backend.counted ∧ d.dtype.counted ∧ d.quantization.counted ∧ d.workloadClass.counted ∧
    stringsCounted d.policyTags

instance : Exact (decodeDescriptor (F := F)) := by
  unfold decodeDescriptor
  repeat refine Exact.step fun _ => ?_
  exact Exact.pure _

theorem settles_descriptor {d : AdmissionDescriptor F} (h : d.counted = true) :
    Settles decodeDescriptor (encodeDescriptor d) d (d.fits = true) := by
  obtain ⟨hbackend, hdtype, hquant, hclass, htags⟩ := of_decide_eq_true h
  have hfits : d.fits = true ↔ d.backend.fits = true ∧ d.dtype.fits = true ∧
      d.quantization.fits = true ∧ d.workloadClass.fits = true ∧ stringsFit d.policyTags = true ∧
      True := by
    simp [AdmissionDescriptor.fits]
  rw [hfits]
  unfold decodeDescriptor encodeDescriptor
  apply Settles.step (decodes_enum _)
  apply Settles.step (decodes_ident _)
  apply Settles.ensureOk
  apply Settles.step (decodes_ident _)
  apply Settles.ensureOk
  apply Settles.step (decodes_ident _)
  apply Settles.ensureOk
  apply Settles.step (decodes_ident _)
  apply Settles.ensureOk
  apply Settles.step (decodes_ident _)
  apply Settles.ensureOk
  apply Settles.step (decodes_ident _)
  apply Settles.ensureOk
  apply Settles.step (decodes_opt fun a _ => (decodes_ident a).last (.ensureOk (.pure a)))
  apply Settles.step (decodes_ident _)
  apply Settles.ensureOk
  apply Settles.step (decodes_u64 _)
  apply Settles.step (decodes_u64 _)
  apply Settles.step (decodes_u64 _)
  apply Settles.step (decodes_flag _)
  apply Settles.step (Decodes.u8 _)
  apply Settles.step (decodes_enum _)
  apply Settles.step (decodes_opt fun n _ => decodes_i64 n)
  apply Settles.step (decodes_opt fun slo _ => decodes_f64 slo)
  apply Settles.step (decodes_opt fun v _ =>
    (decodes_resourceVector v).last (.ensureOk (.pure v)))
  apply Settles.step (decodes_enum _)
  apply Settles.step (decodes_flag _)
  apply Settles.step (decodes_flag _)
  apply Settles.step (decodes_i64 _)
  apply (settles_string_of_counted hbackend).checked
  apply (settles_string_of_counted hdtype).checked
  apply (settles_string_of_counted hquant).checked
  apply (settles_string_of_counted hclass).checked
  apply (settles_strings_of_counted htags).checked
  apply Settles.ensureOk
  exact (Decodes.pure d).settles

omit [DoubleBits F] in
theorem AdmissionDescriptor.counted_of_fits {d : AdmissionDescriptor F} (h : d.fits = true) :
    d.counted = true := by
  obtain ⟨hbackend, hdtype, hquant, hclass, htags⟩ := of_decide_eq_true h
  exact decide_eq_true ⟨ByteString.counted_of_fits hbackend, ByteString.counted_of_fits hdtype,
    ByteString.counted_of_fits hquant, ByteString.counted_of_fits hclass,
    stringsCounted_of_fit htags⟩

theorem decodes_descriptor {d : AdmissionDescriptor F} (h : d.fits = true) :
    Decodes decodeDescriptor (encodeDescriptor d) d :=
  (settles_descriptor (AdmissionDescriptor.counted_of_fits h)).decodes h

/-! ## Snapshots -/

open ByteWriter in
/-- `encode_snapshot`. -/
def encodeSnapshot (s : ResourceSnapshot) : ByteString :=
  [ident s.generation, i64 s.timestamp, ident s.agentId, ident s.bootId, string s.nodeName,
    u32 s.deviceIndex, string s.deviceName, resourceVector s.total, resourceVector s.used,
    resourceVector s.reserved, resourceVector s.reclaimable, capabilities s.capabilities,
    flag s.healthy, stringvec s.modelResidencyHints, stringvec s.transferPathHints,
    ResourceId.all.flatMap fun i => enum (s.pressure i),
    ResourceId.all.flatMap fun i => enum (s.provenance i)].flatten

open Support.ByteReader ByteReader in
/-- `decode_snapshot`. -/
def decodeSnapshot : Decoder Status ResourceSnapshot := do
  let generation ← ident
  let timestamp ← i64
  orCorrupt "snapshot ts"
  let agentId ← ident
  let bootId ← ident
  let nodeName ← string
  orCorrupt "node name"
  let deviceIndex ← u32
  let deviceName ← string
  orCorrupt "device name"
  let total ← resourceVector
  orCorrupt "total"
  let used ← resourceVector
  orCorrupt "used"
  let reserved ← resourceVector
  orCorrupt "reserved"
  let reclaimable ← resourceVector
  orCorrupt "reclaimable"
  let capabilities ← capabilities
  orCorrupt "caps"
  let healthy ← flag
  let modelResidencyHints ← stringvec
  orCorrupt "hints"
  let transferPathHints ← stringvec
  orCorrupt "hints"
  let pressure ← table enum ResourceId.all ({} : ResourceSnapshot).pressure
  let provenance ← table enum ResourceId.all ({} : ResourceSnapshot).provenance
  finish
  pure
    { generation, timestamp, agentId, bootId, nodeName, deviceIndex, deviceName, total, used,
      reserved, reclaimable, capabilities, healthy, modelResidencyHints, transferPathHints,
      pressure, provenance }

def ResourceSnapshot.fits (s : ResourceSnapshot) : Bool :=
  s.nodeName.fits ∧ s.deviceName.fits ∧ s.capabilities.fits ∧ stringsFit s.modelResidencyHints ∧
    stringsFit s.transferPathHints

def ResourceSnapshot.counted (s : ResourceSnapshot) : Bool :=
  s.nodeName.counted ∧ s.deviceName.counted ∧ s.capabilities.counted ∧
    stringsCounted s.modelResidencyHints ∧ stringsCounted s.transferPathHints

instance : Exact decodeSnapshot := by
  unfold decodeSnapshot
  repeat refine Exact.step fun _ => ?_
  exact Exact.pure _

theorem settles_snapshot {s : ResourceSnapshot} (h : s.counted = true) :
    Settles decodeSnapshot (encodeSnapshot s) s (s.fits = true) := by
  obtain ⟨hnode, hdevice, hcaps, hmodels, hpaths⟩ := of_decide_eq_true h
  have hfits : s.fits = true ↔ s.nodeName.fits = true ∧ s.deviceName.fits = true ∧
      s.capabilities.fits = true ∧ stringsFit s.modelResidencyHints = true ∧
      stringsFit s.transferPathHints = true ∧ True := by
    simp [ResourceSnapshot.fits]
  rw [hfits]
  unfold decodeSnapshot encodeSnapshot
  apply Settles.step (decodes_ident _)
  apply Settles.step (decodes_i64 _)
  apply Settles.ensureOk
  apply Settles.step (decodes_ident _)
  apply Settles.step (decodes_ident _)
  apply (settles_string_of_counted hnode).checked
  apply Settles.step (decodes_u32 _)
  apply (settles_string_of_counted hdevice).checked
  apply Settles.step (decodes_resourceVector _)
  apply Settles.ensureOk
  apply Settles.step (decodes_resourceVector _)
  apply Settles.ensureOk
  apply Settles.step (decodes_resourceVector _)
  apply Settles.ensureOk
  apply Settles.step (decodes_resourceVector _)
  apply Settles.ensureOk
  apply (settles_capabilities hcaps).checked
  apply Settles.step (decodes_flag _)
  apply (settles_strings_of_counted hmodels).checked
  apply (settles_strings_of_counted hpaths).checked
  apply Settles.step (Decodes.table ResourceId.mem_all fun i => decodes_enum (s.pressure i))
  apply Settles.step (Decodes.table ResourceId.mem_all fun i => decodes_enum (s.provenance i))
  apply Settles.ensureOk
  exact (Decodes.pure s).settles

theorem ResourceSnapshot.counted_of_fits {s : ResourceSnapshot} (h : s.fits = true) :
    s.counted = true := by
  obtain ⟨hnode, hdevice, hcaps, hmodels, hpaths⟩ := of_decide_eq_true h
  exact decide_eq_true ⟨ByteString.counted_of_fits hnode, ByteString.counted_of_fits hdevice,
    stringsCounted_of_fit hcaps, stringsCounted_of_fit hmodels, stringsCounted_of_fit hpaths⟩

theorem decodes_snapshot {s : ResourceSnapshot} (h : s.fits = true) :
    Decodes decodeSnapshot (encodeSnapshot s) s :=
  (settles_snapshot (ResourceSnapshot.counted_of_fits h)).decodes h

/-! ## Reservations -/

open ByteWriter in
/-- `encode_reservation`. -/
def encodeReservation (r : ResourceReservation) : ByteString :=
  [ident r.id, ident r.owner, resourceVector r.demand, i64 r.createdAt, i64 r.expiresAt,
    opt ident r.admissionRequestId, opt ident r.admissionGeneration, u8 r.status.toByte,
    u64 r.generation].flatten

open Support.ByteReader ByteReader in
/-- `decode_reservation`. -/
def decodeReservation : Decoder Status ResourceReservation := do
  let id ← ident
  let owner ← ident
  let demand ← resourceVector
  orCorrupt "res demand"
  let createdAt ← i64
  orCorrupt "res created"
  let expiresAt ← i64
  orCorrupt "res expires"
  let admissionRequestId ← opt ident
  let admissionGeneration ← opt ident
  let raw ← u8
  let generation ← u64
  match ReservationStatus.ofByte? raw with
  | none => throw (.failure .persistenceCorrupt "bad reservation status")
  | some status =>
    finish
    pure
      { id, owner, demand, createdAt, expiresAt, admissionRequestId, admissionGeneration, status,
        generation }

instance : Exact decodeReservation := by
  unfold decodeReservation
  repeat refine Exact.step fun _ => ?_
  split
  · exact Exact.throw _
  · exact Exact.step fun _ => Exact.pure _

theorem decodes_reservation (r : ResourceReservation) :
    Decodes decodeReservation (encodeReservation r) r := by
  unfold decodeReservation encodeReservation
  apply (decodes_ident _).cons
  apply (decodes_ident _).cons
  apply (decodes_resourceVector _).cons
  apply Decodes.ensureOk
  apply (decodes_i64 _).cons
  apply Decodes.ensureOk
  apply (decodes_i64 _).cons
  apply Decodes.ensureOk
  apply Decodes.cons (decodes_opt fun x _ => decodes_ident x)
  apply Decodes.cons (decodes_opt fun g _ => decodes_ident g)
  apply (Decodes.u8 _).cons
  apply (decodes_u64 _).cons
  rw [ReservationStatus.ofByte?_toByte]
  apply Decodes.ensureOk
  exact Decodes.pure r

/-! ## Policies -/

open ByteWriter in
/-- One override in `encode_policy`. -/
def encodeOverride (o : PolicyOverride F) : ByteString :=
  [string o.key, opt f64 o.safetyHeadroomRatio, opt enum o.overcommitMode,
    opt resourceVector o.overcommitAllowance, opt f64 o.minPredictorConfidence,
    opt flag o.admitSloRisk, opt flag o.requireReservation, opt f64 o.smallRequestBoost].flatten

open Support.ByteReader ByteReader in
/-- One turn of the loop in `decode_policy`. -/
def decodeOverride : Decoder Status (PolicyOverride F) := do
  let key ← string
  orCorrupt "override key"
  let safetyHeadroomRatio ← opt f64
  let overcommitMode ← opt enum
  let overcommitAllowance ← opt do
    let v ← resourceVector
    orCorrupt "override rv"
    pure v
  let minPredictorConfidence ← opt f64
  let admitSloRisk ← opt flag
  let requireReservation ← opt flag
  let smallRequestBoost ← opt f64
  pure
    { key, safetyHeadroomRatio, overcommitMode, overcommitAllowance, minPredictorConfidence,
      admitSloRisk, requireReservation, smallRequestBoost }

instance : Exact (decodeOverride (F := F)) := by
  unfold decodeOverride
  repeat refine Exact.step fun _ => ?_
  exact Exact.pure _

theorem settles_override {o : PolicyOverride F} (h : o.key.counted = true) :
    Settles decodeOverride (encodeOverride o) o (o.key.fits = true) := by
  rw [← and_true (o.key.fits = true)]
  unfold decodeOverride encodeOverride
  apply (settles_string_of_counted h).checked
  apply Settles.step (decodes_opt fun x _ => decodes_f64 x)
  apply Settles.step (decodes_opt fun mode _ => decodes_enum mode)
  apply Settles.step (decodes_opt fun v _ =>
    (decodes_resourceVector v).last (.ensureOk (.pure v)))
  apply Settles.step (decodes_opt fun x _ => decodes_f64 x)
  apply Settles.step (decodes_opt fun b _ => decodes_flag b)
  apply Settles.step (decodes_opt fun b _ => decodes_flag b)
  apply Settles.step (decodes_opt fun x _ => decodes_f64 x)
  exact (Decodes.pure o).settles

open ByteWriter in
/-- `encode_policy`. -/
def encodePolicy (p : AdmissionPolicy F) : ByteString :=
  [ident p.generation, string p.name, f64 p.safetyHeadroomRatio,
    resourceVector p.absoluteSafetyMargin, enum p.overcommit, resourceVector p.overcommitAllowance,
    f64 p.overcommitConfidenceMin, f64 p.minPredictorConfidence, i64 p.maxSnapshotAge,
    flag p.acceptStaleSnapshot, flag p.quotaFailClosed, flag p.admitSloFeasibleWithRisk,
    flag p.requireReservation, i64 p.maxReservationLifetime, i64 p.defaultAdmissionTtl,
    u32 p.maxDeferrals, i64 p.deferMinBackoff, i64 p.deferMaxWait, f64 p.smallRequestPriorityBoost,
    f64 p.largeRequestStarvationBoost, u32 p.fairnessWindow, count p.overrides.length,
    p.overrides.flatMap encodeOverride].flatten

open Support.ByteReader ByteReader in
/-- `decode_policy`. -/
def decodePolicy : Decoder Status (AdmissionPolicy F) := do
  let generation ← ident
  let name ← string
  orCorrupt "policy name"
  let safetyHeadroomRatio ← f64
  let absoluteSafetyMargin ← resourceVector
  orCorrupt "policy margin"
  let overcommit ← enum
  let overcommitAllowance ← resourceVector
  orCorrupt "policy oc"
  let overcommitConfidenceMin ← f64
  let minPredictorConfidence ← f64
  let maxSnapshotAge ← i64
  let acceptStaleSnapshot ← flag
  let quotaFailClosed ← flag
  let admitSloFeasibleWithRisk ← flag
  let requireReservation ← flag
  let maxReservationLifetime ← i64
  let defaultAdmissionTtl ← i64
  let maxDeferrals ← u32
  let deferMinBackoff ← i64
  let deferMaxWait ← i64
  let smallRequestPriorityBoost ← f64
  let largeRequestStarvationBoost ← f64
  let fairnessWindow ← u32
  let n ← u32
  if n > (1 : UInt32) <<< 16 then throw (.failure .persistenceCorrupt "policy override count")
  else
    let overrides ← times decodeOverride n.toNat
    finish
    pure
      { generation, name, safetyHeadroomRatio, absoluteSafetyMargin, overcommit,
        overcommitAllowance, overcommitConfidenceMin, minPredictorConfidence, maxSnapshotAge,
        acceptStaleSnapshot, quotaFailClosed, admitSloFeasibleWithRisk, requireReservation,
        maxReservationLifetime, defaultAdmissionTtl, maxDeferrals, deferMinBackoff, deferMaxWait,
        smallRequestPriorityBoost, largeRequestStarvationBoost, fairnessWindow, overrides }

def AdmissionPolicy.fits (p : AdmissionPolicy F) : Bool :=
  p.name.fits ∧ p.overrides.length ≤ 2 ^ 16 ∧ p.overrides.all fun o => o.key.fits

def AdmissionPolicy.counted (p : AdmissionPolicy F) : Bool :=
  p.name.counted ∧ p.overrides.length < 2 ^ 32 ∧ p.overrides.all fun o => o.key.counted

instance : Exact (decodePolicy (F := F)) := by
  unfold decodePolicy
  repeat refine Exact.step fun _ => ?_
  infer_instance

theorem settles_policy {p : AdmissionPolicy F} (h : p.counted = true) :
    Settles decodePolicy (encodePolicy p) p (p.fits = true) := by
  obtain ⟨hname, hlen, hkeys⟩ := of_decide_eq_true h
  obtain ⟨n, hn, hcount⟩ := decodes_count (E := Status) (n := p.overrides.length) hlen
  have hover := Settles.times p.overrides fun o ho =>
    settles_override (List.all_eq_true.mp hkeys o ho)
  have hfits : p.fits = true ↔ p.name.fits = true ∧ ¬ n > (1 : UInt32) <<< 16 ∧
      (∀ o ∈ p.overrides, o.key.fits = true) ∧ True := by
    have hmax : ((1 : UInt32) <<< 16).toNat = 65536 := rfl
    rw [gt_iff_lt, UInt32.lt_iff_toNat_lt, hn, hmax]
    simp [AdmissionPolicy.fits]
  rw [hfits]
  unfold decodePolicy encodePolicy
  apply Settles.step (decodes_ident _)
  apply (settles_string_of_counted hname).checked
  apply Settles.step (decodes_f64 _)
  apply Settles.step (decodes_resourceVector _)
  apply Settles.ensureOk
  apply Settles.step (decodes_enum _)
  apply Settles.step (decodes_resourceVector _)
  apply Settles.ensureOk
  apply Settles.step (decodes_f64 _)
  apply Settles.step (decodes_f64 _)
  apply Settles.step (decodes_i64 _)
  apply Settles.step (decodes_flag _)
  apply Settles.step (decodes_flag _)
  apply Settles.step (decodes_flag _)
  apply Settles.step (decodes_flag _)
  apply Settles.step (decodes_i64 _)
  apply Settles.step (decodes_i64 _)
  apply Settles.step (decodes_u32 _)
  apply Settles.step (decodes_i64 _)
  apply Settles.step (decodes_i64 _)
  apply Settles.step (decodes_f64 _)
  apply Settles.step (decodes_f64 _)
  apply Settles.step (decodes_u32 _)
  apply Settles.step hcount
  rw [← hn] at hover
  apply Settles.ite _ fun _ => not_succeeds_throw
  apply Settles.checked hover
  exact (Decodes.pure p).settles

theorem AdmissionPolicy.counted_of_fits {p : AdmissionPolicy F} (h : p.fits = true) :
    p.counted = true := by
  obtain ⟨hname, hlen, hkeys⟩ := of_decide_eq_true h
  refine decide_eq_true ⟨ByteString.counted_of_fits hname, by omega, ?_⟩
  rw [List.all_eq_true] at hkeys ⊢
  exact fun o ho => ByteString.counted_of_fits (hkeys o ho)

theorem decodes_policy {p : AdmissionPolicy F} (h : p.fits = true) :
    Decodes decodePolicy (encodePolicy p) p :=
  (settles_policy (AdmissionPolicy.counted_of_fits h)).decodes h

/-! ## Quotas -/

open ByteWriter in
/-- `encode_quota`. -/
def encodeQuota (q : QuotaSnapshot) : ByteString :=
  [flag q.present, u64 q.generation, string q.sourceAuthority, i64 q.timestamp, flag q.stale,
    resourceVector q.limits, resourceVector q.used, resourceVector q.reserved, u64 q.tokenBudget,
    u32 q.maxConcurrentRequests, u32 q.maxSequences, i64 q.computeTimeAllowance].flatten

open Support.ByteReader ByteReader in
/-- `decode_quota`. -/
def decodeQuota : Decoder Status QuotaSnapshot := do
  let present ← flag
  let generation ← u64
  let sourceAuthority ← string
  orCorrupt "quota source"
  let timestamp ← i64
  orCorrupt "quota ts"
  let stale ← flag
  let limits ← resourceVector
  orCorrupt "quota vectors"
  let used ← resourceVector
  orCorrupt "quota vectors"
  let reserved ← resourceVector
  orCorrupt "quota vectors"
  let tokenBudget ← u64
  let maxConcurrentRequests ← u32
  let maxSequences ← u32
  let computeTimeAllowance ← i64
  finish
  pure
    { present, generation, sourceAuthority, timestamp, stale, limits, used, reserved, tokenBudget,
      maxConcurrentRequests, maxSequences, computeTimeAllowance }

def QuotaSnapshot.fits (q : QuotaSnapshot) : Bool := q.sourceAuthority.fits

def QuotaSnapshot.counted (q : QuotaSnapshot) : Bool := q.sourceAuthority.counted

instance : Exact decodeQuota := by
  unfold decodeQuota
  repeat refine Exact.step fun _ => ?_
  exact Exact.pure _

theorem settles_quota {q : QuotaSnapshot} (h : q.counted = true) :
    Settles decodeQuota (encodeQuota q) q (q.fits = true) := by
  rw [← and_true (q.fits = true)]
  unfold decodeQuota encodeQuota
  apply Settles.step (decodes_flag _)
  apply Settles.step (decodes_u64 _)
  apply (settles_string_of_counted h).checked
  apply Settles.step (decodes_i64 _)
  apply Settles.ensureOk
  apply Settles.step (decodes_flag _)
  apply Settles.step (decodes_resourceVector _)
  apply Settles.ensureOk
  apply Settles.step (decodes_resourceVector _)
  apply Settles.ensureOk
  apply Settles.step (decodes_resourceVector _)
  apply Settles.ensureOk
  apply Settles.step (decodes_u64 _)
  apply Settles.step (decodes_u32 _)
  apply Settles.step (decodes_u32 _)
  apply Settles.step (decodes_i64 _)
  apply Settles.ensureOk
  exact (Decodes.pure q).settles

theorem decodes_quota {q : QuotaSnapshot} (h : q.fits = true) :
    Decodes decodeQuota (encodeQuota q) q :=
  (settles_quota (ByteString.counted_of_fits h)).decodes h

/-! ## Observations -/

open ByteWriter in
/-- `encode_observation`. -/
def encodeObservation (o : Observation) : ByteString :=
  [ident o.id, ident o.admissionRequestId, ident o.tenantId, ident o.modelId,
    ident o.modelRevision, string o.backend, string o.dtype, string o.quantization,
    enum o.workloadType, u64 o.peakVram, u64 o.hostMemory, u64 o.pinnedMemory, u64 o.kvGrowth,
    u64 o.transferBytes, i64 o.executionDuration, u64 o.inputTokens, u64 o.outputTokens,
    i64 o.completedAt, enum o.kind].flatten

open Support.ByteReader ByteReader in
/-- `decode_observation`. -/
def decodeObservation : Decoder Status Observation := do
  let id ← ident
  let admissionRequestId ← ident
  let tenantId ← ident
  let modelId ← ident
  let modelRevision ← ident
  let backend ← string
  orCorrupt "obs strings"
  let dtype ← string
  orCorrupt "obs strings"
  let quantization ← string
  orCorrupt "obs strings"
  let workloadType ← enum
  let peakVram ← u64
  let hostMemory ← u64
  let pinnedMemory ← u64
  let kvGrowth ← u64
  let transferBytes ← u64
  let executionDuration ← i64
  let inputTokens ← u64
  let outputTokens ← u64
  let completedAt ← i64
  orCorrupt "obs ts"
  let kind ← enum
  finish
  pure
    { id, admissionRequestId, tenantId, modelId, modelRevision, backend, dtype, quantization,
      workloadType, peakVram, hostMemory, pinnedMemory, kvGrowth, transferBytes,
      executionDuration, inputTokens, outputTokens, completedAt, kind }

def Observation.fits (o : Observation) : Bool := o.backend.fits ∧ o.dtype.fits ∧ o.quantization.fits

instance : Exact decodeObservation := by
  unfold decodeObservation
  repeat refine Exact.step fun _ => ?_
  exact Exact.pure _

theorem decodes_observation {o : Observation} (h : o.fits = true) :
    Decodes decodeObservation (encodeObservation o) o := by
  obtain ⟨hbackend, hdtype, hquant⟩ := of_decide_eq_true h
  unfold decodeObservation encodeObservation
  apply (decodes_ident _).cons
  apply (decodes_ident _).cons
  apply (decodes_ident _).cons
  apply (decodes_ident _).cons
  apply (decodes_ident _).cons
  apply (decodes_string_of_fits hbackend).cons
  apply Decodes.ensureOk
  apply (decodes_string_of_fits hdtype).cons
  apply Decodes.ensureOk
  apply (decodes_string_of_fits hquant).cons
  apply Decodes.ensureOk
  apply (decodes_enum _).cons
  apply (decodes_u64 _).cons
  apply (decodes_u64 _).cons
  apply (decodes_u64 _).cons
  apply (decodes_u64 _).cons
  apply (decodes_u64 _).cons
  apply (decodes_i64 _).cons
  apply (decodes_u64 _).cons
  apply (decodes_u64 _).cons
  apply (decodes_i64 _).cons
  apply Decodes.ensureOk
  apply (decodes_enum _).cons
  apply Decodes.ensureOk
  exact Decodes.pure o

/-! ## Decisions -/

open ByteWriter in
/-- `encode_decision`: the fields for authority, explanation and recovery. -/
def encodeDecision (d : AdmissionDecision F) : ByteString :=
  [ident d.admissionRequestId, ident d.requestId, ident d.attemptId, ident d.tenantId,
    ident d.modelId, ident d.modelRevision, enum d.outcome, u32 d.reason.toRaw,
    ident d.policyGeneration, ident d.snapshotGeneration, ident d.admissionGeneration,
    ident d.epoch, f64 d.confidence, i64 d.decisionTime, opt ident d.reservationId,
    resourceVector d.predictedRequirement, string d.explanation].flatten

open Support.ByteReader ByteReader in
/-- `decode_decision`. -/
def decodeDecision : Decoder Status (AdmissionDecision F) := do
  let admissionRequestId ← ident
  let requestId ← ident
  let attemptId ← ident
  let tenantId ← ident
  let modelId ← ident
  let modelRevision ← ident
  let outcome ← enum
  let reason ← ReasonCode.ofRaw <$> u32
  let policyGeneration ← ident
  let snapshotGeneration ← ident
  let admissionGeneration ← ident
  let epoch ← ident
  let confidence ← f64
  let decisionTime ← i64
  orCorrupt "decision ts"
  let reservationId ← opt ident
  let predictedRequirement ← resourceVector
  orCorrupt "decision req"
  let explanation ← string
  orCorrupt "decision expl"
  finish
  pure
    { admissionRequestId, requestId, attemptId, tenantId, modelId, modelRevision, outcome, reason,
      policyGeneration, snapshotGeneration, admissionGeneration, epoch, confidence, decisionTime,
      reservationId, predictedRequirement, explanation }

namespace AdmissionDecision

/-- What the encoding of a decision keeps of it. -/
def recorded (d : AdmissionDecision F) : AdmissionDecision F :=
  { d with
    memoryPrediction := {}
    durationPrediction := {}
    slo := {}
    quota := {}
    deferHint := none }

def fits (d : AdmissionDecision F) : Bool := d.explanation.fits

end AdmissionDecision

def AdmissionDecision.counted (d : AdmissionDecision F) : Bool := d.explanation.counted

instance : Exact (decodeDecision (F := F)) := by
  unfold decodeDecision
  repeat refine Exact.step fun _ => ?_
  exact Exact.pure _

theorem settles_decision {d : AdmissionDecision F} (h : d.counted = true) :
    Settles decodeDecision (encodeDecision d) d.recorded (d.fits = true) := by
  have hreason := (decodes_u32 (E := Status) d.reason.toRaw).map ReasonCode.ofRaw
  rw [ReasonCode.ofRaw_toRaw] at hreason
  rw [← and_true (d.fits = true)]
  unfold decodeDecision encodeDecision
  apply Settles.step (decodes_ident _)
  apply Settles.step (decodes_ident _)
  apply Settles.step (decodes_ident _)
  apply Settles.step (decodes_ident _)
  apply Settles.step (decodes_ident _)
  apply Settles.step (decodes_ident _)
  apply Settles.step (decodes_enum _)
  apply Settles.step hreason
  apply Settles.step (decodes_ident _)
  apply Settles.step (decodes_ident _)
  apply Settles.step (decodes_ident _)
  apply Settles.step (decodes_ident _)
  apply Settles.step (decodes_f64 _)
  apply Settles.step (decodes_i64 _)
  apply Settles.ensureOk
  apply Settles.step (decodes_opt fun rid _ => decodes_ident rid)
  apply Settles.step (decodes_resourceVector _)
  apply Settles.ensureOk
  apply (settles_string_of_counted h).checked
  apply Settles.ensureOk
  exact (Decodes.pure d.recorded).settles

theorem decodes_decision {d : AdmissionDecision F} (h : d.fits = true) :
    Decodes decodeDecision (encodeDecision d) d.recorded :=
  (settles_decision (ByteString.counted_of_fits h)).decodes h

/-! ## Prediction profiles -/

open ByteWriter in
/-- `encode_prediction_profile`. -/
def encodePredictionProfile (p : PredictionProfile F) : ByteString :=
  [ident p.modelId, ident p.revision, string p.backend, string p.dtype, string p.quantization,
    u64 p.generation, u64 p.fixedBaseMemory, u64 p.perTokenKvBytes, u64 p.perTokenTensorBytes,
    u64 p.perRequestOverhead, u64 p.workspaceBytes, u64 p.stagingBytes, u64 p.pinnedStagingBytes,
    f64 p.safetyMarginRatio, f64 p.fragmentationRatio, f64 p.prefillTokensPerSec,
    f64 p.decodeTokensPerSec, u64 p.transferBytesPerSequence, f64 p.transferBytesPerSec,
    u64 p.hostMemoryBytes, u64 p.pinnedHostMemoryBytes, u32 p.executionSlotsRequired,
    u32 p.sequenceSlotsRequired].flatten

open Support.ByteReader ByteReader in
/-- `decode_prediction_profile`. -/
def decodePredictionProfile : Decoder Status (PredictionProfile F) := do
  let modelId ← ident
  let revision ← ident
  let backend ← string
  orCorrupt "profile strings"
  let dtype ← string
  orCorrupt "profile strings"
  let quantization ← string
  orCorrupt "profile strings"
  let generation ← u64
  let fixedBaseMemory ← u64
  let perTokenKvBytes ← u64
  let perTokenTensorBytes ← u64
  let perRequestOverhead ← u64
  let workspaceBytes ← u64
  let stagingBytes ← u64
  let pinnedStagingBytes ← u64
  let safetyMarginRatio ← f64
  let fragmentationRatio ← f64
  let prefillTokensPerSec ← f64
  let decodeTokensPerSec ← f64
  let transferBytesPerSequence ← u64
  let transferBytesPerSec ← f64
  let hostMemoryBytes ← u64
  let pinnedHostMemoryBytes ← u64
  let executionSlotsRequired ← u32
  let sequenceSlotsRequired ← u32
  finish
  pure
    { modelId, revision, backend, dtype, quantization, generation, fixedBaseMemory,
      perTokenKvBytes, perTokenTensorBytes, perRequestOverhead, workspaceBytes, stagingBytes,
      pinnedStagingBytes, safetyMarginRatio, fragmentationRatio, prefillTokensPerSec,
      decodeTokensPerSec, transferBytesPerSequence, transferBytesPerSec, hostMemoryBytes,
      pinnedHostMemoryBytes, executionSlotsRequired, sequenceSlotsRequired }

def PredictionProfile.fits (p : PredictionProfile F) : Bool :=
  p.backend.fits ∧ p.dtype.fits ∧ p.quantization.fits

def PredictionProfile.counted (p : PredictionProfile F) : Bool :=
  p.backend.counted ∧ p.dtype.counted ∧ p.quantization.counted

instance : Exact (decodePredictionProfile (F := F)) := by
  unfold decodePredictionProfile
  repeat refine Exact.step fun _ => ?_
  exact Exact.pure _

theorem settles_predictionProfile {p : PredictionProfile F} (h : p.counted = true) :
    Settles decodePredictionProfile (encodePredictionProfile p) p (p.fits = true) := by
  obtain ⟨hbackend, hdtype, hquant⟩ := of_decide_eq_true h
  have hfits : p.fits = true ↔ p.backend.fits = true ∧ p.dtype.fits = true ∧
      p.quantization.fits = true ∧ True := by
    simp [PredictionProfile.fits]
  rw [hfits]
  unfold decodePredictionProfile encodePredictionProfile
  apply Settles.step (decodes_ident _)
  apply Settles.step (decodes_ident _)
  apply (settles_string_of_counted hbackend).checked
  apply (settles_string_of_counted hdtype).checked
  apply (settles_string_of_counted hquant).checked
  apply Settles.step (decodes_u64 _)
  apply Settles.step (decodes_u64 _)
  apply Settles.step (decodes_u64 _)
  apply Settles.step (decodes_u64 _)
  apply Settles.step (decodes_u64 _)
  apply Settles.step (decodes_u64 _)
  apply Settles.step (decodes_u64 _)
  apply Settles.step (decodes_u64 _)
  apply Settles.step (decodes_f64 _)
  apply Settles.step (decodes_f64 _)
  apply Settles.step (decodes_f64 _)
  apply Settles.step (decodes_f64 _)
  apply Settles.step (decodes_u64 _)
  apply Settles.step (decodes_f64 _)
  apply Settles.step (decodes_u64 _)
  apply Settles.step (decodes_u64 _)
  apply Settles.step (decodes_u32 _)
  apply Settles.step (decodes_u32 _)
  apply Settles.ensureOk
  exact (Decodes.pure p).settles

theorem PredictionProfile.counted_of_fits {p : PredictionProfile F} (h : p.fits = true) :
    p.counted = true := by
  obtain ⟨hbackend, hdtype, hquant⟩ := of_decide_eq_true h
  exact decide_eq_true ⟨ByteString.counted_of_fits hbackend, ByteString.counted_of_fits hdtype,
    ByteString.counted_of_fits hquant⟩

theorem decodes_predictionProfile {p : PredictionProfile F} (h : p.fits = true) :
    Decodes decodePredictionProfile (encodePredictionProfile p) p :=
  (settles_predictionProfile (PredictionProfile.counted_of_fits h)).decodes h

end Fabric

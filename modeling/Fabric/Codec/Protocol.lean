import Fabric.Codec.Domain

/-!
# Wire messages

`protocol.cpp`: the bodies of the messages between coordinator, agents and clients. Most of them
are domain structures under another name; the others are written out here.

`codecs_roundTrip`: every codec reads back what it wrote, whatever follows, and refuses every
strict prefix of it.
-/

namespace Fabric

open Support Support.ByteReader

variable {F : Type} [DoubleBits F] {E α : Type}

namespace ByteReader

/-- The caller gives up with a message of its own if a read has failed. -/
def orMalformed (message : String) : Decoder Status Unit :=
  ensureOk fun _ => .failure .malformedFrame message

/-- The last look of a message decoder at its reader. -/
def finishFrame : Decoder Status Unit := ensureOk fun e => .failure .malformedFrame e

instance (message : String) : Exact (orMalformed message) := Exact.ensureOk _

instance : Exact finishFrame := Exact.ensureOk _

end ByteReader

/-! ## Registration -/

/-- What an agent sends to register. -/
structure RegisterMessage where
  agent : AgentId
  boot : AgentBootId
  caps : Capabilities
  inventory : ResourceVector
  deviceName : ByteString
  deviceIndex : UInt32

open ByteWriter in
/-- `encode_register`. -/
def encodeRegister (m : RegisterMessage) : ByteString :=
  [ident m.agent, ident m.boot, capabilities m.caps, resourceVector m.inventory,
    string m.deviceName, u32 m.deviceIndex].flatten

open Support.ByteReader ByteReader in
/-- `decode_register`. -/
def decodeRegister : Decoder Status RegisterMessage := do
  let agent ← ident
  orMalformed "register id"
  let boot ← ident
  orMalformed "register id"
  let caps ← capabilities
  orMalformed "register caps"
  let inventory ← resourceVector
  orMalformed "register inventory"
  let deviceName ← string
  orMalformed "register device"
  let deviceIndex ← u32
  finishFrame
  pure { agent, boot, caps, inventory, deviceName, deviceIndex }

def RegisterMessage.fits (m : RegisterMessage) : Bool := m.caps.fits ∧ m.deviceName.fits

instance : Exact decodeRegister := by
  unfold decodeRegister
  repeat refine Exact.step fun _ => ?_
  exact Exact.pure _

theorem decodes_register {m : RegisterMessage} (h : m.fits = true) :
    Decodes decodeRegister (encodeRegister m) m := by
  obtain ⟨hcaps, hdevice⟩ := of_decide_eq_true h
  apply (decodes_ident _).cons
  apply Decodes.ensureOk
  apply (decodes_ident _).cons
  apply Decodes.ensureOk
  apply (decodes_capabilities hcaps).cons
  apply Decodes.ensureOk
  apply (decodes_resourceVector _).cons
  apply Decodes.ensureOk
  apply (decodes_string_of_fits hdevice).cons
  apply Decodes.ensureOk
  apply (decodes_u32 _).cons
  apply Decodes.ensureOk
  exact Decodes.pure m

/-! ## Evaluation, commit, release -/

/-- `encode_capacity_update`, behind the epoch that the agent sends before it. -/
def encodeCapacityUpdate (epochVal : UInt64) (snap : ResourceSnapshot) : ByteString :=
  ByteWriter.u64 epochVal ++ encodeSnapshot snap

/-- The epoch and `decode_capacity_update`. -/
def decodeCapacityUpdate : Decoder Status (UInt64 × ResourceSnapshot) := do
  let epochVal ← ByteReader.u64
  let snap ← decodeSnapshot
  pure (epochVal, snap)

open ByteWriter in
/-- `encode_evaluate_response`. -/
def encodeEvaluateResponse (dec : AdmissionDecision F) (errorCode : Int32) : ByteString :=
  encodeDecision dec ++ i32 errorCode

open ByteReader in
/-- `decode_evaluate_response`. -/
def decodeEvaluateResponse : Decoder Status (AdmissionDecision F × Int32) := do
  let dec ← decodeDecision
  let errorCode ← i32
  finishFrame
  pure (dec, errorCode)

open ByteWriter in
/-- `encode_commit_request`. -/
def encodeCommitRequest (id : AdmissionRequestId) (gen : AdmissionGeneration) : ByteString :=
  ident id ++ ident gen

open ByteReader in
/-- `decode_commit_request`. -/
def decodeCommitRequest : Decoder Status (AdmissionRequestId × AdmissionGeneration) := do
  let id ← ident
  orMalformed "commit id"
  let gen ← ident
  orMalformed "commit id"
  finishFrame
  pure (id, gen)

/-- `encode_release_request`. -/
def encodeReleaseRequest (id : ReservationId) : ByteString := ByteWriter.ident id

open ByteReader in
/-- `decode_release_request`. -/
def decodeReleaseRequest : Decoder Status ReservationId := do
  let id ← ident
  orMalformed "release id"
  finishFrame
  pure id

open ByteWriter in
/-- `encode_error_response`. -/
def encodeErrorResponse (code : ErrorCode) (msg : ByteString) : ByteString :=
  u32 code.toRaw ++ string msg

open ByteReader in
/-- `decode_error_response`. -/
def decodeErrorResponse : Decoder Status (ErrorCode × ByteString) := do
  let code ← ErrorCode.ofRaw <$> u32
  let msg ← string
  orMalformed "error msg"
  finishFrame
  pure (code, msg)

section Exactness

instance : Exact decodeCapacityUpdate := by
  unfold decodeCapacityUpdate
  infer_instance

instance : Exact (decodeEvaluateResponse (F := F)) := by
  unfold decodeEvaluateResponse
  infer_instance

instance : Exact decodeCommitRequest := by
  unfold decodeCommitRequest
  infer_instance

instance : Exact decodeReleaseRequest := by
  unfold decodeReleaseRequest
  infer_instance

instance : Exact decodeErrorResponse := by
  unfold decodeErrorResponse
  infer_instance

end Exactness

theorem decodes_capacityUpdate (epochVal : UInt64) {snap : ResourceSnapshot}
    (h : snap.fits = true) :
    Decodes decodeCapacityUpdate (encodeCapacityUpdate epochVal snap) (epochVal, snap) := by
  apply (decodes_u64 _).bind
  exact (decodes_snapshot h).last (Decodes.pure _)

theorem decodes_evaluateResponse {dec : AdmissionDecision F} (h : dec.fits = true)
    (errorCode : Int32) :
    Decodes decodeEvaluateResponse (encodeEvaluateResponse dec errorCode)
      (dec.recorded, errorCode) := by
  apply (decodes_decision h).bind
  exact (decodes_i32 _).last (.ensureOk (Decodes.pure _))

theorem decodes_commitRequest (id : AdmissionRequestId) (gen : AdmissionGeneration) :
    Decodes decodeCommitRequest (encodeCommitRequest id gen) (id, gen) := by
  apply (decodes_ident _).bind
  apply Decodes.ensureOk
  exact (decodes_ident _).last (.ensureOk (.ensureOk (Decodes.pure _)))

theorem decodes_releaseRequest (id : ReservationId) :
    Decodes decodeReleaseRequest (encodeReleaseRequest id) id :=
  (decodes_ident id).last (.ensureOk (.ensureOk (Decodes.pure _)))

theorem decodes_errorResponse (code : ErrorCode) {msg : ByteString} (h : msg.fits = true) :
    Decodes decodeErrorResponse (encodeErrorResponse code msg) (code, msg) := by
  have hcode := (decodes_u32 (E := Status) code.toRaw).map ErrorCode.ofRaw
  rw [ErrorCode.ofRaw_toRaw] at hcode
  apply hcode.bind
  exact (decodes_string_of_fits h).last (.ensureOk (.ensureOk (Decodes.pure _)))

/-! ## All codecs -/

open ByteReader in
/-- Every codec, on the values within the limits of the reader. -/
structure CodecsRoundTrip (F : Type) [DoubleBits F] : Prop where
  resourceVector (v : ResourceVector) :
    RoundTrip (E := Status) resourceVector (ByteWriter.resourceVector v) v
  capabilities (c : Capabilities) (h : c.fits = true) :
    RoundTrip (E := Status) capabilities (ByteWriter.capabilities c) c
  timePoint (t : TimePoint) : RoundTrip (E := Status) i64 (ByteWriter.i64 t) t
  descriptor (d : AdmissionDescriptor F) (h : d.fits = true) :
    RoundTrip decodeDescriptor (encodeDescriptor d) d
  snapshot (s : ResourceSnapshot) (h : s.fits = true) :
    RoundTrip decodeSnapshot (encodeSnapshot s) s
  reservation (r : ResourceReservation) : RoundTrip decodeReservation (encodeReservation r) r
  policy (p : AdmissionPolicy F) (h : p.fits = true) : RoundTrip decodePolicy (encodePolicy p) p
  quota (q : QuotaSnapshot) (h : q.fits = true) : RoundTrip decodeQuota (encodeQuota q) q
  observation (o : Observation) (h : o.fits = true) :
    RoundTrip decodeObservation (encodeObservation o) o
  decision (d : AdmissionDecision F) (h : d.fits = true) :
    RoundTrip decodeDecision (encodeDecision d) d.recorded
  predictionProfile (p : PredictionProfile F) (h : p.fits = true) :
    RoundTrip decodePredictionProfile (encodePredictionProfile p) p
  register (m : RegisterMessage) (h : m.fits = true) :
    RoundTrip decodeRegister (encodeRegister m) m
  evaluateResponse (d : AdmissionDecision F) (errorCode : Int32) (h : d.fits = true) :
    RoundTrip decodeEvaluateResponse (encodeEvaluateResponse d errorCode) (d.recorded, errorCode)
  commitRequest (id : AdmissionRequestId) (gen : AdmissionGeneration) :
    RoundTrip decodeCommitRequest (encodeCommitRequest id gen) (id, gen)
  releaseRequest (id : ReservationId) :
    RoundTrip decodeReleaseRequest (encodeReleaseRequest id) id
  errorResponse (code : ErrorCode) (msg : ByteString) (h : msg.fits = true) :
    RoundTrip decodeErrorResponse (encodeErrorResponse code msg) (code, msg)

/-- Every codec reads back what it wrote and refuses what is cut short. -/
theorem codecs_roundTrip (F : Type) [DoubleBits F] : CodecsRoundTrip F where
  resourceVector v := (decodes_resourceVector v).roundTrip
  capabilities _ h := (decodes_capabilities h).roundTrip
  timePoint t := (decodes_i64 t).roundTrip
  descriptor _ h := (decodes_descriptor h).roundTrip
  snapshot _ h := (decodes_snapshot h).roundTrip
  reservation r := (decodes_reservation r).roundTrip
  policy _ h := (decodes_policy h).roundTrip
  quota _ h := (decodes_quota h).roundTrip
  observation _ h := (decodes_observation h).roundTrip
  decision _ h := (decodes_decision h).roundTrip
  predictionProfile _ h := (decodes_predictionProfile h).roundTrip
  register _ h := (decodes_register h).roundTrip
  evaluateResponse _ errorCode h := (decodes_evaluateResponse h errorCode).roundTrip
  commitRequest id gen := (decodes_commitRequest id gen).roundTrip
  releaseRequest id := (decodes_releaseRequest id).roundTrip
  errorResponse code _ h := (decodes_errorResponse code h).roundTrip

end Fabric

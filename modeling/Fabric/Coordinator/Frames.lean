import Fabric.Codec.Protocol
import Fabric.Coordinator.Model

/-!
# The coordinator over frames

The handlers of `coordinator.cpp` on the frames that `recv_frame` returns: the first frame of a
connection decides whether it belongs to an agent (`dispatch`), and each further one is a turn of
the loop in `handle_agent` or in `handle_client_frame`. A frame is its type, its correlation and
the bytes of its payload; a turn reads the payload and answers with at most one frame.

A connection is named by a number that is not used twice. It is fresh until its first frame, then
it is an agent's or a client's, and it is closed when its handler returns.
-/

namespace Fabric

open Support

/-! ## Frames -/

/-- `WireType`. -/
inductive WireType
  | registerAgent
  | agentRegistered
  | capacityUpdate
  | capacityAccepted
  | evaluateRequest
  | evaluateResponse
  | commitRequest
  | commitResponse
  | releaseRequest
  | releaseResponse
  | snapshotRequest
  | snapshotResponse
  | policyInstall
  | policyAck
  | observationSubmit
  | observationAck
  | agentLost
  | heartbeat
  | shutdown
  | errorResponse
  deriving DecidableEq

namespace WireType

def all : List WireType :=
  [registerAgent, agentRegistered, capacityUpdate, capacityAccepted, evaluateRequest,
    evaluateResponse, commitRequest, commitResponse, releaseRequest, releaseResponse,
    snapshotRequest, snapshotResponse, policyInstall, policyAck, observationSubmit,
    observationAck, agentLost, heartbeat, shutdown, errorResponse]

/-- The number of a message type on the wire. -/
def toRaw (t : WireType) : UInt16 := UInt16.ofNat (all.idxOf t + 1)

/-- `static_cast<WireType>`: a number of no message type takes the default branches. -/
def ofRaw? (raw : UInt16) : Option WireType := all.find? fun t => t.toRaw = raw

@[simp] theorem ofRaw?_toRaw (t : WireType) : ofRaw? t.toRaw = some t := by
  cases t <;> decide

theorem toRaw_injective : Function.Injective toRaw := by
  intro t u h
  have hsome : some t = some u := by rw [← ofRaw?_toRaw t, h, ofRaw?_toRaw]
  exact Option.some.inj hsome

theorem ofRaw?_eq_some_iff {raw : UInt16} {t : WireType} : ofRaw? raw = some t ↔ raw = t.toRaw := by
  constructor
  · intro h
    have hraw := List.find?_some h
    exact (of_decide_eq_true hraw).symm
  · rintro rfl
    exact ofRaw?_toRaw t

end WireType

/-- A frame: what `recv_frame` returns of it, or what `send_frame` is given. -/
structure Frame where
  type : UInt16
  correlation : UInt64
  payload : ByteString
  deriving DecidableEq

namespace Frame

variable {α : Type}

/-- What a decoder makes of the payload. Bytes behind what it reads are ignored. -/
def read (m : Decoder Status α) (f : Frame) : Option α :=
  match m ⟨f.payload, false, ""⟩ with
  | .ok a _ => some a
  | .error _ _ => none

/-- The frame that goes back. -/
def answer (f : Frame) (t : WireType) (payload : ByteString) : Frame :=
  ⟨t.toRaw, f.correlation, payload⟩

/-- An `ErrorResponse`. -/
def refuse (f : Frame) (s : Status) : Frame :=
  f.answer .errorResponse (encodeErrorResponse s.code s.message)

end Frame

/-! ## Handlers -/

variable {F : Type} [DoubleBits F]

namespace Coordinator

/-- One turn of the loop in `handle_agent`, on the context of its connection. -/
def handleAgentFrame (c : Coordinator F) (conn : ConnId) (ctx : AgentConn) (f : Frame) :
    Frame × Coordinator F :=
  match WireType.ofRaw? f.type with
  | some .heartbeat => (f.answer .heartbeat (ByteWriter.u64 c.epoch.value), c)
  | some .capacityUpdate =>
    match f.read decodeCapacityUpdate with
    | none => (f.refuse (.failure .malformedFrame "bad capacity update"), c)
    | some (epochVal, snap) =>
      if epochVal ≠ c.epoch.value then (f.refuse (.failure .staleEpoch "stale coordinator epoch"), c)
      else if snap.bootId ≠ ctx.boot ∨ snap.agentId ≠ ctx.id then
        (f.refuse (.failure .staleBootIdentity "stale agent boot identity"), c)
      else if ctx.capacityGeneration ≠ 0 ∧ snap.generation.value ≤ ctx.capacityGeneration then
        (f.refuse (.failure .staleSnapshotGeneration "stale resource snapshot generation"), c)
      else
        (f.answer .capacityAccepted (ByteWriter.u64 snap.generation.value),
          { c with
            contexts := c.contexts.insert conn
              { ctx with snapshot := snap, capacityGeneration := snap.generation.value } })
  | _ => (f.refuse (.failure .unknownMessage (wireTypeName f.type)), c)

/-- The engine with the snapshot of the chosen agent, or with the one that stands in. -/
def placed (c : Coordinator F) (now : TimePoint) (d : AdmissionDescriptor F) : AdmissionFabric F :=
  match c.chosen d with
  | none => c.engine.setSnapshot (c.emptySnapshot now)
  | some a => c.engine.setSnapshot a.snapshot

/-- One turn of the loop in `handle_client_frame`: the answer and whether the loop goes on. -/
def handleClientTurn (c : Coordinator F) (now : TimePoint) (f : Frame) :
    Frame × Bool × Coordinator F :=
  match WireType.ofRaw? f.type with
  | some .evaluateRequest =>
    match f.read decodeDescriptor with
    | none => (f.refuse (.failure .malformedFrame "bad evaluate request"), true, c)
    | some d =>
      let rr := (c.placed now d).evaluate now d
      (f.answer .evaluateResponse (encodeEvaluateResponse rr.1 0), true, { c with engine := rr.2 })
  | some .commitRequest =>
    match f.read decodeCommitRequest with
    | none => (f.refuse (.failure .malformedFrame "bad commit request"), true, c)
    | some (id, gen) =>
      let cs := c.engine.commitAdmission now id gen
      (f.answer .commitResponse (ByteWriter.i32 cs.1.code.toRaw.toInt32), true,
        { c with engine := cs.2 })
  | some .releaseRequest =>
    match f.read decodeReleaseRequest with
    | none => (f.refuse (.failure .malformedFrame "bad release request"), true, c)
    | some id =>
      let rs := c.engine.releaseReservation now id
      (f.answer .releaseResponse (ByteWriter.i32 rs.1.code.toRaw.toInt32), true,
        { c with engine := rs.2 })
  | some .observationSubmit =>
    match f.read decodeObservation with
    | none => (f.refuse (.failure .malformedFrame "bad observation"), true, c)
    | some o =>
      (f.answer .observationAck (ByteWriter.i32 0), true, { c with engine := c.engine.observe o })
  | some .shutdown => (f.answer .shutdown (ByteWriter.i32 0), false, c)
  | _ => (f.refuse (.failure .unknownMessage (wireTypeName f.type)), true, c)

end Coordinator

/-! ## Connections -/

/-- What a connection is to the coordinator. -/
inductive Peer
  | fresh
  | agent
  | client
  | closed
  deriving DecidableEq

/-- A coordinator and the connections it has accepted. -/
structure Server (F : Type) [Double F] where
  coordinator : Coordinator F := {}
  peers : OrdMap ConnId Peer := .empty

/-- What happens to a server: a connection comes in, `recv_frame` returns a frame or fails, or
the process around it works on the engine. -/
inductive ServerEvent (F : Type) [Double F]
  | accept (conn : ConnId)
  | frame (conn : ConnId) (now : TimePoint) (f : Frame)
  | lost (conn : ConnId)
  | host (now : TimePoint) (op : HostOp F)

/-- The connection that an event is about. -/
def ServerEvent.on : ServerEvent F → Option ConnId
  | accept conn | frame conn _ _ | lost conn => some conn
  | host _ _ => none

namespace Server

/-- The handler of a connection returns. -/
def close (s : Server F) (conn : ConnId) : Server F :=
  { s with peers := s.peers.insert conn .closed }

/-- The branch of `dispatch` for a registration. -/
def dispatchRegister (s : Server F) (conn : ConnId) (f : Frame) : Option Frame × Server F :=
  match f.read decodeRegister with
  | none => (none, s.close conn)
  | some m =>
    let ctx : AgentConn := { id := m.agent, boot := m.boot, registered := true, alive := true }
    if (s.coordinator.current m.agent).any fun a => a.alive && a.boot ≠ m.boot then
      (some (f.refuse (.failure .agentBootMismatch "stale or mismatched agent boot identity")), s.close conn)
    else
      (some (f.answer .agentRegistered (ByteWriter.u64 s.coordinator.epoch.value)),
        { coordinator := { s.coordinator with
            agents := s.coordinator.agents.insert m.agent conn
            contexts := s.coordinator.contexts.insert conn ctx
            handlers := s.coordinator.handlers.insert conn () }
          peers := s.peers.insert conn .agent })

/-- A turn on the connection of a client, which may be its last. -/
def clientTurn (s : Server F) (conn : ConnId) (now : TimePoint) (f : Frame) :
    Option Frame × Server F :=
  let turn := s.coordinator.handleClientTurn now f
  (some turn.1,
    { coordinator := turn.2.2
      peers := s.peers.insert conn (if turn.2.1 then .client else .closed) })

/-- The turn that a frame is handled in. -/
def handleFrame (s : Server F) (conn : ConnId) (now : TimePoint) (f : Frame) :
    Option Frame × Server F :=
  match s.peers.find? conn with
  | some .fresh =>
    if f.type = WireType.registerAgent.toRaw then s.dispatchRegister conn f
    else s.clientTurn conn now f
  | some .agent =>
    match s.coordinator.contexts.find? conn with
    | none => (none, s)
    | some ctx =>
      let turn := s.coordinator.handleAgentFrame conn ctx f
      (some turn.1, { s with coordinator := turn.2 })
  | some .client => s.clientTurn conn now f
  | _ => (none, s)

/-- `recv_frame` has failed: the handler returns, and the one of an agent reports its loss. -/
def handleLoss (s : Server F) (conn : ConnId) : Server F :=
  match s.peers.find? conn with
  | some .agent =>
    match s.coordinator.contexts.find? conn with
    | none => s
    | some ctx =>
      { coordinator := { s.coordinator.onAgentLoss ctx.id with
          handlers := s.coordinator.handlers.erase conn }
        peers := s.peers.insert conn .closed }
  | some .fresh | some .client => s.close conn
  | _ => s

/-- One event. -/
def step (s : Server F) : ServerEvent F → Option Frame × Server F
  | .accept conn =>
    if s.peers.contains conn then (none, s)
    else (none, { s with peers := s.peers.insert conn .fresh })
  | .frame conn now f => s.handleFrame conn now f
  | .lost conn => (none, s.handleLoss conn)
  | .host now op =>
    (none, { s with
      coordinator := { s.coordinator with engine := (s.coordinator.engine.call ⟨now, op.toEngine⟩).2 } })

end Server

/-- The server as a machine that starts with no connection. -/
def server (F : Type) [DoubleBits F] : Machine (Server F) (ServerEvent F) (Option Frame) :=
  ⟨{}, Server.step⟩

end Fabric

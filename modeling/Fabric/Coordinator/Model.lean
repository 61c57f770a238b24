import Fabric.Engine.Run

/-!
# The coordinator

`coordinator.hpp` and `coordinator.cpp`. Agents register over a connection of their own and
report capacity on it; clients send requests that are evaluated against the agent with the most
free accelerator memory. The context of an agent's connection is shared between the handler of
that connection and the map of agents: `agents` holds, for an agent, the connection whose context
is current, and `contexts` the contexts themselves, superseded ones included.

An event is one message handled to its end, or the loss of a connection. A client request reads
the clock once.
-/

namespace Fabric

open Support

/-! ## Messages -/

/-- A connection, by a name that is not used twice. -/
abbrev ConnId := Nat

/-- `wire_type_name`. -/
def wireTypeName (type : UInt16) : String :=
  if type = 0 then "Unknown"
  else (["RegisterAgent", "AgentRegistered", "CapacityUpdate", "CapacityAccepted",
    "EvaluateRequest", "EvaluateResponse", "CommitRequest", "CommitResponse", "ReleaseRequest",
    "ReleaseResponse", "SnapshotRequest", "SnapshotResponse", "PolicyInstall", "PolicyAck",
    "ObservationSubmit", "ObservationAck", "AgentLost", "Heartbeat", "Shutdown",
    "ErrorResponse"][type.toNat - 1]?).getD "Unknown"

/-- What arrives on the connection of a registered agent. -/
inductive AgentMessage
  | heartbeat
  | capacityUpdate (epochVal : UInt64) (snap : ResourceSnapshot)
  | badCapacityUpdate
  | unknown (type : UInt16)

/-- What arrives on the connection of a client. -/
inductive ClientMessage (F : Type)
  | evaluate (d : AdmissionDescriptor F)
  | badEvaluate
  | commit (id : AdmissionRequestId) (gen : AdmissionGeneration)
  | badCommit
  | release (id : ReservationId)
  | badRelease
  | observe (o : Observation)
  | badObserve
  | shutdown
  | unknown (type : UInt16)

/-- What the process around the coordinator does on its engine. -/
inductive HostOp (F : Type) [Double F]
  | installPolicy (p : AdmissionPolicy F)
  | registerProfile (prof : PredictionProfile F)
  | setQuota (q : QuotaSnapshot)
  | setTenantWeight (t : TenantId) (weight : F)
  | cancel (id : AdmissionRequestId)

def HostOp.toEngine {F : Type} [Double F] : HostOp F → EngineOp F
  | installPolicy p => .installPolicy p
  | registerProfile prof => .registerProfile prof
  | setQuota q => .setQuota q
  | setTenantWeight t weight => .setTenantWeight t weight
  | cancel id => .cancel id

/-- What happens to a coordinator. The capabilities and the inventory of a registration are
decoded and dropped. -/
inductive CoordinatorEvent (F : Type) [Double F]
  | register (conn : ConnId) (id : AgentId) (boot : AgentBootId)
  | agent (conn : ConnId) (msg : AgentMessage)
  | lost (conn : ConnId)
  | client (now : TimePoint) (msg : ClientMessage F)
  | host (now : TimePoint) (op : HostOp F)

/-- What the coordinator answers. -/
inductive CoordinatorReply (F : Type) [Double F]
  | agentRegistered (epoch : CoordinatorEpoch)
  | heartbeat (epoch : CoordinatorEpoch)
  | capacityAccepted (gen : ResourceSnapshotGeneration)
  | error (s : Status)
  | decision (dec : AdmissionDecision F)
  | code (c : ErrorCode)
  | observationAck
  | shutdown
  | host (r : EngineReply F)
  | silent

/-! ## The coordinator -/

/-- `AgentConn`, without the socket. -/
structure AgentConn where
  id : AgentId
  boot : AgentBootId
  snapshot : ResourceSnapshot := {}
  registered : Bool := false
  alive : Bool := false
  capacityGeneration : UInt64 := 0

/-- `Coordinator`. `handlers` are the agent connections that are being served. -/
structure Coordinator (F : Type) [Double F] where
  engine : AdmissionFabric F := {}
  epoch : CoordinatorEpoch := ⟨1⟩
  agents : OrdMap AgentId ConnId := .empty
  contexts : OrdMap ConnId AgentConn := .empty
  handlers : OrdMap ConnId Unit := .empty

variable {F : Type} [Double F]

namespace Coordinator

/-- The context that the map holds for an agent. -/
def current (c : Coordinator F) (id : AgentId) : Option AgentConn :=
  (c.agents.find? id).bind c.contexts.find?

/-- The registration part of `dispatch`. -/
def register (c : Coordinator F) (conn : ConnId) (id : AgentId) (boot : AgentBootId) :
    CoordinatorReply F × Coordinator F :=
  let ctx : AgentConn := { id, boot, registered := true, alive := true }
  if (c.current id).any fun a => a.alive && a.boot ≠ boot then
    (.error (.failure .agentBootMismatch "stale or mismatched agent boot identity"), c)
  else
    (.agentRegistered c.epoch,
      { c with
        agents := c.agents.insert id conn
        contexts := c.contexts.insert conn ctx
        handlers := c.handlers.insert conn () })

/-- `on_agent_loss`: fence the context that the map holds and roll the epoch. -/
def onAgentLoss (c : Coordinator F) (id : AgentId) : Coordinator F :=
  match c.agents.find? id with
  | none => c
  | some conn =>
    match c.contexts.find? conn with
    | none => c
    | some a =>
      if a.alive then
        { c with
          contexts := c.contexts.insert conn { a with alive := false }
          epoch := c.epoch.next }
      else c

/-- The refusals of a capacity update, in their order. -/
def capacityRefusal (c : Coordinator F) (ctx : AgentConn) (epochVal : UInt64)
    (snap : ResourceSnapshot) : Option Status :=
  if epochVal ≠ c.epoch.value then
    some (.failure .staleEpoch "stale coordinator epoch")
  else if snap.bootId ≠ ctx.boot ∨ snap.agentId ≠ ctx.id then
    some (.failure .staleBootIdentity "stale agent boot identity")
  else if ctx.capacityGeneration ≠ 0 ∧ snap.generation.value ≤ ctx.capacityGeneration then
    some (.failure .staleSnapshotGeneration "stale resource snapshot generation")
  else none

/-- One turn of the loop in `handle_agent`, on the context of its connection. -/
def handleAgent (c : Coordinator F) (conn : ConnId) (ctx : AgentConn) :
    AgentMessage → CoordinatorReply F × Coordinator F
  | .heartbeat => (.heartbeat c.epoch, c)
  | .capacityUpdate epochVal snap =>
    match c.capacityRefusal ctx epochVal snap with
    | some s => (.error s, c)
    | none =>
      (.capacityAccepted snap.generation,
        { c with
          contexts := c.contexts.insert conn
            { ctx with snapshot := snap, capacityGeneration := snap.generation.value } })
  | .badCapacityUpdate => (.error (.failure .malformedFrame "bad capacity update"), c)
  | .unknown type => (.error (.failure .unknownMessage (wireTypeName type)), c)

/-! ## Placement -/

/-- The capabilities that `choose_snapshot` asks for. -/
def required (d : AdmissionDescriptor F) : Capabilities :=
  let req : Capabilities := {}
  let req := if d.backend.isEmpty then req else req.add (Capabilities.backend d.backend)
  if d.dtype.isEmpty then req else req.add (Capabilities.dtype d.dtype)

/-- The free accelerator memory of an agent that may be chosen. -/
def free? (d : AdmissionDescriptor F) (a : AgentConn) : Option UInt64 :=
  if a.alive = false then none
  else if a.snapshot.capabilities.containsAll (required d) = false then none
  else some (a.snapshot.headroom.get .acceleratorMemory)

/-- One turn of the loop in `choose_snapshot`: a later agent wins with strictly more free
memory only. -/
def better (best : Option (ConnId × UInt64)) (conn : ConnId) (free : UInt64) :
    Option (ConnId × UInt64) :=
  match best with
  | none => some (conn, free)
  | some (bestConn, bestFree) =>
    if free > bestFree then some (conn, free) else some (bestConn, bestFree)

/-- `choose_snapshot`: the connection whose context holds the chosen snapshot. -/
def chooseSnapshot (c : Coordinator F) (d : AdmissionDescriptor F) : Option ConnId :=
  (c.agents.entries.foldl (fun best e =>
    match (c.contexts.find? e.2).bind (free? d) with
    | none => best
    | some free => better best e.2 free) none).map Prod.fst

/-- The context of the chosen connection. -/
def chosen (c : Coordinator F) (d : AdmissionDescriptor F) : Option AgentConn :=
  (c.chooseSnapshot d).bind c.contexts.find?

/-- The snapshot that stands in when no agent qualifies. -/
def emptySnapshot (c : Coordinator F) (now : TimePoint) : ResourceSnapshot :=
  { generation := ⟨c.epoch.value⟩
    timestamp := now
    provenance := fun _ => .unavailable }

/-- The snapshot that a request is evaluated against. -/
def snapshotFor (c : Coordinator F) (now : TimePoint) (d : AdmissionDescriptor F) :
    ResourceSnapshot :=
  ((c.chosen d).map AgentConn.snapshot).getD (c.emptySnapshot now)

/-! ## Clients -/

/-- One turn of the loop in `handle_client_frame`. -/
def handleClientFrame (c : Coordinator F) (now : TimePoint) :
    ClientMessage F → CoordinatorReply F × Coordinator F
  | .evaluate d =>
    let (dec, engine) := (c.engine.setSnapshot (c.snapshotFor now d)).evaluate now d
    (.decision dec, { c with engine })
  | .badEvaluate => (.error (.failure .malformedFrame "bad evaluate request"), c)
  | .commit id gen =>
    let (s, engine) := c.engine.commitAdmission now id gen
    (.code s.code, { c with engine })
  | .badCommit => (.error (.failure .malformedFrame "bad commit request"), c)
  | .release id =>
    let (s, engine) := c.engine.releaseReservation now id
    (.code s.code, { c with engine })
  | .badRelease => (.error (.failure .malformedFrame "bad release request"), c)
  | .observe o => (.observationAck, { c with engine := c.engine.observe o })
  | .badObserve => (.error (.failure .malformedFrame "bad observation"), c)
  | .shutdown => (.shutdown, c)
  | .unknown type => (.error (.failure .unknownMessage (wireTypeName type)), c)

/-! ## Events -/

/-- One event. A name that has a context is not a new connection, and only a connection that is
being served delivers messages or is lost. -/
def step (c : Coordinator F) : CoordinatorEvent F → CoordinatorReply F × Coordinator F
  | .register conn id boot =>
    if c.contexts.contains conn then (.silent, c) else c.register conn id boot
  | .agent conn msg =>
    match c.handlers.find? conn, c.contexts.find? conn with
    | some (), some ctx => c.handleAgent conn ctx msg
    | _, _ => (.silent, c)
  | .lost conn =>
    match c.handlers.find? conn, c.contexts.find? conn with
    | some (), some ctx =>
      (.silent, { c.onAgentLoss ctx.id with handlers := c.handlers.erase conn })
    | _, _ => (.silent, c)
  | .client now msg => c.handleClientFrame now msg
  | .host now op =>
    let (r, engine) := c.engine.call ⟨now, op.toEngine⟩
    (.host r, { c with engine })

end Coordinator

/-- The coordinator as a machine that starts fresh. -/
def coordinator (F : Type) [Double F] :
    Machine (Coordinator F) (CoordinatorEvent F) (CoordinatorReply F) :=
  ⟨{}, Coordinator.step⟩

/-! ## A small site -/

namespace Sample

/-- A capacity report of agent 1 under boot identity 100. -/
def report (gen bytes : UInt64) : ResourceSnapshot :=
  { snapshot bytes with generation := ⟨gen⟩, agentId := ⟨1⟩, bootId := ⟨100⟩ }

/-- A policy, and an agent with capacity for a few requests. -/
def served : List (CoordinatorEvent Binary64) :=
  [.host 0 (.installPolicy policy), .register 0 ⟨1⟩ ⟨100⟩,
    .agent 0 (.capacityUpdate 1 (report 1 2000000000))]

end Sample

end Fabric

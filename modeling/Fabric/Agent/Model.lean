import Fabric.Coordinator.Frames
import Fabric.Net.Transport

/-!
# Agents and their site

`agent.cpp`, and the site that agents, their connections and a coordinator make up. A call on an
agent sends one frame and waits for one; `run` waits for frames until its connection ends. A
connection of an agent carries frames in both directions, each in its order, and can be cut at
either end at any time.

The frames that a coordinator sends to an agent are small, so that they are always received. What
an agent sends can be too large: then the receive of the coordinator fails. Payloads of 4 GiB and
more, whose length the header of a frame cannot say, are not sent here.
-/

namespace Fabric

open Support

/-! ## Agents -/

/-- `Agent`, without the socket. -/
structure Agent where
  id : AgentId
  boot : AgentBootId
  caps : Capabilities
  inventory : ResourceVector
  deviceName : ByteString
  deviceIndex : UInt32
  epoch : CoordinatorEpoch := ⟨1⟩

open ByteReader in
/-- The parts of an `ErrorResponse`, whether they can be read or not. -/
def errorParts : Decoder Status Status := do
  let code ← ErrorCode.ofRaw <$> u32
  let msg ← string
  pure ⟨code, msg⟩

/-- The status that an agent makes of an `ErrorResponse`. -/
def Frame.status (g : Frame) : Status := (g.read errorParts).getD .success

namespace Agent

/-- What `register_self` sends. -/
def registerFrame (a : Agent) : Frame where
  type := WireType.registerAgent.toRaw
  correlation := 0
  payload := encodeRegister ⟨a.id, a.boot, a.caps, a.inventory, a.deviceName, a.deviceIndex⟩

/-- What `register_self` makes of the answer. -/
def onRegisterAnswer (a : Agent) (g : Frame) : Status × Agent :=
  if g.type = WireType.errorResponse.toRaw then (g.status, a)
  else if g.type ≠ WireType.agentRegistered.toRaw then
    (.failure .unknownMessage "register not acknowledged", a)
  else (.success, { a with epoch := ⟨(g.read ByteReader.u64).getD 0⟩ })

/-- What `send_capacity` sends. -/
def capacityFrame (a : Agent) (snap : ResourceSnapshot) : Frame where
  type := WireType.capacityUpdate.toRaw
  correlation := 0
  payload := encodeCapacityUpdate a.epoch.value snap

/-- What `send_capacity` makes of the answer. -/
def onCapacityAnswer (g : Frame) : Status :=
  if g.type = WireType.errorResponse.toRaw then g.status
  else if g.type ≠ WireType.capacityAccepted.toRaw then
    .failure .unknownMessage "capacity not accepted"
  else .success

/-- One turn of the loop in `run`: what is sent, and whether the loop goes on. -/
def onFrame (a : Agent) (g : Frame) : Option Frame × Bool :=
  if g.type = WireType.heartbeat.toRaw then
    (some (g.answer .heartbeat (ByteWriter.u64 a.epoch.value)), true)
  else (none, g.type ≠ WireType.shutdown.toRaw)

end Agent

/-! ## The process of an agent -/

/-- What the process of an agent is started with, apart from the address of the coordinator. -/
structure AgentArgs where
  id : AgentId
  boot : AgentBootId
  vram : UInt64
  device : ByteString := ascii "cuda"

namespace AgentArgs

/-- What the process declares to be capable of. -/
def caps : Capabilities :=
  (({} : Capabilities).add (Capabilities.backend (ascii "cuda"))).add
    (Capabilities.dtype (ascii "fp16"))

/-- The inventory that the process registers, which is also the total that it reports. -/
def inventory (p : AgentArgs) : ResourceVector :=
  let inv := ResourceVector.zero.set .acceleratorMemory p.vram
  let inv := inv.set .hostMemory ((4 : UInt64) <<< 30)
  let inv := inv.set .pinnedHostMemory ((1 : UInt64) <<< 30)
  inv.set .executionSlots 64

def agent (p : AgentArgs) : Agent where
  id := p.id
  boot := p.boot
  caps := caps
  inventory := p.inventory
  deviceName := p.device
  deviceIndex := 0

/-- The one report of the process. -/
def snapshot (p : AgentArgs) (now : TimePoint) : ResourceSnapshot where
  generation := ⟨p.boot.value * 1000 + 1⟩
  timestamp := now
  agentId := p.id
  bootId := p.boot
  nodeName := p.device
  total := p.inventory
  capabilities := caps
  pressure := fun _ => .low
  provenance := fun _ => .measured

end AgentArgs

/-! ## The end of a connection -/

/-- What an agent is doing. -/
inductive AgentPhase
  | idle
  | registering
  | reporting (snap : ResourceSnapshot)
  | running
  | gone

/-- A call on an agent. -/
inductive AgentCall
  | registerSelf
  | sendCapacity (snap : ResourceSnapshot)
  | run

/-- An agent and the frames on their way from it and to it. -/
structure AgentEnd where
  agent : Agent
  phase : AgentPhase := .idle
  up : List Frame := []
  down : List Frame := []

/-- The length of the payload can be said in the header. -/
def Frame.sendable (f : Frame) : Bool := f.payload.length < 2 ^ 32

/-- The payload is not too large to be received. -/
def Frame.receivable (f : Frame) : Bool := f.payload.length ≤ kMaxFramePayload.toNat

namespace AgentEnd

/-- A frame is sent and the answer is waited for. -/
def send (x : AgentEnd) (f : Frame) (phase : AgentPhase) : AgentEnd :=
  if f.sendable then { x with phase, up := x.up ++ [f] } else x

/-- A call is made, if none is under way. -/
def call (x : AgentEnd) (c : AgentCall) : AgentEnd :=
  match x.phase with
  | .idle =>
    match c with
    | .registerSelf => x.send x.agent.registerFrame .registering
    | .sendCapacity snap => x.send (x.agent.capacityFrame snap) (.reporting snap)
    | .run => { x with phase := .running }
  | _ => x

/-- A frame is received by the call that waits for one, which may return. -/
def receive (x : AgentEnd) : Option Status × AgentEnd :=
  match x.down with
  | [] => (none, x)
  | g :: down =>
    match x.phase with
    | .registering =>
      let r := x.agent.onRegisterAnswer g
      (some r.1, { x with agent := r.2, phase := .idle, down })
    | .reporting _ => (some (Agent.onCapacityAnswer g), { x with phase := .idle, down })
    | .running =>
      let r := x.agent.onFrame g
      (if r.2 then none else some .success,
        { x with up := x.up ++ r.1.toList, down, phase := if r.2 then .running else .idle })
    | .idle | .gone => (none, x)

/-- A call waits for its answer. -/
def waiting (x : AgentEnd) : Bool :=
  match x.phase with
  | .registering | .reporting _ => true
  | _ => false

/-- The socket is closed, or its receive fails. The call that waits for its answer returns the
failure, `run` ends its loop and returns success. -/
def leave (x : AgentEnd) : Option Status × AgentEnd :=
  (match x.phase with
    | .registering | .reporting _ => some (.failure .connectionReset "recv failed")
    | .running => some .success
    | .idle | .gone => none,
    { x with phase := .gone, down := [] })

end AgentEnd

/-! ## A site -/

variable {F : Type} [DoubleBits F]

/-- A coordinator with its connections, and the agents at the other end of some of them. -/
structure Site (F : Type) [Double F] where
  server : Server F := {}
  ends : OrdMap ConnId AgentEnd := .empty

/-- What happens at a site: an agent connects, one of its calls is made, a frame arrives at the
coordinator or at the agent, or the connection ends for one of them; or something happens to the
server that is not about an agent's connection. -/
inductive SiteEvent (F : Type) [Double F]
  | connect (conn : ConnId) (a : Agent)
  | call (conn : ConnId) (c : AgentCall)
  | toCoordinator (conn : ConnId) (now : TimePoint)
  | toAgent (conn : ConnId)
  | leave (conn : ConnId)
  | lost (conn : ConnId)
  | other (e : ServerEvent F)

/-- What the handler of a connection makes of a frame that is sent to it. -/
def Frame.delivery (f : Frame) (conn : ConnId) (now : TimePoint) : ServerEvent F :=
  if f.receivable then .frame conn now f else .lost conn

namespace Site

/-- The event is not about an agent's connection. -/
def isOther (s : Site F) (e : ServerEvent F) : Bool :=
  match e.on with
  | none => true
  | some conn => !s.ends.contains conn

/-- One event, with the status of the call that it makes return. -/
def step (s : Site F) : SiteEvent F → Option Status × Site F
  | .connect conn a =>
    if s.server.peers.contains conn then (none, s)
    else
      (none, { server := (s.server.step (.accept conn)).2
               ends := s.ends.insert conn { agent := a } })
  | .call conn c =>
    match s.ends.find? conn with
    | none => (none, s)
    | some x => (none, { s with ends := s.ends.insert conn (x.call c) })
  | .toCoordinator conn now =>
    match s.ends.find? conn with
    | none => (none, s)
    | some x =>
      match x.up with
      | [] => (none, s)
      | f :: up =>
        let r := s.server.step (f.delivery conn now)
        (none, { server := r.2
                 ends := s.ends.insert conn { x with up, down := x.down ++ r.1.toList } })
  | .toAgent conn =>
    match s.ends.find? conn with
    | none => (none, s)
    | some x =>
      let r := x.receive
      (r.1, { s with ends := s.ends.insert conn r.2 })
  | .leave conn =>
    match s.ends.find? conn with
    | none => (none, s)
    | some x =>
      let r := x.leave
      (r.1, { s with ends := s.ends.insert conn r.2 })
  | .lost conn =>
    match s.ends.find? conn with
    | none => (none, s)
    | some x =>
      (none, { server := (s.server.step (.lost conn)).2
               ends := s.ends.insert conn { x with up := [] } })
  | .other e => (none, if s.isOther e then { s with server := (s.server.step e).2 } else s)

end Site

/-- The site as a machine that starts with no connection. -/
def site (F : Type) [DoubleBits F] : Machine (Site F) (SiteEvent F) (Option Status) :=
  ⟨{}, Site.step⟩

end Fabric

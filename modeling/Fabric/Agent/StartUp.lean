import Fabric.Agent.Site

/-!
# The start of an agent

The process of an agent registers, reports once and then answers heartbeats. The turns of the
coordinator and of the agent on the way are followed one by one, and the state is computed that the
process leaves behind when nothing else happens at the site (`run_startUp`).
-/

namespace Fabric

open Support

variable {F : Type} [DoubleBits F]

/-! ## Turns that succeed -/

namespace Server

variable {s : Server F} {conn : ConnId} {now : TimePoint} {f : Frame}

/-- The server once an agent has registered on a connection. -/
def registered (s : Server F) (conn : ConnId) (m : RegisterMessage) : Server F where
  coordinator := { s.coordinator with
    agents := s.coordinator.agents.insert m.agent conn
    contexts := s.coordinator.contexts.insert conn
      { id := m.agent, boot := m.boot, registered := true, alive := true }
    handlers := s.coordinator.handlers.insert conn () }
  peers := s.peers.insert conn .agent

theorem step_register (hfresh : s.peers.find? conn = some .fresh)
    (htype : f.type = WireType.registerAgent.toRaw) {m : RegisterMessage}
    (hread : f.read decodeRegister = some m)
    (hfree : ∀ a, s.coordinator.current m.agent = some a → a.alive = true → a.boot = m.boot) :
    s.step (.frame conn now f) =
      (some (f.answer .agentRegistered (ByteWriter.u64 s.coordinator.epoch.value)),
        s.registered conn m) := by
  have hlive : ¬ (s.coordinator.current m.agent).any fun a => a.alive && a.boot ≠ m.boot := by
    cases hcur : s.coordinator.current m.agent with
    | none => exact Bool.false_ne_true
    | some a =>
      have hboot := hfree a hcur
      simp only [Option.any_some, Bool.and_eq_true, decide_eq_true_eq]
      exact fun h => h.2 (hboot h.1)
  simp only [step, handleFrame, hfresh, if_pos htype, dispatchRegister, hread, if_neg hlive]
  rfl

/-- The server once a report has been taken over on a connection. -/
def updated (s : Server F) (conn : ConnId) (ctx : AgentConn) (snap : ResourceSnapshot) :
    Server F :=
  { s with coordinator := { s.coordinator with
      contexts := s.coordinator.contexts.insert conn
        { ctx with snapshot := snap, capacityGeneration := snap.generation.value } } }

theorem step_update (hagent : s.peers.find? conn = some .agent) {ctx : AgentConn}
    (hctx : s.coordinator.contexts.find? conn = some ctx)
    (htype : f.type = WireType.capacityUpdate.toRaw) {snap : ResourceSnapshot}
    (hread : f.read decodeCapacityUpdate = some (s.coordinator.epoch.value, snap))
    (hboot : snap.bootId = ctx.boot) (hid : snap.agentId = ctx.id)
    (hgen : ctx.capacityGeneration = 0) :
    s.step (.frame conn now f) =
      (some (f.answer .capacityAccepted (ByteWriter.u64 snap.generation.value)),
        s.updated conn ctx snap) := by
  have hraw : WireType.ofRaw? f.type = some .capacityUpdate := by
    rw [htype]
    exact WireType.ofRaw?_toRaw _
  have hids : ¬ (snap.bootId ≠ ctx.boot ∨ snap.agentId ≠ ctx.id) :=
    not_or.mpr ⟨not_not.mpr hboot, not_not.mpr hid⟩
  simp only [step, handleFrame, hagent, hctx, Coordinator.handleAgentFrame, hraw, hread,
    if_neg hids, if_neg (not_not.mpr (rfl : s.coordinator.epoch.value = _))]
  rw [if_neg fun h => h.1 hgen]
  rfl

end Server

/-! ## The frames of the process -/

namespace AgentArgs

variable (p : AgentArgs)

/-- The name of the device is not so long that its frames are too large. -/
def Short (p : AgentArgs) : Prop := p.device.length ≤ 2 ^ 23

instance decidableShort (p : AgentArgs) : Decidable p.Short := Nat.decLe _ _

variable {p}

theorem size_caps : stringsSize (caps.tokens.entries.map Prod.fst) = 34 := by decide

theorem fits_caps : caps.fits = true := by decide

theorem fits_device (h : p.Short) : p.device.fits = true :=
  decide_eq_true (Nat.le_trans h (by decide))

theorem length_register (h : p.Short) :
    p.agent.registerFrame.payload.length ≤ kMaxFramePayload.toNat := by
  have hshort : p.device.length ≤ 2 ^ 23 := h
  have hmax : kMaxFramePayload.toNat = 2 ^ 24 := by decide
  have hlength : p.agent.registerFrame.payload.length = 8 + (8 + (34 + (96 + (4 + p.device.length +
      4)))) := by
    show (encodeRegister _).length = _
    simp only [encodeRegister, List.flatten_cons, List.flatten_nil, List.length_append,
      List.length_nil, length_ident, length_capabilities, length_resourceVector, length_string,
      length_u32, ByteString.savedSize]
    show 8 + (8 + (stringsSize (caps.tokens.entries.map Prod.fst) + _)) = _
    rw [size_caps]
    rfl
  omega

theorem length_capacity (h : p.Short) (a : Agent) (now : TimePoint) :
    (a.capacityFrame (p.snapshot now)).payload.length ≤ kMaxFramePayload.toNat := by
  have hshort : p.device.length ≤ 2 ^ 23 := h
  have hmax : kMaxFramePayload.toNat = 2 ^ 24 := by decide
  have hlength : (a.capacityFrame (p.snapshot now)).payload.length =
      8 + (445 + (4 + p.device.length) + 4 + 34 + 4 + 4) := by
    show (ByteWriter.u64 _ ++ encodeSnapshot (p.snapshot now)).length = _
    rw [List.length_append, length_u64, length_encodeSnapshot, ResourceSnapshot.savedSize]
    show 8 + (445 + _ + _ + stringsSize (caps.tokens.entries.map Prod.fst) + _ + _) = _
    rw [size_caps]
    rfl
  omega

theorem read_register (h : p.Short) : p.agent.registerFrame.read decodeRegister =
    some ⟨p.id, p.boot, caps, p.inventory, p.device, 0⟩ :=
  Frame.read_of_decodes (decodes_register (decide_eq_true ⟨fits_caps, fits_device h⟩)) rfl

theorem read_capacity (h : p.Short) (a : Agent) (now : TimePoint) :
    (a.capacityFrame (p.snapshot now)).read decodeCapacityUpdate =
      some (a.epoch.value, p.snapshot now) := by
  have hfits : (p.snapshot now).fits = true :=
    decide_eq_true ⟨fits_device h, rfl, fits_caps, rfl, rfl⟩
  exact Frame.read_of_decodes (decodes_capacityUpdate a.epoch.value hfits) rfl

end AgentArgs

/-! ## The process -/

/-- The process of an agent: it connects, registers, reports once and waits for heartbeats. -/
def startUp (p : AgentArgs) (conn : ConnId) (now : TimePoint) : List (SiteEvent F) :=
  [.connect conn p.agent, .call conn .registerSelf, .toCoordinator conn now, .toAgent conn,
    .call conn (.sendCapacity (p.snapshot now)), .toCoordinator conn now, .toAgent conn,
    .call conn .run]

/-- The process up to the return of its report. -/
def signOn (p : AgentArgs) (conn : ConnId) (now : TimePoint) : List (SiteEvent F) :=
  (startUp p conn now).dropLast

/-- The end of a connection with nothing under way but an answer. -/
def AgentEnd.answered (x : AgentEnd) (g : Frame) : AgentEnd := { x with up := [], down := [g] }

section Process

variable {p : AgentArgs} {s : Site F} {conn : ConnId} {a : Agent}

/-- A call that is received, answered and returned from. -/
theorem run_call {now : TimePoint} {x x' : AgentEnd} {c : AgentCall} {f g : Frame} {server : Server F}
    (hend : s.ends.find? conn = some x) (hcall : (x.call c).up = [f])
    (hdown : (x.call c).down = []) (hf : f.receivable = true)
    (hstep : s.server.step (.frame conn now f) = (some g, server))
    (hreceive : ((x.call c).answered g).receive.2 = x') :
    (site F).run s [.call conn c, .toCoordinator conn now, .toAgent conn] =
      { server, ends := s.ends.insert conn x' } := by
  have hdelivery : f.delivery conn now = (.frame conn now f : ServerEvent F) := if_pos hf
  have hcalled : s.step (.call conn c) =
      (none, { s with ends := s.ends.insert conn (x.call c) }) := by
    simp only [Site.step, hend]
  have harrived : Site.step { s with ends := s.ends.insert conn (x.call c) }
      (.toCoordinator conn now) =
        (none, { server, ends := s.ends.insert conn ((x.call c).answered g) }) := by
    simp only [Site.step, OrdMap.find?_insert_self, hcall, hdelivery, hstep, hdown,
      OrdMap.insert_insert]
    rfl
  have hreturned : (Site.step { server, ends := s.ends.insert conn ((x.call c).answered g) }
      (.toAgent conn)).2 = { server, ends := s.ends.insert conn x' } := by
    simp only [Site.step, OrdMap.find?_insert_self, hreceive, OrdMap.insert_insert]
  simp only [Machine.run, Machine.next, List.foldl, site, hcalled, harrived, hreturned]

/-- What the process registers as. -/
def AgentArgs.message (p : AgentArgs) : RegisterMessage :=
  ⟨p.id, p.boot, AgentArgs.caps, p.inventory, p.device, 0⟩

/-- What is free for the agent to register. -/
def Coordinator.FreeFor (c : Coordinator F) (id : AgentId) (boot : AgentBootId) : Prop :=
  ∀ a, c.current id = some a → a.alive = true → a.boot = boot

theorem receivable_register (hp : p.Short) : p.agent.registerFrame.receivable = true :=
  decide_eq_true (AgentArgs.length_register hp)

theorem call_register (hp : p.Short) : AgentEnd.call { agent := p.agent } .registerSelf =
    { agent := p.agent, phase := .registering, up := [p.agent.registerFrame] } := by
  have hsendable : p.agent.registerFrame.sendable = true :=
    decide_eq_true (Nat.lt_of_le_of_lt (AgentArgs.length_register hp) (by decide))
  simp only [AgentEnd.call, AgentEnd.send, if_pos hsendable]
  rfl

/-- The registration returns with the epoch of the coordinator. -/
theorem receive_registered (f : Frame) (epoch : CoordinatorEpoch) :
    AgentEnd.receive
        { agent := a, phase := .registering
          down := [f.answer .agentRegistered (ByteWriter.u64 epoch.value)] } =
      (some .success, { agent := { a with epoch } }) := by
  have hread : (f.answer .agentRegistered (ByteWriter.u64 epoch.value)).read ByteReader.u64 =
      some epoch.value := Frame.read_of_decodes (decodes_u64 _) rfl
  have hanswer : a.onRegisterAnswer (f.answer .agentRegistered (ByteWriter.u64 epoch.value)) =
      (.success, { a with epoch }) := by
    unfold Agent.onRegisterAnswer
    rw [hread]
    rfl
  simp only [AgentEnd.receive, hanswer]

theorem run_register (now : TimePoint) (hp : p.Short)
    (hend : s.ends.find? conn = some { agent := p.agent })
    (hfresh : s.server.peers.find? conn = some .fresh)
    (hfree : s.server.coordinator.FreeFor p.id p.boot) :
    (site F).run s [.call conn .registerSelf, .toCoordinator conn now, .toAgent conn] =
      { server := s.server.registered conn p.message
        ends := s.ends.insert conn
          { agent := { p.agent with epoch := s.server.coordinator.epoch } } } := by
  have hcall := call_register hp
  refine run_call hend (by rw [hcall]) (by rw [hcall]) (receivable_register hp)
    (Server.step_register hfresh rfl (AgentArgs.read_register hp) hfree) ?_
  rw [hcall]
  exact congrArg Prod.snd (receive_registered _ _)

theorem receivable_report (hp : p.Short) (a : Agent) (now : TimePoint) :
    (a.capacityFrame (p.snapshot now)).receivable = true :=
  decide_eq_true (AgentArgs.length_capacity hp a now)

theorem call_report (hp : p.Short) (a : Agent) (now : TimePoint) :
    AgentEnd.call { agent := a } (.sendCapacity (p.snapshot now)) =
      { agent := a, phase := .reporting (p.snapshot now)
        up := [a.capacityFrame (p.snapshot now)] } := by
  have hsendable : (a.capacityFrame (p.snapshot now)).sendable = true :=
    decide_eq_true (Nat.lt_of_le_of_lt (AgentArgs.length_capacity hp a now) (by decide))
  simp only [AgentEnd.call, AgentEnd.send, if_pos hsendable]
  rfl

theorem receive_reported (f : Frame) (snap : ResourceSnapshot) (payload : ByteString) :
    AgentEnd.receive
        { agent := a, phase := .reporting snap, down := [f.answer .capacityAccepted payload] } =
      (some .success, { agent := a }) := rfl

theorem run_report (now : TimePoint) (hp : p.Short) (ha : a.epoch = s.server.coordinator.epoch)
    (hend : s.ends.find? conn = some { agent := a })
    (hagent : s.server.peers.find? conn = some .agent) {ctx : AgentConn}
    (hctx : s.server.coordinator.contexts.find? conn = some ctx) (hid : p.id = ctx.id)
    (hboot : p.boot = ctx.boot) (hgen : ctx.capacityGeneration = 0) :
    (site F).run s
        [.call conn (.sendCapacity (p.snapshot now)), .toCoordinator conn now, .toAgent conn] =
      { server := s.server.updated conn ctx (p.snapshot now)
        ends := s.ends.insert conn { agent := a } } := by
  have hcall := call_report hp a now
  have hread := AgentArgs.read_capacity hp a now
  rw [ha] at hread
  refine run_call hend (by rw [hcall]) (by rw [hcall]) (receivable_report hp a now)
    (Server.step_update hagent hctx rfl hread hboot hid hgen) ?_
  rw [hcall]
  rfl

/-- The state that the process leaves behind when its report has returned. -/
def Site.signedOn (s : Site F) (p : AgentArgs) (conn : ConnId) (now : TimePoint) : Site F where
  server :=
    ((s.server.step (.accept conn)).2.registered conn p.message).updated conn
      { id := p.id, boot := p.boot, registered := true, alive := true } (p.snapshot now)
  ends := s.ends.insert conn { agent := { p.agent with epoch := s.server.coordinator.epoch } }

theorem run_signOn (now : TimePoint) (hp : p.Short) (hnew : s.server.peers.find? conn = none)
    (hfree : s.server.coordinator.FreeFor p.id p.boot) :
    (site F).run s (signOn p conn now) = s.signedOn p conn now := by
  have hunknown : ¬ s.server.peers.contains conn = true := by
    rw [OrdMap.contains_eq_false_iff.mpr hnew]
    exact Bool.false_ne_true
  have haccepted : (s.server.step (.accept conn)).2 =
      { s.server with peers := s.server.peers.insert conn .fresh } := by
    rw [Server.step, if_neg hunknown]
  -- The connection is made.
  obtain ⟨s₁, hs₁⟩ : ∃ s₁ : Site F, s₁ =
    { server := { s.server with peers := s.server.peers.insert conn .fresh }
      ends := s.ends.insert conn { agent := p.agent } } := ⟨_, rfl⟩
  have hconnected : (site F).run s [.connect conn p.agent] = s₁ := by
    show (s.step _).2 = _
    rw [hs₁, ← haccepted, Site.step, if_neg hunknown]
  have hend₁ : s₁.ends.find? conn = some { agent := p.agent } := by
    rw [hs₁]
    exact OrdMap.find?_insert_self _ _ _
  have hfresh₁ : s₁.server.peers.find? conn = some .fresh := by
    rw [hs₁]
    exact OrdMap.find?_insert_self _ _ _
  have hfree₁ : s₁.server.coordinator.FreeFor p.id p.boot := by
    rw [hs₁]
    exact hfree
  -- The registration and the report follow.
  have hrun₁ := run_register now hp hend₁ hfresh₁ hfree₁
  obtain ⟨s₂, hs₂⟩ : ∃ s₂ : Site F, s₂ =
    { server := s₁.server.registered conn p.message
      ends := s₁.ends.insert conn
        { agent := { p.agent with epoch := s₁.server.coordinator.epoch } } } := ⟨_, rfl⟩
  rw [← hs₂] at hrun₁
  have hend₂ : s₂.ends.find? conn =
      some { agent := { p.agent with epoch := s₁.server.coordinator.epoch } } := by
    rw [hs₂]
    exact OrdMap.find?_insert_self _ _ _
  have hagent₂ : s₂.server.peers.find? conn = some .agent := by
    rw [hs₂]
    exact OrdMap.find?_insert_self _ _ _
  have hctx₂ : s₂.server.coordinator.contexts.find? conn =
      some { id := p.id, boot := p.boot, registered := true, alive := true } := by
    rw [hs₂]
    exact OrdMap.find?_insert_self _ _ _
  have hepoch₂ : s₁.server.coordinator.epoch = s₂.server.coordinator.epoch := by rw [hs₂]; rfl
  have hrun₂ := run_report now hp hepoch₂ hend₂ hagent₂ hctx₂ rfl rfl rfl
  have hsplit : signOn p conn now = [.connect conn p.agent] ++
      ([.call conn .registerSelf, .toCoordinator conn now, .toAgent conn] ++
        [(.call conn (.sendCapacity (p.snapshot now)) : SiteEvent F), .toCoordinator conn now,
          .toAgent conn]) := rfl
  rw [hsplit, Machine.run_append, hconnected, Machine.run_append, hrun₁, hrun₂]
  simp only [OrdMap.insert_insert, hs₂, hs₁, Site.signedOn, haccepted]

/-- The state that the process leaves behind when it waits for heartbeats. -/
def Site.started (s : Site F) (p : AgentArgs) (conn : ConnId) (now : TimePoint) : Site F where
  server :=
    ((s.server.step (.accept conn)).2.registered conn p.message).updated conn
      { id := p.id, boot := p.boot, registered := true, alive := true } (p.snapshot now)
  ends := s.ends.insert conn
    { agent := { p.agent with epoch := s.server.coordinator.epoch }, phase := .running }

theorem run_startUp (now : TimePoint) (hp : p.Short) (hnew : s.server.peers.find? conn = none)
    (hfree : s.server.coordinator.FreeFor p.id p.boot) :
    (site F).run s (startUp p conn now) = s.started p conn now := by
  have hsplit : startUp p conn now = signOn p conn now ++ [(.call conn .run : SiteEvent F)] := rfl
  rw [hsplit, Machine.run_append, run_signOn now hp hnew hfree]
  show (Site.step _ _).2 = _
  simp only [Site.step, Site.signedOn, OrdMap.find?_insert_self, AgentEnd.call,
    OrdMap.insert_insert, Site.started]

end Process

namespace Sample

/-- An agent with two gigabytes. -/
def agentArgs : AgentArgs := ⟨⟨1⟩, ⟨100⟩, 2000000000, ascii "cuda"⟩

/-- The agent starts on an empty site, up to its report. -/
def dawn : List (SiteEvent Binary64) := signOn agentArgs 0 0

/-- The agent starts on an empty site. -/
def morning : List (SiteEvent Binary64) := startUp agentArgs 0 0

theorem after_dawn : (site Binary64).after dawn = Site.signedOn {} agentArgs 0 0 :=
  run_signOn 0 (by decide : agentArgs.Short) rfl fun a ha => by cases ha

theorem after_morning : (site Binary64).after morning = Site.started {} agentArgs 0 0 :=
  run_startUp 0 (by decide : agentArgs.Short) rfl fun a ha => by cases ha

end Sample

end Fabric

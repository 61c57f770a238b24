import Fabric.Agent.Silence

/-!
# An agent starts among others

The process of an agent starts while other agents, clients and the host of the coordinator go on.
It passes through a few stages, which what happens elsewhere keeps (`At.elsewhere`) as long as the
epoch stays and nobody touches the registration of the agent. So both its calls succeed, and the
coordinator holds its report (`starts_up`). An agent that is lost in between rolls the epoch: then
the report of this one is refused as stale.
-/

namespace Fabric

open Support

variable {F : Type} [DoubleBits F]

/-! ## Stages -/

/-- How far an agent has come: its end of the connection, the role of the connection, and what the
coordinator holds of the agent once it has registered. -/
structure Stage where
  x : AgentEnd
  peer : Peer := .fresh
  ctx : Option AgentConn := none

/-- The agent has come as far as `st` on its connection. -/
structure Site.At (conn : ConnId) (p : AgentArgs) (epoch : CoordinatorEpoch) (s : Site F)
    (st : Stage) : Prop where
  linked : s.server.Linked
  epoch : s.server.coordinator.epoch = epoch
  here : s.ends.find? conn = some st.x
  peer : s.server.peers.find? conn = some st.peer
  free : st.ctx = none → s.server.coordinator.FreeFor p.id p.boot
  known : ∀ ctx, st.ctx = some ctx → s.server.coordinator.agents.find? p.id = some conn ∧
    s.server.coordinator.contexts.find? conn = some ctx

/-- An event keeps the epoch and the registration of an agent. -/
structure Site.KeepsAgent (s : Site F) (id : AgentId) (e : SiteEvent F) : Prop where
  epoch : (s.step e).2.server.coordinator.epoch = s.server.coordinator.epoch
  agents : (s.step e).2.server.coordinator.agents.find? id =
    s.server.coordinator.agents.find? id
  current : (s.step e).2.server.coordinator.current id = s.server.coordinator.current id

/-- The status of a call on a connection that an event makes return. -/
def returned (conn : ConnId) (s : Site F) (e : SiteEvent F) : Option Status :=
  if e.on = some conn then (s.step e).1 else none

theorem returned_here {conn : ConnId} {s : Site F} {e : SiteEvent F} (hon : e.on = some conn) :
    returned conn s e = (s.step e).1 := if_pos hon

namespace Site

variable {conn : ConnId} {p : AgentArgs} {epoch : CoordinatorEpoch} {s : Site F} {st : Stage}
  {x : AgentEnd} {e : SiteEvent F}

theorem linked_step (hs : s.server.Linked) (e : SiteEvent F) : (s.step e).2.server.Linked :=
  (site_refines.keeps s e ⟨trivial, hs⟩).2

/-- What happens elsewhere keeps the stage. -/
theorem At.elsewhere (hat : s.At conn p epoch st) (hon : e.on ≠ some conn)
    (hkeeps : s.KeepsAgent p.id e) : (s.step e).2.At conn p epoch st where
  linked := linked_step hat.linked e
  epoch := hkeeps.epoch.trans hat.epoch
  here := (ends_other hon).trans hat.here
  peer := (peers_other hat.linked hon (by simp [hat.here])).trans hat.peer
  free hnone a ha := by
    rw [hkeeps.current] at ha
    exact hat.free hnone a ha
  known ctx hctx := by
    obtain ⟨hagents, hcontext⟩ := hat.known ctx hctx
    have hagents' := hkeeps.agents.trans hagents
    refine ⟨hagents', ?_⟩
    have hcurrent := hkeeps.current
    rwa [Coordinator.current, Coordinator.current, hagents', hagents, Option.bind_some,
      Option.bind_some, hcontext] at hcurrent

/-- An event that changes nothing about the agents keeps the registration of each. -/
theorem keepsAgent_of_same
    (h : ∀ e' ∈ s.events e, s.server.coordinator.SameAgents (s.server.step e').2.coordinator)
    (id : AgentId) : s.KeepsAgent id e := by
  have hsame : s.server.coordinator.SameAgents (s.step e).2.server.coordinator := by
    rcases s.events_cases e with ⟨-, hserver⟩ | ⟨e', hevents, hserver⟩ <;> rw [hserver]
    · exact ⟨rfl, rfl, rfl, rfl⟩
    · exact h e' (hevents ▸ List.mem_singleton_self e')
  refine ⟨hsame.epoch, by rw [hsame.agents], ?_⟩
  simp only [Coordinator.current, hsame.agents, hsame.contexts]

theorem keepsAgent_accept (s : Site F) (id : AgentId) (k : ConnId) :
    s.KeepsAgent id (.other (.accept k)) := by
  refine keepsAgent_of_same (fun e' he' => ?_) id
  simp only [events] at he'
  split_ifs at he'
  · rw [List.mem_singleton.mp he', Server.step]
    split_ifs <;> exact ⟨rfl, rfl, rfl, rfl⟩
  · cases he'

/-! ## The turns of the agent -/

/-- The agent works on its own. -/
theorem At.alone (hat : s.At conn p epoch st) {s' : Site F} (hserver : s'.server = s.server)
    (hends : s'.ends = s.ends.insert conn x) : s'.At conn p epoch { st with x } where
  linked := hserver ▸ hat.linked
  epoch := hserver ▸ hat.epoch
  here := by
    rw [hends]
    exact OrdMap.find?_insert_self _ _ _
  peer := hserver ▸ hat.peer
  free := hserver ▸ hat.free
  known := hserver ▸ hat.known

theorem At.call (hat : s.At conn p epoch st) (c : AgentCall) (hx : st.x.call c = x) :
    returned conn s (.call conn c) = none ∧
      (s.step (.call conn c)).2.At conn p epoch { st with x } := by
  have hstep : s.step (.call conn c) = (none, { s with ends := s.ends.insert conn x }) := by
    simp only [step, hat.here, hx]
  rw [returned_here rfl, hstep]
  exact ⟨rfl, hat.alone rfl rfl⟩

theorem At.receive (hat : s.At conn p epoch st) {status : Status}
    (hx : st.x.receive = (some status, x)) :
    returned conn s (.toAgent conn) = some status ∧
      (s.step (.toAgent conn)).2.At conn p epoch { st with x } := by
  have hstep : s.step (.toAgent conn) =
      (some status, { s with ends := s.ends.insert conn x }) := by
    simp only [step, hat.here, hx]
  rw [returned_here rfl, hstep]
  exact ⟨rfl, hat.alone rfl rfl⟩

/-- A frame arrives at the coordinator, which answers it. -/
theorem At.arrive (hat : s.At conn p epoch st) {now : TimePoint} {f g : Frame} {server : Server F}
    {ctx : AgentConn} (hup : st.x.up = [f]) (hdown : st.x.down = []) (hf : f.receivable = true)
    (hstep : s.server.step (.frame conn now f) = (some g, server))
    (hepoch : server.coordinator.epoch = epoch) (hpeer : server.peers.find? conn = some .agent)
    (hknown : server.coordinator.agents.find? p.id = some conn ∧
      server.coordinator.contexts.find? conn = some ctx) :
    returned conn s (.toCoordinator conn now) = none ∧
      (s.step (.toCoordinator conn now)).2.At conn p epoch
        { x := st.x.answered g, peer := .agent, ctx := some ctx } := by
  have hdelivery : f.delivery conn now = (.frame conn now f : ServerEvent F) := if_pos hf
  have harrived : s.step (.toCoordinator conn now) =
      (none, { server, ends := s.ends.insert conn (st.x.answered g) }) := by
    simp only [step, hat.here, hup, hdelivery, hstep, hdown]
    rfl
  have hlinked := linked_step hat.linked (.toCoordinator conn now)
  rw [returned_here rfl, harrived]
  rw [harrived] at hlinked
  refine ⟨rfl, hlinked, hepoch, OrdMap.find?_insert_self _ _ _, hpeer,
    fun hnone => absurd hnone (Option.some_ne_none ctx), fun ctx' hctx => ?_⟩
  obtain rfl := Option.some.inj hctx
  exact hknown

end Site

/-! ## The process -/

section Process

variable {conn : ConnId} {p : AgentArgs} {epoch : CoordinatorEpoch} {s : Site F}

/-- The context of an agent that has registered. -/
def AgentArgs.context (p : AgentArgs) : AgentConn :=
  { id := p.id, boot := p.boot, registered := true, alive := true }

/-- The context of an agent that has reported. -/
def AgentArgs.reported (p : AgentArgs) (now : TimePoint) : AgentConn :=
  { p.context with
    snapshot := p.snapshot now
    capacityGeneration := (p.snapshot now).generation.value }

theorem arrive_register (hp : p.Short) {x : AgentEnd}
    (hat : s.At conn p epoch { x }) (hup : x.up = [p.agent.registerFrame]) (hdown : x.down = [])
    (now : TimePoint) : returned conn s (.toCoordinator conn now) = none ∧
      (s.step (.toCoordinator conn now)).2.At conn p epoch
        { x := x.answered (p.agent.registerFrame.answer .agentRegistered
            (ByteWriter.u64 epoch.value))
          peer := .agent, ctx := some p.context } := by
  obtain rfl := hat.epoch
  exact hat.arrive hup hdown (receivable_register hp)
    (Server.step_register hat.peer rfl (AgentArgs.read_register hp) (hat.free rfl)) rfl
    (OrdMap.find?_insert_self _ _ _)
    ⟨OrdMap.find?_insert_self _ _ _, OrdMap.find?_insert_self _ _ _⟩

theorem arrive_report (hp : p.Short) {x : AgentEnd} {a : Agent} {now : TimePoint}
    (hat : s.At conn p epoch { x, peer := .agent, ctx := some p.context }) (ha : a.epoch = epoch)
    (hup : x.up = [a.capacityFrame (p.snapshot now)]) (hdown : x.down = []) :
    returned conn s (.toCoordinator conn now) = none ∧
      (s.step (.toCoordinator conn now)).2.At conn p epoch
        { x := x.answered ((a.capacityFrame (p.snapshot now)).answer .capacityAccepted
            (ByteWriter.u64 (p.snapshot now).generation.value))
          peer := .agent, ctx := some (p.reported now) } := by
  obtain ⟨hagents, hcontext⟩ := hat.known p.context rfl
  have hread := AgentArgs.read_capacity hp a now
  rw [ha, ← hat.epoch] at hread
  exact hat.arrive hup hdown (receivable_report hp a now)
    (Server.step_update hat.peer hcontext rfl hread rfl rfl rfl) hat.epoch hat.peer
    ⟨hagents, OrdMap.find?_insert_self _ _ _⟩

/-- The calls of the process, once it is connected. -/
theorem stages_startUp (conn : ConnId) (p : AgentArgs) (epoch : CoordinatorEpoch)
    (now : TimePoint) (hp : p.Short) :
    (site F).Stages (returned conn) (Site.At conn p epoch) (startUp p conn now).tail
      { x := { agent := p.agent } } [.success, .success]
      { x := { agent := { p.agent with epoch }, phase := .running }
        peer := .agent, ctx := some (p.reported now) } := by
  refine .cons (a := none) (fun s hat => hat.call .registerSelf (call_register hp)) ?_
  refine .cons (a := none) (fun s hat => arrive_register hp hat rfl rfl now) ?_
  refine .cons (a := some Status.success) (fun s hat => hat.receive (receive_registered _ epoch)) ?_
  refine .cons (a := none) (fun s hat => hat.call _ (call_report hp _ now)) ?_
  refine .cons (a := none) (fun s hat => arrive_report hp hat rfl rfl rfl) ?_
  refine .cons (a := some Status.success) (fun s hat => hat.receive (receive_reported _ _ _)) ?_
  exact .cons (a := none) (fun s hat => hat.call .run rfl) (.nil _)

end Process

/-- The process of an agent starts on a connection of its own, on whatever site and while others go
on. If the coordinator holds no live registration of the agent under another boot identity, and
nobody else rolls the epoch or touches the registration of the agent, the registration and the
report succeed, and the coordinator holds the report as that of a live agent. -/
theorem starts_up (p : AgentArgs) (h post : List (SiteEvent F)) (conn : ConnId) (now : TimePoint)
    (hp : p.device.length ≤ 2 ^ 23) (hnew : ((site F).after h).server.peers.find? conn = none)
    (hfree : ((site F).after h).server.coordinator.FreeFor p.id p.boot)
    (hown : post.filter (fun e => e.on = some conn) = (startUp p conn now).tail)
    (hothers : (site F).GuardedFrom (fun s e => e.on ≠ some conn → s.KeepsAgent p.id e)
      ((site F).after (h ++ [.connect conn p.agent])) post) :
    (site F).log (returned conn) ((site F).after (h ++ [.connect conn p.agent])) post =
        [.success, .success] ∧
      ∃ ctx, ((site F).after (h ++ [.connect conn p.agent] ++ post)).server.coordinator.current
          p.id = some ctx ∧
        ctx.alive = true ∧ ctx.boot = p.boot ∧ ctx.snapshot = p.snapshot now := by
  have hconnected : (site F).after (h ++ [.connect conn p.agent]) =
      { server := { ((site F).after h).server with
          peers := ((site F).after h).server.peers.insert conn .fresh }
        ends := ((site F).after h).ends.insert conn { agent := p.agent } } := by
    rw [Machine.after_snoc]
    show (Site.step _ _).2 = _
    have hunknown : ¬ ((site F).after h).server.peers.contains conn = true := by
      rw [OrdMap.contains_eq_false_iff.mpr hnew]
      exact Bool.false_ne_true
    rw [Site.step, if_neg hunknown, Server.step, if_neg hunknown]
  have hat : ((site F).after (h ++ [.connect conn p.agent])).At conn p
      ((site F).after h).server.coordinator.epoch { x := { agent := p.agent } } := by
    have hlinked := site_linked (h ++ [(.connect conn p.agent : SiteEvent F)])
    rw [hconnected] at hlinked ⊢
    exact ⟨hlinked, rfl, OrdMap.find?_insert_self _ _ _, OrdMap.find?_insert_self _ _ _,
      fun _ => hfree, fun ctx hctx => by cases hctx⟩
  obtain ⟨hlog, hend⟩ := (stages_startUp conn p _ now hp).among hown
    (fun s e hon => if_neg hon) (fun s e st hkeeps hon hat => hat.elsewhere hon (hkeeps hon))
    hothers hat
  rw [← Machine.after_append] at hend
  obtain ⟨hagents, hcontext⟩ := hend.known _ rfl
  refine ⟨hlog, p.reported now, ?_, rfl, rfl, rfl⟩
  rw [Coordinator.current, hagents, Option.bind_some, hcontext]

/-- The other agent starts while the first one is running and then leaves, and clients connect. -/
def Sample.bustle : List (SiteEvent Binary64) :=
  [.other (.accept 7), .call 1 .registerSelf, .call 0 .registerSelf, .toCoordinator 1 0, .leave 0,
    .toAgent 1, .call 1 (.sendCapacity (otherArgs.snapshot 0)), .other (.accept 8),
    .toCoordinator 1 0, .toAgent 1, .call 1 .run]

theorem starts_up_bustle :
    (site Binary64).log (returned 1)
        ((site Binary64).after (Sample.morning ++ [.connect 1 Sample.otherArgs.agent]))
        Sample.bustle = [.success, .success] ∧
      ∃ ctx, ((site Binary64).after (Sample.morning ++ [.connect 1 Sample.otherArgs.agent] ++
          Sample.bustle)).server.coordinator.current ⟨2⟩ = some ctx ∧
        ctx.alive = true ∧ ctx.boot = ⟨200⟩ ∧ ctx.snapshot = Sample.otherArgs.snapshot 0 := by
  have hquiet : ∀ (s : Site Binary64) (e : SiteEvent Binary64), s.events e = [] →
      s.KeepsAgent ⟨2⟩ e := fun s e he =>
    Site.keepsAgent_of_same (fun e' he' => by rw [he] at he'; cases he') _
  have hmine : ∀ {P : Prop} {e : SiteEvent Binary64}, e.on = some 1 → e.on ≠ some 1 → P :=
    fun h hnot => absurd h hnot
  refine starts_up Sample.otherArgs Sample.morning Sample.bustle 1 0 (by decide) ?_ ?_ rfl ?_
  · rw [Sample.after_morning]
    rfl
  · rw [Sample.after_morning]
    exact fun a ha => by cases ha
  · exact ⟨fun _ => Site.keepsAgent_accept _ _ _, hmine rfl, fun _ => hquiet _ _ rfl, hmine rfl,
      fun _ => hquiet _ _ rfl, hmine rfl, hmine rfl, fun _ => Site.keepsAgent_accept _ _ _,
      hmine rfl, hmine rfl, hmine rfl, trivial⟩

end Fabric

import Fabric.Agent.Agreement

/-!
# Epochs at a site

The epoch of the coordinator never goes back, and an agent that has registered knows an epoch that
was current once (`learned_after`). So a fence, of whatever agent, silences every agent that had
registered before: nothing that it reports on its connection is taken over any more
(`silenced_by_fence`).
-/

namespace Fabric

open Support

variable {F : Type} [DoubleBits F]

/-! ## The epoch -/

theorem Id.value_le_next {Tag : Type} (i : Id Tag) : i.value ≤ i.next.value := by
  unfold Id.next
  show i.value ≤ if i.value.toNat = 2 ^ 64 - 1 then i.value else i.value + 1
  split_ifs with hmax
  · exact UInt64.le_refl _
  · have hlt := i.value.toNat_lt
    rw [UInt64.le_iff_toNat_le, UInt64.toNat_add, UInt64.toNat_one]
    omega

namespace Coordinator

variable {c : Coordinator F} {e : CoordinatorEvent F}

theorem epoch_le (hc : c.WellFormed) (e : CoordinatorEvent F) :
    c.epoch.value ≤ (c.step e).2.epoch.value := by
  cases agent_effect hc e with
  | quiet _ hkept _ =>
    rw [hkept.epoch]
    exact UInt64.le_refl _
  | fenced _ _ _ _ _ _ _ _ _ _ _ _ _ hepoch =>
    rw [hepoch]
    exact c.epoch.value_le_next
  | registered _ _ _ _ _ _ _ _ _ _ hepoch | accepted _ _ _ _ _ _ _ _ _ _ _ hepoch
    | closed _ _ _ _ _ _ _ _ _ hepoch =>
    rw [hepoch]
    exact UInt64.le_refl _

/-- Only a registration is told the epoch, and it is told the current one. -/
theorem epoch_told (hc : c.WellFormed) {epoch : CoordinatorEpoch}
    (h : (c.step e).1 = .agentRegistered epoch) :
    epoch = c.epoch ∧ ∃ conn id boot, e = .register conn id boot := by
  cases agent_effect hc e with
  | quiet hreply _ _ =>
    rw [h] at hreply
    exact hreply.elim
  | registered conn id boot he hreply =>
    rw [h] at hreply
    exact ⟨CoordinatorReply.agentRegistered.inj hreply, conn, id, boot, he⟩
  | accepted _ _ _ _ _ _ _ hreply | fenced _ _ _ _ _ _ hreply | closed _ _ _ _ hreply =>
    rw [h] at hreply
    cases hreply

end Coordinator

theorem Frame.encodeReply_registered {f g : Frame} {r : CoordinatorReply F}
    (h : f.encodeReply r = some g) (htype : g.type = WireType.agentRegistered.toRaw) :
    ∃ epoch, r = .agentRegistered epoch ∧ g.payload = ByteWriter.u64 epoch.value := by
  have hother : ∀ {t : WireType} {payload : ByteString}, t ≠ .agentRegistered →
      f.answer t payload = g → False := by
    rintro t payload ht rfl
    exact ht (WireType.toRaw_injective htype)
  cases r with
  | agentRegistered epoch => exact ⟨epoch, rfl, by rw [← Option.some.inj h]; rfl⟩
  | heartbeat _ | capacityAccepted _ | error _ | decision _ | observationAck | shutdown =>
    exact (hother (by decide) (Option.some.inj h)).elim
  | code c =>
    refine (hother ?_ (Option.some.inj h)).elim
    unfold Frame.codeType
    split_ifs <;> decide
  | host _ | silent => cases h

namespace Server

variable {s : Server F} {conn : ConnId} {now : TimePoint} {f g : Frame}

theorem epoch_le (hs : s.Linked) (e : ServerEvent F) :
    s.coordinator.epoch.value ≤ (s.step e).2.coordinator.epoch.value := by
  rw [step_coordinator hs]
  rcases s.events_cases e with hevents | ⟨m, hevents⟩ <;> rw [hevents]
  · exact UInt64.le_refl _
  · exact Coordinator.epoch_le hs.wellFormed m

/-- Who is told an epoch has just registered, and is told the current one. -/
theorem registered_answer (hs : s.Linked) (h : (s.step (.frame conn now f)).1 = some g)
    (htype : g.type = WireType.agentRegistered.toRaw) :
    g.payload = ByteWriter.u64 s.coordinator.epoch.value ∧ s.peers.find? conn = some .fresh ∧
      f.type = WireType.registerAgent.toRaw := by
  rcases frame_message hs conn now f with ⟨-, hnone⟩ | ⟨m, hevents, hreply⟩
  · rw [hnone] at h
    cases h
  · obtain ⟨epoch, hm, hpayload⟩ := Frame.encodeReply_registered (hreply.symm.trans h) htype
    obtain ⟨rfl, _, _, _, rfl⟩ := Coordinator.epoch_told hs.wellFormed hm
    refine ⟨hpayload, ?_⟩
    simp only [events] at hevents
    cases hpeer : s.peers.find? conn with
    | none =>
      rw [hpeer] at hevents
      cases hevents
    | some p =>
      rw [hpeer] at hevents
      cases p with
      | closed => cases hevents
      | agent | client =>
        have hm := List.singleton_inj.mp hevents
        cases hm
      | fresh =>
        by_cases hregister : f.type = WireType.registerAgent.toRaw
        · exact ⟨rfl, hregister⟩
        · simp only [if_neg hregister] at hevents
          have hm := List.singleton_inj.mp hevents
          cases hm

/-- A connection becomes an agent's by a registration that is told so. -/
theorem agent_of_frame (h : (s.step (.frame conn now f)).2.peers.find? conn = some .agent) :
    s.peers.find? conn = some .agent ∨ f.type = WireType.registerAgent.toRaw ∧
      ∃ g, (s.step (.frame conn now f)).1 = some g ∧
        g.type = WireType.agentRegistered.toRaw := by
  have hclient : (s.clientTurn conn now f).2.peers.find? conn ≠ some .agent := by
    rw [Server.clientTurn, find?_peers, if_pos rfl]
    split_ifs <;> exact fun h => by cases h
  simp only [step, handleFrame] at h ⊢
  cases hpeer : s.peers.find? conn with
  | none =>
    rw [hpeer] at h
    exact absurd h (by rw [hpeer]; exact fun h => by cases h)
  | some p =>
    simp only [hpeer] at h
    cases p with
    | agent => exact .inl rfl
    | closed =>
      simp only at h
      rw [hpeer] at h
      cases h
    | client => exact absurd h hclient
    | fresh =>
      simp only at h ⊢
      split_ifs at h ⊢ with htype
      · refine .inr ⟨htype, ?_⟩
        unfold dispatchRegister at h ⊢
        cases hread : f.read decodeRegister with
        | none =>
          simp only [hread, close] at h
          rw [find?_peers, if_pos rfl] at h
          cases h
        | some m =>
          simp only [hread] at h ⊢
          split_ifs at h ⊢
          · simp only [close] at h
            rw [find?_peers, if_pos rfl] at h
            cases h
          · exact ⟨_, rfl, rfl⟩
      · exact absurd h hclient

/-- The connection of an agent stays one until it is lost. -/
theorem agent_kept (hs : s.Linked) (h : s.peers.find? conn = some .agent) (now : TimePoint)
    (f : Frame) : (s.step (.frame conn now f)).2.peers.find? conn = some .agent := by
  obtain ⟨ctx, hserves⟩ := hs.serves h
  simp only [step, handleFrame, h, hserves.context]

end Server

namespace Site

variable {s : Site F}

theorem epoch_le (hs : s.server.Linked) (e : SiteEvent F) :
    s.server.coordinator.epoch.value ≤ (s.step e).2.server.coordinator.epoch.value := by
  rcases s.events_cases e with ⟨-, hserver⟩ | ⟨e', -, hserver⟩ <;> rw [hserver]
  · exact UInt64.le_refl _
  · exact Server.epoch_le hs e'

/-- An event elsewhere leaves the role of an agent's connection alone. -/
theorem peers_other (hs : s.server.Linked) {conn : ConnId} {e : SiteEvent F}
    (hon : e.on ≠ some conn) (hend : s.ends.find? conn ≠ none) :
    (s.step e).2.server.peers.find? conn = s.server.peers.find? conn := by
  rcases s.events_cases e with ⟨-, hserver⟩ | ⟨e', hevents, hserver⟩ <;> rw [hserver]
  exact Server.peers_other hs e'
    (events_other hon hend e' (hevents ▸ List.mem_singleton_self e'))

end Site

/-- A frame that the server is given on an agent's connection was under way from the agent. -/
theorem Site.events_frame {s : Site F} {conn : ConnId} {x : AgentEnd}
    (hend : s.ends.find? conn = some x) {e : SiteEvent F} {now : TimePoint} {f : Frame}
    (h : ServerEvent.frame conn now f ∈ s.events e) : f ∈ x.up := by
  cases e with
  | connect k a =>
    have hframe := List.mem_singleton.mp h
    cases hframe
  | call k c | toAgent k | leave k => cases h
  | lost k =>
    simp only [events] at h
    split at h
    · cases h
    · have hframe := List.mem_singleton.mp h
      cases hframe
  | other e =>
    simp only [events] at h
    split_ifs at h with hother
    · obtain rfl := List.mem_singleton.mp h
      have hcontains : s.ends.contains conn = true := OrdMap.contains_iff.mpr ⟨x, hend⟩
      simp only [isOther, ServerEvent.on, hcontains] at hother
      cases hother
    · cases h
  | toCoordinator k now' =>
    simp only [events] at h
    cases hk : s.ends.find? k with
    | none =>
      rw [hk] at h
      cases h
    | some y =>
      rw [hk] at h
      obtain ⟨f', hf', hdelivery⟩ := List.mem_map.mp h
      unfold Frame.delivery at hdelivery
      split_ifs at hdelivery
      obtain ⟨rfl, -, rfl⟩ := ServerEvent.frame.inj hdelivery
      obtain rfl := Option.some.inj (hk.symm.trans hend)
      exact List.mem_of_mem_head? (Option.mem_toList.mp hf')

/-! ## What an agent knows -/

namespace AgentEnd

variable (x : AgentEnd)

theorem call_agent (c : AgentCall) : (x.call c).agent = x.agent := by
  unfold call send
  split
  · split
    · split_ifs <;> rfl
    · split_ifs <;> rfl
    · rfl
  · rfl

theorem call_down (c : AgentCall) : (x.call c).down = x.down := by
  unfold call send
  split
  · split
    · split_ifs <;> rfl
    · split_ifs <;> rfl
    · rfl
  · rfl

end AgentEnd

/-- An agent whose connection is registered knows an epoch that is not ahead of the coordinator's,
or is about to be told one. -/
structure Learned (s : Site F) (conn : ConnId) (x : AgentEnd) : Prop where
  known : s.server.peers.find? conn = some .agent → x.phase ≠ .gone →
    x.agent.epoch.value ≤ s.server.coordinator.epoch.value ∨
      x.phase = .registering ∧ ∃ g ∈ x.down, g.type = WireType.agentRegistered.toRaw
  told : ∀ g ∈ x.down, g.type = WireType.agentRegistered.toRaw →
    ∃ epoch, epoch ≤ s.server.coordinator.epoch.value ∧ g.payload = ByteWriter.u64 epoch

section Learning

variable {s s' : Site F} {conn : ConnId} {x x' : AgentEnd}

theorem Learned.mono (hx : Learned s conn x)
    (hpeer : s'.server.peers.find? conn = some .agent → s.server.peers.find? conn = some .agent)
    (hepoch : s.server.coordinator.epoch.value ≤ s'.server.coordinator.epoch.value) :
    Learned s' conn x := by
  refine ⟨fun h hphase => ?_, fun g hg htype => ?_⟩
  · rcases hx.known (hpeer h) hphase with hle | htold
    · exact .inl (UInt64.le_trans hle hepoch)
    · exact .inr htold
  · obtain ⟨epoch, hle, hpayload⟩ := hx.told g hg htype
    exact ⟨epoch, UInt64.le_trans hle hepoch, hpayload⟩

theorem Learned.call (hx : Learned s conn x) (c : AgentCall) : Learned s conn (x.call c) := by
  by_cases hidle : x.phase = .idle
  · refine ⟨fun h _ => ?_, ?_⟩
    · rw [x.call_agent]
      rcases hx.known h (by rw [hidle]; exact fun h => by cases h) with hle | ⟨hphase, -⟩
      · exact .inl hle
      · rw [hidle] at hphase
        cases hphase
    · rw [x.call_down]
      exact hx.told
  · rw [AgentEnd.call_of_busy c hidle]
    exact hx

/-- A registration makes the agent take over what it is told. -/
theorem onRegisterAnswer_registered (a : Agent) {g : Frame} {epoch : UInt64}
    (htype : g.type = WireType.agentRegistered.toRaw) (hpayload : g.payload = ByteWriter.u64 epoch) :
    (a.onRegisterAnswer g).2.epoch.value = epoch := by
  have herror : g.type ≠ WireType.errorResponse.toRaw := by
    rw [htype]
    decide
  have hread : g.read ByteReader.u64 = some epoch := Frame.read_of_decodes (decodes_u64 epoch) hpayload
  rw [Agent.onRegisterAnswer, if_neg herror, if_neg (not_not.mpr htype), hread]
  rfl

theorem onRegisterAnswer_other (a : Agent) {g : Frame}
    (htype : g.type ≠ WireType.agentRegistered.toRaw) : (a.onRegisterAnswer g).2 = a := by
  unfold Agent.onRegisterAnswer
  split_ifs <;> rfl

theorem Learned.receive (hx : Learned s conn x) {pending : List ResourceSnapshot}
    (hf : x.Flight s.server conn pending) : Learned s conn x.receive.2 := by
  cases hdown : x.down with
  | nil =>
    have hreceive : x.receive.2 = x := by rw [AgentEnd.receive, hdown]
    rwa [hreceive]
  | cons g down =>
    cases hphase : x.phase with
    | idle | gone =>
      have hreceive : x.receive.2 = x := by rw [AgentEnd.receive, hdown, hphase]
      rwa [hreceive]
    | running =>
      have hquiet := (hf.quiet_of_phase (.inr hphase)).2.1
      rw [hdown] at hquiet
      cases hquiet
    | reporting snap =>
      have hreceive : x.receive.2 = { x with phase := .idle, down } := by
        simp only [AgentEnd.receive, hdown, hphase]
      rw [hreceive]
      refine ⟨fun h _ => ?_, fun g' hg' => hx.told g' (by rw [hdown]; exact .tail _ hg')⟩
      rcases hx.known h (by rw [hphase]; exact fun h => by cases h) with hle | ⟨hregistering, -⟩
      · exact .inl hle
      · rw [hphase] at hregistering
        cases hregistering
    | registering =>
      -- The answer is all that is under way.
      obtain rfl : down = [] := by
        cases hf with
        | quiet _ hnil _ | asked _ _ hnil _ _ _ | dropped _ hnil _ _ =>
          rw [hdown] at hnil
          cases hnil
        | answered g' _ _ hone _ _ _ =>
          rw [hdown] at hone
          exact (List.cons.inj hone).2
        | left _ hgone _ =>
          rw [hphase] at hgone
          cases hgone
      have hreceive : x.receive.2 =
          { x with agent := (x.agent.onRegisterAnswer g).2, phase := .idle, down := [] } := by
        simp only [AgentEnd.receive, hdown, hphase]
      rw [hreceive]
      refine ⟨fun h _ => .inl ?_, fun g' hg' => absurd hg' List.not_mem_nil⟩
      by_cases htype : g.type = WireType.agentRegistered.toRaw
      · obtain ⟨epoch, hle, hpayload⟩ := hx.told g (by rw [hdown]; exact .head _) htype
        rw [onRegisterAnswer_registered _ htype hpayload]
        exact hle
      · rw [onRegisterAnswer_other _ htype]
        rcases hx.known h (by rw [hphase]; exact fun h => by cases h) with hle | ⟨-, g', hg', htype'⟩
        · exact hle
        · rw [hdown] at hg'
          rw [List.mem_singleton.mp hg'] at htype'
          exact absurd htype' htype

/-- The first frame under way arrives. -/
theorem Learned.arrive (hs : s.server.Linked) (hx : Learned s conn x)
    {pending : List ResourceSnapshot} (hf : x.Flight s.server conn pending) {f : Frame}
    {up : List Frame} (hup : x.up = f :: up) (now : TimePoint)
    (hs' : s'.server = (s.server.step (f.delivery conn now)).2) :
    Learned s' conn
      { x with up, down := x.down ++ (s.server.step (f.delivery conn now)).1.toList } := by
  have hepoch : s.server.coordinator.epoch.value ≤ s'.server.coordinator.epoch.value := by
    rw [hs']
    exact Server.epoch_le hs _
  have htold : ∀ g ∈ x.down, g.type = WireType.agentRegistered.toRaw →
      ∃ epoch, epoch ≤ s'.server.coordinator.epoch.value ∧ g.payload = ByteWriter.u64 epoch := by
    intro g hg htype
    obtain ⟨epoch, hle, hpayload⟩ := hx.told g hg htype
    exact ⟨epoch, UInt64.le_trans hle hepoch, hpayload⟩
  unfold Frame.delivery at hs' ⊢
  split_ifs at hs' ⊢
  · constructor
    · intro h hphase
      rw [hs'] at h
      rcases Server.agent_of_frame h with hagent | ⟨hregister, g, hg, htype⟩
      · rcases hx.known hagent hphase with hle | ⟨hregistering, g, hg, htype⟩
        · exact .inl (UInt64.le_trans hle hepoch)
        · exact .inr ⟨hregistering, g, List.mem_append_left _ hg, htype⟩
      · refine .inr ⟨?_, g, List.mem_append_right _ (by rw [hg]; exact .head _), htype⟩
        cases hf with
        | quiet hnil _ _ | answered _ _ hnil _ _ _ _ | dropped hnil _ _ _ =>
          rw [hup] at hnil
          cases hnil
        | asked f' hone _ _ _ hkind =>
          rw [hup] at hone
          obtain ⟨rfl, -⟩ := List.cons.inj hone
          exact hkind hregister
        | left _ hgone _ => exact absurd hgone hphase
    · intro g hg htype
      rcases List.mem_append.mp hg with hold | hnew
      · exact htold g hold htype
      · have hanswer := Option.mem_toList.mp hnew
        exact ⟨_, hepoch, (Server.registered_answer hs hanswer htype).1⟩
  · constructor
    · intro h _
      rw [hs'] at h
      rcases Server.peers_lost hs conn with ⟨hnone, -⟩ | ⟨-, hclosed⟩
      · rw [hnone] at h
        cases h
      · rw [hclosed] at h
        cases h
    · intro g hg htype
      rcases List.mem_append.mp hg with hold | hnew
      · exact htold g hold htype
      · cases hnew

/-- A connection that is lost is not an agent's. -/
theorem Learned.lost (hs : s.server.Linked) (hx : Learned s conn x)
    (hs' : s'.server = (s.server.step (.lost conn)).2) : Learned s' conn { x with up := [] } := by
  have hmono : Learned s' conn x := by
    refine hx.mono (fun h => ?_) ?_
    · rw [hs'] at h
      rcases Server.peers_lost hs conn with ⟨hnone, -⟩ | ⟨-, hclosed⟩
      · rw [hnone] at h
        cases h
      · rw [hclosed] at h
        cases h
    · rw [hs']
      exact Server.epoch_le hs _
  exact ⟨hmono.known, hmono.told⟩

end Learning

/-! ## What an event does at the end of a connection -/

/-- What becomes of the end of a connection. -/
inductive EndEffect (s : Site F) (conn : ConnId) (x : AgentEnd) (s' : Site F) : AgentEnd → Prop
  /-- Nothing happens there. -/
  | kept (hpeers : s'.server.peers.find? conn = s.server.peers.find? conn) :
    EndEffect s conn x s' x
  | call (c : AgentCall) (hserver : s'.server = s.server) : EndEffect s conn x s' (x.call c)
  | receive (hserver : s'.server = s.server) : EndEffect s conn x s' x.receive.2
  | leave (hserver : s'.server = s.server) : EndEffect s conn x s' x.leave.2
  /-- A frame arrives at the coordinator. -/
  | arrive (f : Frame) (up : List Frame) (now : TimePoint) (hup : x.up = f :: up)
      (hserver : s'.server = (s.server.step (f.delivery conn now)).2) : EndEffect s conn x s'
        { x with up, down := x.down ++ (s.server.step (f.delivery conn now)).1.toList }
  /-- The receive of the coordinator fails. -/
  | lost (hserver : s'.server = (s.server.step (.lost conn)).2) :
    EndEffect s conn x s' { x with up := [] }

section Effect

variable {s : Site F} {conn : ConnId} {x : AgentEnd}

theorem end_effect (hs : s.server.Linked) (hend : s.ends.find? conn = some x)
    (hknown : s.server.peers.find? conn ≠ none) (e : SiteEvent F) :
    ∃ x', (s.step e).2.ends.find? conn = some x' ∧ EndEffect s conn x (s.step e).2 x' := by
  have hself : ∀ y, (s.ends.insert conn y).find? conn = some y := fun y =>
    OrdMap.find?_insert_self _ _ _
  by_cases hon : e.on = some conn
  · cases e with
    | other e => cases hon
    | connect k a =>
      obtain rfl := Option.some.inj hon
      have hcontains : s.server.peers.contains k = true :=
        OrdMap.contains_iff.mpr (Option.ne_none_iff_exists'.mp hknown)
      simp only [Site.step, if_pos hcontains]
      exact ⟨x, hend, .kept rfl⟩
    | call k c =>
      obtain rfl := Option.some.inj hon
      simp only [Site.step, hend]
      exact ⟨_, hself _, .call c rfl⟩
    | toAgent k =>
      obtain rfl := Option.some.inj hon
      simp only [Site.step, hend]
      exact ⟨_, hself _, .receive rfl⟩
    | leave k =>
      obtain rfl := Option.some.inj hon
      simp only [Site.step, hend]
      exact ⟨_, hself _, .leave rfl⟩
    | lost k =>
      obtain rfl := Option.some.inj hon
      simp only [Site.step, hend]
      exact ⟨_, hself _, .lost rfl⟩
    | toCoordinator k now =>
      obtain rfl := Option.some.inj hon
      cases hup : x.up with
      | nil =>
        simp only [Site.step, hend, hup]
        exact ⟨x, rfl, .kept rfl⟩
      | cons f up =>
        simp only [Site.step, hend, hup]
        exact ⟨_, hself _, .arrive f up now hup rfl⟩
  · exact ⟨x, (Site.ends_other hon).trans hend,
      .kept (Site.peers_other hs hon (by rw [hend]; exact Option.some_ne_none x))⟩

/-- An end that was not there before is that of an agent that has just connected. -/
theorem end_new (hend : s.ends.find? conn = none) {e : SiteEvent F}
    (hx : (s.step e).2.ends.find? conn = some x) :
    (∃ a, x = { agent := a }) ∧ (s.step e).2.server.peers.find? conn = some .fresh := by
  by_cases hon : e.on = some conn
  · by_cases hnew : ∃ a, e = .connect conn a
    · obtain ⟨a, rfl⟩ := hnew
      simp only [Site.step] at hx ⊢
      split_ifs at hx ⊢ with hknown
      · rw [hend] at hx
        cases hx
      · rw [OrdMap.find?_insert_self] at hx
        refine ⟨⟨a, (Option.some.inj hx).symm⟩, ?_⟩
        rcases Server.peers_accept s.server conn with ⟨-, hwas⟩ | ⟨-, hfresh⟩
        · exact absurd (OrdMap.contains_iff.mpr (Option.ne_none_iff_exists'.mp hwas)) hknown
        · exact hfresh
    · rw [(Site.step_of_no_end hend hon fun a h => hnew ⟨a, h⟩).1, hend] at hx
      cases hx
  · rw [Site.ends_other hon, hend] at hx
    cases hx

end Effect

/-- In every run, an agent knows no epoch ahead of the coordinator's. -/
theorem learned_after (h : List (SiteEvent F)) (conn : ConnId) (x : AgentEnd)
    (hx : ((site F).after h).ends.find? conn = some x) : Learned ((site F).after h) conn x := by
  induction h using List.reverseRecOn generalizing x with
  | nil => cases hx
  | append_singleton h e ih =>
    have hlinked := site_linked h
    have hepoch := Site.epoch_le hlinked e
    rw [Machine.after_snoc] at hx ⊢
    cases hend : ((site F).after h).ends.find? conn with
    | none =>
      obtain ⟨⟨a, rfl⟩, hfresh⟩ := end_new hend hx
      refine ⟨fun hagent => ?_, fun g hg => by cases hg⟩
      cases hfresh.symm.trans hagent
    | some y =>
      have hy := ih y hend
      obtain ⟨pending, haccounted⟩ := (known_after conn h).accounted y hend
      obtain ⟨x', hx', heffect⟩ := end_effect hlinked hend haccounted.accepted e
      obtain rfl := Option.some.inj (hx'.symm.trans hx)
      cases heffect with
      | kept hpeers => exact hy.mono (fun hagent => hpeers ▸ hagent) hepoch
      | call c hserver =>
        exact (hy.call c).mono (fun hagent => by rwa [← hserver]) hepoch
      | receive hserver =>
        exact (hy.receive haccounted.flight).mono (fun hagent => by rwa [← hserver]) hepoch
      | leave _ => exact ⟨fun _ hphase => absurd rfl hphase, fun g hg => by cases hg⟩
      | arrive f up now hup hserver => exact hy.arrive hlinked haccounted.flight hup now hserver
      | lost hserver => exact hy.lost hlinked hserver

/-! ## Silence -/

/-- Nothing that the agent sends, or has sent, is under an epoch beyond `limit`, and nothing will
tell it another one. -/
structure Behind (limit : UInt64) (s : Site F) (conn : ConnId) (x : AgentEnd) : Prop where
  peer : s.server.peers.find? conn = some .agent ∨ s.server.peers.find? conn = some .closed
  agent : x.agent.epoch.value ≤ limit
  up : ∀ f ∈ x.up, ∀ epochVal snap, f.agentMessage = .capacityUpdate epochVal snap →
    epochVal ≤ limit
  down : ∀ g ∈ x.down, g.type ≠ WireType.agentRegistered.toRaw

section Silence

variable {limit : UInt64} {s s' : Site F} {conn : ConnId} {x x' : AgentEnd}

theorem Behind.accepted (hx : Behind limit s conn x) : s.server.peers.find? conn ≠ none := by
  rcases hx.peer with h | h <;> rw [h] <;> exact Option.some_ne_none _

theorem Behind.send (hx : Behind limit s conn x) (hserver : s'.server = s.server) {f : Frame}
    {p : AgentPhase} (hf : f.sendable = true → ∀ epochVal snap,
      f.agentMessage = .capacityUpdate epochVal snap → epochVal ≤ limit) :
    Behind limit s' conn (x.send f p) := by
  unfold AgentEnd.send
  split_ifs with hsendable
  · refine ⟨hserver ▸ hx.peer, hx.agent, fun f' hf' => ?_, hx.down⟩
    rcases List.mem_append.mp hf' with hold | hnew
    · exact hx.up f' hold
    · rw [List.mem_singleton.mp hnew]
      exact hf hsendable
  · exact ⟨hserver ▸ hx.peer, hx.agent, hx.up, hx.down⟩

theorem Behind.call (hx : Behind limit s conn x) (hserver : s'.server = s.server) (c : AgentCall) :
    Behind limit s' conn (x.call c) := by
  by_cases hidle : x.phase = .idle
  · cases c with
    | run =>
      simp only [AgentEnd.call, hidle]
      exact ⟨hserver ▸ hx.peer, hx.agent, hx.up, hx.down⟩
    | registerSelf =>
      simp only [AgentEnd.call, hidle]
      exact hx.send hserver fun _ _ _ h => by cases h
    | sendCapacity snap =>
      simp only [AgentEnd.call, hidle]
      refine hx.send hserver fun hsendable epochVal snap' h => ?_
      rcases x.agent.capacityFrame_message hsendable with hmessage | hmessage
      · rw [hmessage] at h
        obtain ⟨rfl, -⟩ := AgentMessage.capacityUpdate.inj h
        exact hx.agent
      · rw [hmessage] at h
        cases h
  · rw [AgentEnd.call_of_busy c hidle]
    exact ⟨hserver ▸ hx.peer, hx.agent, hx.up, hx.down⟩

theorem Behind.receive (hx : Behind limit s conn x) (hserver : s'.server = s.server) :
    Behind limit s' conn x.receive.2 := by
  have hsame : Behind limit s' conn x := ⟨hserver ▸ hx.peer, hx.agent, hx.up, hx.down⟩
  cases hdown : x.down with
  | nil =>
    have hreceive : x.receive.2 = x := by rw [AgentEnd.receive, hdown]
    rwa [hreceive]
  | cons g down =>
    have hg : g.type ≠ WireType.agentRegistered.toRaw := hx.down g (by rw [hdown]; exact .head _)
    have hrest : ∀ g' ∈ down, g'.type ≠ WireType.agentRegistered.toRaw :=
      fun g' hg' => hx.down g' (by rw [hdown]; exact .tail _ hg')
    simp only [AgentEnd.receive, hdown]
    split
    · refine ⟨hsame.peer, ?_, hx.up, hrest⟩
      rw [onRegisterAnswer_other _ hg]
      exact hx.agent
    · exact ⟨hsame.peer, hx.agent, hx.up, hrest⟩
    · refine ⟨hsame.peer, hx.agent, fun f hf epochVal snap hmessage => ?_, hrest⟩
      rcases List.mem_append.mp hf with hold | hnew
      · exact hx.up f hold epochVal snap hmessage
      · -- A heartbeat goes back.
        unfold Agent.onFrame at hnew
        split_ifs at hnew
        · rw [Option.toList_some, List.mem_singleton] at hnew
          rw [hnew] at hmessage
          cases hmessage
        · cases hnew
    · exact hsame
    · exact hsame

theorem Behind.arrive (hs : s.server.Linked) (hx : Behind limit s conn x) {f : Frame}
    {up : List Frame} (hup : x.up = f :: up) (now : TimePoint)
    (hserver : s'.server = (s.server.step (f.delivery conn now)).2) : Behind limit s' conn
      { x with up, down := x.down ++ (s.server.step (f.delivery conn now)).1.toList } := by
  have hrest : ∀ f' ∈ up, ∀ epochVal snap, f'.agentMessage = .capacityUpdate epochVal snap →
      epochVal ≤ limit := fun f' hf' => hx.up f' (by rw [hup]; exact .tail _ hf')
  unfold Frame.delivery at hserver ⊢
  split_ifs at hserver ⊢
  · refine ⟨?_, hx.agent, hrest, fun g hg htype => ?_⟩
    · rw [hserver]
      rcases hx.peer with hagent | hclosed
      · exact .inl (Server.agent_kept hs hagent now f)
      · refine .inr ?_
        cases Server.frame_effect hs conn now f with
        | ignored _ _ hstep => rwa [hstep]
        | dropped hfresh _ _ _ =>
          rw [hclosed] at hfresh
          cases hfresh
        | answered _ _ hopen _ _ _ _ =>
          rw [Server.isOpen, hclosed] at hopen
          cases hopen
    · rcases List.mem_append.mp hg with hold | hnew
      · exact hx.down g hold htype
      · have hfresh := (Server.registered_answer hs (Option.mem_toList.mp hnew) htype).2.1
        rcases hx.peer with h | h <;> rw [h] at hfresh <;> cases hfresh
  · refine ⟨?_, hx.agent, hrest, fun g hg => ?_⟩
    · rw [hserver]
      rcases Server.peers_lost hs conn with ⟨-, hnone⟩ | ⟨-, hclosed⟩
      · exact absurd hnone hx.accepted
      · exact .inr hclosed
    · rcases List.mem_append.mp hg with hold | hnew
      · exact hx.down g hold
      · cases hnew

/-- Whatever happens, an agent that is behind stays behind. -/
theorem Behind.step (hs : s.server.Linked) (hend : s.ends.find? conn = some x)
    (hx : Behind limit s conn x) (e : SiteEvent F) :
    ∃ x', (s.step e).2.ends.find? conn = some x' ∧ Behind limit (s.step e).2 conn x' := by
  obtain ⟨x', hx', heffect⟩ := end_effect hs hend hx.accepted e
  refine ⟨x', hx', ?_⟩
  cases heffect with
  | kept hpeers => exact ⟨hpeers ▸ hx.peer, hx.agent, hx.up, hx.down⟩
  | call c hserver => exact hx.call hserver c
  | receive hserver => exact hx.receive hserver
  | leave hserver =>
    exact ⟨hserver ▸ hx.peer, hx.agent, hx.up, fun g hg => absurd hg List.not_mem_nil⟩
  | arrive f up now hup hserver => exact hx.arrive hs hup now hserver
  | lost hserver =>
    refine ⟨?_, hx.agent, fun f hf => absurd hf List.not_mem_nil, hx.down⟩
    rw [hserver]
    rcases Server.peers_lost hs conn with ⟨-, hnone⟩ | ⟨-, hclosed⟩
    · exact absurd hnone hx.accepted
    · exact .inr hclosed

/-- Nothing of an agent that is behind the epoch is taken over. -/
theorem Behind.taken (hs : s.server.Linked) (hend : s.ends.find? conn = some x)
    (hx : Behind limit s conn x) (hbehind : limit < s.server.coordinator.epoch.value)
    (e : SiteEvent F) : s.taken conn e = [] := by
  rcases s.events_cases e with ⟨hevents, -⟩ | ⟨e', hevents, -⟩
  · exact Site.taken_of_nil hevents
  · rw [Site.taken_of_event hevents]
    by_cases hframe : ∃ now f, e' = .frame conn now f
    · obtain ⟨now, f, rfl⟩ := hframe
      rcases Server.report_turn hs conn now f with ⟨htaken, -⟩ | ⟨snap, g, -, hmessage, -, -⟩
      · exact htaken
      · -- The frame was under way from the agent.
        have hf : f ∈ x.up := Site.events_frame hend (hevents ▸ List.mem_singleton_self _)
        exact absurd hbehind (UInt64.not_lt.mpr (hx.up f hf _ _ hmessage))
    · exact Server.taken_of_not_frame fun now f h => hframe ⟨now, f, h⟩

end Silence

theorem epoch_after_le (h post : List (SiteEvent F)) :
    ((site F).after h).server.coordinator.epoch.value ≤
      ((site F).after (h ++ post)).server.coordinator.epoch.value := by
  induction post using List.reverseRecOn with
  | nil =>
    rw [List.append_nil]
    exact UInt64.le_refl _
  | append_singleton post e ih =>
    rw [← List.append_assoc, Machine.after_snoc]
    exact UInt64.le_trans ih (Site.epoch_le (site_linked _) e)

theorem behind_after {limit : UInt64} {h : List (SiteEvent F)} {conn : ConnId} {x : AgentEnd}
    (hend : ((site F).after h).ends.find? conn = some x)
    (hx : Behind limit ((site F).after h) conn x) (post : List (SiteEvent F)) :
    ∃ x', ((site F).after (h ++ post)).ends.find? conn = some x' ∧
      Behind limit ((site F).after (h ++ post)) conn x' := by
  induction post using List.reverseRecOn with
  | nil => exact ⟨x, by rwa [List.append_nil], by rwa [List.append_nil]⟩
  | append_singleton post e ih =>
    obtain ⟨x', hend', hx'⟩ := ih
    rw [← List.append_assoc, Machine.after_snoc]
    exact hx'.step (site_linked _) hend' e

/-- An agent has registered on a connection and waits for no answer. Once the epoch of the
coordinator has moved on, by the loss of any agent, nothing more is taken over on the connection and
no report beyond what had been taken over until then is acknowledged, whatever happens. -/
theorem silenced_by_fence (h mid post : List (SiteEvent F)) (conn : ConnId) (x : AgentEnd)
    (hx : ((site F).after h).ends.find? conn = some x)
    (hphase : x.phase = .idle ∨ x.phase = .running)
    (hpeer : ((site F).after h).server.peers.find? conn = some .agent)
    (hfence : ((site F).after (h ++ mid)).server.coordinator.epoch ≠
      ((site F).after h).server.coordinator.epoch) :
    takenOn conn (siteMessages (h ++ mid ++ post)) = takenOn conn (siteMessages (h ++ mid)) ∧
      acknowledgedOn conn (h ++ mid ++ post) <+: takenOn conn (siteMessages (h ++ mid)) := by
  obtain ⟨pending, haccounted⟩ := (known_after conn h).accounted x hx
  obtain ⟨hup, hdown, -⟩ := haccounted.flight.quiet_of_phase hphase
  have hbehind : Behind ((site F).after h).server.coordinator.epoch.value ((site F).after h) conn
      x := by
    refine ⟨.inl hpeer, ?_, fun f hf => ?_, fun g hg => ?_⟩
    · rcases (learned_after h conn x hx).known hpeer
        (by rcases hphase with hphase | hphase <;> rw [hphase] <;> exact fun h => by cases h) with
        hle | ⟨hregistering, -⟩
      · exact hle
      · rcases hphase with hphase | hphase <;> rw [hphase] at hregistering <;> cases hregistering
    · rw [hup] at hf
      cases hf
    · rw [hdown] at hg
      cases hg
  have hlt : ((site F).after h).server.coordinator.epoch.value <
      ((site F).after (h ++ mid)).server.coordinator.epoch.value := by
    refine UInt64.lt_of_le_of_ne (epoch_after_le h mid) fun heq => hfence ?_
    exact congrArg Id.mk heq.symm
  have htaken : takenOn conn (siteMessages (h ++ mid ++ post)) =
      takenOn conn (siteMessages (h ++ mid)) := by
    induction post using List.reverseRecOn with
    | nil => rw [List.append_nil]
    | append_singleton post e ih =>
      obtain ⟨x', hend', hx'⟩ := behind_after hx hbehind (mid ++ post)
      rw [← List.append_assoc] at hend' hx'
      have hepoch := UInt64.lt_of_lt_of_le hlt (epoch_after_le (h ++ mid) post)
      rw [← List.append_assoc, takenOn_site_snoc, hx'.taken (site_linked _) hend' hepoch e,
        List.append_nil]
      exact ih
  refine ⟨htaken, ?_⟩
  obtain ⟨x', hend', -⟩ := behind_after hx hbehind (mid ++ post)
  rw [← List.append_assoc] at hend'
  obtain ⟨pending', haccounted'⟩ := (known_after conn _).accounted x' hend'
  rw [← htaken, haccounted'.taken]
  exact List.prefix_append _ _

namespace Sample

/-- Another agent. -/
def otherArgs : AgentArgs := ⟨⟨2⟩, ⟨200⟩, 1000000000, ascii "cuda"⟩

/-- It starts, and its connection is lost. -/
def outage : List (SiteEvent Binary64) := startUp otherArgs 1 0 ++ [.lost 1]

theorem after_outage : (site Binary64).after (dawn ++ outage) =
    (Site.step (Site.started (Site.signedOn {} agentArgs 0 0) otherArgs 1 0) (.lost 1)).2 := by
  rw [Machine.after_append, after_dawn, outage, Machine.run_append,
    run_startUp 0 (by decide : otherArgs.Short) (by decide) fun a ha => by cases ha]
  rfl

/-- The first agent reports once more. -/
def lateReport : List (SiteEvent Binary64) :=
  [.call 0 (.sendCapacity (agentArgs.snapshot 1)), .toCoordinator 0 1, .toAgent 0]

end Sample

/-- The late report is refused under its stale epoch. -/
theorem silenced_by_fence_outage :
    (site Binary64).replies ((site Binary64).after (Sample.dawn ++ Sample.outage))
        Sample.lateReport = [none, none, some (.failure .staleEpoch "stale coordinator epoch")] ∧
      takenOn 0 (siteMessages (Sample.dawn ++ Sample.outage ++ Sample.lateReport)) =
        takenOn 0 (siteMessages (Sample.dawn ++ Sample.outage)) ∧
      acknowledgedOn 0 (Sample.dawn ++ Sample.outage ++ Sample.lateReport) <+:
        takenOn 0 (siteMessages (Sample.dawn ++ Sample.outage)) := by
  have hreplies : (site Binary64).replies ((site Binary64).after (Sample.dawn ++ Sample.outage))
      Sample.lateReport = [none, none, some (.failure .staleEpoch "stale coordinator epoch")] := by
    rw [Sample.after_outage]
    decide +kernel
  have hepoch : ((site Binary64).after (Sample.dawn ++ Sample.outage)).server.coordinator.epoch ≠
      ((site Binary64).after Sample.dawn).server.coordinator.epoch := by
    rw [Sample.after_outage, Sample.after_dawn]
    decide
  exact ⟨hreplies, silenced_by_fence Sample.dawn Sample.outage Sample.lateReport 0 _
    (by rw [Sample.after_dawn]; exact OrdMap.find?_insert_self _ _ _) (.inl rfl)
    (by rw [Sample.after_dawn]; exact OrdMap.find?_insert_self _ _ _) hepoch⟩

end Fabric

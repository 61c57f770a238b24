import Fabric.Coordinator.Frames
import Fabric.Coordinator.Steps
import Fabric.Support.Refinement

/-!
# Frames and messages

The server over frames refines the coordinator over messages: a frame is the message that its
payload decodes to, and what goes back is the encoding of the coordinator's answer under the
correlation of the request (`server_refines`, `step_answer`).
-/

namespace Fabric

open Support

variable {F : Type} [DoubleBits F]

/-! ## The messages in frames -/

namespace Frame

/-- The message that a frame is to the handler of an agent. -/
def agentMessage (f : Frame) : AgentMessage :=
  match WireType.ofRaw? f.type with
  | some .heartbeat => .heartbeat
  | some .capacityUpdate =>
    match f.read decodeCapacityUpdate with
    | none => .badCapacityUpdate
    | some (epochVal, snap) => .capacityUpdate epochVal snap
  | _ => .unknown f.type

/-- The message that a frame is to the handler of a client. -/
def clientMessage (f : Frame) : ClientMessage F :=
  match WireType.ofRaw? f.type with
  | some .evaluateRequest =>
    match f.read decodeDescriptor with
    | none => .badEvaluate
    | some d => .evaluate d
  | some .commitRequest =>
    match f.read decodeCommitRequest with
    | none => .badCommit
    | some (id, gen) => .commit id gen
  | some .releaseRequest =>
    match f.read decodeReleaseRequest with
    | none => .badRelease
    | some id => .release id
  | some .observationSubmit =>
    match f.read decodeObservation with
    | none => .badObserve
    | some o => .observe o
  | some .shutdown => .shutdown
  | _ => .unknown f.type

/-- The message type that a code goes back under. -/
def codeType (f : Frame) : WireType :=
  if f.type = WireType.commitRequest.toRaw then .commitResponse else .releaseResponse

/-- The frame that brings an answer of the coordinator back. -/
def encodeReply (f : Frame) : CoordinatorReply F → Option Frame
  | .agentRegistered epoch => some (f.answer .agentRegistered (ByteWriter.u64 epoch.value))
  | .heartbeat epoch => some (f.answer .heartbeat (ByteWriter.u64 epoch.value))
  | .capacityAccepted gen => some (f.answer .capacityAccepted (ByteWriter.u64 gen.value))
  | .error s => some (f.refuse s)
  | .decision dec => some (f.answer .evaluateResponse (encodeEvaluateResponse dec 0))
  | .code c => some (f.answer f.codeType (ByteWriter.i32 c.toRaw.toInt32))
  | .observationAck => some (f.answer .observationAck (ByteWriter.i32 0))
  | .shutdown => some (f.answer .shutdown (ByteWriter.i32 0))
  | .host _ | .silent => none

end Frame

namespace Coordinator

variable {c : Coordinator F} {conn : ConnId} {ctx : AgentConn} {now : TimePoint} {f : Frame}

/-- A turn on a frame of an agent is the turn on its message. -/
theorem handleAgentFrame_eq (c : Coordinator F) (conn : ConnId) (ctx : AgentConn) (f : Frame) :
    f.encodeReply (c.handleAgent conn ctx f.agentMessage).1 =
        some (c.handleAgentFrame conn ctx f).1 ∧
      (c.handleAgent conn ctx f.agentMessage).2 = (c.handleAgentFrame conn ctx f).2 := by
  unfold handleAgentFrame Frame.agentMessage
  cases htype : WireType.ofRaw? f.type with
  | none => exact ⟨rfl, rfl⟩
  | some t =>
    cases t with
    | capacityUpdate =>
      cases hread : f.read decodeCapacityUpdate with
      | none => exact ⟨rfl, rfl⟩
      | some update =>
        simp only [handleAgent, capacityRefusal]
        split_ifs <;> exact ⟨rfl, rfl⟩
    | _ => exact ⟨rfl, rfl⟩

theorem placed_eq (c : Coordinator F) (now : TimePoint) (d : AdmissionDescriptor F) :
    c.placed now d = c.engine.setSnapshot (c.snapshotFor now d) := by
  unfold placed snapshotFor
  cases c.chosen d with
  | none => rfl
  | some a => rfl

/-- A turn on a frame of a client is the turn on its message. -/
theorem handleClientTurn_eq (c : Coordinator F) (now : TimePoint) (f : Frame) :
    f.encodeReply (c.handleClientFrame now f.clientMessage).1 =
        some (c.handleClientTurn now f).1 ∧
      (c.handleClientFrame now f.clientMessage).2 = (c.handleClientTurn now f).2.2 := by
  unfold handleClientTurn Frame.clientMessage
  cases htype : WireType.ofRaw? f.type with
  | none => exact ⟨rfl, rfl⟩
  | some t =>
    have hraw := WireType.ofRaw?_eq_some_iff.mp htype
    cases t with
    | evaluateRequest =>
      cases hread : f.read (decodeDescriptor (F := F)) with
      | none => exact ⟨rfl, rfl⟩
      | some d =>
        show _ = some (f.answer _ (encodeEvaluateResponse ((c.placed now d).evaluate now d).1 0)) ∧
          _ = { c with engine := ((c.placed now d).evaluate now d).2 }
        rw [placed_eq]
        exact ⟨rfl, rfl⟩
    | commitRequest =>
      cases hread : f.read decodeCommitRequest with
      | none => exact ⟨rfl, rfl⟩
      | some commit =>
        have htype : f.codeType = .commitResponse := if_pos hraw
        refine ⟨?_, rfl⟩
        show some (f.answer f.codeType (ByteWriter.i32
          (c.engine.commitAdmission now commit.1 commit.2).1.code.toRaw.toInt32)) = _
        rw [htype]
    | releaseRequest =>
      cases hread : f.read decodeReleaseRequest with
      | none => exact ⟨rfl, rfl⟩
      | some id =>
        have htype : f.codeType = .releaseResponse := if_neg (by rw [hraw]; decide)
        refine ⟨?_, rfl⟩
        show some (f.answer f.codeType (ByteWriter.i32
          (c.engine.releaseReservation now id).1.code.toRaw.toInt32)) = _
        rw [htype]
    | observationSubmit =>
      cases hread : f.read decodeObservation with
      | none => exact ⟨rfl, rfl⟩
      | some o => exact ⟨rfl, rfl⟩
    | _ => exact ⟨rfl, rfl⟩

end Coordinator

namespace Server

/-- What an event of the server is to the coordinator. -/
def events (s : Server F) : ServerEvent F → List (CoordinatorEvent F)
  | .accept _ => []
  | .frame conn now f =>
    match s.peers.find? conn with
    | some .fresh =>
      if f.type = WireType.registerAgent.toRaw then
        ((f.read decodeRegister).map fun m => .register conn m.agent m.boot).toList
      else [.client now f.clientMessage]
    | some .agent => [.agent conn f.agentMessage]
    | some .client => [.client now f.clientMessage]
    | _ => []
  | .lost conn => if s.peers.find? conn = some .agent then [.lost conn] else []
  | .host now op => [.host now op]

/-- The connections of agents are those that the coordinator serves, and it knows no others but
closed ones. -/
structure Linked (s : Server F) : Prop where
  wellFormed : s.coordinator.WellFormed
  served : ∀ conn, s.peers.find? conn = some .agent ↔
    s.coordinator.handlers.find? conn = some ()
  known : ∀ conn a, s.coordinator.contexts.find? conn = some a →
    s.peers.find? conn = some .agent ∨ s.peers.find? conn = some .closed

variable {s s' : Server F} {conn : ConnId} {now : TimePoint} {f : Frame}

theorem Linked.unknown (hs : s.Linked) (hagent : s.peers.find? conn ≠ some .agent)
    (hclosed : s.peers.find? conn ≠ some .closed) :
    s.coordinator.contexts.find? conn = none := by
  cases hctx : s.coordinator.contexts.find? conn with
  | none => rfl
  | some a => exact absurd (hs.known conn a hctx) (not_or.mpr ⟨hagent, hclosed⟩)

theorem Linked.unknown_of_fresh (hs : s.Linked) (hfresh : s.peers.find? conn = some .fresh) :
    s.coordinator.contexts.find? conn = none :=
  hs.unknown (by rw [hfresh]; decide) (by rw [hfresh]; decide)

theorem Linked.unserved (hs : s.Linked) (hagent : s.peers.find? conn ≠ some .agent) :
    s.coordinator.handlers.find? conn = none :=
  Option.eq_none_iff_forall_ne_some.mpr fun _ h => hagent ((hs.served conn).mpr h)

theorem Linked.serves (hs : s.Linked) (hagent : s.peers.find? conn = some .agent) :
    ∃ ctx, s.coordinator.Serves conn ctx := by
  have hhandler := (hs.served conn).mp hagent
  obtain ⟨ctx, hctx⟩ := hs.wellFormed.served conn hhandler
  exact ⟨ctx, hhandler, hctx⟩

/-! ## One event -/

/-- What an event is to the coordinator is what it does there. -/
theorem step_coordinator (hs : s.Linked) (e : ServerEvent F) :
    (s.step e).2.coordinator = (Fabric.coordinator F).run s.coordinator (s.events e) := by
  cases e with
  | accept conn =>
    simp only [step, events]
    split_ifs <;> rfl
  | host now op => rfl
  | lost conn =>
    simp only [step, handleLoss, events]
    cases hpeer : s.peers.find? conn with
    | none => rfl
    | some p =>
      cases p with
      | agent =>
        obtain ⟨ctx, hserves⟩ := hs.serves hpeer
        rw [if_pos rfl, Machine.run_cons, Machine.run_nil]
        show _ = (s.coordinator.step (.lost conn)).2
        rw [Coordinator.step_lost hserves]
        simp only [hserves.context]
      | _ => rfl
  | frame conn now f =>
    have hclient : (s.clientTurn conn now f).2.coordinator =
        (Fabric.coordinator F).run s.coordinator [.client now f.clientMessage] :=
      (Coordinator.handleClientTurn_eq s.coordinator now f).2.symm
    simp only [step, handleFrame, events]
    cases hpeer : s.peers.find? conn with
    | none => rfl
    | some p =>
      cases p with
      | closed => rfl
      | client => exact hclient
      | agent =>
        obtain ⟨ctx, hserves⟩ := hs.serves hpeer
        simp only [hserves.context]
        rw [Machine.run_cons, Machine.run_nil]
        show _ = (s.coordinator.step (.agent conn f.agentMessage)).2
        rw [Coordinator.step_agent hserves]
        exact (Coordinator.handleAgentFrame_eq s.coordinator conn ctx f).2.symm
      | fresh =>
        by_cases htype : f.type = WireType.registerAgent.toRaw
        · simp only [if_pos htype, dispatchRegister]
          cases hread : f.read decodeRegister with
          | none => rfl
          | some m =>
            have hnew := hs.unknown_of_fresh hpeer
            have hunknown : ¬ s.coordinator.contexts.contains conn = true := by
              rw [OrdMap.contains_eq_false_iff.mpr hnew]
              exact Bool.false_ne_true
            rw [Option.map_some, Option.toList_some, Machine.run_cons, Machine.run_nil]
            show _ = (s.coordinator.step (.register conn m.agent m.boot)).2
            simp only [Coordinator.step, if_neg hunknown, Coordinator.register]
            split_ifs <;> rfl
        · simp only [if_neg htype]
          exact hclient

/-! ## The link is kept -/

/-- A connection becomes what its handler is. -/
theorem Linked.move (hs : s.Linked) (conn : ConnId) (p : Peer) (hwf : s'.coordinator.WellFormed)
    (hpeers : ∀ k, s'.peers.find? k = if k = conn then some p else s.peers.find? k)
    (hhandlers : ∀ k, s'.coordinator.handlers.find? k =
      if k = conn then (if p = .agent then some () else none)
      else s.coordinator.handlers.find? k)
    (hcontexts : ∀ k a, k ≠ conn → s'.coordinator.contexts.find? k = some a →
      ∃ b, s.coordinator.contexts.find? k = some b)
    (hown : p = .agent ∨ p = .closed ∨ s'.coordinator.contexts.find? conn = none) :
    s'.Linked := by
  refine ⟨hwf, fun k => ?_, fun k a ha => ?_⟩
  · rw [hpeers, hhandlers]
    by_cases hk : k = conn
    · rw [if_pos hk, if_pos hk]
      by_cases hp : p = .agent
      · simp [hp]
      · simp [hp]
    · rw [if_neg hk, if_neg hk]
      exact hs.served k
  · rw [hpeers]
    by_cases hk : k = conn
    · rw [if_pos hk]
      subst hk
      rcases hown with hp | hp | hnone
      · exact .inl (congrArg some hp)
      · exact .inr (congrArg some hp)
      · rw [hnone] at ha
        cases ha
    · rw [if_neg hk]
      obtain ⟨b, hb⟩ := hcontexts k a hk ha
      exact hs.known k b hb

theorem find?_peers (s : Server F) (conn : ConnId) (p : Peer) (k : ConnId) :
    (s.peers.insert conn p).find? k = if k = conn then some p else s.peers.find? k :=
  OrdMap.find?_insert _ _ _ _

/-- The map of the handlers, seen from a connection that none of them serves. -/
theorem Linked.handlers_same (hs : s.Linked) (hagent : s.peers.find? conn ≠ some .agent) {p : Peer}
    (hp : p ≠ .agent) (k : ConnId) : s.coordinator.handlers.find? k =
      if k = conn then (if p = .agent then some () else none)
      else s.coordinator.handlers.find? k := by
  by_cases hk : k = conn
  · rw [if_pos hk, if_neg hp, hk, hs.unserved hagent]
  · rw [if_neg hk]

/-- A connection that the coordinator does not know changes its role. -/
theorem Linked.turn (hs : s.Linked) {c' : Coordinator F} {p : Peer}
    (hagent : s.peers.find? conn ≠ some .agent) (hclosed : s.peers.find? conn ≠ some .closed)
    (hp : p ≠ .agent) (hsame : s.coordinator.SameAgents c') :
    Server.Linked { coordinator := c', peers := s.peers.insert conn p } := by
  refine hs.move conn p ?_ (find?_peers s conn p) ?_ ?_ (.inr (.inr ?_))
  · constructor
    · rw [hsame.agents, hsame.contexts]
      exact hs.wellFormed.mapped
    · rw [hsame.handlers, hsame.contexts]
      exact hs.wellFormed.served
  · intro k
    show c'.handlers.find? k = _
    rw [hsame.handlers]
    exact hs.handlers_same hagent hp k
  · intro k a _ ha
    exact ⟨a, hsame.contexts ▸ ha⟩
  · show c'.contexts.find? conn = none
    rw [hsame.contexts]
    exact hs.unknown hagent hclosed

theorem Linked.clientTurn (hs : s.Linked) (hagent : s.peers.find? conn ≠ some .agent)
    (hclosed : s.peers.find? conn ≠ some .closed) (now : TimePoint) (f : Frame) :
    (s.clientTurn conn now f).2.Linked := by
  have hsame : s.coordinator.SameAgents (s.coordinator.handleClientTurn now f).2.2 := by
    rw [← (Coordinator.handleClientTurn_eq s.coordinator now f).2]
    exact Coordinator.client_same s.coordinator now f.clientMessage
  exact hs.turn hagent hclosed (by split_ifs <;> decide) hsame

theorem Linked.same (s : Server F) : s.coordinator.SameAgents s.coordinator := ⟨rfl, rfl, rfl, rfl⟩

/-- A registration that is accepted makes the connection an agent's. -/
theorem Linked.dispatchRegister (hs : s.Linked) (hfresh : s.peers.find? conn = some .fresh)
    (f : Frame) : (s.dispatchRegister conn f).2.Linked := by
  have hagent : s.peers.find? conn ≠ some .agent := by
    rw [hfresh]
    decide
  have hclosed : s.peers.find? conn ≠ some .closed := by
    rw [hfresh]
    decide
  have hclose : (s.close conn).Linked := hs.turn hagent hclosed (by decide) (Linked.same s)
  simp only [Server.dispatchRegister]
  cases f.read decodeRegister with
  | none => exact hclose
  | some m =>
    simp only
    split_ifs with hstale
    · exact hclose
    · have hnew := hs.unknown hagent hclosed
      refine hs.move conn .agent ?_ (find?_peers s conn .agent) ?_ ?_ (.inl rfl)
      · have hunknown : ¬ s.coordinator.contexts.contains conn = true := by
          rw [OrdMap.contains_eq_false_iff.mpr hnew]
          exact Bool.false_ne_true
        have hstep := Coordinator.wellFormed_step hs.wellFormed (.register conn m.agent m.boot)
        simpa only [Coordinator.step, if_neg hunknown, Coordinator.register, if_neg hstale]
          using hstep
      · exact fun k => OrdMap.find?_insert _ _ _ _
      · intro k a hk ha
        rw [OrdMap.find?_insert, if_neg hk] at ha
        exact ⟨a, ha⟩

/-- A turn on the connection of an agent changes at most its context. -/
theorem Linked.agentTurn (hs : s.Linked) (hagent : s.peers.find? conn = some .agent)
    {ctx : AgentConn} (hserves : s.coordinator.Serves conn ctx) (f : Frame) :
    Server.Linked { s with coordinator := (s.coordinator.handleAgentFrame conn ctx f).2 } := by
  rw [← (Coordinator.handleAgentFrame_eq s.coordinator conn ctx f).2]
  have hstep := Coordinator.step_agent hserves f.agentMessage
  have hwf := Coordinator.wellFormed_step hs.wellFormed (.agent conn f.agentMessage)
  have heffect := Coordinator.effect_agent s.coordinator conn f.agentMessage
  rw [hstep] at hwf heffect
  -- Either nothing changes for the agents, or the context of this connection does.
  have hchange : (s.coordinator.handleAgent conn ctx f.agentMessage).2.handlers =
        s.coordinator.handlers ∧
      ∀ k a, k ≠ conn →
        (s.coordinator.handleAgent conn ctx f.agentMessage).2.contexts.find? k = some a →
          s.coordinator.contexts.find? k = some a := by
    cases heffect with
    | quiet _ hkept _ => exact ⟨hkept.handlers, fun k a _ ha => hkept.contexts ▸ ha⟩
    | accepted conn' _ _ _ he _ _ _ _ hcontexts hhandlers _ =>
      obtain ⟨rfl, -⟩ := CoordinatorEvent.agent.inj he
      refine ⟨hhandlers, fun k a hk ha => ?_⟩
      rwa [hcontexts, OrdMap.find?_insert, if_neg hk] at ha
    | registered _ _ _ he | fenced _ _ _ _ he | closed _ _ he => cases he
  refine hs.move conn .agent hwf (fun k => ?_) (fun k => ?_) ?_ (.inl rfl)
  · show s.peers.find? k = _
    split_ifs with hk
    · rw [hk, hagent]
    · rfl
  · show (s.coordinator.handleAgent conn ctx f.agentMessage).2.handlers.find? k = _
    rw [hchange.1, if_pos rfl]
    split_ifs with hk
    · rw [hk, hserves.handler]
    · rfl
  · exact fun k a hk ha => ⟨a, hchange.2 k a hk ha⟩

/-- What `on_agent_loss` leaves of the contexts was there before. -/
theorem contexts_onAgentLoss (c : Coordinator F) (id : AgentId) {k : ConnId} {a : AgentConn}
    (ha : (c.onAgentLoss id).contexts.find? k = some a) : ∃ b, c.contexts.find? k = some b := by
  unfold Coordinator.onAgentLoss at ha
  cases hcur : c.agents.find? id with
  | none =>
    rw [hcur] at ha
    exact ⟨a, ha⟩
  | some cur =>
    simp only [hcur] at ha
    cases hb : c.contexts.find? cur with
    | none =>
      rw [hb] at ha
      exact ⟨a, ha⟩
    | some b =>
      simp only [hb] at ha
      split_ifs at ha
      · rw [OrdMap.find?_insert] at ha
        split_ifs at ha with hk
        · exact ⟨b, hk ▸ hb⟩
        · exact ⟨a, ha⟩
      · exact ⟨a, ha⟩

theorem Linked.handleLoss (hs : s.Linked) (conn : ConnId) : (s.handleLoss conn).Linked := by
  simp only [Server.handleLoss]
  cases hpeer : s.peers.find? conn with
  | none => exact hs
  | some p =>
    cases p with
    | closed => exact hs
    | fresh | client =>
      exact hs.turn (by rw [hpeer]; decide) (by rw [hpeer]; decide) (by decide) (Linked.same s)
    | agent =>
      obtain ⟨ctx, hserves⟩ := hs.serves hpeer
      simp only [hserves.context]
      have hwf := Coordinator.wellFormed_step hs.wellFormed (.lost conn)
      rw [Coordinator.step_lost hserves] at hwf
      refine hs.move conn .closed hwf (find?_peers s conn .closed) (fun k => ?_) ?_
        (.inr (.inl rfl))
      · exact OrdMap.find?_erase _ _ _
      · exact fun k a _ ha => contexts_onAgentLoss s.coordinator ctx.id ha

theorem linked_step (hs : s.Linked) (e : ServerEvent F) : (s.step e).2.Linked := by
  cases e with
  | accept conn =>
    simp only [step]
    split_ifs with hknown
    · exact hs
    · have hnone : s.peers.find? conn = none :=
        OrdMap.contains_eq_false_iff.mp (by simpa using hknown)
      exact hs.turn (by rw [hnone]; decide) (by rw [hnone]; decide) (by decide) (Linked.same s)
  | host now op =>
    exact ⟨⟨hs.wellFormed.mapped, hs.wellFormed.served⟩, hs.served, hs.known⟩
  | lost conn => exact hs.handleLoss conn
  | frame conn now f =>
    simp only [step, handleFrame]
    cases hpeer : s.peers.find? conn with
    | none => exact hs
    | some p =>
      have hagent : p ≠ .agent → s.peers.find? conn ≠ some .agent := by
        rw [hpeer]
        exact fun hp h => hp (Option.some.inj h)
      have hclosed : p ≠ .closed → s.peers.find? conn ≠ some .closed := by
        rw [hpeer]
        exact fun hp h => hp (Option.some.inj h)
      cases p with
      | closed => exact hs
      | client => exact hs.clientTurn (hagent (by decide)) (hclosed (by decide)) now f
      | agent =>
        obtain ⟨ctx, hserves⟩ := hs.serves hpeer
        simp only [hserves.context]
        exact hs.agentTurn hpeer hserves f
      | fresh =>
        simp only
        split_ifs
        · exact hs.dispatchRegister hpeer f
        · exact hs.clientTurn (hagent (by decide)) (hclosed (by decide)) now f

/-! ## Answers -/

/-- What goes back for an event: the answers of the coordinator, as frames. -/
def answers (e : ServerEvent F) (replies : List (CoordinatorReply F)) : Option Frame :=
  match e with
  | .frame _ _ f => replies.head?.bind f.encodeReply
  | _ => none

/-- The answer to a frame is the encoding of the answer to its message. -/
theorem step_answer (hs : s.Linked) (e : ServerEvent F) :
    (s.step e).1 = answers e ((Fabric.coordinator F).replies s.coordinator (s.events e)) := by
  cases e with
  | accept conn =>
    simp only [step]
    split_ifs <;> rfl
  | host now op => rfl
  | lost conn => rfl
  | frame conn now f =>
    have hclient : (s.clientTurn conn now f).1 = answers (.frame conn now f)
        ((Fabric.coordinator F).replies s.coordinator [.client now f.clientMessage]) :=
      (Coordinator.handleClientTurn_eq s.coordinator now f).1.symm
    simp only [step, handleFrame, events]
    cases hpeer : s.peers.find? conn with
    | none => rfl
    | some p =>
      cases p with
      | closed => rfl
      | client => exact hclient
      | agent =>
        obtain ⟨ctx, hserves⟩ := hs.serves hpeer
        simp only [hserves.context]
        show _ = f.encodeReply (s.coordinator.step (.agent conn f.agentMessage)).1
        rw [Coordinator.step_agent hserves]
        exact (Coordinator.handleAgentFrame_eq s.coordinator conn ctx f).1.symm
      | fresh =>
        by_cases htype : f.type = WireType.registerAgent.toRaw
        · simp only [if_pos htype, dispatchRegister]
          cases hread : f.read decodeRegister with
          | none => rfl
          | some m =>
            have hnew := hs.unknown_of_fresh hpeer
            have hunknown : ¬ s.coordinator.contexts.contains conn = true := by
              rw [OrdMap.contains_eq_false_iff.mpr hnew]
              exact Bool.false_ne_true
            rw [Option.map_some, Option.toList_some]
            show _ = f.encodeReply (s.coordinator.step (.register conn m.agent m.boot)).1
            simp only [Coordinator.step, if_neg hunknown, Coordinator.register]
            split_ifs <;> rfl
        · simp only [if_neg htype]
          exact hclient

end Server

theorem linked_init : ({} : Server F).Linked :=
  ⟨⟨fun _ _ h => (by cases h), fun _ h => (by cases h)⟩,
    fun _ => iff_of_false (fun h => by cases h) (fun h => by cases h), fun _ _ h => (by cases h)⟩

/-- The server refines the coordinator. -/
theorem server_refines :
    Refines (server F) (coordinator F) Server.Linked Server.coordinator Server.events where
  start := linked_init
  keeps _ e hs := Server.linked_step hs e
  init := rfl
  next _ e hs := Server.step_coordinator hs e

/-- What the frames of a history are to the coordinator. -/
def messages (h : List (ServerEvent F)) : List (CoordinatorEvent F) :=
  (server F).calls Server.events {} h

/-- Every run on frames, whatever bytes they carry, is a run on messages: the coordinator ends in
the state after the messages, and each frame is answered with the encoding of the coordinator's
answer to its message. -/
theorem served_as_messages (h : List (ServerEvent F)) :
    ((server F).after h).coordinator = (coordinator F).after (messages h) ∧
      ∀ pre e post, h = pre ++ e :: post →
        (server F).reply ((server F).after pre) e =
          Server.answers e ((coordinator F).replies ((coordinator F).after (messages pre))
            (((server F).after pre).events e)) := by
  have hrefines := server_refines (F := F)
  refine ⟨hrefines.after h, fun pre e post _ => ?_⟩
  have hstate : ((server F).after pre).coordinator = (coordinator F).after (messages pre) :=
    hrefines.after pre
  rw [← hstate]
  exact Server.step_answer (hrefines.holds pre) e

end Fabric

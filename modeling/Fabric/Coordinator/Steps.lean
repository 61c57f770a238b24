import Fabric.Coordinator.Model
import Fabric.Engine.Settings

/-!
# What each event of the coordinator can do

The events taken apart once. `AgentEffect` has one case for each way an event can end for the
agents; `agent_effect` shows that every event has such an effect in a well-formed coordinator,
and `wellFormed_after` that every reachable one is well formed. On the engine, an event is a
short list of calls (`engine_step`), so the engine of a reachable coordinator is reachable
(`engine_after`).
-/

namespace Fabric

open Support

variable {F : Type} [Double F]

/-- An answer that accepts neither a registration nor a capacity update. -/
def CoordinatorReply.IsQuiet : CoordinatorReply F → Prop
  | agentRegistered _ | capacityAccepted _ => False
  | _ => True

namespace Coordinator

/-- The agent connection `conn` is being served, with the context `ctx`. -/
structure Serves (c : Coordinator F) (conn : ConnId) (ctx : AgentConn) : Prop where
  handler : c.handlers.find? conn = some ()
  context : c.contexts.find? conn = some ctx

/-- The map points to contexts of its agents, and handlers have a context. -/
structure WellFormed (c : Coordinator F) : Prop where
  mapped : ∀ id conn, c.agents.find? id = some conn →
    ∃ a, c.contexts.find? conn = some a ∧ a.id = id
  served : ∀ conn, c.handlers.find? conn = some () → ∃ ctx, c.contexts.find? conn = some ctx

/-- What the agents see is as before. -/
structure SameAgents (c c' : Coordinator F) : Prop where
  agents : c'.agents = c.agents
  contexts : c'.contexts = c.contexts
  handlers : c'.handlers = c.handlers
  epoch : c'.epoch = c.epoch

/-- What an event can do to the agents, and what it answers. -/
inductive AgentEffect (c : Coordinator F) (e : CoordinatorEvent F) (reply : CoordinatorReply F)
    (c' : Coordinator F) : Prop
  /-- Nothing changes for the agents. -/
  | quiet (hreply : reply.IsQuiet) (hkept : c.SameAgents c')
      (hlost : ∀ conn ctx, e = .lost conn → ¬ c.Serves conn ctx)
  /-- A registration is accepted. -/
  | registered (conn : ConnId) (id : AgentId) (boot : AgentBootId)
      (he : e = .register conn id boot) (hreply : reply = .agentRegistered c.epoch)
      (hnew : c.contexts.find? conn = none)
      (hfree : ∀ a, c.current id = some a → a.alive = true → a.boot = boot)
      (hagents : c'.agents = c.agents.insert id conn)
      (hcontexts : c'.contexts = c.contexts.insert conn
        { id, boot, registered := true, alive := true })
      (hhandlers : c'.handlers = c.handlers.insert conn ()) (hepoch : c'.epoch = c.epoch)
  /-- A capacity update is accepted. -/
  | accepted (conn : ConnId) (ctx : AgentConn) (epochVal : UInt64) (snap : ResourceSnapshot)
      (he : e = .agent conn (.capacityUpdate epochVal snap)) (hserves : c.Serves conn ctx)
      (hrefusal : c.capacityRefusal ctx epochVal snap = none)
      (hreply : reply = .capacityAccepted snap.generation)
      (hagents : c'.agents = c.agents)
      (hcontexts : c'.contexts = c.contexts.insert conn
        { ctx with snapshot := snap, capacityGeneration := snap.generation.value })
      (hhandlers : c'.handlers = c.handlers) (hepoch : c'.epoch = c.epoch)
  /-- A connection is lost, and the current registration of its agent is fenced. -/
  | fenced (conn : ConnId) (ctx : AgentConn) (cur : ConnId) (a : AgentConn)
      (he : e = .lost conn) (hserves : c.Serves conn ctx) (hreply : reply = .silent)
      (hcur : c.agents.find? ctx.id = some cur) (ha : c.contexts.find? cur = some a)
      (halive : a.alive = true) (hagents : c'.agents = c.agents)
      (hcontexts : c'.contexts = c.contexts.insert cur { a with alive := false })
      (hhandlers : c'.handlers = c.handlers.erase conn) (hepoch : c'.epoch = c.epoch.next)
  /-- A connection is lost whose agent has no live registration. -/
  | closed (conn : ConnId) (ctx : AgentConn) (he : e = .lost conn)
      (hserves : c.Serves conn ctx) (hreply : reply = .silent)
      (hdead : ∀ a, c.current ctx.id = some a → a.alive = false)
      (hagents : c'.agents = c.agents) (hcontexts : c'.contexts = c.contexts)
      (hhandlers : c'.handlers = c.handlers.erase conn) (hepoch : c'.epoch = c.epoch)

variable {c c' : Coordinator F} {conn : ConnId} {ctx : AgentConn} {id : AgentId}

/-! ## The effect of an event -/

theorem current_eq_some_iff {a : AgentConn} : c.current id = some a ↔
    ∃ conn, c.agents.find? id = some conn ∧ c.contexts.find? conn = some a := by
  rw [current, Option.bind_eq_some_iff]

theorem effect_register (c : Coordinator F) (conn : ConnId) (id : AgentId) (boot : AgentBootId) :
    c.AgentEffect (.register conn id boot) (c.step (.register conn id boot)).1
      (c.step (.register conn id boot)).2 := by
  have hquiet : ∀ s : CoordinatorReply F, s.IsQuiet → c.AgentEffect (.register conn id boot) s c :=
    fun s hs => .quiet hs ⟨rfl, rfl, rfl, rfl⟩ fun _ _ he => by cases he
  by_cases hknown : c.contexts.contains conn = true
  · simp only [step, if_pos hknown]
    exact hquiet _ trivial
  · have hnew : c.contexts.find? conn = none :=
      OrdMap.contains_eq_false_iff.mp (by simpa using hknown)
    simp only [step, if_neg hknown, register]
    split_ifs with hstale
    · exact hquiet _ trivial
    · refine .registered conn id boot rfl rfl hnew (fun a ha halive => ?_) rfl rfl rfl rfl
      rw [ha] at hstale
      simpa [halive] using hstale

theorem step_agent (h : c.Serves conn ctx) (msg : AgentMessage) :
    c.step (.agent conn msg) = c.handleAgent conn ctx msg := by
  simp only [step, h.handler, h.context]

theorem step_lost (h : c.Serves conn ctx) : c.step (.lost conn) =
    (.silent, { c.onAgentLoss ctx.id with handlers := c.handlers.erase conn }) := by
  simp only [step, h.handler, h.context]

/-- A connection that is not served delivers nothing. -/
theorem step_unserved (h : ∀ ctx, ¬ c.Serves conn ctx) (msg : AgentMessage) :
    c.step (.agent conn msg) = (.silent, c) ∧ c.step (.lost conn) = (.silent, c) := by
  cases hhandler : c.handlers.find? conn with
  | none => simp [step, hhandler]
  | some u =>
    cases hctx : c.contexts.find? conn with
    | none => simp [step, hhandler, hctx]
    | some ctx => exact absurd ⟨hhandler, hctx⟩ (h ctx)

theorem effect_agent (c : Coordinator F) (conn : ConnId) (msg : AgentMessage) :
    c.AgentEffect (.agent conn msg) (c.step (.agent conn msg)).1
      (c.step (.agent conn msg)).2 := by
  have hquiet : ∀ s : CoordinatorReply F, s.IsQuiet → c.AgentEffect (.agent conn msg) s c :=
    fun s hs => .quiet hs ⟨rfl, rfl, rfl, rfl⟩ fun _ _ he => by cases he
  by_cases hserved : ∃ ctx, c.Serves conn ctx
  · obtain ⟨ctx, hserves⟩ := hserved
    rw [step_agent hserves]
    cases msg with
    | heartbeat | badCapacityUpdate | unknown => exact hquiet _ trivial
    | capacityUpdate epochVal snap =>
      simp only [handleAgent]
      cases hrefusal : c.capacityRefusal ctx epochVal snap with
      | some s => exact hquiet _ trivial
      | none => exact .accepted conn ctx epochVal snap rfl hserves hrefusal rfl rfl rfl rfl rfl
  · rw [(step_unserved (not_exists.mp hserved) msg).1]
    exact hquiet _ trivial

theorem effect_lost (hc : c.WellFormed) (conn : ConnId) :
    c.AgentEffect (.lost conn) (c.step (.lost conn)).1 (c.step (.lost conn)).2 := by
  by_cases hserved : ∃ ctx, c.Serves conn ctx
  · obtain ⟨ctx, hserves⟩ := hserved
    rw [step_lost hserves, onAgentLoss]
    cases hcur : c.agents.find? ctx.id with
    | none =>
      refine .closed conn ctx rfl hserves rfl (fun a ha => ?_) rfl rfl rfl rfl
      rw [current, hcur] at ha
      cases ha
    | some cur =>
      obtain ⟨a, ha, -⟩ := hc.mapped ctx.id cur hcur
      simp only [ha]
      by_cases halive : a.alive = true
      · rw [if_pos halive]
        exact .fenced conn ctx cur a rfl hserves rfl hcur ha halive rfl rfl rfl rfl
      · rw [if_neg halive]
        refine .closed conn ctx rfl hserves rfl (fun a' ha' => ?_) rfl rfl rfl rfl
        obtain rfl : a = a' := by simpa [current, hcur, ha] using ha'
        simpa using halive
  · rw [(step_unserved (not_exists.mp hserved) .heartbeat).2]
    refine .quiet trivial ⟨rfl, rfl, rfl, rfl⟩ fun conn' ctx he hserves => ?_
    obtain rfl : conn = conn' := by simpa using he
    exact hserved ⟨ctx, hserves⟩

/-- A client request does not concern the agents. -/
theorem client_same (c : Coordinator F) (now : TimePoint) (msg : ClientMessage F) :
    c.SameAgents (c.step (.client now msg)).2 := by
  cases msg with
  | _ => exact ⟨rfl, rfl, rfl, rfl⟩

theorem effect_client (c : Coordinator F) (now : TimePoint) (msg : ClientMessage F) :
    c.AgentEffect (.client now msg) (c.step (.client now msg)).1
      (c.step (.client now msg)).2 := by
  have hlost : ∀ conn ctx, CoordinatorEvent.client now msg = .lost conn → ¬ c.Serves conn ctx :=
    fun _ _ he => by cases he
  cases msg with
  | _ => exact .quiet trivial (client_same c now _) hlost

/-- Every event has one of the effects. -/
theorem agent_effect (hc : c.WellFormed) (e : CoordinatorEvent F) :
    c.AgentEffect e (c.step e).1 (c.step e).2 := by
  cases e with
  | register conn id boot => exact effect_register c conn id boot
  | agent conn msg => exact effect_agent c conn msg
  | lost conn => exact effect_lost hc conn
  | client now msg => exact effect_client c now msg
  | host now op => exact .quiet trivial ⟨rfl, rfl, rfl, rfl⟩ fun _ _ he => by cases he

/-! ## Reachable coordinators are well formed -/

/-- Replacing a context by one of the same agent keeps the coordinator well formed. -/
theorem WellFormed.replace (hc : c.WellFormed) {a a' : AgentConn}
    (ha : c.contexts.find? conn = some a) (hcontexts : c'.contexts = c.contexts.insert conn a')
    (hid : a'.id = a.id) (hagents : c'.agents = c.agents)
    (hhandlers : ∀ k, c'.handlers.find? k = some () → c.handlers.find? k = some ()) :
    c'.WellFormed := by
  constructor
  · intro id k hk
    rw [hagents] at hk
    obtain ⟨b, hb, hbid⟩ := hc.mapped id k hk
    rw [hcontexts, OrdMap.find?_insert]
    split_ifs with heq
    · subst heq
      obtain rfl := Option.some.inj (hb.symm.trans ha)
      exact ⟨a', rfl, hid.trans hbid⟩
    · exact ⟨b, hb, hbid⟩
  · intro k hk
    rw [hcontexts, OrdMap.find?_insert]
    split_ifs
    · exact ⟨a', rfl⟩
    · exact hc.served k (hhandlers k hk)

theorem erase_served {k : ConnId} (h : (c.handlers.erase conn).find? k = some ()) :
    c.handlers.find? k = some () := by
  rw [OrdMap.find?_erase] at h
  split_ifs at h
  exact h

theorem wellFormed_step (hc : c.WellFormed) (e : CoordinatorEvent F) :
    (c.step e).2.WellFormed := by
  cases agent_effect hc e with
  | quiet _ hkept _ =>
    constructor
    · rw [hkept.agents, hkept.contexts]
      exact hc.mapped
    · rw [hkept.handlers, hkept.contexts]
      exact hc.served
  | registered conn id boot _ _ hnew _ hagents hcontexts hhandlers _ =>
    constructor
    · intro id' k hk
      rw [hagents, OrdMap.find?_insert] at hk
      rw [hcontexts, OrdMap.find?_insert]
      split_ifs at hk with hid
      · obtain rfl := Option.some.inj hk
        exact ⟨_, if_pos rfl, hid.symm⟩
      · obtain ⟨a, ha, haid⟩ := hc.mapped id' k hk
        have hne : k ≠ conn := by
          intro h
          rw [h, hnew] at ha
          cases ha
        exact ⟨a, by rw [if_neg hne, ha], haid⟩
    · intro k hk
      rw [hhandlers, OrdMap.find?_insert] at hk
      rw [hcontexts, OrdMap.find?_insert]
      split_ifs at hk ⊢
      · exact ⟨_, rfl⟩
      · exact hc.served k hk
  | accepted conn ctx _ _ _ hserves _ _ hagents hcontexts hhandlers _ =>
    exact hc.replace hserves.context hcontexts rfl hagents fun k hk => hhandlers ▸ hk
  | fenced conn ctx cur a _ _ _ _ ha _ hagents hcontexts hhandlers _ =>
    exact hc.replace ha hcontexts rfl hagents fun k hk => erase_served (hhandlers ▸ hk)
  | closed conn ctx _ _ _ _ hagents hcontexts hhandlers _ =>
    constructor
    · rw [hagents, hcontexts]
      exact hc.mapped
    · intro k hk
      rw [hcontexts]
      exact hc.served k (erase_served (hhandlers ▸ hk))

theorem wellFormed_after (h : List (CoordinatorEvent F)) :
    ((coordinator F).after h).WellFormed :=
  (coordinator F).invariant (P := WellFormed)
    ⟨fun _ _ h => (by cases h), fun _ h => (by cases h)⟩ (fun _ e hc => wellFormed_step hc e) h

/-! ## The current registration -/

theorem current_eq_of_same (hagents : c'.agents = c.agents) (hcontexts : c'.contexts = c.contexts)
    (id : AgentId) : c'.current id = c.current id := by
  rw [current, current, hagents, hcontexts]

/-- An update of one context is seen by the agent whose entry it is. -/
theorem current_of_context {a' : AgentConn} (hagents : c'.agents = c.agents)
    (hcontexts : c'.contexts = c.contexts.insert conn a') (id : AgentId) :
    c'.current id = if c.agents.find? id = some conn then some a' else c.current id := by
  rw [current, current, hagents, hcontexts]
  cases hk : c.agents.find? id with
  | none => rfl
  | some k =>
    simp only [Option.bind_some, OrdMap.find?_insert, Option.some.injEq]

/-- A new registration is seen by its agent only. -/
theorem current_of_registration (hc : c.WellFormed) {a' : AgentConn}
    (hnew : c.contexts.find? conn = none) (hagents : c'.agents = c.agents.insert id conn)
    (hcontexts : c'.contexts = c.contexts.insert conn a') (id' : AgentId) :
    c'.current id' = if id' = id then some a' else c.current id' := by
  rw [current, current, hagents, hcontexts, OrdMap.find?_insert]
  split_ifs with hid
  · simp
  · cases hk : c.agents.find? id' with
    | none => rfl
    | some k =>
      obtain ⟨a, ha, -⟩ := hc.mapped id' k hk
      have hne : k ≠ conn := by
        intro h
        rw [h, hnew] at ha
        cases ha
      simp [hne]

/-- The entry of an agent is the entry of no other. -/
theorem agents_injective (hc : c.WellFormed) {id' : AgentId} (h : c.agents.find? id = some conn)
    (h' : c.agents.find? id' = some conn) : id' = id := by
  obtain ⟨a, ha, haid⟩ := hc.mapped id conn h
  obtain ⟨b, hb, hbid⟩ := hc.mapped id' conn h'
  obtain rfl := Option.some.inj (ha.symm.trans hb)
  exact hbid.symm.trans haid

/-- Fencing is seen by the agent that is fenced only. -/
theorem current_of_fence (hc : c.WellFormed) {a' : AgentConn}
    (hcur : c.agents.find? id = some conn) (hagents : c'.agents = c.agents)
    (hcontexts : c'.contexts = c.contexts.insert conn a') (id' : AgentId) :
    c'.current id' = if id' = id then some a' else c.current id' := by
  rw [current_of_context hagents hcontexts]
  by_cases hid : id' = id
  · rw [if_pos hid, if_pos (hid ▸ hcur)]
  · rw [if_neg hid, if_neg fun h => hid (agents_injective hc hcur h)]

/-- A context keeps the identity it was registered with. -/
theorem context_kept (hc : c.WellFormed) (e : CoordinatorEvent F) {k : ConnId} {a : AgentConn}
    (ha : c.contexts.find? k = some a) :
    ∃ a', (c.step e).2.contexts.find? k = some a' ∧ a'.id = a.id ∧ a'.boot = a.boot := by
  have replaced : ∀ (conn : ConnId) (b b' : AgentConn), c.contexts.find? conn = some b →
      (c.step e).2.contexts = c.contexts.insert conn b' → b'.id = b.id → b'.boot = b.boot →
      ∃ a', (c.step e).2.contexts.find? k = some a' ∧ a'.id = a.id ∧ a'.boot = a.boot := by
    intro conn b b' hb hcontexts hid hboot
    rw [hcontexts, OrdMap.find?_insert]
    split_ifs with hk
    · rw [hk] at ha
      obtain rfl := Option.some.inj (ha.symm.trans hb)
      exact ⟨b', rfl, hid, hboot⟩
    · exact ⟨a, ha, rfl, rfl⟩
  cases agent_effect hc e with
  | quiet _ hkept _ => exact ⟨a, by rw [hkept.contexts, ha], rfl, rfl⟩
  | closed _ _ _ _ _ _ _ hcontexts _ _ => exact ⟨a, by rw [hcontexts, ha], rfl, rfl⟩
  | accepted conn ctx _ _ _ hserves _ _ _ hcontexts _ _ =>
    exact replaced conn ctx _ hserves.context hcontexts rfl rfl
  | fenced conn ctx cur b _ _ _ _ hb _ _ hcontexts _ _ =>
    exact replaced cur b _ hb hcontexts rfl rfl
  | registered conn id boot _ _ hnew _ _ hcontexts _ _ =>
    have hk : k ≠ conn := by
      intro h
      rw [h, hnew] at ha
      cases ha
    exact ⟨a, by rw [hcontexts, OrdMap.find?_insert, if_neg hk, ha], rfl, rfl⟩

/-! ## The engine -/

/-- The calls that an event makes on the engine. -/
def engineCalls (c : Coordinator F) : CoordinatorEvent F → List (EngineCall F)
  | .client now (.evaluate d) => [⟨now, .setSnapshot (c.snapshotFor now d)⟩, ⟨now, .evaluate d⟩]
  | .client now (.commit id gen) => [⟨now, .commit id gen⟩]
  | .client now (.release id) => [⟨now, .release id⟩]
  | .client now (.observe o) => [⟨now, .observe o⟩]
  | .host now op => [⟨now, op.toEngine⟩]
  | _ => []

/-- An event changes the engine by its calls only. -/
theorem engine_step (c : Coordinator F) (e : CoordinatorEvent F) :
    (c.step e).2.engine = (Fabric.engine F).run c.engine (c.engineCalls e) := by
  cases e with
  | register conn id boot =>
    simp only [step, register]
    split_ifs <;> rfl
  | agent conn msg =>
    by_cases hserved : ∃ ctx, c.Serves conn ctx
    · obtain ⟨ctx, hserves⟩ := hserved
      rw [step_agent hserves]
      cases msg with
      | capacityUpdate epochVal snap =>
        simp only [handleAgent]
        split <;> rfl
      | _ => rfl
    · rw [(step_unserved (not_exists.mp hserved) msg).1]
      rfl
  | lost conn =>
    by_cases hserved : ∃ ctx, c.Serves conn ctx
    · obtain ⟨ctx, hserves⟩ := hserved
      rw [step_lost hserves]
      simp only [onAgentLoss]
      split
      · rfl
      · split
        · rfl
        · split_ifs <;> rfl
    · rw [(step_unserved (not_exists.mp hserved) .heartbeat).2]
      rfl
  | client now msg =>
    cases msg with
    | _ => rfl
  | host now op => rfl

/-- The engine of a reachable coordinator is reachable. -/
theorem engine_after (h : List (CoordinatorEvent F)) :
    ∃ calls, ((coordinator F).after h).engine = (Fabric.engine F).after calls := by
  induction h using List.reverseRecOn with
  | nil => exact ⟨[], rfl⟩
  | append_singleton h e ih =>
    obtain ⟨calls, hcalls⟩ := ih
    refine ⟨calls ++ ((coordinator F).after h).engineCalls e, ?_⟩
    rw [Machine.after_snoc, Machine.after_append, ← hcalls]
    exact engine_step _ e

theorem accounting_engine (h : List (CoordinatorEvent F)) :
    ((coordinator F).after h).engine.reservations.Accounting := by
  obtain ⟨calls, hcalls⟩ := engine_after h
  rw [hcalls]
  exact AdmissionFabric.accounting_after calls

end Coordinator

end Fabric

import Fabric.Agent.StartUp

/-!
# What agents and the coordinator agree on

In every run of a site, an agent knows which of its reports the coordinator has taken over: those
that were acknowledged, but for the one that is still under way or was cut off
(`reports_accounted`). A connection never carries more than one frame, and nothing while no call
waits for an answer (`one_frame_at_most`).
-/

namespace Fabric

open Support

variable {F : Type} [DoubleBits F]

/-! ## Sites and coordinators -/

namespace Site

/-- What an event of a site is to its server. -/
def events (s : Site F) : SiteEvent F → List (ServerEvent F)
  | .connect conn _ => [.accept conn]
  | .toCoordinator conn now =>
    match s.ends.find? conn with
    | none => []
    | some x => x.up.head?.toList.map fun f => f.delivery conn now
  | .lost conn =>
    match s.ends.find? conn with
    | none => []
    | some _ => [.lost conn]
  | .other e => if s.isOther e then [e] else []
  | .call _ _ | .toAgent _ | .leave _ => []

theorem step_server (s : Site F) (e : SiteEvent F) :
    (s.step e).2.server = (Fabric.server F).run s.server (s.events e) := by
  cases e with
  | connect conn a =>
    simp only [step, events]
    split_ifs with hknown
    · show _ = (s.server.step (.accept conn)).2
      rw [Server.step, if_pos hknown]
    · rfl
  | call conn c =>
    simp only [step]
    cases s.ends.find? conn <;> rfl
  | toCoordinator conn now =>
    simp only [step, events]
    cases s.ends.find? conn with
    | none => rfl
    | some x =>
      simp only
      cases x.up <;> rfl
  | toAgent conn =>
    simp only [step]
    cases s.ends.find? conn <;> rfl
  | leave conn =>
    simp only [step]
    cases s.ends.find? conn <;> rfl
  | lost conn =>
    simp only [step, events]
    cases s.ends.find? conn <;> rfl
  | other e =>
    simp only [step, events]
    split_ifs <;> rfl

end Site

theorem site_refines_server :
    Refines (site F) (server F) (fun _ => True) Site.server Site.events where
  start := trivial
  keeps _ _ _ := trivial
  init := rfl
  next s e _ := s.step_server e

/-- The site refines the coordinator. -/
theorem site_refines : Refines (site F) (coordinator F) (fun s => True ∧ s.server.Linked)
    (fun s => s.server.coordinator)
    (fun s e => (server F).calls Server.events s.server (s.events e)) :=
  site_refines_server.trans server_refines

/-- What the events of a history are to the coordinator. -/
def siteMessages (h : List (SiteEvent F)) : List (CoordinatorEvent F) :=
  (site F).calls (fun s e => (server F).calls Server.events s.server (s.events e)) {} h

theorem coordinator_of_site (h : List (SiteEvent F)) :
    ((site F).after h).server.coordinator = (coordinator F).after (siteMessages h) :=
  site_refines.after h

theorem site_linked (h : List (SiteEvent F)) : ((site F).after h).server.Linked :=
  (site_refines.holds h).2

/-! ## Ledgers -/

/-- The snapshots that an event makes the coordinator take over on a connection. -/
def Site.taken (conn : ConnId) (s : Site F) (e : SiteEvent F) : List ResourceSnapshot :=
  (coordinator F).log (Coordinator.takes conn) s.server.coordinator
    ((Fabric.server F).calls Server.events s.server (s.events e))

theorem takenOn_site_snoc (conn : ConnId) (h : List (SiteEvent F)) (e : SiteEvent F) :
    takenOn conn (siteMessages (h ++ [e])) =
      takenOn conn (siteMessages h) ++ ((site F).after h).taken conn e := by
  have hmessages : siteMessages (h ++ [e]) = siteMessages h ++ (server F).calls Server.events
      ((site F).after h).server (((site F).after h).events e) := Machine.calls_snoc _ _ _ _ _
  rw [hmessages, takenOn, Machine.log_append, Site.taken, coordinator_of_site]
  rfl

namespace Site

variable {s : Site F} {conn : ConnId} {e : SiteEvent F}

theorem taken_of_nil (h : s.events e = []) : s.taken conn e = [] := by
  rw [taken, h]
  rfl

theorem taken_of_event {e' : ServerEvent F} (h : s.events e = [e']) :
    s.taken conn e = s.server.taken conn e' := by
  rw [taken, h, Machine.calls_singleton]
  rfl

end Site

/-- The report that a call on the agent is about to return from, if it succeeds. -/
def AgentEnd.acknowledged (x : AgentEnd) : Option ResourceSnapshot :=
  match x.phase, x.receive.1 with
  | .reporting snap, some status => if status.isOk then some snap else none
  | _, _ => none

/-- The report that a call returns from with success. -/
def acknowledges (conn : ConnId) (s : Site F) : SiteEvent F → Option ResourceSnapshot
  | .toAgent k => if k = conn then (s.ends.find? conn).bind AgentEnd.acknowledged else none
  | _ => none

/-- The reports on a connection that returned with success, oldest first. -/
def acknowledgedOn (conn : ConnId) (h : List (SiteEvent F)) : List ResourceSnapshot :=
  (site F).log (acknowledges conn) {} h

/-- The report that a call is about. -/
def reports (conn : ConnId) : SiteEvent F → Option ResourceSnapshot
  | .call k (.sendCapacity snap) => if k = conn then some snap else none
  | _ => none

/-- The reports that were asked for on a connection, oldest first. -/
def reportedOn (conn : ConnId) (h : List (SiteEvent F)) : List ResourceSnapshot :=
  h.filterMap (reports conn)

theorem acknowledgedOn_snoc (conn : ConnId) (h : List (SiteEvent F)) (e : SiteEvent F) :
    acknowledgedOn conn (h ++ [e]) =
      acknowledgedOn conn h ++ (acknowledges conn ((site F).after h) e).toList := Machine.log_snoc

theorem reportedOn_snoc (conn : ConnId) (h : List (SiteEvent F)) (e : SiteEvent F) :
    reportedOn conn (h ++ [e]) = reportedOn conn h ++ (reports conn e).toList := by
  rw [reportedOn, List.filterMap_append, reportedOn]
  cases hreports : reports conn e <;> simp [hreports]

/-! ## What is under way -/

namespace AgentEnd

/-- The report that a call waits for the answer to. -/
def offer (x : AgentEnd) : List ResourceSnapshot :=
  match x.phase with
  | .reporting snap => [snap]
  | _ => []

/-- What is under way on a connection, with the snapshots that the coordinator has taken over and
the agent does not know of. -/
inductive Flight (s : Server F) (conn : ConnId) (x : AgentEnd) : List ResourceSnapshot → Prop
  /-- No call waits. -/
  | quiet (hup : x.up = []) (hdown : x.down = []) (hphase : x.phase = .idle ∨ x.phase = .running) :
    Flight s conn x []
  /-- The frame has not arrived. -/
  | asked (f : Frame) (hup : x.up = [f]) (hdown : x.down = []) (hwaits : x.waiting = true)
      (hoffer : f.carries.Sublist x.offer)
      (hkind : f.type = WireType.registerAgent.toRaw → x.phase = .registering) : Flight s conn x []
  /-- The answer has not arrived. -/
  | answered (g : Frame) (pending : List ResourceSnapshot) (hup : x.up = []) (hdown : x.down = [g])
      (hwaits : x.waiting = true) (hoffer : pending.Sublist x.offer)
      (hstatus : (Agent.onCapacityAnswer g).isOk = true ↔ pending ≠ []) : Flight s conn x pending
  /-- Nobody is going to answer. -/
  | dropped (hup : x.up = []) (hdown : x.down = []) (hwaits : x.waiting = true)
      (hclosed : s.isOpen conn = false) : Flight s conn x []
  /-- The agent has left. -/
  | left (pending : List ResourceSnapshot) (hphase : x.phase = .gone)
      (hone : pending.length + x.up.length ≤ 1) : Flight s conn x pending

end AgentEnd

/-- What the agent knows and what the coordinator has, `pending` apart. -/
structure Accounted (conn : ConnId) (h : List (SiteEvent F)) (x : AgentEnd)
    (pending : List ResourceSnapshot) : Prop where
  flight : x.Flight ((site F).after h).server conn pending
  taken : takenOn conn (siteMessages h) = acknowledgedOn conn h ++ pending
  reported : (takenOn conn (siteMessages h) ++ x.up.flatMap Frame.carries).Sublist
    (reportedOn conn h)
  accepted : ((site F).after h).server.peers.find? conn ≠ none

/-! ## One event -/

section Step

variable {conn : ConnId} {h : List (SiteEvent F)} {x x' : AgentEnd}
  {pending pending' : List ResourceSnapshot}

/-- What is known of a connection after an event, from what the event does there. -/
theorem Accounted.next (hx : Accounted conn h x pending) (e : SiteEvent F)
    {took acked : List ResourceSnapshot} (htook : ((site F).after h).taken conn e = took)
    (hacked : (acknowledges conn ((site F).after h) e).toList = acked)
    (hbalance : pending ++ took = acked ++ pending')
    (hcarried : (took ++ x'.up.flatMap Frame.carries).Sublist
      (x.up.flatMap Frame.carries ++ (reports conn e).toList))
    (hflight : x'.Flight ((site F).after (h ++ [e])).server conn pending')
    (haccepted : ((site F).after (h ++ [e])).server.peers.find? conn ≠ none) :
    Accounted conn (h ++ [e]) x' pending' where
  flight := hflight
  accepted := haccepted
  taken := by
    rw [takenOn_site_snoc, acknowledgedOn_snoc, htook, hacked, hx.taken, List.append_assoc,
      List.append_assoc, hbalance]
  reported := by
    rw [takenOn_site_snoc, reportedOn_snoc, htook, List.append_assoc]
    refine (List.Sublist.append (List.Sublist.refl _) hcarried).trans ?_
    rw [← List.append_assoc]
    exact List.Sublist.append hx.reported (List.Sublist.refl _)

theorem AgentEnd.Flight.server {s s' : Server F} (hf : x.Flight s conn pending)
    (h : s.isOpen conn = false → s'.isOpen conn = false) : x.Flight s' conn pending := by
  cases hf with
  | quiet hup hdown hphase => exact .quiet hup hdown hphase
  | asked f hup hdown hwaits hoffer hkind => exact .asked f hup hdown hwaits hoffer hkind
  | answered g _ hup hdown hwaits hoffer hstatus =>
    exact .answered g _ hup hdown hwaits hoffer hstatus
  | dropped hup hdown hwaits hclosed => exact .dropped hup hdown hwaits (h hclosed)
  | left _ hphase hone => exact .left _ hphase hone

/-- An event that is not about the connection leaves what is known of it alone. -/
theorem Accounted.aside (hx : Accounted conn h x pending) {e : SiteEvent F}
    (hserver : ∀ e' ∈ ((site F).after h).events e, e'.on ≠ some conn)
    (hlength : (((site F).after h).events e).length ≤ 1)
    (hacked : acknowledges conn ((site F).after h) e = none) :
    Accounted conn (h ++ [e]) x pending := by
  have hlinked := site_linked h
  have hstep : ((site F).after (h ++ [e])).server =
      (server F).run ((site F).after h).server (((site F).after h).events e) := by
    rw [Machine.after_snoc]
    exact Site.step_server _ e
  have hpeers : ((site F).after (h ++ [e])).server.peers.find? conn =
      ((site F).after h).server.peers.find? conn ∧ ((site F).after h).taken conn e = [] := by
    rw [hstep]
    cases hevents : ((site F).after h).events e with
    | nil => exact ⟨rfl, Site.taken_of_nil hevents⟩
    | cons e' es =>
      rw [hevents] at hserver hlength
      obtain rfl : es = [] :=
        List.eq_nil_of_length_eq_zero (Nat.le_zero.mp (Nat.le_of_succ_le_succ hlength))
      have hon := hserver e' List.mem_cons_self
      refine ⟨Server.peers_other hlinked e' hon, ?_⟩
      rw [Site.taken_of_event hevents]
      refine Server.taken_of_not_frame fun now f he => hon ?_
      rw [he]
      rfl
  refine hx.next e hpeers.2 (congrArg Option.toList hacked) ?_ (List.sublist_append_left _ _) ?_ ?_
  · exact List.append_nil pending
  · exact hx.flight.server fun hclosed => by rwa [Server.isOpen, hpeers.1]
  · rw [hpeers.1]
    exact hx.accepted

/-- A call that waits, or an agent that has left, takes no other call. -/
theorem AgentEnd.call_of_busy (c : AgentCall) (hidle : x.phase ≠ .idle) : x.call c = x := by
  unfold AgentEnd.call
  split
  · contradiction
  · rfl

theorem AgentEnd.phase_of_waiting (h : x.waiting = true) : x.phase ≠ .idle := by
  intro hphase
  rw [AgentEnd.waiting, hphase] at h
  cases h

/-- A frame is sent by an agent that waits for nothing. -/
theorem AgentEnd.flight_send {s : Server F} (hup : x.up = []) (hdown : x.down = [])
    (hphase : x.phase = .idle) {f : Frame} {p : AgentPhase}
    (hwaits : AgentEnd.waiting { x with phase := p } = true)
    (hoffer : f.sendable = true → f.carries.Sublist (AgentEnd.offer { x with phase := p }))
    (hkind : f.type = WireType.registerAgent.toRaw → p = .registering) :
    (x.send f p).Flight s conn [] ∧ ((x.send f p).up.flatMap Frame.carries).Sublist
      (AgentEnd.offer { x with phase := p }) := by
  unfold AgentEnd.send
  split_ifs with hsendable
  · have hup' : x.up ++ [f] = [f] := by rw [hup, List.nil_append]
    refine ⟨.asked f hup' hdown hwaits (hoffer hsendable) hkind, ?_⟩
    show ((x.up ++ [f]).flatMap Frame.carries).Sublist _
    rw [hup', List.flatMap_singleton]
    exact hoffer hsendable
  · refine ⟨.quiet hup hdown (.inl hphase), ?_⟩
    rw [hup]
    exact List.nil_sublist _

/-- A call is made. -/
theorem AgentEnd.Flight.call {s : Server F} (hf : x.Flight s conn pending) (c : AgentCall) :
    (x.call c).Flight s conn pending ∧ ((x.call c).up.flatMap Frame.carries).Sublist
      (x.up.flatMap Frame.carries ++ (reports conn (.call conn c : SiteEvent F)).toList) := by
  by_cases hidle : x.phase = .idle
  · cases hf with
    | asked _ _ _ hwaits _ _ | answered _ _ _ _ hwaits _ _ | dropped _ _ hwaits _ =>
      exact absurd hidle (AgentEnd.phase_of_waiting hwaits)
    | left _ hphase _ =>
      rw [hidle] at hphase
      cases hphase
    | quiet hup hdown _ =>
      rw [hup]
      cases c with
      | run =>
        simp only [AgentEnd.call, hidle]
        refine ⟨.quiet hup hdown (.inr rfl), ?_⟩
        rw [hup]
        exact List.nil_sublist _
      | registerSelf =>
        simp only [AgentEnd.call, hidle]
        exact AgentEnd.flight_send hup hdown hidle rfl (fun _ => List.nil_sublist _) fun _ => rfl
      | sendCapacity snap =>
        have hreports : (reports conn (.call conn (.sendCapacity snap) : SiteEvent F)).toList =
            [snap] := by rw [reports, if_pos rfl]; rfl
        rw [hreports]
        simp only [AgentEnd.call, hidle]
        exact AgentEnd.flight_send hup hdown hidle rfl x.agent.carries_capacityFrame
          fun h => absurd (WireType.toRaw_injective h) (by decide)
  · rw [AgentEnd.call_of_busy c hidle]
    exact ⟨hf, List.sublist_append_left _ _⟩

theorem AgentEnd.length_offer (x : AgentEnd) : x.offer.length ≤ 1 := by
  unfold AgentEnd.offer
  split
  · exact Nat.le_refl _
  · exact Nat.zero_le _

/-- At most one report is taken over without the agent knowing. -/
theorem AgentEnd.Flight.length_pending {s : Server F} (hf : x.Flight s conn pending) :
    pending.length ≤ 1 := by
  cases hf with
  | quiet _ _ _ | asked _ _ _ _ _ _ | dropped _ _ _ _ => exact Nat.zero_le _
  | answered g _ _ _ _ hoffer _ => exact Nat.le_trans hoffer.length_le x.length_offer
  | left _ _ hone => exact Nat.le_trans (Nat.le_add_right _ _) hone

/-- Nothing is under way while no call waits. -/
theorem AgentEnd.Flight.quiet_of_phase {s : Server F} (hf : x.Flight s conn pending)
    (hphase : x.phase = .idle ∨ x.phase = .running) :
    x.up = [] ∧ x.down = [] ∧ pending = [] := by
  have hwaits : x.waiting = false := by
    rcases hphase with hphase | hphase <;> rw [AgentEnd.waiting, hphase]
  cases hf with
  | quiet hup hdown _ => exact ⟨hup, hdown, rfl⟩
  | asked _ _ _ h _ _ | answered _ _ _ _ h _ _ | dropped _ _ h _ =>
    rw [hwaits] at h
    cases h
  | left _ hgone _ => rcases hphase with hphase | hphase <;> rw [hgone] at hphase <;> cases hphase

/-- The agent's socket is closed. -/
theorem AgentEnd.Flight.leave {s : Server F} (hf : x.Flight s conn pending) :
    x.leave.2.Flight s conn pending := by
  refine .left _ rfl ?_
  show pending.length + x.up.length ≤ 1
  have hpending := hf.length_pending
  cases hf with
  | quiet hup _ _ | dropped hup _ _ _ =>
    rw [hup]
    exact Nat.zero_le _
  | asked f hup _ _ _ _ =>
    rw [hup]
    exact Nat.le_refl _
  | answered g _ hup _ _ _ _ =>
    rw [hup]
    exact hpending
  | left _ _ hone => exact hone

/-- The receive of the coordinator fails, and what was sent is lost. -/
theorem AgentEnd.Flight.lost {s s' : Server F} (hf : x.Flight s conn pending)
    (hclosed : s'.isOpen conn = false) : AgentEnd.Flight s' conn { x with up := [] } pending := by
  cases hf with
  | quiet _ hdown hphase => exact .quiet rfl hdown hphase
  | asked _ _ hdown hwaits _ _ => exact .dropped rfl hdown hwaits hclosed
  | answered g _ _ hdown hwaits hoffer hstatus =>
    exact .answered g _ rfl hdown hwaits hoffer hstatus
  | dropped _ hdown hwaits _ => exact .dropped rfl hdown hwaits hclosed
  | left _ hphase hone => exact .left _ hphase (Nat.le_trans (Nat.le_add_right _ _) hone)

/-- The agent receives, which settles what was pending. -/
theorem AgentEnd.Flight.receive {s : Server F} (hf : x.Flight s conn pending) :
    ∃ rest, x.receive.2.Flight s conn rest ∧ pending = x.acknowledged.toList ++ rest ∧
      x.receive.2.up = x.up := by
  have hnothing : x.receive = (none, x) → ∃ rest, x.receive.2.Flight s conn rest ∧
      pending = x.acknowledged.toList ++ rest ∧ x.receive.2.up = x.up := by
    intro hreceive
    have hnone : x.acknowledged = none := by
      unfold AgentEnd.acknowledged
      rw [hreceive]
      split
      · contradiction
      · rfl
    rw [hnone, hreceive]
    exact ⟨pending, hf, rfl, rfl⟩
  cases hf with
  | quiet _ hdown _ | asked _ _ hdown _ _ _ | dropped _ hdown _ _ =>
    exact hnothing (by rw [AgentEnd.receive, hdown])
  | left _ hphase _ =>
    refine hnothing ?_
    unfold AgentEnd.receive
    rw [hphase]
    split <;> rfl
  | answered g _ hup hdown hwaits hoffer hstatus =>
    cases hphase : x.phase with
    | idle | running | gone =>
      rw [AgentEnd.waiting, hphase] at hwaits
      cases hwaits
    | registering =>
      have hreceive : x.receive = (some (x.agent.onRegisterAnswer g).1,
          { x with agent := (x.agent.onRegisterAnswer g).2, phase := .idle, down := [] }) := by
        simp only [AgentEnd.receive, hdown, hphase]
      have hpending : pending = [] := by
        rw [AgentEnd.offer, hphase] at hoffer
        exact List.sublist_nil.mp hoffer
      have hnone : x.acknowledged = none := by rw [AgentEnd.acknowledged, hphase]
      rw [hreceive, hnone, hpending]
      exact ⟨[], .quiet hup rfl (.inl rfl), rfl, rfl⟩
    | reporting snap =>
      have hreceive : x.receive =
          (some (Agent.onCapacityAnswer g), { x with phase := .idle, down := [] }) := by
        simp only [AgentEnd.receive, hdown, hphase]
      have hacked : x.acknowledged =
          if (Agent.onCapacityAnswer g).isOk then some snap else none := by
        rw [AgentEnd.acknowledged, hreceive, hphase]
      rw [AgentEnd.offer, hphase] at hoffer
      refine ⟨[], ?_, ?_, ?_⟩
      · rw [hreceive]
        exact .quiet hup rfl (.inl rfl)
      · rw [hacked, List.append_nil]
        split_ifs with hok
        · rcases List.sublist_singleton.mp hoffer with hnil | hone
          · exact absurd hnil (hstatus.mp hok)
          · exact hone
        · exact not_not.mp (mt hstatus.mpr hok)
      · rw [hreceive]

/-- What becomes of a frame that is delivered. -/
theorem Server.delivered {s : Server F} (hs : s.Linked) (f : Frame) (conn : ConnId)
    (now : TimePoint) :
    (s.taken conn (f.delivery conn now) = [] ∧ ∀ g, (s.step (f.delivery conn now)).1 = some g →
        (Agent.onCapacityAnswer g).isOk = false) ∨
      ∃ snap g, s.taken conn (f.delivery conn now) = [snap] ∧
        f.agentMessage = .capacityUpdate s.coordinator.epoch.value snap ∧
        (s.step (f.delivery conn now)).1 = some g ∧ (Agent.onCapacityAnswer g).isOk = true := by
  unfold Frame.delivery
  split_ifs
  · exact Server.report_turn hs conn now f
  · refine .inl ⟨Server.taken_of_not_frame fun _ _ h => (by cases h), fun g hg => ?_⟩
    cases hg

/-- A frame that is not answered finds the connection closed, or closes it. -/
theorem Server.closed_of_unanswered {s : Server F} (hs : s.Linked) {f : Frame} {conn : ConnId}
    {now : TimePoint} (h : (s.step (f.delivery conn now)).1 = none) :
    (s.step (f.delivery conn now)).2.isOpen conn = false := by
  unfold Frame.delivery at h ⊢
  split_ifs at h ⊢
  · cases Server.frame_effect hs conn now f with
    | ignored hclosed _ hstep => rwa [hstep]
    | dropped _ _ _ hstep =>
      rw [hstep, Server.close, Server.isOpen, Server.find?_peers, if_pos rfl]
    | answered g _ _ hsome _ _ _ =>
      rw [h] at hsome
      cases hsome
  · rcases Server.peers_lost hs conn with ⟨hnone, -⟩ | ⟨-, hclosed⟩
    · rw [Server.isOpen, hnone]
    · rw [Server.isOpen, hclosed]

theorem Frame.length_carries (f : Frame) : f.carries.length ≤ 1 := by
  unfold Frame.carries
  split
  · exact Nat.le_refl _
  · exact Nat.zero_le _

/-- The first frame under way arrives. -/
theorem AgentEnd.Flight.arrive {s : Server F} (hs : s.Linked) (hf : x.Flight s conn pending)
    {f : Frame} {up : List Frame} (hup : x.up = f :: up) (now : TimePoint) :
    AgentEnd.Flight (s.step (f.delivery conn now)).2 conn
        { x with up, down := x.down ++ (s.step (f.delivery conn now)).1.toList }
        (pending ++ s.taken conn (f.delivery conn now)) ∧
      (s.taken conn (f.delivery conn now)).Sublist f.carries := by
  have hdelivered := Server.delivered hs f conn now
  have htaken : (s.taken conn (f.delivery conn now)).Sublist f.carries := by
    rcases hdelivered with ⟨hnil, -⟩ | ⟨snap, g, htaken, hmessage, -, -⟩
    · rw [hnil]
      exact List.nil_sublist _
    · rw [htaken, Frame.carries_of_message hmessage]
  refine ⟨?_, htaken⟩
  cases hf with
  | quiet hnil _ _ | answered _ _ hnil _ _ _ _ | dropped hnil _ _ _ =>
    rw [hup] at hnil
    cases hnil
  | left _ hphase hone =>
    rw [hup, List.length_cons] at hone
    refine .left _ hphase ?_
    have hlength := Nat.le_trans htaken.length_le f.length_carries
    rw [List.length_append]
    show pending.length + _ + up.length ≤ 1
    omega
  | asked f' hone hdown hwaits hoffer _ =>
    rw [hup] at hone
    obtain ⟨rfl, rfl⟩ := List.cons.inj hone
    rw [hdown, List.nil_append, List.nil_append]
    cases hanswer : (s.step (f.delivery conn now)).1 with
    | none =>
      rcases hdelivered with ⟨hnil, -⟩ | ⟨_, _, -, -, hsome, -⟩
      · rw [hnil]
        exact .dropped rfl rfl hwaits (Server.closed_of_unanswered hs hanswer)
      · rw [hanswer] at hsome
        cases hsome
    | some g =>
      refine .answered g _ rfl rfl hwaits (htaken.trans hoffer) ?_
      rcases hdelivered with ⟨hnil, hrefused⟩ | ⟨snap, g', htaken', -, hsome, hok⟩
      · rw [hnil, hrefused g hanswer]
        exact iff_of_false Bool.false_ne_true (not_not.mpr rfl)
      · obtain rfl := Option.some.inj (hanswer.symm.trans hsome)
        rw [htaken']
        exact iff_of_true hok (List.cons_ne_nil _ _)

end Step

/-! ## A whole run -/

/-- The agent's connection that an event is about. -/
def SiteEvent.on : SiteEvent F → Option ConnId
  | connect conn _ | call conn _ | toCoordinator conn _ | toAgent conn | leave conn | lost conn =>
    some conn
  | other _ => none

namespace Site

variable {s : Site F} {conn : ConnId} {e : SiteEvent F}

theorem length_events (s : Site F) (e : SiteEvent F) : (s.events e).length ≤ 1 := by
  cases e with
  | connect conn a => exact Nat.le_refl _
  | call conn c | toAgent conn | leave conn => exact Nat.zero_le _
  | lost conn =>
    simp only [events]
    split
    · exact Nat.zero_le _
    · exact Nat.le_refl _
  | other e =>
    simp only [events]
    split_ifs
    · exact Nat.le_refl _
    · exact Nat.zero_le _
  | toCoordinator conn now =>
    simp only [events]
    split
    · exact Nat.zero_le _
    · rw [List.length_map]
      exact Option.length_toList_le

/-- To the server an event is nothing, or one event. -/
theorem events_cases (s : Site F) (e : SiteEvent F) :
    s.events e = [] ∧ (s.step e).2.server = s.server ∨
      ∃ e', s.events e = [e'] ∧ (s.step e).2.server = (s.server.step e').2 := by
  have hlength := s.length_events e
  rw [step_server]
  cases hevents : s.events e with
  | nil => exact .inl ⟨rfl, rfl⟩
  | cons e' es =>
    rw [hevents] at hlength
    obtain rfl : es = [] :=
      List.eq_nil_of_length_eq_zero (Nat.le_zero.mp (Nat.le_of_succ_le_succ hlength))
    exact .inr ⟨e', rfl, rfl⟩

theorem find?_ends {k : ConnId} {x : AgentEnd} (hk : some k ≠ some conn) :
    (s.ends.insert k x).find? conn = s.ends.find? conn := by
  rw [OrdMap.find?_insert, if_neg fun h => hk (congrArg some h.symm)]

/-- An event leaves the ends of other connections alone. -/
theorem ends_other (hon : e.on ≠ some conn) :
    (s.step e).2.ends.find? conn = s.ends.find? conn := by
  cases e with
  | connect k a =>
    simp only [step]
    split_ifs
    · rfl
    · exact find?_ends hon
  | call k c | toAgent k | leave k | lost k =>
    simp only [step]
    split
    · rfl
    · exact find?_ends hon
  | toCoordinator k now =>
    simp only [step]
    split
    · rfl
    · split
      · rfl
      · exact find?_ends hon
  | other e =>
    simp only [step]
    split_ifs <;> rfl

/-- What an event is to the server is not about other agents' connections. -/
theorem events_other (hon : e.on ≠ some conn) (hend : s.ends.find? conn ≠ none) :
    ∀ e' ∈ s.events e, e'.on ≠ some conn := by
  intro e' he'
  cases e with
  | call k c | toAgent k | leave k => cases he'
  | connect k a =>
    rw [List.mem_singleton.mp he']
    exact hon
  | lost k =>
    simp only [events] at he'
    split at he'
    · cases he'
    · rw [List.mem_singleton.mp he']
      exact hon
  | toCoordinator k now =>
    simp only [events] at he'
    split at he'
    · cases he'
    · obtain ⟨f, -, rfl⟩ := List.mem_map.mp he'
      unfold Frame.delivery
      split_ifs <;> exact hon
  | other e =>
    simp only [events] at he'
    split_ifs at he' with hother
    · rw [List.mem_singleton.mp he']
      intro hon
      have hcontains : s.ends.contains conn = true :=
        OrdMap.contains_iff.mpr (Option.ne_none_iff_exists'.mp hend)
      simp only [isOther, hon, hcontains] at hother
      cases hother
    · cases he'

theorem acknowledges_other (hon : e.on ≠ some conn) : acknowledges conn s e = none := by
  cases e with
  | toAgent k => exact if_neg fun h => hon (congrArg some h)
  | _ => rfl

/-- Without an end, only a connection that is made matters. -/
theorem step_of_no_end (hend : s.ends.find? conn = none) (hon : e.on = some conn)
    (hnew : ∀ a, e ≠ .connect conn a) :
    (s.step e).2 = s ∧ acknowledges conn s e = none := by
  cases e with
  | connect k a =>
    obtain rfl := Option.some.inj hon
    exact absurd rfl (hnew a)
  | call k c | leave k | lost k | toCoordinator k now =>
    obtain rfl := Option.some.inj hon
    simp only [step, hend]
    exact ⟨trivial, rfl⟩
  | toAgent k =>
    obtain rfl := Option.some.inj hon
    refine ⟨by simp only [step, hend], ?_⟩
    rw [acknowledges, if_pos rfl, hend]
    rfl
  | other e => cases hon

end Site

/-- What is known of a connection. -/
structure Known (conn : ConnId) (h : List (SiteEvent F)) : Prop where
  unused : ((site F).after h).ends.find? conn = none → acknowledgedOn conn h = []
  accounted : ∀ x, ((site F).after h).ends.find? conn = some x →
    ∃ pending, Accounted conn h x pending

section Run

variable {conn : ConnId} {h : List (SiteEvent F)} {x : AgentEnd} {pending : List ResourceSnapshot}

theorem Known.here {e : SiteEvent F}
    (hend : ((site F).after (h ++ [e])).ends.find? conn = some x)
    (haccounted : Accounted conn (h ++ [e]) x pending) : Known conn (h ++ [e]) := by
  refine ⟨fun hnone => ?_, fun x' hx' => ⟨pending, ?_⟩⟩
  · rw [hend] at hnone
    cases hnone
  · obtain rfl := Option.some.inj (hend.symm.trans hx')
    exact haccounted

/-- An event elsewhere. -/
theorem Known.elsewhere (hk : Known conn h) {e : SiteEvent F} (hon : e.on ≠ some conn) :
    Known conn (h ++ [e]) := by
  have hends : ((site F).after (h ++ [e])).ends.find? conn = ((site F).after h).ends.find? conn := by
    rw [Machine.after_snoc]
    exact Site.ends_other hon
  have hacked := Site.acknowledges_other (s := (site F).after h) hon
  cases hend : ((site F).after h).ends.find? conn with
  | none =>
    refine ⟨fun _ => ?_, fun x hx => ?_⟩
    · rw [acknowledgedOn_snoc, hacked, hk.unused hend]
      rfl
    · rw [hends, hend] at hx
      cases hx
  | some x =>
    obtain ⟨pending, haccounted⟩ := hk.accounted x hend
    have hserver := Site.events_other (s := (site F).after h) hon
      (by rw [hend]; exact Option.some_ne_none x)
    exact .here (hends.trans hend) (haccounted.aside hserver (Site.length_events _ e) hacked)

/-- An agent connects, if the name is new. -/
theorem Known.connect (hk : Known conn h) (a : Agent) : Known conn (h ++ [.connect conn a]) := by
  have hafter : (site F).after (h ++ [.connect conn a]) =
      (((site F).after h).step (.connect conn a)).2 := Machine.after_snoc _ _ _
  have htaken : ((site F).after h).taken conn (.connect conn a) = [] := by
    rw [Site.taken_of_event rfl]
    exact Server.taken_of_not_frame fun _ _ h => by cases h
  by_cases hknown : ((site F).after h).server.peers.contains conn = true
  · -- The name is in use, and nothing happens.
    rw [Site.step, if_pos hknown] at hafter
    cases hend : ((site F).after h).ends.find? conn with
    | none =>
      refine ⟨fun _ => ?_, fun x hx => ?_⟩
      · rw [acknowledgedOn_snoc, hk.unused hend]
        rfl
      · rw [hafter, hend] at hx
        cases hx
    | some x =>
      obtain ⟨pending, haccounted⟩ := hk.accounted x hend
      refine .here (by rw [hafter, hend]) (haccounted.next (.connect conn a) htaken rfl
        (List.append_nil _) (List.sublist_append_left _ _) ?_ ?_)
      · rw [hafter]
        exact haccounted.flight
      · rw [hafter]
        exact haccounted.accepted
  · rw [Site.step, if_neg hknown] at hafter
    have hnone : ((site F).after h).server.peers.find? conn = none :=
      OrdMap.contains_eq_false_iff.mp (by simpa using hknown)
    have hend : ((site F).after h).ends.find? conn = none := by
      refine Option.eq_none_iff_forall_ne_some.mpr fun x hx => ?_
      obtain ⟨pending, haccounted⟩ := hk.accounted x hx
      exact haccounted.accepted hnone
    -- The coordinator has never heard of the connection.
    have hctx : ((site F).after h).server.coordinator.contexts.find? conn = none :=
      (site_linked h).unknown (by rw [hnone]; decide) (by rw [hnone]; decide)
    rw [coordinator_of_site] at hctx
    have htakenOn : takenOn conn (siteMessages h) = [] := (reflects_after conn _).unknown hctx
    have hfind : ((site F).after (h ++ [.connect conn a])).ends.find? conn =
        some { agent := a } := by
      rw [hafter]
      exact OrdMap.find?_insert_self _ _ _
    have hnew : Accounted conn (h ++ [.connect conn a]) { agent := a } [] := by
      refine ⟨.quiet rfl rfl (.inl rfl), ?_, ?_, ?_⟩
      · rw [takenOn_site_snoc, acknowledgedOn_snoc, htakenOn, htaken, hk.unused hend]
        rfl
      · rw [takenOn_site_snoc, htakenOn, htaken]
        exact List.nil_sublist _
      · rw [hafter]
        rcases Server.peers_accept ((site F).after h).server conn with ⟨-, hknown⟩ | ⟨-, hfresh⟩
        · exact absurd hnone hknown
        · show (((site F).after h).server.step (.accept conn)).2.peers.find? conn ≠ none
          rw [hfresh]
          exact Option.some_ne_none _
    exact .here hfind hnew

/-- What happens at the agent's end. -/
theorem Known.local (hx : Accounted conn h x pending) (x' : AgentEnd) {e : SiteEvent F}
    {rest acked : List ResourceSnapshot} (hevents : ((site F).after h).events e = [])
    (hstep : (((site F).after h).step e).2.ends = ((site F).after h).ends.insert conn x')
    (hserver : (((site F).after h).step e).2.server = ((site F).after h).server)
    (hacked : (acknowledges conn ((site F).after h) e).toList = acked)
    (hpending : pending = acked ++ rest)
    (hcarried : (x'.up.flatMap Frame.carries).Sublist
      (x.up.flatMap Frame.carries ++ (reports conn e).toList))
    (hflight : x'.Flight ((site F).after h).server conn rest) : Known conn (h ++ [e]) := by
  have hafter : ((site F).after (h ++ [e])).server = ((site F).after h).server := by
    rw [Machine.after_snoc]
    exact hserver
  have hend : ((site F).after (h ++ [e])).ends.find? conn = some x' := by
    rw [Machine.after_snoc]
    show (((site F).after h).step e).2.ends.find? conn = some x'
    rw [hstep]
    exact OrdMap.find?_insert_self _ _ _
  have hnext : Accounted conn (h ++ [e]) x' rest := by
    refine hx.next e (Site.taken_of_nil hevents) hacked ?_ hcarried ?_ ?_
    · rw [List.append_nil]
      exact hpending
    · rw [hafter]
      exact hflight
    · rw [hafter]
      exact hx.accepted
  exact .here hend hnext

/-- What happens at the coordinator's end. -/
theorem Known.remote (hx : Accounted conn h x pending) (x' : AgentEnd) {e : SiteEvent F}
    (e' : ServerEvent F)
    (hevents : ((site F).after h).events e = [e'])
    (hstep : (((site F).after h).step e).2.ends = ((site F).after h).ends.insert conn x')
    (hacked : acknowledges conn ((site F).after h) e = none)
    (hpeers : (((site F).after h).server.step e').2.peers.find? conn ≠ none)
    (hcarried : (((site F).after h).server.taken conn e' ++ x'.up.flatMap Frame.carries).Sublist
      (x.up.flatMap Frame.carries))
    (hflight : x'.Flight (((site F).after h).server.step e').2 conn
      (pending ++ ((site F).after h).server.taken conn e')) : Known conn (h ++ [e]) := by
  have hafter : ((site F).after (h ++ [e])).server = (((site F).after h).server.step e').2 := by
    rw [Machine.after_snoc]
    have hserver := Site.step_server ((site F).after h) e
    rw [hevents] at hserver
    exact hserver
  have hend : ((site F).after (h ++ [e])).ends.find? conn = some x' := by
    rw [Machine.after_snoc]
    show (((site F).after h).step e).2.ends.find? conn = some x'
    rw [hstep]
    exact OrdMap.find?_insert_self _ _ _
  have hnext : Accounted conn (h ++ [e]) x'
      (pending ++ ((site F).after h).server.taken conn e') := by
    refine hx.next e (Site.taken_of_event hevents) (congrArg Option.toList hacked) rfl ?_ ?_ ?_
    · exact hcarried.trans (List.sublist_append_left _ _)
    · rw [hafter]
      exact hflight
    · rw [hafter]
      exact hpeers
  exact .here hend hnext

/-- The connection stays known to the server. -/
theorem Server.peers_kept {s : Server F} (hs : s.Linked) (h : s.peers.find? conn ≠ none)
    (f : Frame) (now : TimePoint) : (s.step (f.delivery conn now)).2.peers.find? conn ≠ none := by
  unfold Frame.delivery
  split_ifs
  · cases Server.frame_effect hs conn now f with
    | ignored _ _ hstep => rwa [hstep]
    | dropped _ _ _ hstep =>
      rw [hstep, Server.close, Server.find?_peers, if_pos rfl]
      exact Option.some_ne_none _
    | answered _ _ _ _ _ _ hpeers =>
      rw [hpeers, Server.find?_peers, if_pos rfl]
      exact Option.some_ne_none _
  · rcases Server.peers_lost hs conn with ⟨-, hnone⟩ | ⟨-, hclosed⟩
    · exact absurd hnone h
    · rw [hclosed]
      exact Option.some_ne_none _

theorem Known.toCoordinator (hx : Accounted conn h x pending)
    (hend : ((site F).after h).ends.find? conn = some x) (now : TimePoint) :
    Known conn (h ++ [.toCoordinator conn now]) := by
  have hlinked := site_linked h
  cases hup : x.up with
  | nil =>
    -- Nothing has been sent.
    refine .local hx x ?_ ?_ ?_ rfl rfl (List.sublist_append_left _ _) hx.flight
    · simp only [Site.events, hend, hup]
      rfl
    · simp only [Site.step, hend, hup]
      exact (OrdMap.insert_eq_self hend).symm
    · simp only [Site.step, hend, hup]
  | cons f up =>
    obtain ⟨hflight, htaken⟩ := hx.flight.arrive hlinked hup now
    refine .remote hx _ (f.delivery conn now) ?_ ?_ rfl
      (Server.peers_kept hlinked hx.accepted f now) ?_ hflight
    · simp only [Site.events, hend, hup]
      rfl
    · simp only [Site.step, hend, hup]
    · rw [hup, List.flatMap_cons]
      exact htaken.append (List.Sublist.refl _)

theorem Known.lost (hx : Accounted conn h x pending)
    (hend : ((site F).after h).ends.find? conn = some x) : Known conn (h ++ [.lost conn]) := by
  have htaken : ((site F).after h).server.taken conn (.lost conn) = [] :=
    Server.taken_of_not_frame fun _ _ h => by cases h
  obtain ⟨hpeers, hclosed⟩ : ((((site F).after h).server.step (.lost conn)).2.peers.find? conn ≠
      none) ∧ (((site F).after h).server.step (.lost conn)).2.isOpen conn = false := by
    rcases Server.peers_lost (site_linked h) conn with ⟨-, hnone⟩ | ⟨-, hclosed⟩
    · exact absurd hnone hx.accepted
    · rw [Server.isOpen, hclosed]
      exact ⟨Option.some_ne_none _, rfl⟩
  refine .remote hx { x with up := [] } (.lost conn) ?_ ?_ rfl hpeers ?_ ?_
  · simp only [Site.events, hend]
  · simp only [Site.step, hend]
  · rw [htaken]
    exact List.nil_sublist _
  · rw [htaken, List.append_nil]
    exact hx.flight.lost hclosed

theorem known_after (conn : ConnId) (h : List (SiteEvent F)) : Known conn h := by
  induction h using List.reverseRecOn with
  | nil => exact ⟨fun _ => rfl, fun x hx => by cases hx⟩
  | append_singleton h e ih =>
    by_cases hon : e.on = some conn
    · cases hend : ((site F).after h).ends.find? conn with
      | none =>
        by_cases hnew : ∃ a, e = .connect conn a
        · obtain ⟨a, rfl⟩ := hnew
          exact ih.connect a
        · obtain ⟨hstep, hacked⟩ := Site.step_of_no_end hend hon fun a h => hnew ⟨a, h⟩
          have hafter : (site F).after (h ++ [e]) = (site F).after h := by
            rw [Machine.after_snoc]
            exact hstep
          refine ⟨fun _ => ?_, fun x hx => ?_⟩
          · rw [acknowledgedOn_snoc, hacked, ih.unused hend]
            rfl
          · rw [hafter, hend] at hx
            cases hx
      | some x =>
        obtain ⟨pending, hx⟩ := ih.accounted x hend
        cases e with
        | connect k a =>
          obtain rfl := Option.some.inj hon
          exact ih.connect a
        | call k c =>
          obtain rfl := Option.some.inj hon
          obtain ⟨hflight, hcarried⟩ := hx.flight.call c
          refine .local hx (x.call c) rfl ?_ ?_ rfl rfl hcarried hflight
          · simp only [Site.step, hend]
          · simp only [Site.step, hend]
        | toCoordinator k now =>
          obtain rfl := Option.some.inj hon
          exact .toCoordinator hx hend now
        | toAgent k =>
          obtain rfl := Option.some.inj hon
          obtain ⟨rest, hflight, hpending, hup⟩ := hx.flight.receive
          refine .local hx x.receive.2 rfl ?_ ?_ ?_ hpending ?_ hflight
          · simp only [Site.step, hend]
          · simp only [Site.step, hend]
          · rw [acknowledges, if_pos rfl, hend]
            rfl
          · rw [hup]
            exact List.sublist_append_left _ _
        | leave k =>
          obtain rfl := Option.some.inj hon
          refine .local hx x.leave.2 rfl ?_ ?_ rfl rfl (List.sublist_append_left _ _)
            hx.flight.leave
          · simp only [Site.step, hend]
          · simp only [Site.step, hend]
        | lost k =>
          obtain rfl := Option.some.inj hon
          exact .lost hx hend
        | other e => cases hon
    · exact ih.elsewhere hon

end Run

/-- In every run of a site, what the coordinator has taken over on an agent's connection is what was
acknowledged to the agent, in order and once each, but for at most one report; it is part of what
the agent was asked to report; there is no exception while the agent is idle or in `run`; and what
the coordinator holds for the connection is the last report that it has taken over. -/
theorem reports_accounted (h : List (SiteEvent F)) (conn : ConnId) (x : AgentEnd)
    (hx : ((site F).after h).ends.find? conn = some x) :
    (∃ pending, takenOn conn (siteMessages h) = acknowledgedOn conn h ++ pending ∧
        pending.length ≤ 1 ∧ (x.phase = .idle ∨ x.phase = .running → pending = [])) ∧
      (takenOn conn (siteMessages h)).Sublist (reportedOn conn h) ∧
      ∀ ctx, ((site F).after h).server.coordinator.contexts.find? conn = some ctx →
        ctx.snapshot = (takenOn conn (siteMessages h)).getLast?.getD {} := by
  obtain ⟨pending, haccounted⟩ := (known_after conn h).accounted x hx
  refine ⟨⟨pending, haccounted.taken, haccounted.flight.length_pending, fun hphase => ?_⟩,
    (List.sublist_append_left _ _).trans haccounted.reported, fun ctx hctx => ?_⟩
  · exact (haccounted.flight.quiet_of_phase hphase).2.2
  · rw [coordinator_of_site] at hctx
    exact ((reflects_after conn _).last ctx hctx).1

theorem reports_accounted_morning : ∃ pending,
    takenOn 0 (siteMessages Sample.morning) = acknowledgedOn 0 Sample.morning ++ pending ∧
      pending = [] := by
  obtain ⟨pending, htaken, -, hpending⟩ := (reports_accounted Sample.morning 0 _
    (by rw [Sample.after_morning]; exact OrdMap.find?_insert_self _ _ _)).1
  exact ⟨pending, htaken, hpending (.inr rfl)⟩

/-- In every run of a site, nothing is under way on the connection of an agent that is idle or in
`run`; and while a call waits, exactly its frame or the answer is, unless the coordinator is done
with the connection. -/
theorem one_frame_at_most (h : List (SiteEvent F)) (conn : ConnId) (x : AgentEnd)
    (hx : ((site F).after h).ends.find? conn = some x) :
    (x.phase = .idle ∨ x.phase = .running → x.up = [] ∧ x.down = []) ∧
      (x.waiting = true → x.up.length + x.down.length = 1 ∨
        x.up = [] ∧ x.down = [] ∧ ((site F).after h).server.isOpen conn = false) := by
  obtain ⟨pending, haccounted⟩ := (known_after conn h).accounted x hx
  refine ⟨fun hphase => ?_, fun hwaits => ?_⟩
  · obtain ⟨hup, hdown, -⟩ := haccounted.flight.quiet_of_phase hphase
    exact ⟨hup, hdown⟩
  · cases haccounted.flight with
    | asked f hup hdown _ _ _ => exact .inl (by rw [hup, hdown]; rfl)
    | answered g _ hup hdown _ _ _ => exact .inl (by rw [hup, hdown]; rfl)
    | dropped hup hdown _ hclosed => exact .inr ⟨hup, hdown, hclosed⟩
    | quiet _ _ hphase =>
      unfold AgentEnd.waiting at hwaits
      rcases hphase with hphase | hphase <;> rw [hphase] at hwaits <;> cases hwaits
    | left _ hphase _ =>
      rw [AgentEnd.waiting, hphase] at hwaits
      cases hwaits

theorem one_frame_at_most_morning : ∃ x,
    ((site Binary64).after Sample.morning).ends.find? 0 = some x ∧ x.up = [] ∧ x.down = [] := by
  have hx : ((site Binary64).after Sample.morning).ends.find? 0 =
      some { agent := Sample.agentArgs.agent, phase := .running } := by
    rw [Sample.after_morning]
    exact OrdMap.find?_insert_self _ _ _
  exact ⟨_, hx, (one_frame_at_most Sample.morning 0 _ hx).1 (.inr rfl)⟩

end Fabric

import Fabric.Coordinator.Dispatch

/-!
# What goes back on a connection

Whatever bytes arrive, in whatever order the connections are served: every frame that is handled on
a connection is answered once and in order, under its own correlation, unless it is a registration
that cannot be decoded, which is the first and last frame of its connection
(`one_answer_each`); and what is refused changes nothing (`changed_only_if_answered`).
-/

namespace Fabric

open Support

variable {F : Type} [DoubleBits F]

/-! ## One turn -/

/-- The answer belongs to the request, and a refusal leaves the coordinator alone. -/
structure Frame.Settled (f g : Frame) (c c' : Coordinator F) : Prop where
  correlation : g.correlation = f.correlation
  refused : g.type = WireType.errorResponse.toRaw → c' = c

namespace Frame.Settled

variable {f : Frame} {c c' : Coordinator F}

theorem refuse (f : Frame) (s : Status) (c : Coordinator F) : f.Settled (f.refuse s) c c :=
  ⟨rfl, fun _ => rfl⟩

theorem answer {t : WireType} (ht : t ≠ .errorResponse) (f : Frame) (payload : ByteString)
    (c c' : Coordinator F) : f.Settled (f.answer t payload) c c' :=
  ⟨rfl, fun h => absurd (WireType.toRaw_injective h) ht⟩

end Frame.Settled

namespace Coordinator

theorem settled_agent (c : Coordinator F) (conn : ConnId) (ctx : AgentConn) (f : Frame) :
    f.Settled (c.handleAgentFrame conn ctx f).1 c (c.handleAgentFrame conn ctx f).2 := by
  unfold handleAgentFrame
  split
  · exact .answer (by decide) f _ c c
  · split
    · exact .refuse f _ c
    · split_ifs
      · exact .refuse f _ c
      · exact .refuse f _ c
      · exact .refuse f _ c
      · exact .answer (by decide) f _ c _
  · exact .refuse f _ c

theorem settled_client (c : Coordinator F) (now : TimePoint) (f : Frame) :
    f.Settled (c.handleClientTurn now f).1 c (c.handleClientTurn now f).2.2 := by
  unfold handleClientTurn
  split
  · split
    · exact .refuse f _ c
    · exact .answer (by decide) f _ c _
  · split
    · exact .refuse f _ c
    · exact .answer (by decide) f _ c _
  · split
    · exact .refuse f _ c
    · exact .answer (by decide) f _ c _
  · split
    · exact .refuse f _ c
    · exact .answer (by decide) f _ c _
  · exact .answer (by decide) f _ c c
  · exact .refuse f _ c

end Coordinator

namespace Server

/-- The handler of the connection is waiting for a frame. -/
def isOpen (s : Server F) (conn : ConnId) : Bool :=
  match s.peers.find? conn with
  | some .fresh | some .agent | some .client => true
  | _ => false

/-- The frame is a registration that cannot be decoded. -/
def Undecodable (f : Frame) : Prop :=
  f.type = WireType.registerAgent.toRaw ∧ f.read decodeRegister = none

/-- What can become of a frame. -/
inductive FrameEffect (s : Server F) (conn : ConnId) (f : Frame) (answer : Option Frame)
    (s' : Server F) : Prop
  /-- Nobody is waiting for it. -/
  | ignored (hclosed : s.isOpen conn = false) (hanswer : answer = none) (hs : s' = s)
  /-- A registration that cannot be decoded ends the connection. -/
  | dropped (hfresh : s.peers.find? conn = some .fresh) (hf : Undecodable f)
      (hanswer : answer = none) (hs : s' = s.close conn)
  /-- It is answered. -/
  | answered (g : Frame) (p : Peer) (hopen : s.isOpen conn = true) (hanswer : answer = some g)
      (hsettled : f.Settled g s.coordinator s'.coordinator) (hp : p ≠ .fresh)
      (hpeers : s'.peers = s.peers.insert conn p)

variable {s : Server F} {conn : ConnId}

theorem effect_client (hopen : s.isOpen conn = true) (now : TimePoint) (f : Frame) :
    s.FrameEffect conn f (s.clientTurn conn now f).1 (s.clientTurn conn now f).2 :=
  .answered _ _ hopen rfl (Coordinator.settled_client s.coordinator now f)
    (by split_ifs <;> decide) rfl

theorem effect_register (hfresh : s.peers.find? conn = some .fresh) {f : Frame}
    (htype : f.type = WireType.registerAgent.toRaw) :
    s.FrameEffect conn f (s.dispatchRegister conn f).1 (s.dispatchRegister conn f).2 := by
  have hopen : s.isOpen conn = true := by rw [isOpen, hfresh]
  unfold dispatchRegister
  cases hread : f.read decodeRegister with
  | none => exact .dropped hfresh ⟨htype, hread⟩ rfl rfl
  | some m =>
    simp only
    split_ifs
    · exact .answered _ .closed hopen rfl (.refuse f _ _) (by decide) rfl
    · exact .answered _ .agent hopen rfl (.answer (by decide) f _ _ _) (by decide) rfl

theorem frame_effect (hs : s.Linked) (conn : ConnId) (now : TimePoint) (f : Frame) :
    s.FrameEffect conn f (s.step (.frame conn now f)).1 (s.step (.frame conn now f)).2 := by
  simp only [step, handleFrame]
  cases hpeer : s.peers.find? conn with
  | none => exact .ignored (by rw [isOpen, hpeer]) rfl rfl
  | some p =>
    cases p with
    | closed => exact .ignored (by rw [isOpen, hpeer]) rfl rfl
    | client => exact effect_client (by rw [isOpen, hpeer]) now f
    | agent =>
      obtain ⟨ctx, hserves⟩ := hs.serves hpeer
      simp only [hserves.context]
      exact .answered _ .agent (by rw [isOpen, hpeer]) rfl
        (Coordinator.settled_agent s.coordinator conn ctx f) (by decide)
        (OrdMap.insert_eq_self hpeer).symm
    | fresh =>
      simp only
      split_ifs with htype
      · exact effect_register hpeer htype
      · exact effect_client (by rw [isOpen, hpeer]) now f

/-- An event leaves the roles of the connections that it is not about alone. -/
theorem peers_other (hs : s.Linked) (e : ServerEvent F) (hon : e.on ≠ some conn) :
    (s.step e).2.peers.find? conn = s.peers.find? conn := by
  have hclose : ∀ k p, some k ≠ some conn → (s.peers.insert k p).find? conn = s.peers.find? conn :=
    fun k p hk => by rw [find?_peers, if_neg fun h => hk (congrArg some h.symm)]
  cases e with
  | host now op => rfl
  | accept k =>
    simp only [step]
    split_ifs
    · rfl
    · exact hclose k _ hon
  | frame k now f =>
    cases frame_effect hs k now f with
    | ignored _ _ hstep => rw [hstep]
    | dropped _ _ _ hstep => rw [hstep, close, hclose k _ hon]
    | answered _ _ _ _ _ _ hpeers => rw [hpeers, hclose k _ hon]
  | lost k =>
    simp only [step, handleLoss]
    cases hpeer : s.peers.find? k with
    | none => rfl
    | some p =>
      cases p with
      | closed => rfl
      | fresh | client => exact hclose k _ hon
      | agent =>
        obtain ⟨ctx, hserves⟩ := hs.serves hpeer
        simp only [hserves.context]
        exact hclose k _ hon

/-- A connection is accepted once. -/
theorem peers_accept (s : Server F) (conn : ConnId) :
    (s.step (.accept conn)).2.peers.find? conn = s.peers.find? conn ∧ s.peers.find? conn ≠ none ∨
      s.peers.find? conn = none ∧ (s.step (.accept conn)).2.peers.find? conn = some .fresh := by
  simp only [step]
  split_ifs with hknown
  · obtain ⟨p, hp⟩ := OrdMap.contains_iff.mp hknown
    exact .inl ⟨rfl, by rw [hp]; exact Option.some_ne_none p⟩
  · refine .inr ⟨OrdMap.contains_eq_false_iff.mp (by simpa using hknown), ?_⟩
    rw [find?_peers, if_pos rfl]

/-- A connection that is lost is closed, if it was ever there. -/
theorem peers_lost (hs : s.Linked) (conn : ConnId) :
    (s.step (.lost conn)).2.peers.find? conn = none ∧ s.peers.find? conn = none ∨
      s.peers.find? conn ≠ none ∧ (s.step (.lost conn)).2.peers.find? conn = some .closed := by
  simp only [step, handleLoss]
  cases hpeer : s.peers.find? conn with
  | none => exact .inl ⟨hpeer, rfl⟩
  | some p =>
    refine .inr ⟨Option.some_ne_none p, ?_⟩
    cases p with
    | closed => exact hpeer
    | fresh | client =>
      simp only [close]
      rw [find?_peers, if_pos rfl]
    | agent =>
      obtain ⟨ctx, hserves⟩ := hs.serves hpeer
      simp only [hserves.context]
      rw [find?_peers, if_pos rfl]

end Server

/-! ## A whole run -/

/-- The frame that is handled on a connection, if one is. -/
def requestOn (conn : ConnId) (s : Server F) : ServerEvent F → Option Frame
  | .frame k _ f => if k = conn ∧ s.isOpen conn = true then some f else none
  | _ => none

/-- The frame that goes back on a connection, if one does. -/
def answerOn (conn : ConnId) (s : Server F) (e : ServerEvent F) : Option Frame :=
  match e with
  | .frame k _ _ => if k = conn then (s.step e).1 else none
  | _ => none

/-- The frames handled on a connection, in order. -/
def requestsOn (conn : ConnId) (h : List (ServerEvent F)) : List Frame :=
  (server F).log (requestOn conn) {} h

/-- The frames sent on a connection, in order. -/
def answersOn (conn : ConnId) (h : List (ServerEvent F)) : List Frame :=
  (server F).log (answerOn conn) {} h

/-- What has been asked and answered on a connection. -/
structure Transcript (conn : ConnId) (h : List (ServerEvent F)) : Prop where
  unused : ((server F).after h).peers.find? conn = none ∨
    ((server F).after h).peers.find? conn = some .fresh →
      requestsOn conn h = [] ∧ answersOn conn h = []
  matched : (answersOn conn h).map Frame.correlation = (requestsOn conn h).map Frame.correlation ∨
    ∃ f, Server.Undecodable f ∧ requestsOn conn h = [f] ∧ answersOn conn h = [] ∧
      ((server F).after h).peers.find? conn = some .closed

theorem requestsOn_snoc (conn : ConnId) (h : List (ServerEvent F)) (e : ServerEvent F) :
    requestsOn conn (h ++ [e]) =
      requestsOn conn h ++ (requestOn conn ((server F).after h) e).toList := Machine.log_snoc

theorem answersOn_snoc (conn : ConnId) (h : List (ServerEvent F)) (e : ServerEvent F) :
    answersOn conn (h ++ [e]) =
      answersOn conn h ++ (answerOn conn ((server F).after h) e).toList := Machine.log_snoc

theorem requestOn_of_on {conn : ConnId} (s : Server F) {e : ServerEvent F}
    (hon : e.on ≠ some conn) : requestOn conn s e = none := by
  cases e with
  | frame k now f => exact if_neg fun hboth => hon (congrArg some hboth.1)
  | _ => rfl

theorem answerOn_of_on {conn : ConnId} (s : Server F) {e : ServerEvent F}
    (hon : e.on ≠ some conn) : answerOn conn s e = none := by
  cases e with
  | frame k now f => exact if_neg fun hk => hon (congrArg some hk)
  | _ => rfl

/-- A step without a frame on the connection leaves its transcript alone. -/
theorem Transcript.aside {conn : ConnId} {h : List (ServerEvent F)} (ht : Transcript conn h)
    {e : ServerEvent F} (hrequest : requestOn conn ((server F).after h) e = none)
    (hanswer : answerOn conn ((server F).after h) e = none)
    (hunused : ((server F).after (h ++ [e])).peers.find? conn = none ∨
      ((server F).after (h ++ [e])).peers.find? conn = some .fresh →
        ((server F).after h).peers.find? conn = none ∨
          ((server F).after h).peers.find? conn = some .fresh)
    (hclosed : ((server F).after h).peers.find? conn = some .closed →
      ((server F).after (h ++ [e])).peers.find? conn = some .closed) :
    Transcript conn (h ++ [e]) := by
  constructor
  · rw [requestsOn_snoc, answersOn_snoc, hrequest, hanswer]
    simp only [Option.toList_none, List.append_nil]
    exact fun hnow => ht.unused (hunused hnow)
  · rw [requestsOn_snoc, answersOn_snoc, hrequest, hanswer]
    simp only [Option.toList_none, List.append_nil]
    rcases ht.matched with hmatched | ⟨f, hf, hreq, hans, hwas⟩
    · exact .inl hmatched
    · exact .inr ⟨f, hf, hreq, hans, hclosed hwas⟩

/-- A frame on the connection is noted and answered. -/
theorem Transcript.turn {conn : ConnId} {h : List (ServerEvent F)} (ht : Transcript conn h)
    (now : TimePoint) (f : Frame) : Transcript conn (h ++ [.frame conn now f]) := by
  have hlinked := (server_refines (F := F)).holds h
  have hnext : (server F).after (h ++ [.frame conn now f]) =
      (((server F).after h).step (.frame conn now f)).2 := (server F).after_snoc h _
  have hrequest : requestOn conn ((server F).after h) (.frame conn now f) =
      if ((server F).after h).isOpen conn = true then some f else none := by
    simp only [requestOn, true_and]
  have hanswer : answerOn conn ((server F).after h) (.frame conn now f) =
      (((server F).after h).step (.frame conn now f)).1 := if_pos rfl
  have heffect := Server.frame_effect hlinked conn now f
  rw [← hnext] at heffect
  cases heffect with
  | ignored hclosed hnone hstate =>
    rw [hclosed] at hrequest
    constructor
    · rw [requestsOn_snoc, answersOn_snoc, hrequest, hanswer, hnone, hstate]
      simpa using ht.unused
    · rw [requestsOn_snoc, answersOn_snoc, hrequest, hanswer, hnone, hstate]
      simpa using ht.matched
  | dropped hfresh hf hnone hstate =>
    have hopen : ((server F).after h).isOpen conn = true := by rw [Server.isOpen, hfresh]
    obtain ⟨hreq, hans⟩ := ht.unused (.inr hfresh)
    have hclosed : ((server F).after (h ++ [.frame conn now f])).peers.find? conn =
        some .closed := by
      rw [hstate, Server.close, Server.find?_peers, if_pos rfl]
    constructor
    · rw [hclosed]
      rintro (hnow | hnow) <;> cases hnow
    · refine .inr ⟨f, hf, ?_, ?_, hclosed⟩
      · rw [requestsOn_snoc, hreq, hrequest, if_pos hopen]
        rfl
      · rw [answersOn_snoc, hans, hanswer, hnone]
        rfl
  | answered g p hopen hsome hsettled hp hpeers =>
    constructor
    · rw [hpeers, Server.find?_peers, if_pos rfl]
      rintro (hnow | hnow)
      · cases hnow
      · exact absurd (Option.some.inj hnow) hp
    · rcases ht.matched with hmatched | ⟨_, _, _, _, hclosed⟩
      · refine .inl ?_
        rw [requestsOn_snoc, answersOn_snoc, hrequest, if_pos hopen, hanswer, hsome]
        simp only [Option.toList_some, List.map_append, List.map_cons, List.map_nil, hmatched,
          hsettled.correlation]
      · rw [Server.isOpen, hclosed] at hopen
        cases hopen

theorem transcript_after (conn : ConnId) (h : List (ServerEvent F)) : Transcript conn h := by
  induction h using List.reverseRecOn with
  | nil => exact ⟨fun _ => ⟨rfl, rfl⟩, .inl rfl⟩
  | append_singleton h e ih =>
    have hlinked := (server_refines (F := F)).holds h
    by_cases hon : e.on = some conn
    · cases e with
      | host now op => cases hon
      | frame k now f =>
        obtain rfl := Option.some.inj hon
        exact ih.turn now f
      | accept k =>
        obtain rfl := Option.some.inj hon
        refine ih.aside rfl rfl ?_ ?_ <;> rw [Machine.after_snoc]
        · rcases Server.peers_accept ((server F).after h) k with ⟨hsame, -⟩ | ⟨hnone, -⟩
          · exact fun hnow => hsame ▸ hnow
          · exact fun _ => .inl hnone
        · rcases Server.peers_accept ((server F).after h) k with ⟨hsame, -⟩ | ⟨hnone, -⟩
          · exact fun hwas => hsame.trans hwas
          · intro hwas
            rw [hnone] at hwas
            cases hwas
      | lost k =>
        obtain rfl := Option.some.inj hon
        refine ih.aside rfl rfl ?_ ?_ <;> rw [Machine.after_snoc]
        · rcases Server.peers_lost hlinked k with ⟨-, hnone⟩ | ⟨-, hclosed⟩
          · exact fun _ => .inl hnone
          · intro hnow
            rw [show ((server F).next ((server F).after h) (.lost k)).peers.find? k =
              some .closed from hclosed] at hnow
            rcases hnow with hnow | hnow <;> cases hnow
        · rcases Server.peers_lost hlinked k with ⟨-, hnone⟩ | ⟨-, hclosed⟩
          · intro hwas
            rw [hnone] at hwas
            cases hwas
          · exact fun _ => hclosed
    · have hsame : ((server F).after (h ++ [e])).peers.find? conn =
          ((server F).after h).peers.find? conn := by
        rw [Machine.after_snoc]
        exact Server.peers_other hlinked e hon
      exact ih.aside (requestOn_of_on _ hon) (answerOn_of_on _ hon) (fun hnow => hsame ▸ hnow)
        fun hwas => hsame.trans hwas

/-- In every run, the answers on a connection carry the correlations of the frames handled on it,
one each and in order; but a registration that cannot be decoded ends its connection without an
answer, as its first frame. -/
theorem one_answer_each (conn : ConnId) (h : List (ServerEvent F)) :
    (answersOn conn h).map Frame.correlation = (requestsOn conn h).map Frame.correlation ∨
      ∃ f, Server.Undecodable f ∧ requestsOn conn h = [f] ∧ answersOn conn h = [] ∧
        ((server F).after h).peers.find? conn = some .closed :=
  (transcript_after conn h).matched

/-- In every run, a frame leaves the coordinator as it was (its agents and their snapshots, its
epoch and everything in its engine) unless it is answered, and not with an error. -/
theorem changed_only_if_answered (h : List (ServerEvent F)) (conn : ConnId) (now : TimePoint)
    (f : Frame) :
    ((server F).after (h ++ [.frame conn now f])).coordinator = ((server F).after h).coordinator ∨
      ∃ g, (server F).reply ((server F).after h) (.frame conn now f) = some g ∧
        g.correlation = f.correlation ∧ g.type ≠ WireType.errorResponse.toRaw := by
  rw [Machine.after_snoc]
  cases Server.frame_effect ((server_refines (F := F)).holds h) conn now f with
  | ignored _ _ hstate => exact .inl (congrArg Server.coordinator hstate)
  | dropped _ _ _ hstate => exact .inl ((congrArg Server.coordinator hstate).trans rfl)
  | answered g _ _ hsome hsettled _ _ =>
    by_cases herror : g.type = WireType.errorResponse.toRaw
    · exact .inl (hsettled.refused herror)
    · exact .inr ⟨g, hsome, hsettled.correlation, herror⟩

end Fabric

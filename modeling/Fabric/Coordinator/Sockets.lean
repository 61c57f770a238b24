import Fabric.Coordinator.Replies
import Fabric.Coordinator.Transcript
import Fabric.Net.Transport

/-!
# The coordinator over sockets

Each connection has a socket of its own, and a turn of its handler receives one frame from the
bytes that arrive on it, handles it, and sends the answer. What the senders of the bytes have put
on a connection frame by frame is handled frame by frame, in whatever pieces it arrives and in
whatever order the handlers take their turns, and what goes back can be read frame by frame
(`served_over_sockets`).
-/

namespace Fabric

open Support

variable {F : Type} [DoubleBits F]

/-! ## What a socket keeps -/

namespace NetSocket

variable {o : ByteOrder}

/-- Sending does not touch what arrives. -/
theorem sendAll_source (data : ByteString) (s : NetSocket) : (s.sendAll data).2.source = s.source := by
  induction hlen : data.length using Nat.strongRecOn generalizing data s with
  | _ len ih =>
    subst hlen
    by_cases hdata : data = []
    · rw [sendAll, dif_pos hdata]
    · have hpos : 0 < data.length := List.length_pos_iff.mpr hdata
      rw [sendAll, dif_neg hdata]
      simp only
      split_ifs with hn
      · rfl
      · refine ih _ ?_ (data.drop _) _ rfl
        rw [List.length_drop]
        omega

theorem sendFrame_source (scratch : HeaderBuf) (hdr : FrameHeader) (payload : ByteString)
    (s : NetSocket) : (s.sendFrame o scratch hdr payload).2.source = s.source := by
  simp only [sendFrame]
  split_ifs
  · exact sendAll_source _ s
  · exact sendAll_source _ s
  · rw [sendAll_source, sendAll_source]

/-- Receiving does not touch what has been sent. -/
theorem recvExact_sink (k : ℕ) (s : NetSocket) : (s.recvExact k).2.sink = s.sink := by
  induction k using Nat.strongRecOn generalizing s with
  | _ k ih =>
    by_cases hzero : k = 0
    · rw [recvExact, if_pos hzero]
    · rw [recvExact, if_neg hzero]
      split
      · rfl
      · rfl
      · next bytes h source _ =>
        have hpos : 0 < bytes.length := List.length_pos_iff.mpr h
        exact ih (k - bytes.length) (by omega) _

theorem recvFrame_sink (s : NetSocket) : (s.recvFrame o).2.sink = s.sink := by
  have hheader := recvExact_sink kFrameHeaderSize s
  rw [recvFrame]
  split
  · next s₁ hs₁ => rw [← hheader, hs₁]
  · next buf s₁ hs₁ =>
    rw [hs₁] at hheader
    split
    · exact hheader
    · next hdr _ =>
      split_ifs
      · exact (recvExact_sink hdr.payloadLen.toNat s₁).trans hheader
      · exact hheader

end NetSocket

/-! ## Connections with their sockets -/

/-- A server and the sockets of the connections it has accepted. -/
structure Service (F : Type) [Double F] where
  server : Server F := {}
  socks : OrdMap ConnId NetSocket := .empty

/-- What happens to a service: a connection comes in with its socket, a handler takes a turn, or
the process around it works on the engine. -/
inductive ServiceEvent (F : Type) [Double F]
  | accept (conn : ConnId) (sock : NetSocket)
  | turn (conn : ConnId) (now : TimePoint) (scratch : HeaderBuf)
  | host (now : TimePoint) (op : HostOp F)

/-- What `recv_frame` has returned, for the handler that called it. -/
def arrival (conn : ConnId) (now : TimePoint) :
    Except Status (FrameHeader × ByteString) → ServerEvent F
  | .error _ => .lost conn
  | .ok (hdr, payload) => .frame conn now ⟨hdr.type, hdr.correlation, payload⟩

/-- `send_frame` with the answer, if there is one. Nobody looks at its status. -/
def NetSocket.sendAnswer (o : ByteOrder) (scratch : HeaderBuf) (sock : NetSocket) :
    Option Frame → NetSocket
  | none => sock
  | some g =>
    (sock.sendFrame o scratch { type := g.type, correlation := g.correlation } g.payload).2

namespace Service

/-- One event. A turn waits for a frame, handles it, and sends the answer. -/
def step (o : ByteOrder) (s : Service F) : ServiceEvent F → Unit × Service F
  | .accept conn sock =>
    if s.server.peers.contains conn then ((), s)
    else ((), { server := (s.server.step (.accept conn)).2, socks := s.socks.insert conn sock })
  | .turn conn now scratch =>
    match s.socks.find? conn with
    | none => ((), s)
    | some sock =>
      if s.server.isOpen conn then
        let received := sock.recvFrame o
        let turn := s.server.step (arrival conn now received.1)
        ((), { server := turn.2
               socks := s.socks.insert conn (received.2.sendAnswer o scratch turn.1) })
      else ((), s)
  | .host now op => ((), { s with server := (s.server.step (.host now op)).2 })

/-- What an event is to the server. -/
def events (o : ByteOrder) (s : Service F) : ServiceEvent F → List (ServerEvent F)
  | .accept conn _ => if s.server.peers.contains conn then [] else [.accept conn]
  | .turn conn now _ =>
    match s.socks.find? conn with
    | none => []
    | some sock =>
      if s.server.isOpen conn then [arrival conn now (sock.recvFrame o).1] else []
  | .host now op => [.host now op]

end Service

/-- The service as a machine that starts with no connection. -/
def service (F : Type) [DoubleBits F] (o : ByteOrder) :
    Machine (Service F) (ServiceEvent F) Unit :=
  ⟨{}, Service.step o⟩

/-- The service refines the server. -/
theorem service_refines (o : ByteOrder) :
    Refines (service F o) (server F) (fun _ => True) Service.server (Service.events o) where
  start := trivial
  keeps _ _ _ := trivial
  init := rfl
  next s e _ := by
    show (s.step o e).2.server = _
    cases e with
    | host now op => rfl
    | accept conn sock =>
      simp only [Service.step, Service.events]
      split_ifs <;> rfl
    | turn conn now scratch =>
      simp only [Service.step, Service.events]
      cases s.socks.find? conn with
      | none => rfl
      | some sock =>
        simp only
        split_ifs <;> rfl

/-- The frames that have arrived, and what else has happened to the server. -/
def framesOf (o : ByteOrder) (h : List (ServiceEvent F)) : List (ServerEvent F) :=
  (service F o).calls (Service.events o) {} h

theorem framesOf_snoc (o : ByteOrder) (h : List (ServiceEvent F)) (e : ServiceEvent F) :
    framesOf o (h ++ [e]) = framesOf o h ++ ((service F o).after h).events o e :=
  Machine.calls_snoc _ _ _ _ _

theorem service_after (o : ByteOrder) (h : List (ServiceEvent F)) :
    ((service F o).after h).server = (server F).after (framesOf o h) :=
  (service_refines o).after h

theorem service_linked (o : ByteOrder) (h : List (ServiceEvent F)) :
    ((service F o).after h).server.Linked := by
  rw [service_after]
  exact server_refines.holds _

/-! ## Events on other connections -/

section Elsewhere

variable {conn : ConnId} {es : List (ServerEvent F)}

theorem requestsOn_append (h : List (ServerEvent F)) (hes : ∀ e ∈ es, e.on ≠ some conn) :
    requestsOn conn (h ++ es) = requestsOn conn h := by
  induction es using List.reverseRecOn with
  | nil => rw [List.append_nil]
  | append_singleton es e ih =>
    rw [← List.append_assoc, requestsOn_snoc,
      requestOn_of_on _ (hes e (List.mem_append_right _ List.mem_cons_self)), Option.toList_none,
      List.append_nil]
    exact ih fun e' he' => hes e' (List.mem_append_left _ he')

theorem answersOn_append (h : List (ServerEvent F)) (hes : ∀ e ∈ es, e.on ≠ some conn) :
    answersOn conn (h ++ es) = answersOn conn h := by
  induction es using List.reverseRecOn with
  | nil => rw [List.append_nil]
  | append_singleton es e ih =>
    rw [← List.append_assoc, answersOn_snoc,
      answerOn_of_on _ (hes e (List.mem_append_right _ List.mem_cons_self)), Option.toList_none,
      List.append_nil]
    exact ih fun e' he' => hes e' (List.mem_append_left _ he')

theorem peers_append (h : List (ServerEvent F)) (hes : ∀ e ∈ es, e.on ≠ some conn) :
    ((server F).after (h ++ es)).peers.find? conn = ((server F).after h).peers.find? conn := by
  induction es using List.reverseRecOn with
  | nil => rw [List.append_nil]
  | append_singleton es e ih =>
    rw [← List.append_assoc, Machine.after_snoc]
    exact (Server.peers_other (server_refines.holds _) e
      (hes e (List.mem_append_right _ List.mem_cons_self))).trans
      (ih fun e' he' => hes e' (List.mem_append_left _ he'))

end Elsewhere

theorem isOpen_congr {s s' : Server F} {conn : ConnId}
    (h : s'.peers.find? conn = s.peers.find? conn) : s'.isOpen conn = s.isOpen conn := by
  rw [Server.isOpen, Server.isOpen, h]

/-! ## What has been carried -/

/-- What a frame to be sent is to the one who receives it. -/
def Outgoing.frame (f : Outgoing) : Frame := ⟨f.type, f.correlation, f.payload⟩

/-- The header that a frame arrives with. -/
def Frame.header (g : Frame) : FrameHeader :=
  { type := g.type, payloadLen := UInt32.ofNat g.payload.length, correlation := g.correlation }

/-- How far the stream on a connection has been carried: the frames `done` of it are handled, and
the answers are the frames `replies`. As long as the handler waits, every turn has handled one. -/
structure Carried (o : ByteOrder) (conn : ConnId) (out : List Outgoing) (rest : ByteString)
    (h : List (ServiceEvent F)) (turns : ℕ) (done replies : List Outgoing) (sock : NetSocket) :
    Prop where
  socket : ((service F o).after h).socks.find? conn = some sock
  accepted : ((service F o).after h).server.peers.find? conn ≠ none
  requests : requestsOn conn (framesOf o h) = done.map Outgoing.frame
  answers : answersOn conn (framesOf o h) = replies.map Outgoing.frame
  fits : ∀ r ∈ replies, r.fits = true
  written : sock.sink.written = replies.flatMap (Outgoing.bytes o)
  handled : done <+: out
  ahead : ((service F o).after h).server.isOpen conn = true →
    turns = done.length ∧ ∃ todo, out = done ++ todo ∧
      sock.source.bytes = todo.flatMap (Outgoing.bytes o) ++ rest

namespace Carried

variable {o : ByteOrder} {conn : ConnId} {out done replies : List Outgoing} {rest : ByteString}
  {h : List (ServiceEvent F)} {turns : ℕ} {sock : NetSocket}

/-- What happens elsewhere does not matter. -/
theorem elsewhere (hc : Carried o conn out rest h turns done replies sock) {e : ServiceEvent F}
    (hes : ∀ e' ∈ ((service F o).after h).events o e, e'.on ≠ some conn)
    (hsock : (((service F o).after h).step o e).2.socks.find? conn =
      ((service F o).after h).socks.find? conn) :
    Carried o conn out rest (h ++ [e]) turns done replies sock := by
  have hpeers : ((service F o).after (h ++ [e])).server.peers.find? conn =
      ((service F o).after h).server.peers.find? conn := by
    rw [service_after, service_after, framesOf_snoc]
    exact peers_append _ hes
  refine ⟨?_, ?_, ?_, ?_, hc.fits, hc.written, hc.handled, ?_⟩
  · rw [Machine.after_snoc]
    exact hsock.trans hc.socket
  · rw [hpeers]
    exact hc.accepted
  · rw [framesOf_snoc, requestsOn_append _ hes]
    exact hc.requests
  · rw [framesOf_snoc, answersOn_append _ hes]
    exact hc.answers
  · rw [isOpen_congr hpeers]
    exact hc.ahead

/-- A turn of a handler that has returned is none. -/
theorem idle (hc : Carried o conn out rest h turns done replies sock)
    (hclosed : ((service F o).after h).server.isOpen conn = false) (now : TimePoint)
    (scratch : HeaderBuf) (turns' : ℕ) :
    Carried o conn out rest (h ++ [.turn conn now scratch]) turns' done replies sock := by
  have hopen : ¬ ((service F o).after h).server.isOpen conn = true := by
    rw [hclosed]
    exact Bool.false_ne_true
  have hstep : (service F o).after (h ++ [.turn conn now scratch]) = (service F o).after h := by
    rw [Machine.after_snoc]
    show (((service F o).after h).step o _).2 = _
    simp only [Service.step, hc.socket, if_neg hopen]
  have hframes : framesOf o (h ++ [.turn conn now scratch]) = framesOf o h := by
    rw [framesOf_snoc]
    simp only [Service.events, hc.socket, if_neg hopen, List.append_nil]
  refine ⟨?_, ?_, ?_, ?_, hc.fits, hc.written, hc.handled, ?_⟩
  · rw [hstep]
    exact hc.socket
  · rw [hstep]
    exact hc.accepted
  · rw [hframes]
    exact hc.requests
  · rw [hframes]
    exact hc.answers
  · rw [hstep]
    exact fun h => absurd h hopen

end Carried

theorem after_turn {o : ByteOrder} {conn : ConnId} {h : List (ServiceEvent F)} {sock : NetSocket}
    (hsock : ((service F o).after h).socks.find? conn = some sock)
    (hopen : ((service F o).after h).server.isOpen conn = true) (now : TimePoint)
    (scratch : HeaderBuf) {e : ServerEvent F}
    (he : arrival conn now (sock.recvFrame o).1 = e) :
    framesOf o (h ++ [.turn conn now scratch]) = framesOf o h ++ [e] ∧
      (service F o).after (h ++ [.turn conn now scratch]) =
        { server := (((service F o).after h).server.step e).2
          socks := ((service F o).after h).socks.insert conn
            ((sock.recvFrame o).2.sendAnswer o scratch (((service F o).after h).server.step e).1) } := by
  subst he
  constructor
  · rw [framesOf_snoc]
    simp only [Service.events, hsock, if_pos hopen]
  · rw [Machine.after_snoc]
    show (((service F o).after h).step o _).2 = _
    simp only [Service.step, hsock, if_pos hopen]

namespace Carried

variable {o : ByteOrder} {conn : ConnId} {out done replies : List Outgoing} {rest : ByteString}
  {h : List (ServiceEvent F)} {turns : ℕ} {sock : NetSocket}

/-- A turn on a stream that ends, maybe inside a frame, closes the connection. -/
theorem finish (hc : Carried o conn out rest h turns done replies sock)
    (hopen : ((service F o).after h).server.isOpen conn = true) (now : TimePoint)
    (scratch : HeaderBuf) (turns' : ℕ) {e : Status} {sock' : NetSocket}
    (hrecv : sock.recvFrame o = (.error e, sock')) :
    Carried o conn out rest (h ++ [.turn conn now scratch]) turns' done replies sock' := by
  obtain ⟨hframes, hafter⟩ := after_turn hc.socket hopen now scratch (e := .lost conn)
    (by rw [hrecv]; rfl)
  have hclosed : ((service F o).after (h ++ [.turn conn now scratch])).server.peers.find? conn =
      some .closed := by
    rw [hafter]
    rcases Server.peers_lost (service_linked o h) conn with ⟨-, hnone⟩ | ⟨-, hclosed⟩
    · exact absurd hnone hc.accepted
    · exact hclosed
  refine ⟨?_, ?_, ?_, ?_, hc.fits, ?_, hc.handled, ?_⟩
  · rw [hafter, hrecv]
    exact OrdMap.find?_insert_self _ _ _
  · rw [hclosed]
    exact Option.some_ne_none _
  · rw [hframes, requestsOn_snoc]
    exact (List.append_nil _).trans hc.requests
  · rw [hframes, answersOn_snoc]
    exact (List.append_nil _).trans hc.answers
  · have hsink := sock.recvFrame_sink (o := o)
    rw [hrecv] at hsink
    rw [hsink]
    exact hc.written
  · rw [Server.isOpen, hclosed]
    exact fun h => by cases h

/-- A turn on a stream with another frame handles it and sends its answer. -/
theorem handle (hc : Carried o conn out rest h turns done replies sock)
    (hopen : ((service F o).after h).server.isOpen conn = true) (now : TimePoint)
    (scratch : HeaderBuf) {f : Outgoing} {todo : List Outgoing} (hout : out = done ++ f :: todo)
    (hf : f.fits = true) (hturns : turns = done.length)
    (hsource : sock.source.bytes = (f :: todo).flatMap (Outgoing.bytes o) ++ rest) :
    ∃ replies' sock', Carried o conn out rest (h ++ [.turn conn now scratch]) (turns + 1)
      (done ++ [f]) replies' sock' := by
  rw [List.flatMap_cons, List.append_assoc] at hsource
  obtain ⟨sock₁, hrecv, hleft⟩ := recvFrame_of_frame hf hsource
  have hsink : sock₁.sink = sock.sink := by
    have hkept := sock.recvFrame_sink (o := o)
    rwa [hrecv] at hkept
  obtain ⟨hframes, hafter⟩ := after_turn hc.socket hopen now scratch (e := .frame conn now f.frame)
    (by rw [hrecv]; rfl)
  rw [hrecv] at hafter
  have hout' : out = (done ++ [f]) ++ todo := by rw [hout, List.append_assoc]; rfl
  have hrequests : requestsOn conn (framesOf o (h ++ [.turn conn now scratch])) =
      (done ++ [f]).map Outgoing.frame := by
    rw [hframes, requestsOn_snoc, ← service_after, hc.requests, requestOn, if_pos ⟨rfl, hopen⟩,
      List.map_append]
    rfl
  have hanswers : answersOn conn (framesOf o (h ++ [.turn conn now scratch])) =
      replies.map Outgoing.frame ++
        (((service F o).after h).server.step (.frame conn now f.frame)).1.toList := by
    rw [hframes, answersOn_snoc, ← service_after, hc.answers, answerOn, if_pos rfl]
  have hpeers : ∀ p, ((service F o).after (h ++ [.turn conn now scratch])).server.peers.find? conn =
      some p → ((service F o).after (h ++ [.turn conn now scratch])).server.peers.find? conn ≠
        none := by
    intro p hp
    rw [hp]
    exact Option.some_ne_none p
  cases Server.frame_effect (service_linked o h) conn now f.frame with
  | ignored hclosed _ _ =>
    rw [hopen] at hclosed
    cases hclosed
  | dropped _ _ hnone hstate =>
    have hclosed : ((service F o).after (h ++ [.turn conn now scratch])).server.peers.find? conn =
        some .closed := by
      rw [hafter, hstate, Server.close, Server.find?_peers, if_pos rfl]
    refine ⟨replies, sock₁, ?_, hpeers _ hclosed, hrequests, ?_, hc.fits, ?_, ⟨todo, hout'.symm⟩, ?_⟩
    · rw [hafter, hnone]
      exact OrdMap.find?_insert_self _ _ _
    · rw [hanswers, hnone]
      exact List.append_nil _
    · rw [hsink]
      exact hc.written
    · rw [Server.isOpen, hclosed]
      exact fun h => by cases h
  | answered g p _ hsome _ _ hstate =>
    have hnow : ((service F o).after (h ++ [.turn conn now scratch])).server.peers.find? conn =
        some p := by
      rw [hafter, hstate, Server.find?_peers, if_pos rfl]
    -- The answer goes out as a frame of its own.
    obtain ⟨r, hr⟩ : ∃ r : Outgoing, r = ⟨g.type, g.correlation, g.payload, scratch⟩ := ⟨_, rfl⟩
    have hframe : r.frame = g := by rw [hr]; rfl
    have hfits : r.fits = true := by
      have hsmall : g.payload.length ≤ 512 := Server.small_answer (service_linked o h) hsome
      rw [hr]
      exact decide_eq_true (Nat.le_trans hsmall (by decide))
    obtain ⟨sock₂, hsend, hwritten⟩ := sendFrame_spec (o := o) hfits sock₁
    have hanswer : sock₁.sendAnswer o scratch (some g) = sock₂ := by
      rw [hr] at hsend
      simp only [NetSocket.sendAnswer, hsend]
    refine ⟨replies ++ [r], sock₂, ?_, hpeers _ hnow, hrequests, ?_, ?_, ?_,
      ⟨todo, hout'.symm⟩, fun _ => ⟨?_, todo, hout', ?_⟩⟩
    · rw [hafter, hsome, hanswer]
      exact OrdMap.find?_insert_self _ _ _
    · rw [hanswers, hsome, List.map_append, List.map_cons, hframe]
      rfl
    · intro r' hr'
      rcases List.mem_append.mp hr' with hold | hnew
      · exact hc.fits r' hold
      · rw [List.mem_singleton.mp hnew]
        exact hfits
    · rw [hwritten, hsink, hc.written, List.flatMap_append, List.flatMap_singleton]
    · rw [hturns, List.length_append]
      rfl
    · rw [← hanswer, NetSocket.sendAnswer, NetSocket.sendFrame_source, hleft]

end Carried

/-! ## A whole run -/

/-- The event is a turn of the handler of `conn`. -/
def ServiceEvent.isTurn (conn : ConnId) : ServiceEvent F → Bool
  | turn k _ _ => k = conn
  | _ => false

/-- The turns that the handler of a connection has taken. -/
def turnsOn (conn : ConnId) (h : List (ServiceEvent F)) : ℕ := h.countP (ServiceEvent.isTurn conn)

section Run

variable {o : ByteOrder} {conn : ConnId} {pre : List (ServiceEvent F)} {sock : NetSocket}
  {out : List Outgoing} {rest : ByteString}

/-- A stream is carried from the moment its connection is accepted. -/
theorem carried_accept (hnew : ((service F o).after pre).server.peers.find? conn = none)
    (hstream : sock.source.bytes = out.flatMap (Outgoing.bytes o) ++ rest)
    (hfresh : sock.sink.written = []) :
    Carried o conn out rest (pre ++ [.accept conn sock]) 0 [] [] sock := by
  have hunknown : ¬ ((service F o).after pre).server.peers.contains conn = true := by
    rw [OrdMap.contains_eq_false_iff.mpr hnew]
    exact Bool.false_ne_true
  have hframes : framesOf o (pre ++ [.accept conn sock]) = framesOf o pre ++ [.accept conn] := by
    rw [framesOf_snoc]
    simp only [Service.events, if_neg hunknown]
  have hafter : (service F o).after (pre ++ [.accept conn sock]) =
      { server := (((service F o).after pre).server.step (.accept conn)).2
        socks := ((service F o).after pre).socks.insert conn sock } := by
    rw [Machine.after_snoc]
    show (((service F o).after pre).step o _).2 = _
    simp only [Service.step, if_neg hunknown]
  have hfreshPeer : ((service F o).after (pre ++ [.accept conn sock])).server.peers.find? conn =
      some .fresh := by
    rw [hafter]
    rcases Server.peers_accept ((service F o).after pre).server conn with ⟨-, hknown⟩ | ⟨-, hfresh⟩
    · exact absurd hnew hknown
    · exact hfresh
  have hpeer := hfreshPeer
  rw [service_after] at hpeer
  obtain ⟨hreq, hans⟩ := (transcript_after conn _).unused (.inr hpeer)
  refine ⟨?_, ?_, hreq, hans, fun r hr => absurd hr List.not_mem_nil, hfresh, List.nil_prefix,
    fun _ => ⟨rfl, out, rfl, hstream⟩⟩
  · rw [hafter]
    exact OrdMap.find?_insert_self _ _ _
  · rw [hfreshPeer]
    exact Option.some_ne_none _

/-- The stream is carried through whatever happens. -/
theorem carried_after (hnew : ((service F o).after pre).server.peers.find? conn = none)
    (hfits : ∀ f ∈ out, f.fits = true)
    (hstream : sock.source.bytes = out.flatMap (Outgoing.bytes o) ++ rest)
    (hrest : ∀ s : NetSocket, s.source.bytes = rest → ∃ e s', s.recvFrame o = (.error e, s'))
    (hfresh : sock.sink.written = []) (post : List (ServiceEvent F)) :
    ∃ done replies sock', Carried o conn out rest (pre ++ .accept conn sock :: post)
      (turnsOn conn post) done replies sock' := by
  induction post using List.reverseRecOn with
  | nil => exact ⟨[], [], sock, carried_accept hnew hstream hfresh⟩
  | append_singleton post e ih =>
    obtain ⟨done, replies, sock', hc⟩ := ih
    rw [turnsOn, List.countP_append, List.countP_singleton, ← turnsOn, ← List.cons_append,
      ← List.append_assoc]
    cases e with
    | host now op =>
      refine ⟨done, replies, sock', hc.elsewhere ?_ rfl⟩
      intro e' he'
      rw [List.mem_singleton.mp he']
      exact fun h => by cases h
    | accept k s =>
      by_cases hk : k = conn
      · -- The connection has been accepted before.
        subst hk
        obtain ⟨p, hp⟩ := Option.ne_none_iff_exists'.mp hc.accepted
        have hknown : ((service F o).after (pre ++ .accept k sock :: post)).server.peers.contains
            k = true := OrdMap.contains_iff.mpr ⟨p, hp⟩
        refine ⟨done, replies, sock', hc.elsewhere ?_ ?_⟩
        · intro e' he'
          simp only [Service.events, if_pos hknown] at he'
          exact absurd he' List.not_mem_nil
        · simp only [Service.step, if_pos hknown]
      · refine ⟨done, replies, sock', hc.elsewhere ?_ ?_⟩
        · intro e' he'
          simp only [Service.events] at he'
          split_ifs at he'
          · exact absurd he' List.not_mem_nil
          · rw [List.mem_singleton.mp he']
            exact fun h => hk (Option.some.inj h)
        · simp only [Service.step]
          split_ifs
          · rfl
          · exact (OrdMap.find?_insert _ _ _ _).trans (if_neg fun h => hk h.symm)
    | turn k now scratch =>
      by_cases hk : k = conn
      · subst hk
        have hcount : ServiceEvent.isTurn k (.turn k now scratch : ServiceEvent F) = true :=
          decide_eq_true rfl
        rw [if_pos hcount]
        cases hopen : ((service F o).after (pre ++ .accept k sock :: post)).server.isOpen k with
        | false => exact ⟨done, replies, sock', hc.idle hopen now scratch _⟩
        | true =>
          obtain ⟨hturns, todo, hout, hsource⟩ := hc.ahead hopen
          cases todo with
          | nil =>
            obtain ⟨e, s, hrecv⟩ := hrest sock' hsource
            exact ⟨done, replies, s, hc.finish hopen now scratch _ hrecv⟩
          | cons f todo =>
            have hf := hfits f (hout ▸ List.mem_append_right _ List.mem_cons_self)
            obtain ⟨replies', s, hnext⟩ :=
              hc.handle hopen now scratch hout hf hturns hsource
            exact ⟨done ++ [f], replies', s, hnext⟩
      · have hcount : ServiceEvent.isTurn conn (.turn k now scratch : ServiceEvent F) = false :=
          decide_eq_false hk
        rw [if_neg (by rw [hcount]; exact Bool.false_ne_true)]
        refine ⟨done, replies, sock', hc.elsewhere ?_ ?_⟩
        · intro e' he'
          simp only [Service.events] at he'
          split at he'
          · exact absurd he' List.not_mem_nil
          · split_ifs at he'
            · rw [List.mem_singleton.mp he']
              intro hon
              refine hk ?_
              unfold arrival at hon
              split at hon
              · exact Option.some.inj hon
              · exact Option.some.inj hon
            · exact absurd he' List.not_mem_nil
        · simp only [Service.step]
          split
          · rfl
          · split_ifs
            · exact (OrdMap.find?_insert _ _ _ _).trans (if_neg fun h => hk h.symm)
            · rfl

end Run

/-- A connection on which some frames arrive, in whatever pieces and cut off wherever, in a run of
the service with whatever else: the frames handled are the first of those sent, one for each turn
that the handler takes, and whoever reads what goes back receives the answers to them. -/
theorem served_over_sockets (o : ByteOrder) {h pre post : List (ServiceEvent F)} {conn : ConnId}
    {sock : NetSocket} {out : List Outgoing} (hh : h = pre ++ .accept conn sock :: post)
    (hnew : ((service F o).after pre).server.peers.find? conn = none)
    (hfits : ∀ f ∈ out, f.payload.length ≤ kMaxFramePayload.toNat)
    (hstream : sock.source.bytes <+: out.flatMap (Outgoing.bytes o))
    (hfresh : sock.sink.written = []) :
    ∃ done sock', done <+: out ∧
      requestsOn conn (framesOf o h) = done.map Outgoing.frame ∧
      (((service F o).after h).server.isOpen conn = true → done.length = turnsOn conn post) ∧
      ((service F o).after h).socks.find? conn = some sock' ∧
      ∀ reader : NetSocket, reader.source.bytes = sock'.sink.written →
        (recvFrames o (answersOn conn (framesOf o h)).length reader).1 =
          (answersOn conn (framesOf o h)).map fun g => .ok (g.header, g.payload) := by
  subst hh
  have hfits' : ∀ f ∈ out, f.fits = true := fun f hf => decide_eq_true (hfits f hf)
  -- The stream is some whole frames and a part of one that is not whole.
  obtain ⟨whole, rest, hwhole, hsource, hrest⟩ : ∃ whole rest, whole <+: out ∧
      sock.source.bytes = whole.flatMap (Outgoing.bytes o) ++ rest ∧
      ∀ s : NetSocket, s.source.bytes = rest → ∃ e s', s.recvFrame o = (.error e, s') := by
    have herror : ∀ (f : Outgoing) (rest : ByteString), f.fits = true → rest <+: f.bytes o →
        rest ≠ f.bytes o →
        ∀ s : NetSocket, s.source.bytes = rest → ∃ e s', s.recvFrame o = (.error e, s') := by
      intro f rest hf hprefix hne s hs
      obtain ⟨e, s', hrecv, -⟩ := recvFrame_of_cut hf hprefix hne hs
      exact ⟨e, s', hrecv⟩
    by_cases hall : sock.source.bytes = out.flatMap (Outgoing.bytes o)
    · refine ⟨out, [], List.prefix_rfl, by rw [hall, List.append_nil], ?_⟩
      refine herror ⟨0, 0, [], ⟨List.replicate 24 0, rfl⟩⟩ [] rfl List.nil_prefix fun hnil => ?_
      have hlen := congrArg List.length hnil
      rw [Outgoing.bytes, List.length_append, Outgoing.length_packHeader] at hlen
      cases hlen
    · obtain ⟨whole, f, post, part, rfl, hcut, hpart, hne⟩ := exists_cut hstream hall
      exact ⟨whole, part, List.prefix_append _ _, hcut,
        herror f part (hfits' f (List.mem_append_right _ List.mem_cons_self)) hpart hne⟩
  have hwholeFits : ∀ f ∈ whole, f.fits = true := fun f hf => hfits' f (hwhole.subset hf)
  obtain ⟨done, replies, sock', hc⟩ :=
    carried_after hnew hwholeFits hsource hrest hfresh post
  refine ⟨done, sock', hc.handled.trans hwhole, hc.requests, fun hopen => (hc.ahead hopen).1.symm,
    hc.socket, ?_⟩
  intro reader hreader
  rw [hc.answers, List.length_map]
  rw [hc.written] at hreader
  have hstream' : reader.source.bytes = replies.flatMap (Outgoing.bytes o) ++ [] := by
    rw [hreader, List.append_nil]
  rw [(recvFrames_spec hc.fits hstream').1, List.map_map]
  rfl

namespace Sample

theorem size_zeros : (List.replicate 24 (0 : UInt8)).length = kFrameHeaderSize := rfl

/-- A header buffer of zeros. -/
def zeros : HeaderBuf := ⟨List.replicate 24 0, size_zeros⟩

/-- Three heartbeats from somebody who has not registered. -/
def greetings : List Outgoing :=
  [⟨WireType.heartbeat.toRaw, 7, [], zeros⟩, ⟨WireType.heartbeat.toRaw, 8, [1, 2, 3], zeros⟩,
    ⟨WireType.heartbeat.toRaw, 9, [4], zeros⟩]

def greetingBytes : ByteString := greetings.flatMap (Outgoing.bytes .little)

/-- A connection on which they arrive in three pieces, the second with the end of one frame and the
start of the next, and break off in the header of the third frame. -/
def caller : NetSocket :=
  { source :=
      { pieces := Source.push (greetingBytes.take 10)
          (Source.push ((greetingBytes.drop 10).take 30)
            (Source.push ((greetingBytes.drop (10 + 30)).take 20) []))
        breaks := true }
    sink := { takes := fun _ => 4 } }

theorem bytes_caller : caller.source.bytes = greetingBytes.take (10 + 30 + 20) := by
  simp only [caller, Source.bytes, Source.flatMap_push, List.flatMap_nil, List.append_nil]
  rw [← List.append_assoc, ← List.take_add, ← List.take_add]

/-- The handler of the connection takes two turns, one for another connection in between. -/
def turns : List (ServiceEvent Binary64) :=
  [.turn 0 0 zeros, .accept 1 caller, .turn 1 0 zeros, .turn 0 0 zeros]

/-- The connection is accepted after a first turn of nobody. -/
def call : List (ServiceEvent Binary64) := .turn 0 0 zeros :: .accept 0 caller :: turns

end Sample

theorem served_over_sockets_greeting :
    ∃ done sock', done <+: Sample.greetings ∧
      requestsOn 0 (framesOf .little Sample.call) = done.map Outgoing.frame ∧
      (((service Binary64 .little).after Sample.call).server.isOpen 0 = true → done.length = 2) ∧
      ((service Binary64 .little).after Sample.call).socks.find? 0 = some sock' ∧
      ∀ reader : NetSocket, reader.source.bytes = sock'.sink.written →
        (recvFrames .little (answersOn 0 (framesOf .little Sample.call)).length reader).1 =
          (answersOn 0 (framesOf .little Sample.call)).map fun g => .ok (g.header, g.payload) := by
  have hstream : Sample.caller.source.bytes <+:
      Sample.greetings.flatMap (Outgoing.bytes .little) := by
    rw [Sample.bytes_caller]
    exact List.take_prefix _ _
  have hcall : Sample.call =
      [.turn 0 0 Sample.zeros] ++ .accept 0 Sample.caller :: Sample.turns := rfl
  exact served_over_sockets .little hcall rfl (by decide) hstream rfl

end Fabric

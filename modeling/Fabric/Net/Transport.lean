import Fabric.Core.Basic
import Fabric.Support.Stream

/-!
# Framed transport

`net.cpp`: the loops around the platform's `send` and `recv`, the header of a frame, and the
frames themselves. A header is copied field by field into a buffer of 24 bytes that nothing has
initialised; its last four bytes go out as they are.

* `recvFrame_of_frame`, `recvFrame_of_cut`: one frame is read from whatever pieces it comes in,
  and a stream that ends inside it is an error.
* `frames_reassembled`: what is sent frame by frame is received frame by frame.
-/

namespace Fabric

open Support

/-! ## Headers -/

def kFrameHeaderSize : ℕ := 24

def kProtocolMagic : UInt32 := 0xAD1FAB00

def kProtocolVersion : UInt16 := 1

def kMaxFramePayload : UInt32 := 16 * 1024 * 1024

/-- `FrameHeader`. -/
structure FrameHeader where
  magic : UInt32 := kProtocolMagic
  version : UInt16 := kProtocolVersion
  type : UInt16 := 0
  payloadLen : UInt32 := 0
  correlation : UInt64 := 0

/-- A header buffer with whatever bytes are in it. -/
structure HeaderBuf where
  bytes : ByteString
  size : bytes.length = kFrameHeaderSize

/-- `memcpy` into a buffer at an offset. -/
def patch (buf : ByteString) (offset : ℕ) (bytes : ByteString) : ByteString :=
  buf.take offset ++ bytes ++ buf.drop (offset + bytes.length)

/-- `pack_header`. -/
def packHeader (o : ByteOrder) (h : FrameHeader) (buf : ByteString) : ByteString :=
  let buf := patch buf 0 (o.store 4 h.magic.toNat)
  let buf := patch buf 4 (o.store 2 h.version.toNat)
  let buf := patch buf 6 (o.store 2 h.type.toNat)
  let buf := patch buf 8 (o.store 4 h.payloadLen.toNat)
  patch buf 12 (o.store 8 h.correlation.toNat)

/-- `memcpy` of a number out of a buffer at an offset. -/
def fetch (o : ByteOrder) (buf : ByteString) (offset width : ℕ) : ℕ :=
  o.load ((buf.drop offset).take width)

/-- The fields of a header, out of its buffer. -/
def unpackFields (o : ByteOrder) (buf : ByteString) : FrameHeader where
  magic := UInt32.ofNat (fetch o buf 0 4)
  version := UInt16.ofNat (fetch o buf 4 2)
  type := UInt16.ofNat (fetch o buf 6 2)
  payloadLen := UInt32.ofNat (fetch o buf 8 4)
  correlation := UInt64.ofNat (fetch o buf 12 8)

/-- `unpack_header`. -/
def unpackHeader (o : ByteOrder) (buf : ByteString) : Except Status FrameHeader :=
  let h := unpackFields o buf
  if h.magic ≠ kProtocolMagic then .error (.failure .malformedFrame "bad magic")
  else if h.version ≠ kProtocolVersion then
    .error (.failure .unsupportedVersion "unsupported protocol version")
  else if h.payloadLen > kMaxFramePayload then .error (.failure .frameTooLarge "frame too large")
  else .ok h

/-! ## Sockets -/

/-- A connected `NetSocket`: what arrives on it, what has been sent, and `peer_closed_`. -/
structure NetSocket where
  source : Source
  sink : Sink
  peerClosed : Bool := false

namespace NetSocket

/-- The part of a length that is handed to the platform. -/
def clip (n : ℕ) : ℕ := n &&& 0x7FFFFFFF

/-- `send_all`. -/
def sendAll (data : ByteString) (s : NetSocket) : Status × NetSocket :=
  if _hdata : data = [] then (.success, s)
  else
    let (n, sink) := s.sink.send (data.take (clip data.length))
    if _hn : n = 0 then
      (.failure .connectionReset "send returned 0", { s with sink, peerClosed := true })
    else sendAll (data.drop n) { s with sink }
termination_by data.length
decreasing_by
  have hlen : 0 < data.length := List.length_pos_iff.mpr _hdata
  rw [List.length_drop]
  omega

/-- `recv_exact`. -/
def recvExact (len : ℕ) (s : NetSocket) : Except Status ByteString × NetSocket :=
  if len = 0 then (.ok [], s)
  else
    match s.source.recv (clip len) with
    | (.closed, source) =>
      (.error (.failure .connectionReset "peer closed"), { s with source, peerClosed := true })
    | (.broken, source) =>
      (.error (.failure .connectionReset "recv failed"), { s with source, peerClosed := true })
    | (.data bytes h, source) =>
      have _hlen : 0 < bytes.length := List.length_pos_iff.mpr h
      let (rest, s) := recvExact (len - bytes.length) { s with source }
      (rest.map (bytes ++ ·), s)
termination_by len

/-- `NetSocket::send_frame`, with what the header buffer holds before. -/
def sendFrame (o : ByteOrder) (scratch : HeaderBuf) (hdr : FrameHeader) (payload : ByteString)
    (s : NetSocket) : Status × NetSocket :=
  let h := { hdr with
    magic := kProtocolMagic
    version := kProtocolVersion
    payloadLen := UInt32.ofNat payload.length }
  let (s1, s) := s.sendAll (packHeader o h scratch.bytes)
  if s1.isOk = false then (s1, s)
  else if payload.isEmpty then (.success, s)
  else s.sendAll payload

/-- `NetSocket::recv_frame`. -/
def recvFrame (o : ByteOrder) (s : NetSocket) : Except Status (FrameHeader × ByteString) × NetSocket :=
  match s.recvExact kFrameHeaderSize with
  | (.error e, s) => (.error e, s)
  | (.ok buf, s) =>
    match unpackHeader o buf with
    | .error e => (.error e, s)
    | .ok hdr =>
      if hdr.payloadLen > 0 then
        let (payload, s) := s.recvExact hdr.payloadLen.toNat
        (payload.map (hdr, ·), s)
      else (.ok (hdr, []), s)

/-! ### Sending -/

variable {s : NetSocket} {data : ByteString} {k : ℕ}

theorem clip_of_lt (h : k < 2 ^ 31) : clip k = k := by
  show k &&& (2 ^ 31 - 1) = k
  rw [Nat.and_two_pow_sub_one_eq_mod, Nat.mod_eq_of_lt h]

/-- Everything is sent, in whatever pieces it is taken. -/
theorem sendAll_spec (h : data.length < 2 ^ 31) (s : NetSocket) :
    ∃ s', s.sendAll data = (.success, s') ∧ s'.sink.written = s.sink.written ++ data := by
  induction hlen : data.length using Nat.strongRecOn generalizing data s with
  | _ len ih =>
    subst hlen
    by_cases hdata : data = []
    · subst hdata
      refine ⟨s, ?_, (List.append_nil _).symm⟩
      rw [sendAll, dif_pos rfl]
    · rw [sendAll, dif_neg hdata, clip_of_lt h, List.take_length]
      obtain ⟨n, sink, hsend, hpos, hle, hwritten⟩ := s.sink.send_of_ne_nil hdata
      have hrest : (data.drop n).length < data.length := by
        rw [List.length_drop]
        omega
      obtain ⟨s', hs', hall⟩ := ih _ hrest (by omega) { s with sink } rfl
      refine ⟨s', ?_, ?_⟩
      · simp only [hsend, dif_neg (Nat.ne_of_gt hpos), hs']
      · rw [hall, hwritten, List.append_assoc, List.take_append_drop]

/-! ### Receiving -/

/-- A stream that is long enough gives exactly the bytes asked for. -/
theorem recvExact_of_le (hlen : k < 2 ^ 31) (h : k ≤ s.source.bytes.length) :
    ∃ s', s.recvExact k = (.ok (s.source.bytes.take k), s') ∧
      s'.source.bytes = s.source.bytes.drop k := by
  induction hl : k using Nat.strongRecOn generalizing k s with
  | _ n ih =>
    subst hl
    by_cases hzero : k = 0
    · subst hzero
      refine ⟨s, ?_, rfl⟩
      rw [recvExact, if_pos rfl]
      rfl
    · have hpos : 0 < k := Nat.pos_of_ne_zero hzero
      have hne : s.source.bytes ≠ [] := List.length_pos_iff.mp (by omega)
      obtain ⟨bytes, hbytes, source, hrecv, hsplit, hle, -⟩ := Source.recv_of_ne_nil hne hpos
      have hblen : 0 < bytes.length := List.length_pos_iff.mpr hbytes
      have hlen' : s.source.bytes.length = bytes.length + source.bytes.length := by
        rw [hsplit, List.length_append]
      obtain ⟨s', hrest, hleft⟩ := ih (k - bytes.length) (by omega) (k := k - bytes.length)
        (s := { s with source }) (by omega) (by show _ ≤ source.bytes.length; omega) rfl
      refine ⟨s', ?_, ?_⟩
      · rw [recvExact, if_neg hzero, clip_of_lt hlen, hrecv]
        simp only [hrest, Except.map]
        rw [hsplit, List.take_append, List.take_of_length_le hle]
      · rw [hleft, hsplit, List.drop_append, List.drop_of_length_le hle, List.nil_append]

/-- A stream that ends too early is an error. -/
theorem recvExact_of_lt (hlen : k < 2 ^ 31) (h : s.source.bytes.length < k) :
    ∃ e s', s.recvExact k = (.error e, s') ∧ e.isOk = false := by
  induction hl : k using Nat.strongRecOn generalizing k s with
  | _ n ih =>
    subst hl
    have hpos : 0 < k := by omega
    rw [recvExact, if_neg (Nat.ne_of_gt hpos), clip_of_lt hlen]
    by_cases hne : s.source.bytes = []
    · rw [Source.recv_of_nil hne, Source.ending]
      cases s.source.breaks with
      | false => exact ⟨_, _, rfl, rfl⟩
      | true => exact ⟨_, _, rfl, rfl⟩
    · obtain ⟨bytes, hbytes, source, hrecv, hsplit, hle, -⟩ := Source.recv_of_ne_nil hne hpos
      have hblen : 0 < bytes.length := List.length_pos_iff.mpr hbytes
      have hlen' : s.source.bytes.length = bytes.length + source.bytes.length := by
        rw [hsplit, List.length_append]
      obtain ⟨e, s', hrest, he⟩ := ih (k - bytes.length) (by omega) (k := k - bytes.length)
        (s := { s with source }) (by omega) (by show source.bytes.length < _; omega) rfl
      refine ⟨e, s', ?_, he⟩
      rw [hrecv]
      simp only [hrest, Except.map]

end NetSocket

/-! ## Headers in memory -/

theorem patch_append (pre buf bytes : ByteString) (k : ℕ) :
    patch (pre ++ buf.drop k) pre.length bytes = pre ++ bytes ++ buf.drop (k + bytes.length) := by
  rw [patch, List.take_left, List.drop_append, List.drop_of_length_le (Nat.le_add_right _ _),
    Nat.add_sub_cancel_left, List.nil_append, List.drop_drop]

/-- The fields one after the other, and what was in the buffer behind them. -/
theorem packHeader_eq (o : ByteOrder) (h : FrameHeader) (buf : ByteString) :
    packHeader o h buf = [o.store 4 h.magic.toNat, o.store 2 h.version.toNat,
      o.store 2 h.type.toNat, o.store 4 h.payloadLen.toNat, o.store 8 h.correlation.toNat,
      buf.drop 20].flatten := by
  have hmagic := patch_append [] buf (o.store 4 h.magic.toNat) 0
  have hversion := patch_append (o.store 4 h.magic.toNat) buf (o.store 2 h.version.toNat) 4
  have htype := patch_append (o.store 4 h.magic.toNat ++ o.store 2 h.version.toNat) buf
    (o.store 2 h.type.toNat) 6
  have hlen := patch_append (o.store 4 h.magic.toNat ++ o.store 2 h.version.toNat ++
    o.store 2 h.type.toNat) buf (o.store 4 h.payloadLen.toNat) 8
  have hcorr := patch_append (o.store 4 h.magic.toNat ++ o.store 2 h.version.toNat ++
    o.store 2 h.type.toNat ++ o.store 4 h.payloadLen.toNat) buf
    (o.store 8 h.correlation.toNat) 12
  simp only [List.length_append, ByteOrder.length_store, List.length_nil, List.nil_append,
    List.drop_zero, Nat.zero_add, Nat.reduceAdd] at hmagic hversion htype hlen hcorr
  simp only [packHeader, hmagic, hversion, htype, hlen, hcorr]
  simp only [List.flatten_cons, List.flatten_nil, List.append_nil, List.append_assoc]

theorem fetch_append (o : ByteOrder) (width : ℕ) {n : ℕ} (hn : n < 256 ^ width) (pre rest : ByteString) :
    fetch o (pre ++ (o.store width n ++ rest)) pre.length width = n := by
  have htake : (o.store width n ++ rest).take width = o.store width n := by
    have hfront : (o.store width n ++ rest).take (o.store width n).length = o.store width n :=
      List.take_left
    rwa [ByteOrder.length_store] at hfront
  rw [fetch, List.drop_left, htake, ByteOrder.load_store o hn]

/-- The fields are read back from their buffer. -/
theorem unpackFields_packHeader (o : ByteOrder) (h : FrameHeader) (buf : ByteString) :
    unpackFields o (packHeader o h buf) = h := by
  obtain ⟨magic, version, type, payloadLen, correlation⟩ := h
  have hmagic := fetch_append o 4 magic.toNat_lt []
  have hversion := fetch_append o 2 version.toNat_lt (o.store 4 magic.toNat)
  have htype := fetch_append o 2 type.toNat_lt (o.store 4 magic.toNat ++ o.store 2 version.toNat)
  have hplen := fetch_append o 4 payloadLen.toNat_lt
    (o.store 4 magic.toNat ++ o.store 2 version.toNat ++ o.store 2 type.toNat)
  have hcorr := fetch_append o 8 correlation.toNat_lt
    (o.store 4 magic.toNat ++ o.store 2 version.toNat ++ o.store 2 type.toNat ++
      o.store 4 payloadLen.toNat)
  simp only [List.length_append, ByteOrder.length_store, List.length_nil, List.nil_append,
    List.append_assoc, Nat.reduceAdd] at hmagic hversion htype hplen hcorr
  rw [packHeader_eq]
  simp only [unpackFields, List.flatten_cons, List.flatten_nil, hmagic, hversion, htype, hplen,
    hcorr, UInt32.ofNat_toNat, UInt16.ofNat_toNat, UInt64.ofNat_toNat]

/-- A header of this protocol is read back from its buffer. -/
theorem unpackHeader_packHeader (o : ByteOrder) {h : FrameHeader} (hmagic : h.magic = kProtocolMagic)
    (hversion : h.version = kProtocolVersion) (hlen : ¬ h.payloadLen > kMaxFramePayload)
    (buf : ByteString) : unpackHeader o (packHeader o h buf) = .ok h := by
  have hm : ¬ h.magic ≠ kProtocolMagic := fun hne => hne hmagic
  have hv : ¬ h.version ≠ kProtocolVersion := fun hne => hne hversion
  rw [unpackHeader, unpackFields_packHeader, if_neg hm, if_neg hv, if_neg hlen]

/-! ## Frames -/

/-- What is sent as one frame, and what the header buffer holds before. -/
structure Outgoing where
  type : UInt16
  correlation : UInt64
  payload : ByteString
  scratch : HeaderBuf

namespace Outgoing

variable (o : ByteOrder) (f : Outgoing)

/-- The header that goes out. -/
def header : FrameHeader :=
  { type := f.type, payloadLen := UInt32.ofNat f.payload.length, correlation := f.correlation }

/-- A frame as it goes over the wire. -/
def bytes : ByteString := packHeader o f.header f.scratch.bytes ++ f.payload

theorem length_packHeader : (packHeader o f.header f.scratch.bytes).length = kFrameHeaderSize := by
  have hsize : kFrameHeaderSize = 24 := rfl
  rw [packHeader_eq]
  simp only [List.flatten_cons, List.flatten_nil, List.length_append, List.length_nil,
    ByteOrder.length_store, List.length_drop, f.scratch.size, hsize]

/-- The payload is within the limit. -/
def fits : Bool := f.payload.length ≤ kMaxFramePayload.toNat

variable {f}

theorem toNat_payloadLen (hf : f.fits = true) : f.header.payloadLen.toNat = f.payload.length := by
  have hle : f.payload.length ≤ 16777216 := of_decide_eq_true hf
  have hlt : f.payload.length < UInt32.size := Nat.lt_of_le_of_lt hle (by decide)
  exact UInt32.toNat_ofNat_of_lt' hlt

theorem payload_lt (hf : f.fits = true) : f.payload.length < 2 ^ 31 := by
  have hle : f.payload.length ≤ 16777216 := of_decide_eq_true hf
  omega

theorem unpackHeader_header (hf : f.fits = true) :
    unpackHeader o (packHeader o f.header f.scratch.bytes) = .ok f.header := by
  refine unpackHeader_packHeader o rfl rfl ?_ f.scratch.bytes
  rw [gt_iff_lt, UInt32.lt_iff_toNat_lt, toNat_payloadLen hf, Nat.not_lt]
  exact of_decide_eq_true hf

end Outgoing

variable (o : ByteOrder)

/-- Send frames one after the other. -/
def sendFrames : List Outgoing → NetSocket → List Status × NetSocket
  | [], s => ([], s)
  | f :: fs, s =>
    let (status, s) :=
      s.sendFrame o f.scratch { type := f.type, correlation := f.correlation } f.payload
    let (statuses, s) := sendFrames fs s
    (status :: statuses, s)

/-- Receive `n` times. -/
def recvFrames : ℕ → NetSocket → List (Except Status (FrameHeader × ByteString)) × NetSocket
  | 0, s => ([], s)
  | n + 1, s =>
    let (received, s) := s.recvFrame o
    let (more, s) := recvFrames n s
    (received :: more, s)

variable {o} {f : Outgoing} {s : NetSocket} {rest cut : ByteString}

/-- One frame is sent whole. -/
theorem sendFrame_spec (hf : f.fits = true) (s : NetSocket) :
    ∃ s', s.sendFrame o f.scratch { type := f.type, correlation := f.correlation } f.payload =
        (.success, s') ∧ s'.sink.written = s.sink.written ++ f.bytes o := by
  have hheader : (packHeader o f.header f.scratch.bytes).length < 2 ^ 31 := by
    rw [f.length_packHeader o, kFrameHeaderSize]
    omega
  obtain ⟨s₁, hs₁, hwritten₁⟩ := NetSocket.sendAll_spec hheader s
  obtain ⟨s₂, hs₂, hwritten₂⟩ := NetSocket.sendAll_spec (Outgoing.payload_lt hf) s₁
  have hsend : s.sendFrame o f.scratch { type := f.type, correlation := f.correlation } f.payload =
      if f.payload.isEmpty then (.success, s₁) else (.success, s₂) := by
    show (let (s1, s) := s.sendAll (packHeader o f.header f.scratch.bytes)
      if s1.isOk = false then (s1, s)
      else if f.payload.isEmpty then (.success, s)
      else s.sendAll f.payload) = _
    simp only [hs₁, hs₂]
    rfl
  rw [hsend]
  cases hempty : f.payload.isEmpty with
  | true =>
    refine ⟨s₁, rfl, ?_⟩
    rw [hwritten₁, Outgoing.bytes, List.isEmpty_iff.mp hempty, List.append_nil]
  | false =>
    refine ⟨s₂, rfl, ?_⟩
    rw [hwritten₂, hwritten₁, Outgoing.bytes, List.append_assoc]

/-- A frame at the front of the stream is received whole. -/
theorem recvFrame_of_frame (hf : f.fits = true) (hs : s.source.bytes = f.bytes o ++ rest) :
    ∃ s', s.recvFrame o = (.ok (f.header, f.payload), s') ∧ s'.source.bytes = rest := by
  have hlen := f.length_packHeader o
  have hsize : kFrameHeaderSize = 24 := rfl
  rw [Outgoing.bytes, List.append_assoc] at hs
  have htake : s.source.bytes.take kFrameHeaderSize = packHeader o f.header f.scratch.bytes := by
    rw [hs, ← hlen, List.take_left]
  have hdrop : s.source.bytes.drop kFrameHeaderSize = f.payload ++ rest := by
    rw [hs, ← hlen, List.drop_left]
  obtain ⟨s₁, hs₁, hleft₁⟩ := NetSocket.recvExact_of_le (s := s) (k := kFrameHeaderSize) (by omega)
    (by rw [hs, List.length_append]; omega)
  rw [htake] at hs₁
  rw [hdrop] at hleft₁
  have hplen := Outgoing.toNat_payloadLen hf
  rw [NetSocket.recvFrame, hs₁]
  simp only [Outgoing.unpackHeader_header o hf]
  by_cases hpos : f.header.payloadLen > 0
  · obtain ⟨s₂, hs₂, hleft₂⟩ := NetSocket.recvExact_of_le (s := s₁)
      (k := f.header.payloadLen.toNat) (by rw [hplen]; exact Outgoing.payload_lt hf)
      (by rw [hplen, hleft₁, List.length_append]; omega)
    rw [hleft₁, hplen, List.take_left] at hs₂
    rw [hleft₁, hplen, List.drop_left] at hleft₂
    refine ⟨s₂, ?_, hleft₂⟩
    simp only [if_pos hpos, hplen, hs₂, Except.map]
  · have hnil : f.payload = [] := by
      rw [gt_iff_lt, UInt32.lt_iff_toNat_lt, hplen, Nat.not_lt, UInt32.toNat_zero] at hpos
      exact List.length_eq_zero_iff.mp (Nat.le_zero.mp hpos)
    refine ⟨s₁, ?_, ?_⟩
    · simp only [if_neg hpos, hnil]
    · rw [hleft₁, hnil, List.nil_append]

/-- A stream that ends inside a frame is an error. -/
theorem recvFrame_of_cut (hf : f.fits = true) (hcut : cut <+: f.bytes o) (hne : cut ≠ f.bytes o)
    (hs : s.source.bytes = cut) : ∃ e s', s.recvFrame o = (.error e, s') ∧ e.isOk = false := by
  have hlen := f.length_packHeader o
  have hsize : kFrameHeaderSize = 24 := rfl
  have hshort : cut.length < (f.bytes o).length := by
    refine lt_of_le_of_ne hcut.length_le fun heq => hne ?_
    exact hcut.eq_of_length heq
  by_cases hheader : cut.length < kFrameHeaderSize
  · obtain ⟨e, s₁, hs₁, he⟩ := NetSocket.recvExact_of_lt (s := s) (k := kFrameHeaderSize)
      (by omega) (by rwa [hs])
    refine ⟨e, s₁, ?_, he⟩
    rw [NetSocket.recvFrame, hs₁]
  · -- The header is there, so the payload is not.
    obtain ⟨more, hmore⟩ := hcut
    have htake : cut.take kFrameHeaderSize = packHeader o f.header f.scratch.bytes := by
      have hfront := congrArg (List.take kFrameHeaderSize) hmore
      rwa [List.take_append_of_le_length (Nat.not_lt.mp hheader), Outgoing.bytes,
        List.take_left' hlen] at hfront
    obtain ⟨s₁, hs₁, hleft₁⟩ := NetSocket.recvExact_of_le (s := s) (k := kFrameHeaderSize)
      (by omega) (by rw [hs]; omega)
    rw [hs, htake] at hs₁
    rw [Outgoing.bytes, List.length_append, hlen] at hshort
    have hplen := Outgoing.toNat_payloadLen hf
    have hpos : f.header.payloadLen > 0 := by
      rw [gt_iff_lt, UInt32.lt_iff_toNat_lt, hplen, UInt32.toNat_zero]
      omega
    obtain ⟨e, s₂, hs₂, he⟩ := NetSocket.recvExact_of_lt (s := s₁)
      (k := f.header.payloadLen.toNat) (by rw [hplen]; exact Outgoing.payload_lt hf)
      (by rw [hplen, hleft₁, hs, List.length_drop]; omega)
    refine ⟨e, s₂, ?_, he⟩
    rw [NetSocket.recvFrame, hs₁]
    simp only [Outgoing.unpackHeader_header o hf, if_pos hpos, hs₂, Except.map]

/-! ## Sequences of frames -/

theorem sendFrames_spec {out : List Outgoing} (hfits : ∀ f ∈ out, f.fits = true) (s : NetSocket) :
    (sendFrames o out s).1 = out.map (fun _ => .success) ∧
      (sendFrames o out s).2.sink.written = s.sink.written ++ out.flatMap (Outgoing.bytes o) := by
  induction out generalizing s with
  | nil => exact ⟨rfl, (List.append_nil _).symm⟩
  | cons f out ih =>
    obtain ⟨s₁, hs₁, hwritten⟩ := sendFrame_spec (o := o) (hfits f List.mem_cons_self) s
    obtain ⟨hok, hall⟩ := ih (fun g hg => hfits g (List.mem_cons_of_mem _ hg)) s₁
    rw [sendFrames]
    simp only [hs₁, hok, hall, hwritten, List.map_cons, List.flatMap_cons, List.append_assoc,
      and_self]

theorem recvFrames_spec {out : List Outgoing} (hfits : ∀ f ∈ out, f.fits = true)
    (hs : s.source.bytes = out.flatMap (Outgoing.bytes o) ++ rest) :
    (recvFrames o out.length s).1 = out.map (fun f => .ok (f.header, f.payload)) ∧
      (recvFrames o out.length s).2.source.bytes = rest := by
  induction out generalizing s with
  | nil => exact ⟨rfl, hs⟩
  | cons f out ih =>
    rw [List.flatMap_cons, List.append_assoc] at hs
    obtain ⟨s₁, hs₁, hleft⟩ := recvFrame_of_frame (hfits f List.mem_cons_self) hs
    obtain ⟨hok, hrest⟩ := ih (fun g hg => hfits g (List.mem_cons_of_mem _ hg)) hleft
    rw [List.length_cons, recvFrames]
    simp only [hs₁, hok, hrest, List.map_cons, and_self]

theorem recvFrames_cons (n : ℕ) (s : NetSocket) :
    recvFrames o (n + 1) s =
      ((s.recvFrame o).1 :: (recvFrames o n (s.recvFrame o).2).1,
        (recvFrames o n (s.recvFrame o).2).2) := by
  rw [recvFrames]

theorem recvFrames_succ (n : ℕ) (s : NetSocket) :
    (recvFrames o (n + 1) s).1 =
      (recvFrames o n s).1 ++ [((recvFrames o n s).2.recvFrame o).1] := by
  induction n generalizing s with
  | zero => rw [recvFrames_cons, recvFrames, recvFrames, List.nil_append]
  | succ n ih =>
    have hfront := recvFrames_cons (o := o) n s
    rw [recvFrames_cons, ih, hfront, List.cons_append]

/-- Frames sent over a fresh connection are all sent; whatever pieces the stream arrives in, as
many receives return their types, correlations and payloads in order and leave what follows; and
a stream that ends inside a frame gives the frames before it and then an error. -/
theorem frames_reassembled (o : ByteOrder) (out : List Outgoing)
    (hfits : ∀ f ∈ out, f.payload.length ≤ kMaxFramePayload.toNat) (sender : NetSocket)
    (hfresh : sender.sink.written = []) :
    (sendFrames o out sender).1 = out.map (fun _ => .success) ∧
      (∀ (s : NetSocket) (rest : ByteString),
        s.source.bytes = (sendFrames o out sender).2.sink.written ++ rest →
          (recvFrames o out.length s).1 = out.map (fun f => .ok (f.header, f.payload)) ∧
            (recvFrames o out.length s).2.source.bytes = rest) ∧
      ∀ s : NetSocket, s.source.bytes <+: (sendFrames o out sender).2.sink.written →
        s.source.bytes ≠ (sendFrames o out sender).2.sink.written →
          ∃ pre f post e, out = pre ++ f :: post ∧
            pre.flatMap (Outgoing.bytes o) <+: s.source.bytes ∧
            ¬ (pre ++ [f]).flatMap (Outgoing.bytes o) <+: s.source.bytes ∧
            (recvFrames o (pre.length + 1) s).1 =
              pre.map (fun f => .ok (f.header, f.payload)) ++ [.error e] ∧ e.isOk = false := by
  have hfits' : ∀ f ∈ out, f.fits = true := fun f hf => decide_eq_true (hfits f hf)
  obtain ⟨hok, hwritten⟩ := sendFrames_spec (o := o) hfits' sender
  rw [hfresh, List.nil_append] at hwritten
  rw [hwritten]
  refine ⟨hok, fun s rest hs => recvFrames_spec hfits' hs, fun s hprefix hne => ?_⟩
  obtain ⟨pre, f, post, part, rfl, hs, hpart, hpartne⟩ := exists_cut hprefix hne
  have hpre : ∀ g ∈ pre, g.fits = true := fun g hg => hfits' g (List.mem_append_left _ hg)
  have hf : f.fits = true := hfits' f (List.mem_append_right _ List.mem_cons_self)
  obtain ⟨hreceived, hleft⟩ := recvFrames_spec hpre hs
  obtain ⟨e, s', hcut, he⟩ := recvFrame_of_cut hf hpart hpartne hleft
  refine ⟨pre, f, post, e, rfl, ?_, ?_, ?_, he⟩
  · rw [hs]
    exact List.prefix_append _ _
  · intro hwhole
    rw [hs, List.flatMap_append, List.flatMap_singleton,
      List.prefix_append_right_inj] at hwhole
    exact hpartne (hpart.eq_of_length_le hwhole.length_le)
  · rw [recvFrames_succ, hreceived, hcut]

/-- A frame with a payload and one without. -/
def Sample.frames : List Outgoing :=
  [⟨18, 7, [1, 2, 3], ⟨List.replicate 24 0, rfl⟩⟩, ⟨19, 8, [], ⟨List.replicate 24 0xFF, rfl⟩⟩]

/-- A fresh connection that takes two bytes at a time. -/
def Sample.connection : NetSocket := { source := { pieces := [] }, sink := { takes := fun _ => 1 } }

theorem frames_reassembled_sample :
    (sendFrames .little Sample.frames Sample.connection).1 = [.success, .success] ∧
      ∀ s : NetSocket,
        s.source.bytes =
            (sendFrames .little Sample.frames Sample.connection).2.sink.written ++ [] →
          (recvFrames .little 2 s).1 =
            Sample.frames.map (fun f => .ok (f.header, f.payload)) := by
  have h := frames_reassembled .little Sample.frames (by decide) Sample.connection rfl
  exact ⟨h.1, fun s hs => (h.2.1 s [] hs).1⟩

end Fabric

import Fabric.Support.Decoder

/-!
# Byte streams in pieces

The two ends of a connection that carries bytes in order but in pieces of its own choosing. A
`Source` hands out the pieces it has cut the stream into, none of them empty, and ends in one of
two ways; a `Sink` takes at least one byte of what it is offered. `ByteOrder` is how a machine
lays a number out in memory.

* `Source.recv_of_ne_nil`, `Source.recv_of_nil`: what one receive returns.
* `exists_cut`: where a stream that is too short ends.
* `Sink.send_of_ne_nil`: what one send takes.
* `ByteOrder.load_store`: a number is read back from its bytes.
-/

namespace Fabric.Support

/-! ## Receiving -/

/-- What a receive returns: some bytes, the end of the stream, or a failure. -/
inductive Received
  | data (bytes : List UInt8) (h : bytes ≠ [])
  | closed
  | broken

/-- A piece of a stream. -/
structure Piece where
  bytes : List UInt8
  nonempty : bytes ≠ []

/-- The pieces that are still to come, and how the stream ends after them. -/
structure Source where
  pieces : List Piece
  breaks : Bool := false

namespace Source

/-- The bytes that are still to come. -/
def bytes (s : Source) : List UInt8 := s.pieces.flatMap Piece.bytes

/-- What a stream returns when no byte is left. -/
def ending (s : Source) : Received := if s.breaks then .broken else .closed

/-- Put bytes in front of the pieces. -/
def push (bytes : List UInt8) (pieces : List Piece) : List Piece :=
  if h : bytes = [] then pieces else ⟨bytes, h⟩ :: pieces

/-- Receive at most `n` bytes: all of the next piece, or the first `n` bytes of it. -/
def recv (n : ℕ) (s : Source) : Received × Source :=
  match s.pieces with
  | [] => (s.ending, s)
  | piece :: pieces =>
    if h : piece.bytes.take n = [] then (.closed, s)
    else (.data (piece.bytes.take n) h, { s with pieces := push (piece.bytes.drop n) pieces })

variable {s : Source} {n : ℕ}

theorem flatMap_push (bytes : List UInt8) (pieces : List Piece) :
    (push bytes pieces).flatMap Piece.bytes = bytes ++ pieces.flatMap Piece.bytes := by
  unfold push
  split
  · next h => rw [h, List.nil_append]
  · rw [List.flatMap_cons]

/-- A stream that is not at its end gives the first of its bytes. -/
theorem recv_of_ne_nil (hs : s.bytes ≠ []) (hn : 0 < n) :
    ∃ bytes h s', s.recv n = (.data bytes h, s') ∧ s.bytes = bytes ++ s'.bytes ∧
      bytes.length ≤ n ∧ s'.breaks = s.breaks := by
  obtain ⟨pieces, breaks⟩ := s
  cases pieces with
  | nil => exact absurd rfl hs
  | cons piece pieces =>
    have htake : piece.bytes.take n ≠ [] := by
      rw [ne_eq, List.take_eq_nil_iff]
      exact not_or.mpr ⟨Nat.ne_of_gt hn, piece.nonempty⟩
    refine ⟨piece.bytes.take n, htake, ⟨push (piece.bytes.drop n) pieces, breaks⟩, ?_, ?_, ?_, rfl⟩
    · simp only [recv, dif_neg htake]
    · show (piece :: pieces).flatMap Piece.bytes = _ ++ (push _ _).flatMap Piece.bytes
      rw [flatMap_push, ← List.append_assoc, List.take_append_drop, List.flatMap_cons]
    · exact List.length_take_le _ _

/-- A stream at its end says how it ends. -/
theorem recv_of_nil (hs : s.bytes = []) : s.recv n = (s.ending, s) := by
  obtain ⟨pieces, breaks⟩ := s
  cases pieces with
  | nil => rfl
  | cons piece pieces => exact absurd (List.append_eq_nil_iff.mp hs).1 piece.nonempty

end Source

/-- A stream of parts that ends too early ends inside one of them. -/
theorem exists_cut {α : Type} {encode : α → List UInt8} {as : List α} {cut : List UInt8}
    (h : cut <+: as.flatMap encode) (hne : cut ≠ as.flatMap encode) :
    ∃ pre a post part, as = pre ++ a :: post ∧ cut = pre.flatMap encode ++ part ∧
      part <+: encode a ∧ part ≠ encode a := by
  induction as generalizing cut with
  | nil => exact absurd (List.prefix_nil.mp h) hne
  | cons a as ih =>
    rw [List.flatMap_cons] at h hne
    by_cases hcut : cut <+: encode a ∧ cut ≠ encode a
    · exact ⟨[], a, as, cut, rfl, rfl, hcut.1, hcut.2⟩
    · -- The first part is there, so the end is in one of the others.
      have hfront : encode a <+: cut := by
        rcases List.prefix_or_prefix_of_prefix h (List.prefix_append _ _) with hle | hle
        · rw [not_and_not_right] at hcut
          exact hcut hle ▸ List.prefix_rfl
        · exact hle
      obtain ⟨more, rfl⟩ := hfront
      obtain ⟨pre, b, post, part, rfl, rfl, hpart, hpartne⟩ :=
        ih ((List.prefix_append_right_inj _).mp h) fun heq => hne (by rw [heq])
      refine ⟨a :: pre, b, post, part, rfl, ?_, hpart, hpartne⟩
      rw [List.flatMap_cons, List.append_assoc]

/-! ## Sending -/

/-- What has been taken so far, and by how much the pieces of the next sends exceed one byte. -/
structure Sink where
  written : List UInt8 := []
  takes : ℕ → ℕ

namespace Sink

/-- Offer bytes: the number of bytes taken, one at least if there is one. -/
def send (data : List UInt8) (s : Sink) : ℕ × Sink :=
  (min (s.takes 0 + 1) data.length,
    { written := s.written ++ data.take (s.takes 0 + 1), takes := fun k => s.takes (k + 1) })

/-- What is taken is the front of what was offered. -/
theorem send_of_ne_nil {data : List UInt8} (h : data ≠ []) (s : Sink) :
    ∃ n s', s.send data = (n, s') ∧ 0 < n ∧ n ≤ data.length ∧
      s'.written = s.written ++ data.take n := by
  have hlen : 0 < data.length := List.length_pos_iff.mpr h
  refine ⟨_, _, rfl, Nat.lt_min.mpr ⟨Nat.succ_pos _, hlen⟩, Nat.min_le_right _ _, ?_⟩
  show s.written ++ data.take (s.takes 0 + 1) = _
  rw [← List.take_eq_take_min]

end Sink

/-! ## Numbers in memory -/

/-- Which end of a number comes first. -/
inductive ByteOrder
  | little
  | big

namespace ByteOrder

/-- The `width` bytes of a number as they lie in memory. -/
def store (o : ByteOrder) (width n : ℕ) : List UInt8 :=
  match o with
  | little => leBytes width n
  | big => (leBytes width n).reverse

/-- The number that bytes in memory stand for. -/
def load (o : ByteOrder) (bytes : List UInt8) : ℕ :=
  match o with
  | little => ofLeBytes bytes
  | big => ofLeBytes bytes.reverse

@[simp] theorem length_store (o : ByteOrder) (width n : ℕ) : (o.store width n).length = width := by
  cases o with
  | little => exact length_leBytes width n
  | big => rw [store, List.length_reverse, length_leBytes]

theorem load_store (o : ByteOrder) {width n : ℕ} (h : n < 256 ^ width) :
    o.load (o.store width n) = n := by
  cases o with
  | little => exact ofLeBytes_leBytes h
  | big => rw [store, load, List.reverse_reverse, ofLeBytes_leBytes h]

end ByteOrder

end Fabric.Support

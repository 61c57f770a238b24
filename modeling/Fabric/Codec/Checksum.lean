import Fabric.Codec.Serialize
import Fabric.Support.Crc

/-!
# Checksums

`crc32` works on bytes through a table. A turn of its loop is eight turns of a reflected CRC
register (`toBitVec_crcStep`), so it computes the CRC-32 of the bits of its input, the lowest bit
of each byte first (`crc32_eq_serial`). A frame that is altered within four bytes of its payload
or within its trailer is refused (`corruption_detected`).
-/

namespace Fabric

open Support

/-! ## Tables and bits -/

/-- The reflected polynomial of CRC-32. -/
def crcPolynomial : BitVec 32 := 0xEDB88320#32

/-- The bits of a byte, the lowest first. -/
def bitsOf (b : UInt8) : List Bool := (List.range 8).map b.toBitVec.getLsbD

/-- The CRC-32 of a message, computed bit by bit. -/
def serialCrc32 (data : ByteString) : BitVec 32 :=
  Crc.serial crcPolynomial 0xFFFFFFFF#32 0xFFFFFFFF#32 (data.flatMap bitsOf)

theorem and_one_ne_zero_iff (c : UInt32) : c &&& 1 ≠ 0 ↔ c.toBitVec.getLsbD 0 = true := by
  have hone : (1 : UInt32).toBitVec = 1#32 := rfl
  rw [ne_eq, ← UInt32.toBitVec_inj, UInt32.toBitVec_and, hone,
    BitVec.and_one_eq_setWidth_ofBool_getLsbD]
  cases c.toBitVec.getLsbD 0 <;> decide

/-- An entry of the table is eight turns of its index. -/
theorem toBitVec_crcEntry (i : UInt32) :
    (crcEntry i).toBitVec = (Crc.turn crcPolynomial)^[8] i.toBitVec := by
  have hturn (c : UInt32) : (if c &&& 1 ≠ 0 then (0xEDB88320 : UInt32) ^^^ (c >>> 1)
      else c >>> 1).toBitVec = Crc.turn crcPolynomial c.toBitVec := by
    unfold Crc.turn
    by_cases hlow : c.toBitVec.getLsbD 0 = true
    · rw [if_pos ((and_one_ne_zero_iff c).mpr hlow), if_pos hlow]
      rfl
    · rw [if_neg (mt (and_one_ne_zero_iff c).mp hlow), if_neg hlow]
      rfl
  have hfold (n : ℕ) : ((List.range n).foldl (fun (c : UInt32) _ =>
      if c &&& 1 ≠ 0 then (0xEDB88320 : UInt32) ^^^ (c >>> 1) else c >>> 1) i).toBitVec =
        (Crc.turn crcPolynomial)^[n] i.toBitVec := by
    induction n with
    | zero => rfl
    | succ n ih =>
      rw [List.range_succ, List.foldl_concat, hturn, ih, Function.iterate_succ_apply']
  exact hfold 8

theorem crcTable_getD {i : ℕ} (hi : i < 256) : crcTable.getD i 0 = crcEntry (UInt32.ofNat i) := by
  rw [crcTable, List.getD_eq_getElem _ _ (by simpa using hi), List.getElem_map, List.getElem_range]

/-- The index into the table is the lowest byte of the register. -/
theorem toBitVec_and_byte (x : UInt32) : (x &&& 0xFF).toBitVec = Crc.low 8 x.toBitVec := by
  have hmask : (0xFF : UInt32).toBitVec = (BitVec.allOnes 8).setWidth 32 := by decide
  rw [UInt32.toBitVec_and, hmask]
  apply BitVec.eq_of_getLsbD_eq
  intro i hi
  simp only [Crc.low, BitVec.getLsbD_and, BitVec.getLsbD_setWidth, BitVec.getLsbD_allOnes, hi,
    decide_true, Bool.true_and]
  exact Bool.and_comm _ _

theorem word_bitsOf (b : UInt8) : (Crc.word (bitsOf b) : BitVec 32) = b.toUInt32.toBitVec := by
  rw [UInt8.toBitVec_toUInt32]
  apply BitVec.eq_of_getLsbD_eq
  intro i hi
  rw [Crc.getLsbD_word hi, BitVec.getLsbD_setWidth, decide_eq_true hi, Bool.true_and]
  by_cases hbyte : i < 8
  · rw [bitsOf, List.getD_eq_getElem _ _ (by simpa using hbyte), List.getElem_map,
      List.getElem_range]
  · rw [BitVec.getLsbD_of_ge _ _ (Nat.not_lt.mp hbyte),
      List.getD_eq_default _ _ (by simpa [bitsOf] using hbyte)]

/-- A turn of the loop feeds the bits of the byte. -/
theorem toBitVec_crcStep (crc : UInt32) (b : UInt8) :
    (crcStep crc b).toBitVec = Crc.feed crcPolynomial crc.toBitVec (bitsOf b) := by
  have hindex : ((crc ^^^ b.toUInt32) &&& 0xFF).toNat < 256 := by
    rw [UInt32.toNat_and]
    exact Nat.and_lt_two_pow _ (show (0xFF : UInt32).toNat < 2 ^ 8 by decide)
  have hhigh : (crc >>> 8).toBitVec = (crc ^^^ b.toUInt32).toBitVec >>> 8 := by
    have hbyte : b.toUInt32.toBitVec >>> 8 = 0#32 := by
      rw [UInt8.toBitVec_toUInt32]
      apply BitVec.eq_of_getLsbD_eq
      intro i hi
      simp
    rw [UInt32.toBitVec_xor, BitVec.ushiftRight_xor_distrib, hbyte, BitVec.xor_zero]
    rfl
  calc (crcStep crc b).toBitVec
      = (crcEntry ((crc ^^^ b.toUInt32) &&& 0xFF)).toBitVec ^^^ (crc >>> 8).toBitVec := by
        rw [crcStep, UInt32.toBitVec_xor, crcTable_getD hindex, UInt32.ofNat_toNat]
    _ = (Crc.turn crcPolynomial)^[8] (crc ^^^ b.toUInt32).toBitVec := by
        rw [toBitVec_crcEntry, toBitVec_and_byte, hhigh, ← Crc.turns_eq]
    _ = Crc.feed crcPolynomial crc.toBitVec (bitsOf b) := by
        rw [Crc.feed_eq _ (by simp [bitsOf]), word_bitsOf, UInt32.toBitVec_xor]
        rfl

/-- The loop feeds the bits of all bytes. -/
theorem toBitVec_foldl_crcStep (crc : UInt32) (data : ByteString) :
    (data.foldl crcStep crc).toBitVec =
      Crc.feed crcPolynomial crc.toBitVec (data.flatMap bitsOf) := by
  induction data generalizing crc with
  | nil => rfl
  | cons b data ih =>
    rw [List.foldl_cons, ih, toBitVec_crcStep, List.flatMap_cons, Crc.feed_append]

theorem crc32_of_ne_nil {data : ByteString} (h : data ≠ []) :
    crc32 data = data.foldl crcStep 0xFFFFFFFF ^^^ 0xFFFFFFFF := by
  rw [crc32, if_neg (by simpa using h)]

/-- The checksum of a message is its CRC-32 computed bit by bit, and the loop goes on over a second
part from the register that the first part left. -/
theorem crc32_eq_serial (data : ByteString) (h : data ≠ []) :
    (crc32 data).toBitVec = serialCrc32 data ∧
      ∀ first second, data = first ++ second →
        crc32 data = second.foldl crcStep (first.foldl crcStep 0xFFFFFFFF) ^^^ 0xFFFFFFFF := by
  rw [crc32_of_ne_nil h]
  constructor
  · rw [UInt32.toBitVec_xor, toBitVec_foldl_crcStep]
    rfl
  · rintro first second rfl
    rw [List.foldl_append]

theorem crc32_eq_serial_digits :
    (crc32 (ascii "123456789")).toBitVec = serialCrc32 (ascii "123456789") ∧
      crc32 (ascii "123456789") = (ascii "56789").foldl crcStep
        ((ascii "1234").foldl crcStep 0xFFFFFFFF) ^^^ 0xFFFFFFFF :=
  (crc32_eq_serial (ascii "123456789") (by decide)).imp_right fun h =>
    h (ascii "1234") (ascii "56789") rfl

/-! ## Altered messages -/

theorem bitsOf_injective : Function.Injective bitsOf := by
  intro b b' h
  have hword : b.toUInt32.toBitVec = b'.toUInt32.toBitVec := by rw [← word_bitsOf, h, word_bitsOf]
  exact UInt8.toUInt32_inj.mp (UInt32.toBitVec_inj.mp hword)

theorem flatMap_bitsOf_injective {xs ys : ByteString} (h : xs.flatMap bitsOf = ys.flatMap bitsOf)
    (hlen : xs.length = ys.length) : xs = ys := by
  induction xs generalizing ys with
  | nil => exact (List.length_eq_zero_iff.mp hlen.symm).symm
  | cons x xs ih =>
    cases ys with
    | nil => cases hlen
    | cons y ys =>
      rw [List.flatMap_cons, List.flatMap_cons] at h
      obtain ⟨hbyte, hrest⟩ := List.append_inj h (by simp [bitsOf])
      rw [bitsOf_injective hbyte, ih hrest (Nat.succ.inj hlen)]

theorem length_flatMap_bitsOf (data : ByteString) :
    (data.flatMap bitsOf).length = 8 * data.length := by
  induction data with
  | nil => rfl
  | cons b data ih =>
    rw [List.flatMap_cons, List.length_append, ih, List.length_cons, bitsOf, List.length_map,
      List.length_range]
    omega

/-- Messages of one length that differ within four bytes have different checksums. -/
theorem eq_of_crc32_burst {pre xs ys post : ByteString} (hlen : xs.length = ys.length)
    (hfour : xs.length ≤ 4) (h : crc32 (pre ++ xs ++ post) = crc32 (pre ++ ys ++ post)) :
    xs = ys := by
  by_cases hxs : xs = []
  · subst hxs
    exact (List.length_eq_zero_iff.mp hlen.symm).symm
  have hys : ys ≠ [] := by
    rintro rfl
    exact hxs (List.length_eq_zero_iff.mp hlen)
  rw [crc32_of_ne_nil (by simp [hxs]), crc32_of_ne_nil (by simp [hys])] at h
  have hregister := congrArg UInt32.toBitVec ((UInt32.xor_left_inj _).mp h)
  simp only [toBitVec_foldl_crcStep, List.flatMap_append] at hregister
  have hbits := length_flatMap_bitsOf xs
  refine flatMap_bitsOf_injective (Crc.eq_of_feed_burst (by decide) ?_ ?_ hregister) hlen
  · rw [length_flatMap_bitsOf, length_flatMap_bitsOf, hlen]
  · omega

/-! ## Altered frames -/

/-- The buffers have one length and differ, but only within `len` bytes from `start` on. -/
structure AlteredWithin (start len : ℕ) (old new : ByteString) : Prop where
  length : new.length = old.length
  ne : new ≠ old
  before : new.take start = old.take start
  behind : new.drop (start + len) = old.drop (start + len)

theorem exists_u32 (bytes : ByteString) (h : bytes.length = 4) :
    ∃ v, ByteWriter.u32 v = bytes := by
  have hlt := ofLeBytes_lt bytes
  rw [h] at hlt
  refine ⟨UInt32.ofNat (ofLeBytes bytes), ?_⟩
  rw [ByteWriter.u32, UInt32.toNat_ofNat_of_lt' hlt, ← h, leBytes_ofLeBytes]

theorem u32_injective : Function.Injective ByteWriter.u32 := by
  intro v v' h
  have hnum := congrArg ofLeBytes h
  rw [ByteWriter.u32, ByteWriter.u32, ofLeBytes_leBytes v.toNat_lt,
    ofLeBytes_leBytes v'.toNat_lt] at hnum
  exact UInt32.toNat_inj.mp hnum

/-- The numbers in any sixteen bytes. -/
theorem exists_decodes_trailer {bytes : ByteString} (h : bytes.length = 16) :
    ∃ m ver len crc, bytes = [ByteWriter.u32 m, ByteWriter.u32 ver, ByteWriter.u32 len,
        ByteWriter.u32 crc].flatten ∧
      Decodes (E := String) ByteReader.trailer bytes (m, ver, len, crc) := by
  obtain ⟨m, hm⟩ := exists_u32 (bytes.take 4) (by simp [h])
  obtain ⟨ver, hver⟩ := exists_u32 ((bytes.drop 4).take 4) (by simp [h])
  obtain ⟨len, hlen⟩ := exists_u32 ((bytes.drop 8).take 4) (by simp [h])
  obtain ⟨crc, hcrc⟩ := exists_u32 (bytes.drop 12) (by simp [h])
  have hbytes : bytes = [ByteWriter.u32 m, ByteWriter.u32 ver, ByteWriter.u32 len,
      ByteWriter.u32 crc].flatten := by
    have h8 := List.take_append_drop 4 (bytes.drop 4)
    have h12 := List.take_append_drop 4 (bytes.drop 8)
    rw [List.drop_drop] at h8 h12
    rw [List.flatten_cons, List.flatten_cons, List.flatten_cons, List.flatten_cons,
      List.flatten_nil, List.append_nil, hm, hver, hlen, hcrc, h12, h8, List.take_append_drop]
  refine ⟨m, ver, len, crc, hbytes, ?_⟩
  rw [hbytes]
  apply (decodes_u32 _).cons
  apply (decodes_u32 _).cons
  apply (decodes_u32 _).cons
  apply (decodes_u32 _).cons
  exact Decodes.pure _

/-- What is parsed to a payload is its frame. -/
theorem eq_frame_of_parseFrame {magic version : UInt32} {framed body : ByteString}
    (h : ByteReader.parseFrame magic version framed = .ok body) :
    framed = ByteWriter.frame magic version body := by
  obtain ⟨trailer, htrailer, rfl⟩ := exists_trailer h
  obtain ⟨m, ver, len, crc, hbytes, hread⟩ := exists_decodes_trailer htrailer
  have hcut : (body ++ trailer).length - 16 = body.length := by
    rw [List.length_append, htrailer, Nat.add_sub_cancel]
  rw [ByteReader.parseFrame, hcut, List.take_left, List.drop_left, hread.run] at h
  simp only at h
  split_ifs at h with hshort hm hver hlen hcrc
  rw [not_not] at hm hver hlen hcrc
  rw [hbytes, ByteWriter.frame, ByteWriter.count, ← hm, ← hver, ← hlen, hcrc, UInt32.ofNat_toNat]

section

variable {magic version : UInt32} {payload body : ByteString}

theorem length_frame (magic version : UInt32) (payload : ByteString) :
    (ByteWriter.frame magic version payload).length = payload.length + 16 := by
  obtain ⟨trailer, htrailer, hframe⟩ := exists_frame magic version payload
  rw [hframe, List.length_append, htrailer]

theorem take_frame {n : ℕ} (h : n ≤ payload.length) :
    (ByteWriter.frame magic version payload).take n = payload.take n := by
  obtain ⟨trailer, -, hframe⟩ := exists_frame magic version payload
  rw [hframe, List.take_append_of_le_length h]

/-- Frames that agree from some place in their payloads on have equal checksums. -/
theorem crc32_eq_of_drop_frame {n : ℕ} (hn : n ≤ payload.length)
    (hlen : body.length = payload.length)
    (h : (ByteWriter.frame magic version body).drop n =
      (ByteWriter.frame magic version payload).drop n) :
    body.drop n = payload.drop n ∧ crc32 body = crc32 payload := by
  rw [ByteWriter.frame, ByteWriter.frame, List.drop_append_of_le_length (hlen ▸ hn),
    List.drop_append_of_le_length hn, hlen] at h
  obtain ⟨hdrop, htrailer⟩ := List.append_inj h (by simp [hlen])
  simp only [List.flatten_cons, List.append_cancel_left_eq] at htrailer
  exact ⟨hdrop, u32_injective (List.append_cancel_right htrailer)⟩

/-- A frame that is another one altered has a payload of the same length. -/
theorem length_of_altered {start len : ℕ}
    (h : AlteredWithin start len (ByteWriter.frame magic version payload)
      (ByteWriter.frame magic version body)) : body.length = payload.length := by
  have hlength := h.length
  rw [length_frame, length_frame] at hlength
  omega

/-- No frame is another one altered within four bytes of its payload. -/
theorem not_altered_payload {start len : ℕ} (hfour : len ≤ 4) (hin : start + len ≤ payload.length)
    (h : AlteredWithin start len (ByteWriter.frame magic version payload)
      (ByteWriter.frame magic version body)) : False := by
  have hlen := length_of_altered h
  have hbefore := h.before
  rw [take_frame (by omega), take_frame (by omega)] at hbefore
  obtain ⟨hbehind, hcrc⟩ := crc32_eq_of_drop_frame hin hlen h.behind
  have hparts (x : ByteString) : x.take start ++ (x.drop start).take len ++ x.drop (start + len) =
      x := by
    rw [List.append_assoc, ← List.drop_drop, List.take_append_drop, List.take_append_drop]
  rw [← hparts body, ← hparts payload, hbefore, hbehind] at hcrc
  have hmiddle := eq_of_crc32_burst (by simp [hlen]) (by simp [hfour]) hcrc
  apply h.ne
  rw [← hparts body, hbefore, hbehind, hmiddle, hparts payload]

/-- No frame is another one altered within its trailer. -/
theorem not_altered_trailer
    (h : AlteredWithin payload.length 16 (ByteWriter.frame magic version payload)
      (ByteWriter.frame magic version body)) : False := by
  have hlen := length_of_altered h
  have hbefore := h.before
  rw [take_frame hlen.ge, take_frame le_rfl, List.take_length, ← hlen, List.take_length] at hbefore
  exact h.ne (by rw [hbefore])

end

/-- A frame that is altered within four bytes of its payload, or within its trailer, is refused. -/
theorem corruption_detected (magic version : UInt32) (payload altered : ByteString)
    (h : (∃ start len, len ≤ 4 ∧ start + len ≤ payload.length ∧
        AlteredWithin start len (ByteWriter.frame magic version payload) altered) ∨
      AlteredWithin payload.length 16 (ByteWriter.frame magic version payload) altered) :
    ∃ err, ByteReader.parseFrame magic version altered = .error err := by
  cases hparse : ByteReader.parseFrame magic version altered with
  | error err => exact ⟨err, rfl⟩
  | ok body =>
    obtain rfl := eq_frame_of_parseFrame hparse
    rcases h with ⟨start, len, hfour, hin, haltered⟩ | haltered
    · exact (not_altered_payload hfour hin haltered).elim
    · exact (not_altered_trailer haltered).elim

theorem corruption_detected_byte :
    ∃ err, ByteReader.parseFrame 1 1 (0 :: (ByteWriter.frame 1 1 [1, 2, 3]).drop 1) = .error err :=
  corruption_detected 1 1 [1, 2, 3] _ (.inl ⟨0, 1, by decide, by decide,
    ⟨by decide +kernel, by decide +kernel, rfl, rfl⟩⟩)

end Fabric

import Fabric.Core.Basic
import Fabric.Support.Exact
import Fabric.Support.Double

/-!
# The byte format

`serialize.hpp` and `serialize.cpp`: the primitive writes and reads, the CRC and the framed
buffer. A `ByteWriter` method is the bytes it appends. Numbers are little-endian, a string is
its length and its bytes, and a frame is the payload followed by a trailer of sixteen bytes.
-/

namespace Fabric

open Support Support.ByteReader

variable {F : Type} [DoubleBits F] {E α β : Type}

/-! ## Writing -/

namespace ByteWriter

def u8 (v : UInt8) : ByteString := [v]

def u32 (v : UInt32) : ByteString := leBytes 4 v.toNat

def u64 (v : UInt64) : ByteString := leBytes 8 v.toNat

def i32 (v : Int32) : ByteString := u32 v.toUInt32

def i64 (v : Int64) : ByteString := u64 v.toUInt64

def f64 (v : F) : ByteString := u64 (DoubleBits.toBits v)

def flag (b : Bool) : ByteString := u8 (if b then 1 else 0)

/-- The number of elements of a container, cut to 32 bits. -/
def count (n : ℕ) : ByteString := u32 (UInt32.ofNat n)

def string (s : ByteString) : ByteString := count s.length ++ s

def stringvec (v : List ByteString) : ByteString := count v.length ++ v.flatMap string

/-- A flag, and the value if there is one. -/
def opt (encode : α → ByteString) : Option α → ByteString
  | none => flag false
  | some a => flag true ++ encode a

end ByteWriter

/-! ## Reading -/

namespace ByteReader

def kMaxLen : UInt32 := 64 * 1024 * 1024

def kMaxCount : UInt32 := (1 : UInt32) <<< 20

def u32 : Decoder E UInt32 := UInt32.ofNat <$> number 4

def u64 : Decoder E UInt64 := UInt64.ofNat <$> number 8

def i32 : Decoder E Int32 := UInt32.toInt32 <$> u32

def i64 : Decoder E Int64 := UInt64.toInt64 <$> u64

def f64 : Decoder E F := DoubleBits.ofBits <$> u64

def flag : Decoder E Bool := (fun b => b != 0) <$> u8

def string : Decoder E ByteString := do
  let n ← u32
  if (← get).failed ∨ n > kMaxLen then
    modify (·.fail "length-prefixed string too large")
    pure []
  else take n.toNat

def stringvec : Decoder E (List ByteString) := do
  let n ← u32
  if (← get).failed ∨ n > kMaxCount then
    modify (·.fail "count too large")
    pure []
  else timesWhileOk string n.toNat

/-- A flag, and a value if it is set. -/
def opt (m : Decoder E α) : Decoder E (Option α) := do
  if ← flag then some <$> m else pure none

/-- The caller gives up with a message of its own if a read has failed. -/
def orCorrupt (message : String) : Decoder Status Unit :=
  ensureOk fun _ => .failure .persistenceCorrupt message

/-- The last look of a decoder at its reader. -/
def finish : Decoder Status Unit := ensureOk fun e => .failure .persistenceCorrupt e

end ByteReader

/-! ## Reading back what was written -/

theorem decodes_u32 (v : UInt32) : Decodes (E := E) ByteReader.u32 (ByteWriter.u32 v) v := by
  have h := (Decodes.number (E := E) 4 v.toNat_lt).map UInt32.ofNat
  rwa [UInt32.ofNat_toNat] at h

theorem decodes_u64 (v : UInt64) : Decodes (E := E) ByteReader.u64 (ByteWriter.u64 v) v := by
  have h := (Decodes.number (E := E) 8 v.toNat_lt).map UInt64.ofNat
  rwa [UInt64.ofNat_toNat] at h

theorem decodes_i32 (v : Int32) : Decodes (E := E) ByteReader.i32 (ByteWriter.i32 v) v := by
  have h := (decodes_u32 (E := E) v.toUInt32).map UInt32.toInt32
  rwa [Int32.toInt32_toUInt32] at h

theorem decodes_i64 (v : Int64) : Decodes (E := E) ByteReader.i64 (ByteWriter.i64 v) v := by
  have h := (decodes_u64 (E := E) v.toUInt64).map UInt64.toInt64
  rwa [Int64.toInt64_toUInt64] at h

theorem decodes_f64 (v : F) : Decodes (E := E) ByteReader.f64 (ByteWriter.f64 v) v := by
  have h := (decodes_u64 (E := E) (DoubleBits.toBits v)).map (DoubleBits.ofBits (F := F))
  rwa [DoubleBits.ofBits_toBits] at h

theorem decodes_flag (b : Bool) : Decodes (E := E) ByteReader.flag (ByteWriter.flag b) b := by
  have h := (Decodes.u8 (E := E) (if b then 1 else 0)).map fun x => x != 0
  cases b <;> exact h

/-- A container that fits the 32-bit count is read back with its size. -/
theorem decodes_count {n : ℕ} (h : n < 2 ^ 32) :
    ∃ v : UInt32, v.toNat = n ∧ Decodes (E := E) ByteReader.u32 (ByteWriter.count n) v :=
  ⟨UInt32.ofNat n, UInt32.toNat_ofNat_of_lt' h, decodes_u32 _⟩

theorem decodes_string {s : ByteString} (h : s.length ≤ ByteReader.kMaxLen.toNat) :
    Decodes (E := E) ByteReader.string (ByteWriter.string s) s := by
  have hmax : ByteReader.kMaxLen.toNat = 67108864 := rfl
  obtain ⟨n, hn, hread⟩ := decodes_count (E := E) (n := s.length) (by omega)
  apply hread.bind
  intro rest
  have hle : ¬ ((false = true) ∨ n > ByteReader.kMaxLen) := by
    apply not_or.mpr ⟨Bool.false_ne_true, ?_⟩
    rw [gt_iff_lt, UInt32.lt_iff_toNat_lt]
    omega
  show (if (false = true) ∨ n > ByteReader.kMaxLen then _ else ByteReader.take n.toNat) _ = _
  rw [if_neg hle, hn]
  exact Decodes.take s rest

theorem decodes_stringvec {v : List ByteString} (h : v.length ≤ ByteReader.kMaxCount.toNat)
    (hs : ∀ s ∈ v, s.length ≤ ByteReader.kMaxLen.toNat) :
    Decodes (E := E) ByteReader.stringvec (ByteWriter.stringvec v) v := by
  have hmax : ByteReader.kMaxCount.toNat = 1048576 := rfl
  obtain ⟨n, hn, hread⟩ := decodes_count (E := E) (n := v.length) (by omega)
  apply hread.bind
  intro rest
  have hle : ¬ ((false = true) ∨ n > ByteReader.kMaxCount) := by
    apply not_or.mpr ⟨Bool.false_ne_true, ?_⟩
    rw [gt_iff_lt, UInt32.lt_iff_toNat_lt]
    omega
  show (if (false = true) ∨ n > ByteReader.kMaxCount then _
    else ByteReader.timesWhileOk ByteReader.string n.toNat) _ = _
  rw [if_neg hle, hn]
  exact Decodes.timesWhileOk v (fun s hmem => decodes_string (hs s hmem)) rest

theorem decodes_opt_map {m : Decoder E β} {encode : α → ByteString} {g : α → β} {o : Option α}
    (h : ∀ a, o = some a → Decodes m (encode a) (g a)) :
    Decodes (ByteReader.opt m) (ByteWriter.opt encode o) (o.map g) := by
  cases o with
  | none => exact (decodes_flag false).last (Decodes.pure none)
  | some a => exact (decodes_flag true).bind ((h a rfl).map some)

theorem decodes_opt {m : Decoder E α} {encode : α → ByteString} {o : Option α}
    (h : ∀ a, o = some a → Decodes m (encode a) a) :
    Decodes (ByteReader.opt m) (ByteWriter.opt encode o) o := by
  have hmap := decodes_opt_map (g := id) h
  rwa [Option.map_id] at hmap

/-! ## What the primitive reads accept -/

section Acceptance

variable {bytes : ByteString}

instance : Exact (E := E) ByteReader.u32 := Exact.map _

instance : Exact (E := E) ByteReader.u64 := Exact.map _

instance : Exact (E := E) ByteReader.i32 := Exact.map _

instance : Exact (E := E) ByteReader.i64 := Exact.map _

instance : Exact (E := E) (ByteReader.f64 (F := F)) := Exact.map _

instance : Exact (E := E) ByteReader.flag := Exact.map _

instance : Exact (E := E) ByteReader.string := by
  unfold ByteReader.string
  infer_instance

instance : Exact (E := E) ByteReader.stringvec := by
  unfold ByteReader.stringvec
  infer_instance

instance {m : Decoder E α} [Exact m] : Exact (ByteReader.opt m) := by
  unfold ByteReader.opt
  infer_instance

instance (message : String) : Exact (ByteReader.orCorrupt message) := Exact.ensureOk _

instance : Exact ByteReader.finish := Exact.ensureOk _

theorem precise_u32 : Precise (E := E) ByteReader.u32 ByteWriter.u32 fun _ => True :=
  (Precise.number 4).map (fun _ h => ⟨UInt32.toNat_ofNat_of_lt' h, trivial⟩)
    fun v _ => ⟨v.toNat_lt, UInt32.ofNat_toNat⟩

theorem precise_u64 : Precise (E := E) ByteReader.u64 ByteWriter.u64 fun _ => True :=
  (Precise.number 8).map (fun _ h => ⟨UInt64.toNat_ofNat_of_lt' h, trivial⟩)
    fun v _ => ⟨v.toNat_lt, UInt64.ofNat_toNat⟩

theorem precise_i64 : Precise (E := E) ByteReader.i64 ByteWriter.i64 fun _ => True :=
  precise_u64.map (fun v _ => ⟨UInt64.toUInt64_toInt64 v, trivial⟩)
    fun v _ => ⟨trivial, Int64.toInt64_toUInt64 v⟩

theorem precise_f64 :
    Precise (E := E) ByteReader.f64 (ByteWriter.f64 (F := F)) fun _ => True :=
  precise_u64.map (fun v _ => ⟨DoubleBits.toBits_ofBits v, trivial⟩)
    fun v _ => ⟨trivial, DoubleBits.ofBits_toBits v⟩

/-- Every byte but zero is read as a set flag. -/
theorem decodes_flag_iff {b : Bool} :
    Decodes (E := E) ByteReader.flag bytes b ↔ ∃ x, bytes = [x] ∧ b = (x != 0) := by
  rw [ByteReader.flag, decodes_map_iff]
  constructor
  · rintro ⟨x, hx, rfl⟩
    exact ⟨x, ((Precise.u8 _ _).mp hx).2, rfl⟩
  · rintro ⟨x, rfl, rfl⟩
    exact ⟨x, Decodes.u8 x, rfl⟩

theorem toNat_kMaxLen : ByteReader.kMaxLen.toNat = 67108864 := rfl

theorem toNat_kMaxCount : ByteReader.kMaxCount.toNat = 1048576 := rfl

theorem precise_string : Precise (E := E) ByteReader.string ByteWriter.string
    fun s => s.length ≤ ByteReader.kMaxLen.toNat := by
  intro bytes s
  refine ⟨fun h => ?_, fun h => h.2 ▸ decodes_string h.1⟩
  obtain ⟨n, chunk, more, rfl, hn, hmore⟩ := decodes_bind_iff.mp h
  obtain ⟨hle, htake⟩ := decodes_bounded_iff.mp hmore
  obtain ⟨-, rfl⟩ := (precise_u32 _ _).mp hn
  obtain ⟨hlen, rfl⟩ := (Precise.take _ _ _).mp htake
  rw [gt_iff_lt, UInt32.lt_iff_toNat_lt, Nat.not_lt] at hle
  refine ⟨hlen.trans_le hle, ?_⟩
  rw [ByteWriter.string, ByteWriter.count, hlen, UInt32.ofNat_toNat]

theorem precise_stringvec : Precise (E := E) ByteReader.stringvec ByteWriter.stringvec
    fun v => v.length ≤ ByteReader.kMaxCount.toNat ∧
      ∀ s ∈ v, s.length ≤ ByteReader.kMaxLen.toNat := by
  intro bytes v
  refine ⟨fun h => ?_, fun h => h.2 ▸ decodes_stringvec h.1.1 h.1.2⟩
  obtain ⟨n, chunk, more, rfl, hn, hmore⟩ := decodes_bind_iff.mp h
  obtain ⟨hle, htimes⟩ := decodes_bounded_iff.mp hmore
  obtain ⟨-, rfl⟩ := (precise_u32 _ _).mp hn
  obtain ⟨⟨hlen, hall⟩, rfl⟩ := (precise_string.times _ _ _).mp (decodes_timesWhileOk_iff.mp htimes)
  rw [gt_iff_lt, UInt32.lt_iff_toNat_lt, Nat.not_lt] at hle
  refine ⟨⟨hlen.trans_le hle, hall⟩, ?_⟩
  rw [ByteWriter.stringvec, ByteWriter.count, hlen, UInt32.ofNat_toNat]

/-- An optional value behind a flag byte. -/
theorem decodes_opt_iff {m : Decoder E α} [Exact m] {o : Option α} :
    Decodes (ByteReader.opt m) bytes o ↔ ∃ x more, bytes = x :: more ∧
      (x = 0 ∧ more = [] ∧ o = none ∨ x ≠ 0 ∧ ∃ a, o = some a ∧ Decodes m more a) := by
  rw [ByteReader.opt, decodes_bind_iff]
  constructor
  · rintro ⟨b, chunk, more, rfl, hflag, hmore⟩
    obtain ⟨x, rfl, rfl⟩ := decodes_flag_iff.mp hflag
    refine ⟨x, more, rfl, ?_⟩
    by_cases hx : x = 0
    · subst hx
      obtain ⟨rfl, rfl⟩ := decodes_pure_iff.mp hmore
      exact .inl ⟨rfl, rfl, rfl⟩
    · rw [if_pos (by simpa using hx)] at hmore
      obtain ⟨a, ha, rfl⟩ := decodes_map_iff.mp hmore
      exact .inr ⟨hx, a, rfl, ha⟩
  · rintro ⟨x, more, rfl, ⟨rfl, rfl, rfl⟩ | ⟨hx, a, rfl, ha⟩⟩
    · exact ⟨false, [0], [], rfl, decodes_flag false, Decodes.pure none⟩
    · refine ⟨x != 0, [x], more, rfl, decodes_flag_iff.mpr ⟨x, rfl, rfl⟩, ?_⟩
      rw [if_pos (by simpa using hx)]
      exact ha.map some

/-! ### Containers over the limits of the reader -/

/-- A container that is counted in 32 bits is read back if it is within the limit. -/
theorem settles_string {s : ByteString} (h : s.length < 2 ^ 32) :
    Settles (E := E) ByteReader.string (ByteWriter.string s) s
      (s.length ≤ ByteReader.kMaxLen.toNat) := by
  obtain ⟨n, hn, hread⟩ := decodes_count (E := E) h
  have htake := (Decodes.take (E := E) s).settles
  rw [← hn] at htake
  refine (Settles.after hread htake.bounded).congr ?_
  rw [and_true, gt_iff_lt, UInt32.lt_iff_toNat_lt, Nat.not_lt, hn]

theorem settles_stringvec {v : List ByteString} (h : v.length < 2 ^ 32)
    (hs : ∀ s ∈ v, s.length < 2 ^ 32) :
    Settles (E := E) ByteReader.stringvec (ByteWriter.stringvec v) v
      (v.length ≤ ByteReader.kMaxCount.toNat ∧ ∀ s ∈ v, s.length ≤ ByteReader.kMaxLen.toNat) := by
  obtain ⟨n, hn, hread⟩ := decodes_count (E := E) h
  have htimes := Settles.timesWhileOk v fun s hmem => settles_string (E := E) (hs s hmem)
  rw [← hn] at htimes
  refine (Settles.after hread htimes.bounded).congr ?_
  rw [gt_iff_lt, UInt32.lt_iff_toNat_lt, Nat.not_lt, hn]

theorem settles_opt_map {m : Decoder E β} [Exact m] {encode : α → ByteString} {g : α → β}
    {o : Option α} {P : α → Prop} (h : ∀ a, o = some a → Settles m (encode a) (g a) (P a)) :
    Settles (ByteReader.opt m) (ByteWriter.opt encode o) (o.map g) (∀ a, o = some a → P a) := by
  cases o with
  | none => exact ((decodes_flag false).last (Decodes.pure none)).settles.congr (by simp)
  | some a =>
    exact (Settles.after (decodes_flag true) ((h a rfl).map some)).congr (by simp)

end Acceptance

/-! ## Checksums -/

/-- One entry of `crc_table`: eight turns of the inner loop. -/
def crcEntry (i : UInt32) : UInt32 :=
  (List.range 8).foldl
    (fun (c : UInt32) _ => if c &&& 1 ≠ 0 then (0xEDB88320 : UInt32) ^^^ (c >>> 1) else c >>> 1) i

def crcTable : List UInt32 := (List.range 256).map fun i => crcEntry (UInt32.ofNat i)

/-- One turn of the loop in `crc32`. -/
def crcStep (crc : UInt32) (b : UInt8) : UInt32 :=
  crcTable.getD ((crc ^^^ b.toUInt32) &&& 0xFF).toNat 0 ^^^ (crc >>> 8)

def crc32 (data : ByteString) : UInt32 :=
  if data.isEmpty then 0xFFFFFFFF else data.foldl crcStep 0xFFFFFFFF ^^^ 0xFFFFFFFF

example : crc32 (ascii "123456789") = 0xCBF43926 := by decide +kernel

/-! ## Frames -/

/-- `frame`: the payload, then magic, version, length and checksum. -/
def ByteWriter.frame (magic version : UInt32) (payload : ByteString) : ByteString :=
  payload ++ [u32 magic, u32 version, count payload.length, u32 (crc32 payload)].flatten

/-- The four numbers of a trailer. -/
def ByteReader.trailer : Decoder E (UInt32 × UInt32 × UInt32 × UInt32) := do
  let m ← u32
  let ver ← u32
  let len ← u32
  let crc ← u32
  pure (m, ver, len, crc)

/-- `parse_frame`. -/
def ByteReader.parseFrame (magic version : UInt32) (framed : ByteString) :
    Except String ByteString :=
  if framed.length < 16 then .error "frame too small"
  else
    let payload := framed.take (framed.length - 16)
    match trailer ⟨framed.drop (framed.length - 16), false, ""⟩ with
    | .error e _ => .error e
    | .ok (m, ver, len, crc) _ =>
      if m ≠ magic then .error "bad magic"
      else if ver ≠ version then .error "bad version"
      else if len.toNat ≠ payload.length then .error "length mismatch"
      else if crc32 payload ≠ crc then .error "checksum mismatch"
      else .ok payload

/-- A frame is parsed exactly when the length of its payload fits its 32-bit field. -/
theorem parseFrame_frame (magic version : UInt32) (payload : ByteString) :
    ByteReader.parseFrame magic version (ByteWriter.frame magic version payload) =
      if payload.length < 2 ^ 32 then .ok payload else .error "length mismatch" := by
  let trailer := [ByteWriter.u32 magic, ByteWriter.u32 version, ByteWriter.count payload.length,
    ByteWriter.u32 (crc32 payload)].flatten
  have hframe : ByteWriter.frame magic version payload = payload ++ trailer := rfl
  have htrailer : trailer.length = 16 := by
    simp [trailer, ByteWriter.count, ByteWriter.u32]
  have hread : Decodes (E := String) ByteReader.trailer trailer
      (magic, version, UInt32.ofNat payload.length, crc32 payload) := by
    apply (decodes_u32 _).cons
    apply (decodes_u32 _).cons
    apply (decodes_u32 _).cons
    apply (decodes_u32 _).cons
    exact Decodes.pure _
  have hlen : (payload ++ trailer).length - 16 = payload.length := by
    rw [List.length_append, htrailer]
    omega
  have hrun := hread []
  rw [List.append_nil] at hrun
  have hlong : ¬ (payload ++ trailer).length < 16 := by
    rw [List.length_append]
    omega
  rw [hframe, ByteReader.parseFrame, if_neg hlong, hlen, List.take_left, List.drop_left, hrun]
  have hsize : (UInt32.ofNat payload.length).toNat = payload.length % 2 ^ 32 := UInt32.toNat_ofNat'
  simp only [ne_eq, not_true_eq_false, if_false, hsize]
  by_cases hfit : payload.length < 2 ^ 32
  · rw [if_pos hfit, if_neg (by omega)]
  · rw [if_neg hfit, if_pos (by omega)]

/-- What is parsed is all but the last 16 bytes. -/
theorem exists_trailer {magic version : UInt32} {framed body : ByteString}
    (h : ByteReader.parseFrame magic version framed = .ok body) :
    ∃ trailer, trailer.length = 16 ∧ framed = body ++ trailer := by
  unfold ByteReader.parseFrame at h
  split_ifs at h with hshort
  refine ⟨framed.drop (framed.length - 16), ?_, ?_⟩
  · rw [List.length_drop]
    omega
  · have hbody : body = framed.take (framed.length - 16) := by
      simp only at h
      split at h
      · cases h
      · split_ifs at h
        cases h
        rfl
    rw [hbody, List.take_append_drop]

theorem exists_frame (magic version : UInt32) (body : ByteString) :
    ∃ trailer, trailer.length = 16 ∧ ByteWriter.frame magic version body = body ++ trailer := by
  refine ⟨_, ?_, rfl⟩
  simp [ByteWriter.count, ByteWriter.u32]

end Fabric

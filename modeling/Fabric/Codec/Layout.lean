import Fabric.Codec.Protocol
import Fabric.Support.Format

/-!
# Layouts of the structures

Where the fields of every structure lie in its bytes, read off the decoders: which bytes are
flags, which are numbers of enumerators and which are sets. `described_descriptor` and the others
say that a decoder reads what its layout says, and when the bytes are those that the encoder writes
and the enumerators are declared ones.
-/

namespace Fabric

open Support Support.ByteReader

variable {F : Type} [DoubleBits F] {E Tag α : Type}

/-! ## Primitive reads -/

theorem described_u8 : Described (E := E) ByteReader.u8 (.bytes 1) ByteWriter.u8 fun _ => True :=
  .fixed Precise.u8 fun _ => rfl

theorem described_u32 :
    Described (E := E) ByteReader.u32 (.bytes 4) ByteWriter.u32 fun _ => True :=
  .fixed precise_u32 fun _ => length_leBytes 4 _

theorem described_u64 :
    Described (E := E) ByteReader.u64 (.bytes 8) ByteWriter.u64 fun _ => True :=
  .fixed precise_u64 fun _ => length_leBytes 8 _

theorem described_i64 :
    Described (E := E) ByteReader.i64 (.bytes 8) ByteWriter.i64 fun _ => True :=
  .fixed precise_i64 fun _ => length_leBytes 8 _

theorem described_f64 :
    Described (E := E) ByteReader.f64 (.bytes 8) (ByteWriter.f64 (F := F)) fun _ => True :=
  .fixed precise_f64 fun _ => length_leBytes 8 _

theorem precise_ident :
    Precise (E := E) ByteReader.ident (ByteWriter.ident : Id Tag → ByteString) fun _ => True :=
  precise_u64.map (fun _ _ => ⟨rfl, trivial⟩) fun _ _ => ⟨trivial, rfl⟩

theorem described_ident :
    Described (E := E) ByteReader.ident (.bytes 8) (ByteWriter.ident : Id Tag → ByteString)
      fun _ => True :=
  .fixed precise_ident fun _ => length_leBytes 8 _

theorem precise_resourceVector :
    Precise (E := E) ByteReader.resourceVector ByteWriter.resourceVector fun _ => True :=
  (precise_u64.table ResourceId.mem_all (by decide) _).map (fun _ _ => ⟨rfl, trivial⟩)
    fun _ _ => ⟨fun _ => trivial, rfl⟩

theorem described_resourceVector :
    Described (E := E) ByteReader.resourceVector (.bytes 96) ByteWriter.resourceVector
      fun _ => True :=
  .fixed precise_resourceVector fun v => by
    simp [ByteWriter.resourceVector, ByteWriter.u64, ResourceId.all]

theorem described_flag :
    Described (E := E) ByteReader.flag .flag ByteWriter.flag fun _ => True where
  back _ := decodes_flag _
  covers hread := by
    obtain ⟨x, rfl, rfl⟩ := decodes_flag_iff.mp hread
    refine ⟨[.flag x], fun _ => rfl, ?_, iff_of_true rfl trivial⟩
    have hone : ∀ x : UInt8, decide (x ≤ 1) = true ↔ x = if (x != 0) = true then 1 else 0 :=
      forall_byte (by decide +kernel)
    simp only [List.all_cons, List.all_nil, Bool.and_true, Mark.canonical, hone, ByteWriter.flag,
      ByteWriter.u8, List.cons.injEq, and_true]

theorem ofLeBytes_count {n : ℕ} (h : n < 2 ^ 32) : ofLeBytes (ByteWriter.count n) = n := by
  have hn : (UInt32.ofNat n).toNat = n := UInt32.toNat_ofNat_of_lt' h
  rw [ByteWriter.count, ByteWriter.u32, hn, ofLeBytes_leBytes h]

theorem scanString_string {s : ByteString} (h : s.length ≤ ByteReader.kMaxLen.toNat)
    (rest : ByteString) : scanString (ByteWriter.string s ++ rest) = some (s, rest) := by
  rw [toNat_kMaxLen] at h
  exact scanString_append (length_leBytes 4 _) (ofLeBytes_count (by omega))

theorem scanList_stringvec {v : List ByteString} (hlen : v.length ≤ ByteReader.kMaxCount.toNat)
    (h : ∀ s ∈ v, s.length ≤ ByteReader.kMaxLen.toNat) (rest : ByteString) :
    scanList (ByteWriter.stringvec v ++ rest) = some (v, rest) := by
  rw [toNat_kMaxCount] at hlen
  exact scanList_append (length_leBytes 4 _) (ofLeBytes_count (by omega))
    (fun s hs => scanString_string (h s hs)) rest

theorem described_string :
    Described (E := E) ByteReader.string .string ByteWriter.string fun _ => True :=
  .of_precise precise_string fun _ h rest => by
    rw [Format.scan, scanString_string h]
    rfl

theorem described_stringvec :
    Described (E := E) ByteReader.stringvec .strings ByteWriter.stringvec fun _ => True :=
  .of_precise precise_stringvec fun _ h rest => by
    rw [Format.scan, scanList_stringvec h.1 h.2]
    rfl

/-! ### Sets -/

/-- The tokens of a set that has been read from a list. -/
def addAll (tokens : List ByteString) : List ByteString :=
  (tokens.foldl Capabilities.add {}).tokens.entries.map Prod.fst

theorem addAll_eq (tokens : List ByteString) :
    addAll tokens = (OrdMap.ofEntries (tokens.map fun t => (t, ()))).entries.map Prod.fst := by
  have hset : ∀ (tokens : List ByteString) (m : OrdMap ByteString Unit),
      tokens.foldl Capabilities.add ⟨m⟩ =
        ⟨(tokens.map fun t => (t, ())).foldl (fun m e => m.insert e.1 e.2) m⟩ := by
    intro tokens
    induction tokens with
    | nil => exact fun _ => rfl
    | cons t tokens ih => exact fun m => ih _
  exact congrArg (fun c : Capabilities => c.tokens.entries.map Prod.fst) (hset tokens .empty)

/-- A list in strictly increasing order is the list of the set. -/
theorem addAll_of_sorted {tokens : List ByteString} (h : tokens.Pairwise (· < ·)) :
    addAll tokens = tokens := by
  rw [addAll_eq, OrdMap.entries_ofEntries_of_sorted (List.pairwise_map.mpr h), List.map_map]
  exact List.map_id tokens

theorem pairwise_addAll (tokens : List ByteString) : (addAll tokens).Pairwise (· < ·) :=
  List.pairwise_map.mpr (OrdMap.sorted _)

/-- A set has no token that the list has not, and no more of them. -/
theorem stringsFit_addAll {tokens : List ByteString} (h : stringsFit tokens = true) :
    stringsFit (addAll tokens) = true := by
  obtain ⟨hlen, hall⟩ := of_decide_eq_true h
  rw [addAll_eq]
  refine decide_eq_true ⟨?_, List.all_eq_true.mpr fun s hs => ?_⟩
  · rw [List.length_map]
    refine (OrdMap.length_ofEntries_le _).trans ?_
    rwa [List.length_map]
  · obtain ⟨e, he, rfl⟩ := List.mem_map.mp hs
    obtain ⟨t, ht, rfl⟩ := List.mem_map.mp (OrdMap.mem_of_mem_ofEntries he)
    exact List.all_eq_true.mp hall t ht

theorem described_capabilities :
    Described (E := E) ByteReader.capabilities .set ByteWriter.capabilities fun _ => True := by
  have hfit : ∀ {bytes : ByteString} {tokens : List ByteString},
      Decodes (E := E) ByteReader.stringvec bytes tokens → stringsFit tokens = true := by
    intro bytes tokens hread
    obtain ⟨⟨hlen, hall⟩, -⟩ := (precise_stringvec _ _).mp hread
    exact decide_eq_true ⟨hlen, List.all_eq_true.mpr fun s hs => decide_eq_true (hall s hs)⟩
  constructor
  · intro bytes c hread
    obtain ⟨tokens, htokens, rfl⟩ := decodes_map_iff.mp hread
    exact decodes_capabilities (stringsFit_addAll (hfit htokens))
  · intro bytes c hread
    obtain ⟨tokens, htokens, rfl⟩ := decodes_map_iff.mp hread
    obtain ⟨⟨hlen, hall⟩, rfl⟩ := (precise_stringvec _ _).mp htokens
    refine ⟨[.set tokens], fun rest => ?_, ?_, iff_of_true rfl trivial⟩
    · rw [Format.scan, scanList_stringvec hlen hall]
      rfl
    · rw [List.all_cons, List.all_nil, Bool.and_true, Mark.canonical, decide_eq_true_iff]
      show _ ↔ _ = ByteWriter.stringvec (addAll tokens)
      constructor
      · intro hsorted
        rw [addAll_of_sorted hsorted]
      · intro heq
        -- The same bytes are read as the list and as the list of the set.
        have hback := (settles_strings_of_counted (E := E)
          (stringsCounted_of_fit (stringsFit_addAll (hfit htokens)))).decodes
            (stringsFit_addAll (hfit htokens))
        obtain ⟨hsame, -⟩ := htokens.unique hback (congrArg (· ++ []) heq)
        rw [hsame]
        exact pairwise_addAll tokens

/-! ### Optional values and enumerators -/

theorem described_opt {m : Decoder E α} [Exact m] {format : Format} {encode : α → ByteString}
    {D : α → Prop} (h : Described m format encode D) :
    Described (ByteReader.opt m) (.opt format) (ByteWriter.opt encode)
      fun o => ∀ a, o = some a → D a where
  back {bytes o} hread := by
    obtain ⟨x, more, rfl, ⟨rfl, rfl, rfl⟩ | ⟨hx, a, rfl, ha⟩⟩ := decodes_opt_iff.mp hread
    · exact decodes_opt fun _ h => by cases h
    · refine decodes_opt fun a' ha' => ?_
      cases ha'
      exact h.back ha
  covers {bytes o} hread := by
    obtain ⟨x, more, rfl, ⟨rfl, rfl, rfl⟩ | ⟨hx, a, rfl, ha⟩⟩ := decodes_opt_iff.mp hread
    · exact ⟨[.flag 0], fun _ => rfl, iff_of_true rfl rfl, iff_of_true rfl fun _ h => by cases h⟩
    · obtain ⟨marks, hscan, hcanonical, hdeclared⟩ := h.covers ha
      refine ⟨.flag x :: marks, fun rest => ?_, ?_, ?_⟩
      · have hcut : cut 1 (x :: more ++ rest) = some ([x], more ++ rest) :=
          cut_append (x := [x]) rfl
        have hne : ¬ [x] = [0] := fun h => hx (List.cons.inj h).1
        rw [Format.scan, hcut]
        show (if [x] = [0] then _ else _) = _
        rw [if_neg hne, hscan]
        rfl
      · have hone : ∀ x : UInt8, x ≠ 0 → (decide (x ≤ 1) = true ↔ x = 1) :=
          forall_byte (by decide +kernel)
        rw [List.all_cons, Bool.and_eq_true, hcanonical, Mark.canonical, hone x hx]
        show _ ↔ x :: more = 1 :: encode a
        rw [List.cons.injEq]
      · rw [List.all_cons, Mark.declared, Bool.true_and, hdeclared]
        · simp
        · intro a h
          cases h

theorem described_opt_plain {m : Decoder E α} [Exact m] {format : Format}
    {encode : α → ByteString} (h : Described m format encode fun _ => True) :
    Described (ByteReader.opt m) (.opt format) (ByteWriter.opt encode) fun _ => True :=
  (described_opt h).congr fun _ => by simp

section Enumerators

variable {α : Type} [NamedEnum α]

theorem described_enum {p : ℕ → Bool}
    (h : ∀ n < 256, NamedEnum.isDeclared (ByteEnum.ofByte (UInt8.ofNat n) : α) = p n) :
    Described (E := E) ByteReader.enum (.enumerator 1 p) (ByteWriter.enum (α := α))
      fun a => NamedEnum.isDeclared a = true := by
  refine .enumerator precise_enum (fun _ => rfl) fun a => ?_
  have ha := h (ByteEnum.toByte a).toNat (ByteEnum.toByte a).toNat_lt
  rw [UInt8.ofNat_toNat, ByteEnum.ofByte_toByte] at ha
  rw [ha]
  rfl

theorem described_table {p : ℕ → Bool} (t₀ : ResourceId → α)
    (h : ∀ n < 256, NamedEnum.isDeclared (ByteEnum.ofByte (UInt8.ofNat n) : α) = p n) :
    Described (E := E) (table ByteReader.enum ResourceId.all t₀) (.rep 12 (.enumerator 1 p))
      (fun t => ResourceId.all.flatMap fun i => ByteWriter.enum (t i))
      fun t => ∀ i, NamedEnum.isDeclared (t i) = true :=
  (described_enum h).table ResourceId.mem_all (by decide) t₀

end Enumerators

theorem described_reason :
    Described (E := E) (ReasonCode.ofRaw <$> ByteReader.u32) (.enumerator 4 (· ≤ 14))
      (fun c => ByteWriter.u32 c.toRaw) fun c => c.isDeclared = true := by
  have hprecise : Precise (E := E) (ReasonCode.ofRaw <$> ByteReader.u32)
      (fun c => ByteWriter.u32 c.toRaw) fun _ => True :=
    precise_u32.map (fun n _ => ⟨ReasonCode.toRaw_ofRaw n, trivial⟩)
      fun c _ => ⟨trivial, ReasonCode.ofRaw_toRaw c⟩
  refine .enumerator hprecise (fun _ => length_leBytes 4 _) fun c => ?_
  rw [ByteWriter.u32, ofLeBytes_leBytes c.toRaw.toNat_lt, decide_eq_true_iff]
  cases c with
  | undeclared raw h =>
    have hlt : 14 < raw.toNat := UInt32.lt_iff_toNat_lt.mp h
    exact iff_of_false (Nat.not_le.mpr hlt) Bool.false_ne_true
  | _ => exact iff_of_true (by decide) rfl

/-! ### Counted lists -/

section Counted

variable {β : Type} {m : Decoder E α} {format : Format} {formats : List Format}
  {encode : α → ByteString} {D' : α → Prop} {chunks : List ByteString} {D Q : Prop} {b : β}

/-- A number of elements, the bound on it, and the elements. -/
theorem Laid.counted [Exact m] (hm : Described m format encode D') {limit : UInt32} {e : E}
    {g : List α → Decoder E β} {xs : List α} (hf : ∀ as, Laid (g as) formats b chunks D (xs = as ∧ Q)) :
    Laid (do
      let n ← ByteReader.u32
      if n > limit then throw e
      else
        let as ← times m n.toNat
        g as) (.many format :: formats) b
      (ByteWriter.count xs.length :: xs.flatMap encode :: chunks) ((∀ a ∈ xs, D' a) ∧ D) Q where
  exact := by
    have hexact : ∀ as, Exact (g as) := fun as => (hf as).exact
    infer_instance
  reads {bytes} hread := by
    have hexact : ∀ as, Exact (g as) := fun as => (hf as).exact
    obtain ⟨n, chunk, more, rfl, hn, hmore⟩ := decodes_bind_iff.mp hread
    obtain ⟨-, rfl⟩ := (precise_u32 _ _).mp hn
    by_cases hlimit : n > limit
    · rw [if_pos hlimit] at hmore
      cases hmore.run
    · rw [if_neg hlimit] at hmore
      obtain ⟨as, chunk, more, rfl, has, hrest⟩ := decodes_bind_iff.mp hmore
      obtain ⟨⟨rfl, hQ⟩, hback, hcovers⟩ := (hf as).reads hrest
      have hcount : ByteWriter.count xs.length = ByteWriter.u32 n := by
        rw [length_of_decodes_times has, ByteWriter.count, UInt32.ofNat_toNat]
      have htimes := hm.times n.toNat
      have hnum : ofLeBytes (ByteWriter.u32 n) = n.toNat := ofLeBytes_leBytes n.toNat_lt
      have hmany := (htimes.covers has)
      rw [← hnum] at hmany
      have hcut : ByteWriter.u32 n ++ chunk ++ more =
          ByteWriter.u32 n ++ xs.flatMap encode ++ chunks.flatten →
            ByteWriter.u32 n ++ chunk = ByteWriter.u32 n ++ xs.flatMap encode := by
        intro heq
        rw [List.append_assoc, List.append_assoc] at heq
        rw [htimes.cut_eq has (List.append_cancel_left heq)]
      have hall := (Covers.many (length_leBytes 4 _) hmany).seq hcovers hcut
      rw [List.flatten_cons, List.flatten_cons, hcount, ← List.append_assoc, ← List.append_assoc]
      refine ⟨hQ, ?_, hall⟩
      rw [List.append_assoc]
      apply (decodes_u32 n).bind
      rw [if_neg hlimit]
      exact (htimes.back has).bind hback

end Counted

/-! ## Structures -/

def descriptorLayout : List Format :=
  [.upTo 7, .bytes 8, .bytes 8, .bytes 8, .bytes 8, .bytes 8, .bytes 8, .opt (.bytes 8), .bytes 8,
    .bytes 8, .bytes 8, .bytes 8, .flag, .bytes 1, .upTo 4, .opt (.bytes 8), .opt (.bytes 8),
    .opt (.bytes 96), .upTo 2, .flag, .flag, .bytes 8, .string, .string, .string, .string, .strings]

def AdmissionDescriptor.isDeclared (d : AdmissionDescriptor F) : Bool :=
  NamedEnum.isDeclared d.workloadType ∧ NamedEnum.isDeclared d.latencyClass ∧
    NamedEnum.isDeclared d.preemption

theorem described_descriptor :
    Described decodeDescriptor (.all descriptorLayout) (encodeDescriptor (F := F))
      fun d => d.isDeclared = true := by
  apply Laid.described
  intro d
  have hD : d.isDeclared = true ↔ NamedEnum.isDeclared d.workloadType = true ∧
      NamedEnum.isDeclared d.latencyClass = true ∧ NamedEnum.isDeclared d.preemption = true ∧
      True := by
    simp [AdmissionDescriptor.isDeclared]
  rw [hD]
  unfold decodeDescriptor descriptorLayout
  refine Laid.cons (described_enum (by decide +kernel)) fun _ => ?_
  refine Laid.step described_ident fun _ => ?_
  apply Laid.ensureOk
  refine Laid.step described_ident fun _ => ?_
  apply Laid.ensureOk
  refine Laid.step described_ident fun _ => ?_
  apply Laid.ensureOk
  refine Laid.step described_ident fun _ => ?_
  apply Laid.ensureOk
  refine Laid.step described_ident fun _ => ?_
  apply Laid.ensureOk
  refine Laid.step described_ident fun _ => ?_
  apply Laid.ensureOk
  refine Laid.step (described_opt_plain described_ident.checked) fun _ => ?_
  refine Laid.step described_ident fun _ => ?_
  apply Laid.ensureOk
  refine Laid.step described_u64 fun _ => ?_
  refine Laid.step described_u64 fun _ => ?_
  refine Laid.step described_u64 fun _ => ?_
  refine Laid.step described_flag fun _ => ?_
  refine Laid.step described_u8 fun _ => ?_
  refine Laid.cons (described_enum (by decide +kernel)) fun _ => ?_
  refine Laid.step (described_opt_plain described_i64) fun _ => ?_
  refine Laid.step (described_opt_plain described_f64) fun _ => ?_
  refine Laid.step (described_opt_plain described_resourceVector.checked) fun _ => ?_
  refine Laid.cons (described_enum (by decide +kernel)) fun _ => ?_
  refine Laid.step described_flag fun _ => ?_
  refine Laid.step described_flag fun _ => ?_
  refine Laid.step described_i64 fun _ => ?_
  refine Laid.step described_string fun _ => ?_
  apply Laid.ensureOk
  refine Laid.step described_string fun _ => ?_
  apply Laid.ensureOk
  refine Laid.step described_string fun _ => ?_
  apply Laid.ensureOk
  refine Laid.step described_string fun _ => ?_
  apply Laid.ensureOk
  refine Laid.step described_stringvec fun _ => ?_
  apply Laid.ensureOk
  apply Laid.ensureOk
  exact Laid.pure (by rintro rfl; simp)

def snapshotLayout : List Format :=
  [.bytes 8, .bytes 8, .bytes 8, .bytes 8, .string, .bytes 4, .string, .bytes 96, .bytes 96,
    .bytes 96, .bytes 96, .set, .flag, .strings, .strings, .rep 12 (.upTo 4),
    .rep 12 (.enumerator 1 fun n => 1 ≤ n ∧ n ≤ 6)]

def ResourceSnapshot.isDeclared (s : ResourceSnapshot) : Bool :=
  (ResourceId.all.all fun i => NamedEnum.isDeclared (s.pressure i)) ∧
    ResourceId.all.all fun i => NamedEnum.isDeclared (s.provenance i)

theorem described_snapshot :
    Described decodeSnapshot (.all snapshotLayout) encodeSnapshot fun s => s.isDeclared = true := by
  apply Laid.described
  intro s
  have hD : s.isDeclared = true ↔ (∀ i, NamedEnum.isDeclared (s.pressure i) = true) ∧
      (∀ i, NamedEnum.isDeclared (s.provenance i) = true) ∧ True := by
    simp [ResourceSnapshot.isDeclared]
  rw [hD]
  unfold decodeSnapshot snapshotLayout
  refine Laid.step described_ident fun _ => ?_
  refine Laid.step described_i64 fun _ => ?_
  apply Laid.ensureOk
  refine Laid.step described_ident fun _ => ?_
  refine Laid.step described_ident fun _ => ?_
  refine Laid.step described_string fun _ => ?_
  apply Laid.ensureOk
  refine Laid.step described_u32 fun _ => ?_
  refine Laid.step described_string fun _ => ?_
  apply Laid.ensureOk
  refine Laid.step described_resourceVector fun _ => ?_
  apply Laid.ensureOk
  refine Laid.step described_resourceVector fun _ => ?_
  apply Laid.ensureOk
  refine Laid.step described_resourceVector fun _ => ?_
  apply Laid.ensureOk
  refine Laid.step described_resourceVector fun _ => ?_
  apply Laid.ensureOk
  refine Laid.step described_capabilities fun _ => ?_
  apply Laid.ensureOk
  refine Laid.step described_flag fun _ => ?_
  refine Laid.step described_stringvec fun _ => ?_
  apply Laid.ensureOk
  refine Laid.step described_stringvec fun _ => ?_
  apply Laid.ensureOk
  refine Laid.cons (described_table _ (by decide +kernel)) fun _ => ?_
  refine Laid.cons (described_table _ (by decide +kernel)) fun _ => ?_
  apply Laid.ensureOk
  exact Laid.pure (by rintro rfl; simp)

/-- The status byte is checked by the decoder itself. -/
def reservationLayout : List Format :=
  [.bytes 8, .bytes 8, .bytes 96, .bytes 8, .bytes 8, .opt (.bytes 8), .opt (.bytes 8), .bytes 1,
    .bytes 8]

theorem described_reservation :
    Described decodeReservation (.all reservationLayout) encodeReservation fun _ => True := by
  apply Laid.described
  intro r
  unfold decodeReservation reservationLayout
  refine Laid.step described_ident fun _ => ?_
  refine Laid.step described_ident fun _ => ?_
  refine Laid.step described_resourceVector fun _ => ?_
  apply Laid.ensureOk
  refine Laid.step described_i64 fun _ => ?_
  apply Laid.ensureOk
  refine Laid.step described_i64 fun _ => ?_
  apply Laid.ensureOk
  refine Laid.step (described_opt_plain described_ident) fun _ => ?_
  refine Laid.step (described_opt_plain described_ident) fun _ => ?_
  refine Laid.step described_u8 fun _ => ?_
  refine Laid.step described_u64 fun _ => ?_
  split
  · exact Laid.throw
  · next raw _ _ status hstatus =>
    have hraw : status.toByte = raw := ReservationStatus.toByte_of_ofByte? hstatus
    apply Laid.ensureOk
    exact Laid.pure (by rintro rfl; simp [hraw])

def overrideLayout : List Format :=
  [.string, .opt (.bytes 8), .opt (.upTo 2), .opt (.bytes 96), .opt (.bytes 8), .opt .flag,
    .opt .flag, .opt (.bytes 8)]

def PolicyOverride.isDeclared (o : PolicyOverride F) : Bool :=
  o.overcommitMode.all NamedEnum.isDeclared

theorem described_override :
    Described decodeOverride (.all overrideLayout) (encodeOverride (F := F))
      fun o => o.isDeclared = true := by
  apply Laid.described
  intro o
  have hD : o.isDeclared = true ↔
      (∀ mode, o.overcommitMode = some mode → NamedEnum.isDeclared mode = true) ∧ True := by
    simp [PolicyOverride.isDeclared, Option.all_eq_true]
  rw [hD]
  unfold decodeOverride overrideLayout
  refine Laid.step described_string fun _ => ?_
  apply Laid.ensureOk
  refine Laid.step (described_opt_plain described_f64) fun _ => ?_
  refine Laid.cons (described_opt (described_enum (by decide +kernel))) fun _ => ?_
  refine Laid.step (described_opt_plain described_resourceVector.checked) fun _ => ?_
  refine Laid.step (described_opt_plain described_f64) fun _ => ?_
  refine Laid.step (described_opt_plain described_flag) fun _ => ?_
  refine Laid.step (described_opt_plain described_flag) fun _ => ?_
  refine Laid.step (described_opt_plain described_f64) fun _ => ?_
  exact Laid.pure (by rintro rfl; simp)

def policyLayout : List Format :=
  [.bytes 8, .string, .bytes 8, .bytes 96, .upTo 2, .bytes 96, .bytes 8, .bytes 8, .bytes 8, .flag,
    .flag, .flag, .flag, .bytes 8, .bytes 8, .bytes 4, .bytes 8, .bytes 8, .bytes 8, .bytes 8,
    .bytes 4, .many (.all overrideLayout)]

def AdmissionPolicy.isDeclared (p : AdmissionPolicy F) : Bool :=
  NamedEnum.isDeclared p.overcommit ∧ p.overrides.all PolicyOverride.isDeclared

theorem described_policy :
    Described decodePolicy (.all policyLayout) (encodePolicy (F := F))
      fun p => p.isDeclared = true := by
  apply Laid.described
  intro p
  have hD : p.isDeclared = true ↔ NamedEnum.isDeclared p.overcommit = true ∧
      (∀ o ∈ p.overrides, o.isDeclared = true) ∧ True := by
    simp [AdmissionPolicy.isDeclared]
  rw [hD]
  unfold decodePolicy policyLayout
  refine Laid.step described_ident fun _ => ?_
  refine Laid.step described_string fun _ => ?_
  apply Laid.ensureOk
  refine Laid.step described_f64 fun _ => ?_
  refine Laid.step described_resourceVector fun _ => ?_
  apply Laid.ensureOk
  refine Laid.cons (described_enum (by decide +kernel)) fun _ => ?_
  refine Laid.step described_resourceVector fun _ => ?_
  apply Laid.ensureOk
  refine Laid.step described_f64 fun _ => ?_
  refine Laid.step described_f64 fun _ => ?_
  refine Laid.step described_i64 fun _ => ?_
  refine Laid.step described_flag fun _ => ?_
  refine Laid.step described_flag fun _ => ?_
  refine Laid.step described_flag fun _ => ?_
  refine Laid.step described_flag fun _ => ?_
  refine Laid.step described_i64 fun _ => ?_
  refine Laid.step described_i64 fun _ => ?_
  refine Laid.step described_u32 fun _ => ?_
  refine Laid.step described_i64 fun _ => ?_
  refine Laid.step described_i64 fun _ => ?_
  refine Laid.step described_f64 fun _ => ?_
  refine Laid.step described_f64 fun _ => ?_
  refine Laid.step described_u32 fun _ => ?_
  refine Laid.counted described_override fun _ => ?_
  apply Laid.ensureOk
  exact Laid.pure (by rintro rfl; simp)

def quotaLayout : List Format :=
  [.flag, .bytes 8, .string, .bytes 8, .flag, .bytes 96, .bytes 96, .bytes 96, .bytes 8, .bytes 4,
    .bytes 4, .bytes 8]

theorem described_quota :
    Described decodeQuota (.all quotaLayout) encodeQuota fun _ => True := by
  apply Laid.described
  intro q
  unfold decodeQuota quotaLayout
  refine Laid.step described_flag fun _ => ?_
  refine Laid.step described_u64 fun _ => ?_
  refine Laid.step described_string fun _ => ?_
  apply Laid.ensureOk
  refine Laid.step described_i64 fun _ => ?_
  apply Laid.ensureOk
  refine Laid.step described_flag fun _ => ?_
  refine Laid.step described_resourceVector fun _ => ?_
  apply Laid.ensureOk
  refine Laid.step described_resourceVector fun _ => ?_
  apply Laid.ensureOk
  refine Laid.step described_resourceVector fun _ => ?_
  apply Laid.ensureOk
  refine Laid.step described_u64 fun _ => ?_
  refine Laid.step described_u32 fun _ => ?_
  refine Laid.step described_u32 fun _ => ?_
  refine Laid.step described_i64 fun _ => ?_
  apply Laid.ensureOk
  exact Laid.pure (by rintro rfl; simp)

def observationLayout : List Format :=
  [.bytes 8, .bytes 8, .bytes 8, .bytes 8, .bytes 8, .string, .string, .string, .upTo 7, .bytes 8,
    .bytes 8, .bytes 8, .bytes 8, .bytes 8, .bytes 8, .bytes 8, .bytes 8, .bytes 8, .upTo 2]

def Observation.isDeclared (o : Observation) : Bool :=
  NamedEnum.isDeclared o.workloadType ∧ NamedEnum.isDeclared o.kind

theorem described_observation :
    Described decodeObservation (.all observationLayout) encodeObservation
      fun o => o.isDeclared = true := by
  apply Laid.described
  intro o
  have hD : o.isDeclared = true ↔ NamedEnum.isDeclared o.workloadType = true ∧
      NamedEnum.isDeclared o.kind = true ∧ True := by
    simp [Observation.isDeclared]
  rw [hD]
  unfold decodeObservation observationLayout
  refine Laid.step described_ident fun _ => ?_
  refine Laid.step described_ident fun _ => ?_
  refine Laid.step described_ident fun _ => ?_
  refine Laid.step described_ident fun _ => ?_
  refine Laid.step described_ident fun _ => ?_
  refine Laid.step described_string fun _ => ?_
  apply Laid.ensureOk
  refine Laid.step described_string fun _ => ?_
  apply Laid.ensureOk
  refine Laid.step described_string fun _ => ?_
  apply Laid.ensureOk
  refine Laid.cons (described_enum (by decide +kernel)) fun _ => ?_
  refine Laid.step described_u64 fun _ => ?_
  refine Laid.step described_u64 fun _ => ?_
  refine Laid.step described_u64 fun _ => ?_
  refine Laid.step described_u64 fun _ => ?_
  refine Laid.step described_u64 fun _ => ?_
  refine Laid.step described_i64 fun _ => ?_
  refine Laid.step described_u64 fun _ => ?_
  refine Laid.step described_u64 fun _ => ?_
  refine Laid.step described_i64 fun _ => ?_
  apply Laid.ensureOk
  refine Laid.cons (described_enum (by decide +kernel)) fun _ => ?_
  apply Laid.ensureOk
  exact Laid.pure (by rintro rfl; simp)

def decisionLayout : List Format :=
  [.bytes 8, .bytes 8, .bytes 8, .bytes 8, .bytes 8, .bytes 8, .upTo 2, .enumerator 4 (· ≤ 14),
    .bytes 8, .bytes 8, .bytes 8, .bytes 8, .bytes 8, .bytes 8, .opt (.bytes 8), .bytes 96, .string]

def AdmissionDecision.isDeclared (d : AdmissionDecision F) : Bool :=
  NamedEnum.isDeclared d.outcome ∧ d.reason.isDeclared

theorem described_decision :
    Described decodeDecision (.all decisionLayout) (encodeDecision (F := F))
      fun d => d.isDeclared = true := by
  apply Laid.described
  intro d
  have hD : d.isDeclared = true ↔ NamedEnum.isDeclared d.outcome = true ∧
      d.reason.isDeclared = true ∧ True := by
    simp [AdmissionDecision.isDeclared]
  rw [hD]
  unfold decodeDecision decisionLayout
  refine Laid.step described_ident fun _ => ?_
  refine Laid.step described_ident fun _ => ?_
  refine Laid.step described_ident fun _ => ?_
  refine Laid.step described_ident fun _ => ?_
  refine Laid.step described_ident fun _ => ?_
  refine Laid.step described_ident fun _ => ?_
  refine Laid.cons (described_enum (by decide +kernel)) fun _ => ?_
  refine Laid.cons described_reason fun _ => ?_
  refine Laid.step described_ident fun _ => ?_
  refine Laid.step described_ident fun _ => ?_
  refine Laid.step described_ident fun _ => ?_
  refine Laid.step described_ident fun _ => ?_
  refine Laid.step described_f64 fun _ => ?_
  refine Laid.step described_i64 fun _ => ?_
  apply Laid.ensureOk
  refine Laid.step (described_opt_plain described_ident) fun _ => ?_
  refine Laid.step described_resourceVector fun _ => ?_
  apply Laid.ensureOk
  refine Laid.step described_string fun _ => ?_
  apply Laid.ensureOk
  apply Laid.ensureOk
  exact Laid.pure (by rintro rfl; simp)

/-! ## Messages -/

def registerLayout : List Format := [.bytes 8, .bytes 8, .set, .bytes 96, .string, .bytes 4]

theorem described_register :
    Described decodeRegister (.all registerLayout) encodeRegister fun _ => True := by
  apply Laid.described
  intro m
  unfold decodeRegister registerLayout
  refine Laid.step described_ident fun _ => ?_
  apply Laid.ensureOk
  refine Laid.step described_ident fun _ => ?_
  apply Laid.ensureOk
  refine Laid.step described_capabilities fun _ => ?_
  apply Laid.ensureOk
  refine Laid.step described_resourceVector fun _ => ?_
  apply Laid.ensureOk
  refine Laid.step described_string fun _ => ?_
  apply Laid.ensureOk
  refine Laid.step described_u32 fun _ => ?_
  apply Laid.ensureOk
  exact Laid.pure (by rintro rfl; simp)

/-- The epoch, then the snapshot. -/
def capacityUpdateLayout : List Format := [.bytes 8, .all snapshotLayout]

theorem described_capacityUpdate :
    Described decodeCapacityUpdate (.all capacityUpdateLayout)
      (fun v => encodeCapacityUpdate v.1 v.2) fun v => v.2.isDeclared = true := by
  have h : Described decodeCapacityUpdate (.all capacityUpdateLayout)
      (fun v => [ByteWriter.u64 v.1, encodeSnapshot v.2].flatten)
      fun v => v.2.isDeclared = true ∧ True := by
    apply Laid.described
    intro v
    refine Laid.step described_u64 fun _ => ?_
    refine Laid.cons described_snapshot fun _ => ?_
    exact Laid.pure (by rintro rfl; simp)
  simp only [List.flatten_cons, List.flatten_nil, List.append_nil, and_true] at h
  exact h

def commitRequestLayout : List Format := [.bytes 8, .bytes 8]

theorem described_commitRequest :
    Described decodeCommitRequest (.all commitRequestLayout)
      (fun v => encodeCommitRequest v.1 v.2) fun _ => True := by
  have h : Described decodeCommitRequest (.all commitRequestLayout)
      (fun v => [ByteWriter.ident v.1, ByteWriter.ident v.2].flatten) fun _ => True := by
    apply Laid.described
    intro v
    refine Laid.step described_ident fun _ => ?_
    apply Laid.ensureOk
    refine Laid.step described_ident fun _ => ?_
    apply Laid.ensureOk
    apply Laid.ensureOk
    exact Laid.pure (by rintro rfl; simp)
  simp only [List.flatten_cons, List.flatten_nil, List.append_nil] at h
  exact h

def releaseRequestLayout : List Format := [.bytes 8]

theorem described_releaseRequest :
    Described decodeReleaseRequest (.all releaseRequestLayout) encodeReleaseRequest
      fun _ => True := by
  have h : Described decodeReleaseRequest (.all releaseRequestLayout)
      (fun v => [ByteWriter.ident v].flatten) fun _ => True := by
    apply Laid.described
    intro v
    refine Laid.step described_ident fun _ => ?_
    apply Laid.ensureOk
    apply Laid.ensureOk
    exact Laid.pure (by rintro rfl; simp)
  simp only [List.flatten_cons, List.flatten_nil, List.append_nil] at h
  exact h

end Fabric

import Fabric.Support.Exact
import Mathlib.Data.List.Lex

/-!
# Layouts of byte formats

A `Format` says where the parts of a byte string lie and not what they mean. `Format.scan` walks
over a byte string and notes the parts that a reader takes although they are not what a writer
puts there, or although they stand for nothing: flag bytes, numbers of enumerators and sets given
as lists. It knows no value and no decoder.

* `Described m format encode D`: what `m` reads is laid out as `format`; it is the encoding of its
  value exactly when its marks are canonical, and the value meets `D` exactly when all
  enumerators in it are declared.
* `Laid.cons`: a chain of reads is laid out as its reads are, one after the other.
-/

namespace Fabric.Support

open Support.ByteReader

/-! ## Formats -/

/-- What a walk notes. -/
inductive Mark
  | flag (b : UInt8)
  | enumerator (declared : Bool)
  | set (elements : List (List UInt8))

namespace Mark

/-- A writer writes flags as zero or one and sets in increasing order. -/
def canonical : Mark → Bool
  | flag b => b ≤ 1
  | enumerator _ => true
  | set elements => elements.Pairwise (· < ·)

def declared : Mark → Bool
  | enumerator d => d
  | _ => true

end Mark

/-- The layout of a byte string. -/
inductive Format
  /-- Nothing. -/
  | nil
  /-- A fixed number of bytes. -/
  | bytes (n : ℕ)
  /-- One byte. -/
  | flag
  /-- A little-endian number. -/
  | enumerator (width : ℕ) (declared : ℕ → Bool)
  /-- A length in four bytes, and as many bytes. -/
  | string
  /-- A list of strings. -/
  | strings
  /-- A list of strings that stands for a set. -/
  | set
  /-- A flag, and the rest if it is not zero. -/
  | opt (inner : Format)
  /-- A fixed number of times. -/
  | rep (n : ℕ) (inner : Format)
  /-- A length in four bytes, and as many times. -/
  | many (inner : Format)
  | seq (first second : Format)

/-- Cut off the first `n` bytes. -/
def cut (n : ℕ) (x : List UInt8) : Option (List UInt8 × List UInt8) :=
  if n ≤ x.length then some (x.take n, x.drop n) else none

def scanString (x : List UInt8) : Option (List UInt8 × List UInt8) := do
  let (len, x) ← cut 4 x
  cut (ofLeBytes len) x

def scanStrings : ℕ → List UInt8 → Option (List (List UInt8) × List UInt8)
  | 0, x => some ([], x)
  | n + 1, x => do
    let (s, x) ← scanString x
    let (ss, x) ← scanStrings n x
    some (s :: ss, x)

/-- A length in four bytes, and as many strings. -/
def scanList (x : List UInt8) : Option (List (List UInt8) × List UInt8) := do
  let (len, x) ← cut 4 x
  scanStrings (ofLeBytes len) x

def scanTimes (walk : List UInt8 → Option (List Mark × List UInt8)) :
    ℕ → List UInt8 → Option (List Mark × List UInt8)
  | 0, x => some ([], x)
  | n + 1, x => do
    let (marks, x) ← walk x
    let (more, x) ← scanTimes walk n x
    some (marks ++ more, x)

namespace Format

/-- The marks of the front of a byte string, and what is behind it. -/
def scan : Format → List UInt8 → Option (List Mark × List UInt8)
  | nil, x => some ([], x)
  | bytes n, x => do
    let (_, x) ← cut n x
    some ([], x)
  | flag, x => do
    let (b, x) ← cut 1 x
    some (b.map .flag, x)
  | enumerator width declared, x => do
    let (b, x) ← cut width x
    some ([.enumerator (declared (ofLeBytes b))], x)
  | string, x => do
    let (_, x) ← scanString x
    some ([], x)
  | strings, x => do
    let (_, x) ← scanList x
    some ([], x)
  | set, x => do
    let (elements, x) ← scanList x
    some ([.set elements], x)
  | opt inner, x => do
    let (b, x) ← cut 1 x
    if b = [0] then some ([.flag 0], x)
    else
      let (marks, x) ← inner.scan x
      some (b.map .flag ++ marks, x)
  | rep n inner, x => scanTimes inner.scan n x
  | many inner, x => do
    let (len, x) ← cut 4 x
    scanTimes inner.scan (ofLeBytes len) x
  | seq first second, x => do
    let (marks, x) ← first.scan x
    let (more, x) ← second.scan x
    some (marks ++ more, x)

/-- An enumerator in one byte, from zero on. -/
def upTo (n : ℕ) : Format := .enumerator 1 (· ≤ n)

/-- One format after the other. -/
def all : List Format → Format
  | [] => nil
  | f :: fs => seq f (all fs)

/-- All of the bytes are laid out as `f`, as a writer would write them. -/
def canonical (f : Format) (x : List UInt8) : Bool :=
  match f.scan x with
  | some (marks, rest) => rest.isEmpty && marks.all Mark.canonical
  | none => false

/-- The bytes begin as `f` says, with declared enumerators only. -/
def declared (f : Format) (x : List UInt8) : Bool :=
  match f.scan x with
  | some (marks, _) => marks.all Mark.declared
  | none => false

end Format

/-! ## Walks -/

variable {E α β κ : Type} {x rest : List UInt8} {n : ℕ}

theorem cut_append (h : x.length = n) : cut n (x ++ rest) = some (x, rest) := by
  have hle : n ≤ (x ++ rest).length := by
    rw [List.length_append]
    omega
  rw [cut, if_pos hle, List.take_left' h, List.drop_left' h]

theorem scanString_append {len : List UInt8} (hlen : len.length = 4)
    (h : ofLeBytes len = x.length) : scanString (len ++ x ++ rest) = some (x, rest) := by
  rw [scanString, List.append_assoc, cut_append hlen]
  exact cut_append h.symm

theorem scanStrings_append {encode : List UInt8 → List UInt8} {ss : List (List UInt8)}
    (h : ∀ s ∈ ss, ∀ rest, scanString (encode s ++ rest) = some (s, rest)) (rest : List UInt8) :
    scanStrings ss.length (ss.flatMap encode ++ rest) = some (ss, rest) := by
  induction ss with
  | nil => rfl
  | cons s ss ih =>
    have hs := h s List.mem_cons_self (ss.flatMap encode ++ rest)
    have hss := ih fun s' hs' => h s' (List.mem_cons_of_mem _ hs')
    rw [List.flatMap_cons, List.append_assoc, List.length_cons, scanStrings, hs]
    show (scanStrings ss.length _ >>= _) = _
    rw [hss]
    rfl

theorem scanList_append {len : List UInt8} {encode : List UInt8 → List UInt8}
    {ss : List (List UInt8)} (hlen : len.length = 4) (hcount : ofLeBytes len = ss.length)
    (h : ∀ s ∈ ss, ∀ rest, scanString (encode s ++ rest) = some (s, rest)) (rest : List UInt8) :
    scanList (len ++ ss.flatMap encode ++ rest) = some (ss, rest) := by
  rw [scanList, List.append_assoc, cut_append hlen]
  show scanStrings (ofLeBytes len) _ = _
  rw [hcount]
  exact scanStrings_append h rest

/-! ## Descriptions -/

/-- Whatever follows, `bytes` are laid out as `format`; they are what a writer writes exactly when
their marks are canonical, and `D` holds exactly when the enumerators in them are declared. -/
def Covers (format : Format) (bytes written : List UInt8) (D : Prop) : Prop :=
  ∃ marks, (∀ rest, format.scan (bytes ++ rest) = some (marks, rest)) ∧
    (marks.all Mark.canonical = true ↔ bytes = written) ∧ (marks.all Mark.declared = true ↔ D)

namespace Covers

variable {format first second : Format} {bytes bytes' written written' : List UInt8} {D D' : Prop}

theorem congr (h : Covers format bytes written D) (hD : D ↔ D') :
    Covers format bytes written D' := by
  obtain ⟨marks, hscan, hcanonical, hdeclared⟩ := h
  exact ⟨marks, hscan, hcanonical, hdeclared.trans hD⟩

/-- Bytes without a mark. -/
theorem plain (h : ∀ rest, format.scan (bytes ++ rest) = some ([], rest)) :
    Covers format bytes bytes True :=
  ⟨[], h, iff_of_true rfl rfl, iff_of_true rfl trivial⟩

theorem seq (h : Covers first bytes written D) (h' : Covers second bytes' written' D')
    (hcut : bytes ++ bytes' = written ++ written' → bytes = written) :
    Covers (.seq first second) (bytes ++ bytes') (written ++ written') (D ∧ D') := by
  obtain ⟨marks, hscan, hcanonical, hdeclared⟩ := h
  obtain ⟨more, hscan', hcanonical', hdeclared'⟩ := h'
  refine ⟨marks ++ more, fun rest => ?_, ?_, ?_⟩
  · rw [Format.scan, List.append_assoc, hscan]
    show (second.scan _ >>= _) = _
    rw [hscan']
    rfl
  · rw [List.all_append, Bool.and_eq_true, hcanonical, hcanonical']
    constructor
    · rintro ⟨rfl, rfl⟩
      rfl
    · intro h
      obtain rfl := hcut h
      exact ⟨rfl, List.append_cancel_left h⟩
  · rw [List.all_append, Bool.and_eq_true, hdeclared, hdeclared']

theorem rep_succ (h : Covers format bytes written D) (h' : Covers (.rep n format) bytes' written' D')
    (hcut : bytes ++ bytes' = written ++ written' → bytes = written) :
    Covers (.rep (n + 1) format) (bytes ++ bytes') (written ++ written') (D ∧ D') := seq h h' hcut

theorem many {len : List UInt8} (hlen : len.length = 4)
    (h : Covers (.rep (ofLeBytes len) format) bytes written D) :
    Covers (.many format) (len ++ bytes) (len ++ written) D := by
  obtain ⟨marks, hscan, hcanonical, hdeclared⟩ := h
  refine ⟨marks, fun rest => ?_, ?_, hdeclared⟩
  · rw [Format.scan, List.append_assoc, cut_append hlen]
    exact hscan rest
  · rw [hcanonical, List.append_cancel_left_eq]

theorem canonical_iff (h : Covers format bytes written D) :
    format.canonical (bytes ++ rest) = true ↔ bytes ++ rest = written ∧ rest = [] := by
  obtain ⟨marks, hscan, hcanonical, -⟩ := h
  rw [Format.canonical, hscan]
  simp only [Bool.and_eq_true, List.isEmpty_iff, hcanonical]
  constructor
  · rintro ⟨rfl, rfl⟩
    exact ⟨List.append_nil _, rfl⟩
  · rintro ⟨h, rfl⟩
    rw [List.append_nil] at h
    exact ⟨rfl, h⟩

theorem declared_iff (h : Covers format bytes written D) :
    format.declared (bytes ++ rest) = true ↔ D := by
  obtain ⟨marks, hscan, -, hdeclared⟩ := h
  rw [Format.declared, hscan]
  exact hdeclared

end Covers

/-- What `m` reads is laid out as `format`, and a writer would write the value as `encode` does. -/
structure Described (m : Decoder E α) (format : Format) (encode : α → List UInt8) (D : α → Prop) :
    Prop where
  back : ∀ {bytes a}, Decodes m bytes a → Decodes m (encode a) a
  covers : ∀ {bytes a}, Decodes m bytes a → Covers format bytes (encode a) (D a)

namespace Described

variable {m : Decoder E α} {format : Format} {encode : α → List UInt8} {D D' : α → Prop}
  {bytes more more' : List UInt8} {a : α}

theorem congr (h : Described m format encode D) (hD : ∀ a, D a ↔ D' a) :
    Described m format encode D' :=
  ⟨h.back, fun hread => (h.covers hread).congr (hD _)⟩

theorem of_precise {P : α → Prop} (h : Precise m encode P)
    (hscan : ∀ a, P a → ∀ rest, format.scan (encode a ++ rest) = some ([], rest)) :
    Described m format encode fun _ => True where
  back hread := h.decodes ((h _ _).mp hread).1
  covers hread := by
    obtain ⟨hP, rfl⟩ := (h _ _).mp hread
    exact .plain (hscan _ hP)

/-- A number of bytes that does not depend on the value. -/
theorem fixed {P : α → Prop} (h : Precise m encode P) (hlen : ∀ a, (encode a).length = n) :
    Described m (.bytes n) encode fun _ => True :=
  of_precise h fun a _ rest => by
    rw [Format.scan, cut_append (hlen a)]
    rfl

theorem enumerator {P : α → Prop} {width : ℕ} {declared : ℕ → Bool} (h : Precise m encode P)
    (hlen : ∀ a, (encode a).length = width)
    (hD : ∀ a, declared (ofLeBytes (encode a)) = true ↔ D a) :
    Described m (.enumerator width declared) encode D where
  back hread := h.decodes ((h _ _).mp hread).1
  covers {bytes a} hread := by
    obtain ⟨hP, rfl⟩ := (h _ _).mp hread
    refine ⟨[.enumerator (declared (ofLeBytes (encode a)))], fun rest => ?_, iff_of_true rfl rfl, ?_⟩
    · rw [Format.scan, cut_append (hlen a)]
      rfl
    · rw [List.all_cons, List.all_nil, Bool.and_true]
      exact hD a

/-- The decoder takes the same number of bytes from what was written. -/
theorem cut_eq (h : Described m format encode D) (hread : Decodes m bytes a)
    (heq : bytes ++ more = encode a ++ more') : bytes = encode a :=
  (hread.unique (h.back hread) heq).2.1

/-- A read that is followed by a look at the mark of the reader. -/
theorem checked (h : Described m format encode D) [Exact m] {e : String → E} :
    Described (do
      let a ← m
      ensureOk e
      pure a) format encode D := by
  have hread : ∀ {bytes : List UInt8} {a : α}, Decodes (do
      let a ← m
      ensureOk e
      pure a) bytes a → Decodes m bytes a := by
    intro bytes a hread
    obtain ⟨a', chunk, more, rfl, ha, hmore⟩ := decodes_bind_iff.mp hread
    have hpure : Decodes (pure a' : Decoder E α) more a := decodes_ensureOk_iff.mp hmore
    obtain ⟨rfl, rfl⟩ := decodes_pure_iff.mp hpure
    rwa [List.append_nil]
  exact ⟨fun ha => (h.back (hread ha)).last (.ensureOk (.pure _)), fun ha => h.covers (hread ha)⟩

theorem times [Exact m] (h : Described m format encode D) (n : ℕ) :
    Described (ByteReader.times m n) (.rep n format) (fun as => as.flatMap encode)
      fun as => ∀ a ∈ as, D a := by
  induction n with
  | zero =>
    constructor
    · intro bytes as hread
      obtain ⟨-, rfl⟩ := decodes_pure_iff.mp hread
      exact Decodes.pure []
    · intro bytes as hread
      obtain ⟨rfl, rfl⟩ := decodes_pure_iff.mp hread
      exact (Covers.plain fun _ => rfl).congr (by simp)
  | succ n ih =>
    constructor
    · intro bytes as hread
      obtain ⟨a, chunk, more, rfl, ha, hmore⟩ := decodes_bind_iff.mp hread
      obtain ⟨as, chunk', more, rfl, has, hpure⟩ := decodes_bind_iff.mp hmore
      obtain ⟨rfl, rfl⟩ := decodes_pure_iff.mp hpure
      rw [List.flatMap_cons]
      exact (h.back ha).bind ((ih.back has).last (Decodes.pure _))
    · intro bytes as hread
      obtain ⟨a, chunk, more, rfl, ha, hmore⟩ := decodes_bind_iff.mp hread
      obtain ⟨as, chunk', more, rfl, has, hpure⟩ := decodes_bind_iff.mp hmore
      obtain ⟨rfl, rfl⟩ := decodes_pure_iff.mp hpure
      rw [List.flatMap_cons, List.append_nil]
      exact ((h.covers ha).rep_succ (ih.covers has) (h.cut_eq ha)).congr List.forall_mem_cons.symm

theorem table [DecidableEq κ] [Exact m] (h : Described m format encode D) {keys : List κ}
    (hkeys : ∀ k, k ∈ keys) (hnodup : keys.Nodup) (t₀ : κ → α) :
    Described (ByteReader.table m keys t₀) (.rep keys.length format)
      (fun t => keys.flatMap fun k => encode (t k)) fun t => ∀ k, D (t k) := by
  have key : ∀ (keys : List κ) (t₀ : κ → α) {bytes : List UInt8} {t : κ → α}, keys.Nodup →
      Decodes (ByteReader.table m keys t₀) bytes t →
        (∀ k, k ∉ keys → t k = t₀ k) ∧
        Decodes (ByteReader.table m keys t₀) (keys.flatMap fun k => encode (t k)) t ∧
        Covers (.rep keys.length format) bytes (keys.flatMap fun k => encode (t k))
          (∀ k ∈ keys, D (t k)) := by
    intro keys
    induction keys with
    | nil =>
      intro t₀ bytes t _ hread
      obtain ⟨rfl, rfl⟩ := decodes_pure_iff.mp hread
      exact ⟨fun _ _ => rfl, Decodes.pure t, (Covers.plain fun _ => rfl).congr (by simp)⟩
    | cons k keys ih =>
      intro t₀ bytes t hnodup hread
      obtain ⟨hk, hnodup⟩ := List.nodup_cons.mp hnodup
      obtain ⟨a, chunk, more, rfl, ha, hmore⟩ := decodes_bind_iff.mp hread
      obtain ⟨hrest, hback, hcovers⟩ := ih _ hnodup hmore
      have hta : t k = a := by rw [hrest k hk, Function.update_self]
      rw [← hta] at ha hback
      rw [List.flatMap_cons]
      refine ⟨?_, (h.back ha).bind hback, ?_⟩
      · intro k' hk'
        obtain ⟨hne, hk'⟩ := not_or.mp (mt List.mem_cons.mpr hk')
        rw [hrest k' hk', Function.update_of_ne hne]
      · have hD := (List.forall_mem_cons (p := fun k => D (t k)) (a := k) (l := keys)).symm
        exact ((h.covers ha).rep_succ hcovers (h.cut_eq ha)).congr hD
  constructor
  · intro bytes t hread
    exact (key keys t₀ hnodup hread).2.1
  · intro bytes t hread
    exact (key keys t₀ hnodup hread).2.2.congr (by simp [hkeys])

end Described

/-! ## Chains of reads -/

/-- A reading of `b` is laid out as the formats say, one after the other; a writer would write the
chunks. `Q` is what a reading of `b` shows of the values that have been read before. -/
structure Laid (m : Decoder E β) (formats : List Format) (b : β) (chunks : List (List UInt8))
    (D Q : Prop) : Prop where
  exact : Exact m
  reads : ∀ {bytes}, Decodes m bytes b →
    Q ∧ Decodes m chunks.flatten b ∧ Covers (.all formats) bytes chunks.flatten D

namespace Laid

variable {m : Decoder E α} {f : α → Decoder E β} {format : Format} {formats : List Format}
  {encode : α → List UInt8} {D' : α → Prop} {chunks : List (List UInt8)} {D Q : Prop} {b : β}

theorem pure {b' : β} (h : b = b' → Q) : Laid (Pure.pure b' : Decoder E β) [] b [] True Q where
  exact := Exact.pure _
  reads hread := by
    obtain ⟨rfl, rfl⟩ := decodes_pure_iff.mp hread
    exact ⟨h rfl, Decodes.pure _, .plain fun _ => rfl⟩

/-- The first read takes the first format and the first chunk. -/
theorem cons {x : α} [Exact m] (hm : Described m format encode D')
    (hf : ∀ a, Laid (f a) formats b chunks D (x = a ∧ Q)) :
    Laid (m >>= f) (format :: formats) b (encode x :: chunks) (D' x ∧ D) Q where
  exact := Exact.step fun a => (hf a).exact
  reads {bytes} hread := by
    have hexact : ∀ a, Exact (f a) := fun a => (hf a).exact
    obtain ⟨a, chunk, more, rfl, ha, hmore⟩ := decodes_bind_iff.mp hread
    obtain ⟨⟨rfl, hQ⟩, hback, hcovers⟩ := (hf a).reads hmore
    exact ⟨hQ, (hm.back ha).cons hback, (hm.covers ha).seq hcovers (hm.cut_eq ha)⟩

/-- The same for a read that has no enumerator in it. -/
theorem step {x : α} [Exact m] (hm : Described m format encode fun _ => True)
    (hf : ∀ a, Laid (f a) formats b chunks D (x = a ∧ Q)) :
    Laid (m >>= f) (format :: formats) b (encode x :: chunks) D Q where
  exact := Exact.step fun a => (hf a).exact
  reads hread := by
    obtain ⟨hQ, hback, hcovers⟩ := (cons hm hf).reads hread
    exact ⟨hQ, hback, hcovers.congr (iff_of_eq (true_and D))⟩

theorem ensureOk {e : String → E} {g : Unit → Decoder E β} (h : Laid (g ()) formats b chunks D Q) :
    Laid (ByteReader.ensureOk e >>= g) formats b chunks D Q where
  exact := by
    have hg : ∀ u, Exact (g u) := fun _ => h.exact
    infer_instance
  reads hread := h.reads hread

theorem throw {e : E} : Laid (MonadExcept.throw e : Decoder E β) formats b chunks D Q where
  exact := Exact.throw e
  reads hread := by cases hread.run

/-- A chain that reads a value and has no value before it. -/
theorem described {m : Decoder E β} {chunks : β → List (List UInt8)} {D : β → Prop}
    (h : ∀ b, Laid m formats b (chunks b) (D b) True) :
    Described m (.all formats) (fun b => (chunks b).flatten) D :=
  ⟨fun hread => ((h _).reads hread).2.1, fun hread => ((h _).reads hread).2.2⟩

end Laid

end Fabric.Support

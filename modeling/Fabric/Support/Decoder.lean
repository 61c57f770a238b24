import Mathlib.Algebra.GroupWithZero.Nat
import Mathlib.Data.List.Flatten
import Mathlib.Data.Nat.Notation
import Mathlib.Logic.Function.Basic

/-!
# Reading bytes in order

A `ByteReader` holds the bytes that are still ahead. A read past the end marks the reader as
failed; from then on every read yields zero and moves nothing, and it is up to the caller to
look at the mark. A `Decoder E` is a computation on a reader that may also stop with an
error, and a `Loader σ E` changes a state of type `σ` between its reads.

* `Decodes m bytes a`: on every input that starts with `bytes`, `m` reads exactly these bytes
  and returns `a`. An encoder is written as the list of its chunks, and `Decodes.cons` takes
  the first read and the first chunk off together.
* `Loads m s bytes a s'`: the same for a loader, which moves the state from `s` to `s'`.
* `Refuses P m s bytes`: on every input that starts with `bytes` the loader stops with an error
  that meets `P`.
-/

namespace Fabric.Support

/-! ## Little-endian numbers -/

/-- The lowest `width` bytes of a number, least significant first. -/
def leBytes : ℕ → ℕ → List UInt8
  | 0, _ => []
  | width + 1, n => (n % 256).toUInt8 :: leBytes width (n / 256)

/-- The number with the given bytes. -/
def ofLeBytes : List UInt8 → ℕ
  | [] => 0
  | b :: bytes => b.toNat + 256 * ofLeBytes bytes

@[simp] theorem length_leBytes (width n : ℕ) : (leBytes width n).length = width := by
  induction width generalizing n with
  | zero => rfl
  | succ width ih => rw [leBytes, List.length_cons, ih]

theorem ofLeBytes_leBytes {width n : ℕ} (h : n < 256 ^ width) :
    ofLeBytes (leBytes width n) = n := by
  induction width generalizing n with
  | zero => simpa [leBytes, ofLeBytes, eq_comm] using h
  | succ width ih =>
    have hdiv : n / 256 < 256 ^ width := by
      apply Nat.div_lt_of_lt_mul
      rwa [Nat.mul_comm, ← Nat.pow_succ]
    have hmod : (n % 256).toUInt8.toNat = n % 256 := by
      show n % 256 % 256 = n % 256
      omega
    rw [leBytes, ofLeBytes, ih hdiv, hmod]
    omega

theorem leBytes_ofLeBytes (bytes : List UInt8) :
    leBytes bytes.length (ofLeBytes bytes) = bytes := by
  induction bytes with
  | nil => rfl
  | cons b bytes ih =>
    have hbyte := b.toNat_lt
    have hmod : (b.toNat + 256 * ofLeBytes bytes) % 256 = b.toNat := by omega
    have hdiv : (b.toNat + 256 * ofLeBytes bytes) / 256 = ofLeBytes bytes := by omega
    rw [ofLeBytes, List.length_cons, leBytes, hmod, hdiv, ih]
    exact congrArg (· :: bytes) UInt8.ofNat_toNat

theorem ofLeBytes_lt (bytes : List UInt8) : ofLeBytes bytes < 256 ^ bytes.length := by
  induction bytes with
  | nil => exact Nat.one_pos
  | cons b bytes ih =>
    have hbyte := b.toNat_lt
    rw [ofLeBytes, List.length_cons, Nat.pow_succ]
    omega

/-! ## Readers -/

/-- The bytes ahead, and the first failure. -/
structure ByteReader where
  rest : List UInt8
  failed : Bool := false
  error : String := ""

/-- A computation on a reader that may stop with an error. -/
abbrev Decoder (E : Type) := EStateM E ByteReader

namespace ByteReader

variable {E α κ : Type}

/-- Mark the reader as failed; the first failure stays. -/
def fail (r : ByteReader) (e : String) : ByteReader :=
  if r.failed then r else { r with failed := true, error := e }

/-- Fail unless `n` more bytes are there. -/
def need (r : ByteReader) (n : ℕ) : ByteReader :=
  if r.failed then r
  else if n > r.rest.length then r.fail "unexpected end of buffer"
  else r

theorem need_of_le {r : ByteReader} {n : ℕ} (h : n ≤ r.rest.length) : r.need n = r := by
  have hn : ¬ n > r.rest.length := by omega
  rw [need, if_neg hn, ite_self]

def u8 : Decoder E UInt8 := fun r =>
  match r.need 1 with
  | ⟨b :: rest, false, e⟩ => .ok b ⟨rest, false, e⟩
  | r => .ok 0 r

/-- A little-endian number of `width` bytes, read byte by byte. -/
def number : ℕ → Decoder E ℕ
  | 0 => pure 0
  | width + 1 => do
    let b ← u8
    let high ← number width
    pure (b.toNat + 256 * high)

/-- The next `n` bytes; nothing when they are not there. -/
def take (n : ℕ) : Decoder E (List UInt8) := fun r =>
  let r := r.need n
  if r.failed then .ok [] r else .ok (r.rest.take n) { r with rest := r.rest.drop n }

/-- Stop with an error if the reader has failed. -/
def ensureOk (e : String → E) : Decoder E Unit := fun r =>
  if r.failed then .error (e r.error) r else .ok () r

/-- Read `n` values. -/
def times (m : Decoder E α) : ℕ → Decoder E (List α)
  | 0 => pure []
  | n + 1 => do
    let a ← m
    let as ← times m n
    pure (a :: as)

/-- Read up to `n` values and stop at the first read that fails. -/
def timesWhileOk (m : Decoder E α) : ℕ → Decoder E (List α)
  | 0 => pure []
  | n + 1 => do
    let a ← m
    if (← get).failed then pure []
    else
      let as ← timesWhileOk m n
      pure (a :: as)

/-- Read a value for every key of a list in turn and write it over a table. -/
def table [DecidableEq κ] (m : Decoder E α) : List κ → (κ → α) → Decoder E (κ → α)
  | [], t => pure t
  | k :: keys, t => do
    let a ← m
    table m keys (Function.update t k a)

end ByteReader

/-! ## What a decoder reads -/

open Support.ByteReader

/-- On every input that starts with `bytes`, `m` reads these bytes and returns `a`. -/
def Decodes {E α : Type} (m : Decoder E α) (bytes : List UInt8) (a : α) : Prop :=
  ∀ rest, m ⟨bytes ++ rest, false, ""⟩ = .ok a ⟨rest, false, ""⟩

namespace Decodes

variable {E α β κ : Type} {m : Decoder E α} {f : α → Decoder E β} {a : α} {b : β}
  {bytes chunk : List UInt8} {chunks : List (List UInt8)}

theorem pure (a : α) : Decodes (Pure.pure a : Decoder E α) [] a := fun _ => rfl

theorem bind {more : List UInt8} (hm : Decodes m bytes a) (hf : Decodes (f a) more b) :
    Decodes (m >>= f) (bytes ++ more) b := by
  intro rest
  show EStateM.bind m f _ = _
  rw [EStateM.bind, List.append_assoc, hm (more ++ rest)]
  exact hf rest

/-- The first read takes the first chunk. -/
theorem cons (hm : Decodes m chunk a) (hf : Decodes (f a) chunks.flatten b) :
    Decodes (m >>= f) (chunk :: chunks).flatten b := by
  rw [List.flatten_cons]
  exact hm.bind hf

/-- The last read takes all that is left. -/
theorem last (hm : Decodes m bytes a) (hf : Decodes (f a) [] b) :
    Decodes (m >>= f) bytes b := by
  rw [← List.append_nil bytes]
  exact hm.bind hf

theorem map (g : α → β) (hm : Decodes m bytes a) : Decodes (g <$> m) bytes (g a) := by
  intro rest
  show EStateM.map g m _ = _
  rw [EStateM.map, hm rest]

/-- A reader that has not failed passes the look at its mark. -/
theorem ensureOk {e : String → E} {g : Unit → Decoder E β} (h : Decodes (g ()) bytes b) :
    Decodes (ByteReader.ensureOk e >>= g) bytes b := h

theorem u8 (x : UInt8) : Decodes (E := E) ByteReader.u8 [x] x := by
  intro rest
  rw [ByteReader.u8, need_of_le (by simp)]
  rfl

theorem number (width : ℕ) {n : ℕ} (h : n < 256 ^ width) :
    Decodes (E := E) (ByteReader.number width) (leBytes width n) n := by
  have key : ∀ bytes : List UInt8,
      Decodes (E := E) (ByteReader.number bytes.length) bytes (ofLeBytes bytes) := by
    intro bytes
    induction bytes with
    | nil => exact pure 0
    | cons x bytes ih =>
      exact bind (u8 x) (last ih (pure _))
  have hkey := key (leBytes width n)
  rwa [length_leBytes, ofLeBytes_leBytes h] at hkey

theorem take (bytes : List UInt8) :
    Decodes (E := E) (ByteReader.take bytes.length) bytes bytes := by
  intro rest
  rw [ByteReader.take, need_of_le (by simp)]
  simp

/-! ### Sequences and tables -/

variable {encode : α → List UInt8}

theorem times (as : List α) (h : ∀ a ∈ as, Decodes m (encode a) a) :
    Decodes (ByteReader.times m as.length) (as.flatMap encode) as := by
  induction as with
  | nil => exact pure []
  | cons a as ih =>
    rw [List.flatMap_cons]
    apply bind (h a List.mem_cons_self)
    exact last (ih fun b hb => h b (List.mem_cons_of_mem _ hb)) (pure _)

theorem timesWhileOk (as : List α) (h : ∀ a ∈ as, Decodes m (encode a) a) :
    Decodes (ByteReader.timesWhileOk m as.length) (as.flatMap encode) as := by
  induction as with
  | nil => exact pure []
  | cons a as ih =>
    rw [List.flatMap_cons]
    apply bind (h a List.mem_cons_self)
    -- The reader has not failed, so the loop goes on.
    have hrest : Decodes (ByteReader.timesWhileOk m as.length >>= fun as => Pure.pure (a :: as))
        (as.flatMap encode) (a :: as) :=
      last (ih fun b hb => h b (List.mem_cons_of_mem _ hb)) (pure _)
    exact hrest

/-- The table read over any initial one, when the keys are all there. -/
theorem table [DecidableEq κ] {keys : List κ} (hkeys : ∀ k, k ∈ keys) {t t₀ : κ → α}
    (h : ∀ k, Decodes m (encode (t k)) (t k)) :
    Decodes (ByteReader.table m keys t₀) (keys.flatMap fun k => encode (t k)) t := by
  have key : ∀ (keys : List κ) (t₀ : κ → α),
      Decodes (ByteReader.table m keys t₀) (keys.flatMap fun k => encode (t k))
        fun k => if k ∈ keys then t k else t₀ k := by
    intro keys
    induction keys with
    | nil => exact fun t₀ => pure t₀
    | cons k keys ih =>
      intro t₀
      rw [List.flatMap_cons]
      apply bind (h k)
      have hrest := ih (Function.update t₀ k (t k))
      have htable : (fun k' => if k' ∈ keys then t k' else Function.update t₀ k (t k) k') =
          fun k' => if k' ∈ k :: keys then t k' else t₀ k' := by
        funext k'
        by_cases hk : k' = k
        · subst hk
          simp
        · simp [hk]
      rwa [htable] at hrest
  have hall := key keys t₀
  simp only [hkeys, if_true] at hall
  exact hall

end Decodes

/-! ## Loaders -/

/-- A computation that reads bytes and changes a state as it goes. -/
abbrev Loader (σ E : Type) := EStateM E (σ × ByteReader)

namespace Loader

variable {σ E α : Type}

/-- A read, which leaves the state alone. -/
def decode (m : Decoder E α) : Loader σ E α := fun s =>
  match m s.2 with
  | .ok a r => .ok a (s.1, r)
  | .error e r => .error e (s.1, r)

/-- A change of the state, which reads nothing. -/
def update (g : σ → σ) : Loader σ E Unit := fun s => .ok () (g s.1, s.2)

/-- A change of the state that may fail; it takes place either way. -/
def attempt (g : σ → Option E × σ) : Loader σ E Unit := fun s =>
  match g s.1 with
  | (none, s') => .ok () (s', s.2)
  | (some e, s') => .error e (s', s.2)

/-- Stop with an error unless `c` holds. -/
def require (c : Prop) [Decidable c] (e : E) : Loader σ E Unit := if c then pure () else throw e

def times (m : Loader σ E Unit) : ℕ → Loader σ E Unit
  | 0 => pure ()
  | n + 1 => do
    m
    times m n

end Loader

/-- On every input that starts with `bytes`, `m` reads these bytes, returns `a` and moves the
state from `s` to `s'`. -/
def Loads {σ E α : Type} (m : Loader σ E α) (s : σ) (bytes : List UInt8) (a : α) (s' : σ) :
    Prop :=
  ∀ rest, m (s, ⟨bytes ++ rest, false, ""⟩) = .ok a (s', ⟨rest, false, ""⟩)

/-- On every input that starts with `bytes`, `m` stops with an error that meets `P`. -/
def Refuses {σ E α : Type} (P : E → Prop) (m : Loader σ E α) (s : σ) (bytes : List UInt8) : Prop :=
  ∀ rest, ∃ e s', P e ∧ m (s, ⟨bytes ++ rest, false, ""⟩) = .error e s'

namespace Loads

variable {σ E α β : Type} {m : Loader σ E α} {f : α → Loader σ E β} {s s' s'' : σ} {a : α}
  {b : β} {bytes chunk : List UInt8} {chunks : List (List UInt8)}

theorem pure (a : α) : Loads (Pure.pure a : Loader σ E α) s [] a s := fun _ => rfl

theorem bind {more : List UInt8} (hm : Loads m s bytes a s') (hf : Loads (f a) s' more b s'') :
    Loads (m >>= f) s (bytes ++ more) b s'' := by
  intro rest
  show EStateM.bind m f _ = _
  rw [EStateM.bind, List.append_assoc, hm (more ++ rest)]
  exact hf rest

theorem cons (hm : Loads m s chunk a s') (hf : Loads (f a) s' chunks.flatten b s'') :
    Loads (m >>= f) s (chunk :: chunks).flatten b s'' := by
  rw [List.flatten_cons]
  exact hm.bind hf

/-- The last read takes all that is left. -/
theorem last (hm : Loads m s bytes a s') (hf : Loads (f a) s' [] b s'') :
    Loads (m >>= f) s bytes b s'' := by
  rw [← List.append_nil bytes]
  exact hm.bind hf

/-- A part that reads nothing. -/
theorem step (hm : Loads m s [] a s') (hf : Loads (f a) s' bytes b s'') :
    Loads (m >>= f) s bytes b s'' := hm.bind hf

theorem decode {d : Decoder E α} (h : Decodes d bytes a) :
    Loads (Loader.decode d) s bytes a s := by
  intro rest
  rw [Loader.decode]
  simp only [h rest]

theorem update (g : σ → σ) : Loads (E := E) (Loader.update g) s [] () (g s) := fun _ => rfl

theorem attempt {g : σ → Option E × σ} (h : g s = (none, s')) :
    Loads (Loader.attempt g) s [] () s' := by
  intro rest
  rw [Loader.attempt]
  simp only [h]
  rfl

theorem require {c : Prop} [Decidable c] (h : c) (e : E) :
    Loads (Loader.require c e) s [] () s := by
  rw [Loader.require, if_pos h]
  exact pure ()

/-- A loop over the encodings of a list; `I` is what holds after each part of the list. -/
theorem times (body : Loader σ E Unit) (encode : α → List UInt8) (as : List α)
    {I : List α → σ → Prop} (h0 : I [] s)
    (h : ∀ pre a post s, as = pre ++ a :: post → I pre s →
      ∃ s', Loads body s (encode a) () s' ∧ I (pre ++ [a]) s') :
    ∃ s', Loads (Loader.times body as.length) s (as.flatMap encode) () s' ∧ I as s' := by
  have key : ∀ rest pre s, as = pre ++ rest → I pre s →
      ∃ s', Loads (Loader.times body rest.length) s (rest.flatMap encode) () s' ∧ I as s' := by
    intro rest
    induction rest with
    | nil =>
      intro pre s hp hs
      rw [List.append_nil] at hp
      exact ⟨s, pure (), hp ▸ hs⟩
    | cons a rest ih =>
      intro pre s hp hs
      obtain ⟨s₁, hbody, hs₁⟩ := h pre a rest s hp hs
      obtain ⟨s₂, hrest, hs₂⟩ := ih (pre ++ [a]) s₁ (by simp [hp]) hs₁
      refine ⟨s₂, ?_, hs₂⟩
      rw [List.flatMap_cons]
      exact bind hbody hrest
  exact key as [] s rfl h0

end Loads

namespace Refuses

variable {σ E α β : Type} {P : E → Prop} {m : Loader σ E α} {f : α → Loader σ E β} {s s' : σ}
  {a : α} {bytes chunk : List UInt8} {chunks : List (List UInt8)}

theorem bind (h : Refuses P m s bytes) : Refuses P (m >>= f) s bytes := by
  intro rest
  obtain ⟨e, s', hP, he⟩ := h rest
  refine ⟨e, s', hP, ?_⟩
  show EStateM.bind m f _ = _
  rw [EStateM.bind, he]

/-- Bytes that are never reached do not matter. -/
theorem append (h : Refuses P m s bytes) (more : List UInt8) : Refuses P m s (bytes ++ more) := by
  intro rest
  rw [List.append_assoc]
  exact h _

/-- What is read before a refusal. -/
theorem after {more : List UInt8} (hm : Loads m s bytes a s') (h : Refuses P (f a) s' more) :
    Refuses P (m >>= f) s (bytes ++ more) := by
  intro rest
  obtain ⟨e, s'', hP, he⟩ := h rest
  refine ⟨e, s'', hP, ?_⟩
  show EStateM.bind m f _ = _
  rw [EStateM.bind, List.append_assoc, hm (more ++ rest)]
  exact he

theorem cons (hm : Loads m s chunk a s') (h : Refuses P (f a) s' chunks.flatten) :
    Refuses P (m >>= f) s (chunk :: chunks).flatten := by
  rw [List.flatten_cons]
  exact after hm h

/-- A part that reads nothing, before a refusal. -/
theorem step (hm : Loads m s [] a s') (h : Refuses P (f a) s' bytes) :
    Refuses P (m >>= f) s bytes := after hm h

theorem require {c : Prop} [Decidable c] {e : E} (h : ¬ c) (hP : P e) :
    Refuses P (Loader.require c e) s bytes := by
  rw [Loader.require, if_neg h]
  exact fun _ => ⟨e, _, hP, rfl⟩

theorem attempt {g : σ → Option E × σ} {e : E} (h : (g s).1 = some e) (hP : P e) :
    Refuses P (Loader.attempt g) s bytes := by
  intro rest
  refine ⟨e, ((g s).2, ⟨bytes ++ rest, false, ""⟩), hP, ?_⟩
  have hg : g s = (some e, (g s).2) := Prod.ext h rfl
  rw [Loader.attempt]
  simp only
  rw [hg]

end Refuses

end Fabric.Support

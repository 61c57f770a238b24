import Fabric.Support.Decoder
import Mathlib.Tactic.SplitIfs

/-!
# What a decoder accepts

A decoder is `Exact` when a reader that has failed stays failed and a success is due to the
bytes that were taken alone. `Exact` is a class: the instances follow the combinators, so a
decoder written with them is exact by instance search.

* `decodes_bind_iff`: what a chain of exact decoders reads is what its parts read, one after
  the other. It turns a decoder into the description of the inputs it accepts.
* `Decodes.not_succeeds_of_prefix`: a strict prefix of what is read is not accepted.
* `Settles m bytes a P`: on an input that starts with `bytes`, `m` reads these bytes and returns
  `a` if `P` holds, and does not succeed otherwise. This is how an encoding behaves that may be
  over the limits of its reader.
-/

namespace Fabric.Support

open Support.ByteReader

variable {E α β κ : Type} {m : Decoder E α} {f : α → Decoder E β} {a : α} {b : β}
  {bytes chunk x : List UInt8} {chunks : List (List UInt8)}

/-- `m` returns a value from `x`, and the reader has not failed. -/
def Succeeds (m : Decoder E α) (x : List UInt8) : Prop :=
  ∃ a r, m ⟨x, false, ""⟩ = .ok a r ∧ r.failed = false

/-- A failure stays, and a success is due to the bytes that were taken. -/
class Exact (m : Decoder E α) : Prop where
  sticky : ∀ {r r' : ByteReader} {a : α}, m r = .ok a r' → r.failed = true → r'.failed = true
  sound : ∀ {x : List UInt8} {r' : ByteReader} {a : α}, m ⟨x, false, ""⟩ = .ok a r' →
    r'.failed = false → ∃ bytes rest, x = bytes ++ rest ∧ r' = ⟨rest, false, ""⟩ ∧ Decodes m bytes a

/-! ## Instances -/

theorem run_bind_eq_ok_iff {r r' : ByteReader} :
    (m >>= f) r = .ok b r' ↔ ∃ a r₁, m r = .ok a r₁ ∧ f a r₁ = .ok b r' := by
  show EStateM.bind m f r = _ ↔ _
  rw [EStateM.bind]
  cases hm : m r with
  | error e r₁ => simp
  | ok a r₁ =>
    constructor
    · exact fun h => ⟨a, r₁, rfl, h⟩
    · rintro ⟨_, _, heq, h⟩
      cases heq
      exact h

namespace Exact

instance pure (a : α) : Exact (Pure.pure a : Decoder E α) where
  sticky h hr := by
    cases h
    exact hr
  sound {x _ _} h _ := by
    cases h
    exact ⟨[], x, rfl, rfl, Decodes.pure a⟩

instance throw (e : E) : Exact (MonadExcept.throw e : Decoder E α) where
  sticky h := by cases h
  sound h := by cases h

instance bind [hm : Exact m] [hf : ∀ a, Exact (f a)] : Exact (m >>= f) where
  sticky h hr := by
    obtain ⟨a, r₁, h₁, h₂⟩ := run_bind_eq_ok_iff.mp h
    exact (hf a).sticky h₂ (hm.sticky h₁ hr)
  sound h hr := by
    obtain ⟨a, r₁, h₁, h₂⟩ := run_bind_eq_ok_iff.mp h
    have hr₁ : r₁.failed = false := by
      cases hfailed : r₁.failed with
      | false => rfl
      | true =>
        rw [(hf a).sticky h₂ hfailed] at hr
        cases hr
    obtain ⟨bytes, rest₁, rfl, rfl, hread⟩ := hm.sound h₁ hr₁
    obtain ⟨more, rest, rfl, rfl, hmore⟩ := (hf a).sound h₂ hr
    exact ⟨bytes ++ more, rest, (List.append_assoc ..).symm, rfl, hread.bind hmore⟩

/-- One read of a long chain. -/
theorem step [Exact m] (hf : ∀ a, Exact (f a)) : Exact (m >>= f) := bind

instance map (g : α → β) [hm : Exact m] : Exact (g <$> m) := by
  rw [map_eq_pure_bind]
  infer_instance

instance ite {c : Prop} [Decidable c] {m' : Decoder E α} [hm : Exact m] [hm' : Exact m'] :
    Exact (if c then m else m') := by
  split_ifs
  · exact hm
  · exact hm'

instance ensureOk (e : String → E) : Exact (ByteReader.ensureOk e) where
  sticky {r _ _} h hr := by
    rw [ByteReader.ensureOk, if_pos hr] at h
    cases h
  sound {x _ _} h _ := by
    cases h
    exact ⟨[], x, rfl, rfl, fun _ => rfl⟩

theorem need_of_failed {r : ByteReader} (h : r.failed = true) (n : ℕ) : r.need n = r := by
  rw [need, if_pos h]

instance u8 : Exact (E := E) ByteReader.u8 where
  sticky {r _ _} h hr := by
    obtain ⟨rest, failed, e⟩ := r
    obtain rfl : failed = true := hr
    rw [ByteReader.u8, need_of_failed rfl] at h
    cases rest <;> cases h <;> rfl
  sound {x _ _} h hr := by
    cases x with
    | nil =>
      cases h
      cases hr
    | cons _ rest =>
      rw [ByteReader.u8, need_of_le (by simp)] at h
      cases h
      exact ⟨[_], rest, rfl, rfl, Decodes.u8 _⟩

/-- Marking the reader is no success. -/
instance markFailed (e : String) : Exact (modify (·.fail e) : Decoder E Unit) where
  sticky {r _ _} h hr := by
    cases h
    show (r.fail e).failed = true
    rw [fail, if_pos hr]
    exact hr
  sound h hr := by
    cases h
    cases hr

/-- Looking at a reader, when all readers that have not failed look the same. -/
theorem look {k : ByteReader → Decoder E α} {k₀ : Decoder E α} (hk : ∀ r, Exact (k r))
    (h₀ : ∀ x, k ⟨x, false, ""⟩ = k₀) : Exact (get >>= k) where
  sticky {r _ _} h hr := (hk r).sticky h hr
  sound {x _ _} h hr := by
    obtain ⟨bytes, rest, rfl, rfl, hread⟩ := (hk ⟨x, false, ""⟩).sound h hr
    refine ⟨bytes, rest, rfl, rfl, fun rest => ?_⟩
    rw [h₀, ← h₀ (bytes ++ rest)] at hread
    exact hread rest

instance number (width : ℕ) : Exact (E := E) (ByteReader.number width) := by
  induction width with
  | zero => exact pure 0
  | succ width ih =>
    unfold ByteReader.number
    infer_instance

theorem take_of_le {n : ℕ} (h : n ≤ x.length) :
    ByteReader.take (E := E) n ⟨x, false, ""⟩ = .ok (x.take n) ⟨x.drop n, false, ""⟩ := by
  have hread := Decodes.take (E := E) (x.take n) (x.drop n)
  rwa [List.take_append_drop, List.length_take, Nat.min_eq_left h] at hread

theorem take_of_lt {n : ℕ} (h : x.length < n) :
    ByteReader.take (E := E) n ⟨x, false, ""⟩ =
      .ok [] ⟨x, true, "unexpected end of buffer"⟩ := by
  have hneed : (⟨x, false, ""⟩ : ByteReader).need n = ⟨x, true, "unexpected end of buffer"⟩ := by
    rw [need, if_neg Bool.false_ne_true, if_pos h, fail, if_neg Bool.false_ne_true]
  rw [ByteReader.take, hneed]
  rfl

instance take (n : ℕ) : Exact (E := E) (ByteReader.take n) where
  sticky {r _ _} h hr := by
    rw [ByteReader.take, need_of_failed hr] at h
    simp only [hr, if_true] at h
    cases h
    exact hr
  sound {x r' _} h hr := by
    by_cases hn : n ≤ x.length
    · rw [take_of_le hn] at h
      cases h
      have hread := Decodes.take (E := E) (x.take n)
      rw [List.length_take, Nat.min_eq_left hn] at hread
      exact ⟨x.take n, x.drop n, (List.take_append_drop n x).symm, rfl, hread⟩
    · rw [take_of_lt (Nat.not_le.mp hn)] at h
      cases h
      cases hr

instance times [hm : Exact m] (n : ℕ) : Exact (ByteReader.times m n) := by
  induction n with
  | zero => exact pure []
  | succ n ih =>
    unfold ByteReader.times
    infer_instance

instance timesWhileOk [hm : Exact m] (n : ℕ) : Exact (ByteReader.timesWhileOk m n) := by
  induction n with
  | zero => exact pure []
  | succ n ih =>
    unfold ByteReader.timesWhileOk
    have hgo : ∀ a, Exact (do
        if (← get).failed then Pure.pure []
        else
          let as ← ByteReader.timesWhileOk m n
          Pure.pure (a :: as) : Decoder E (List _)) :=
      fun a => look (fun _ => inferInstance) fun _ => rfl
    exact bind

instance table [DecidableEq κ] [hm : Exact m] (keys : List κ) (t : κ → α) :
    Exact (ByteReader.table m keys t) := by
  induction keys generalizing t with
  | nil => exact pure t
  | cons k keys ih =>
    unfold ByteReader.table
    infer_instance

/-- A read behind a bound: a reader that has failed or is over the bound is marked. -/
instance bounded {c : Prop} [Decidable c] {e : String} [hm : Exact m] : Exact (do
    if (← get).failed ∨ c then
      modify (·.fail e)
      Pure.pure a
    else m : Decoder E α) := by
  have hlook : ∀ x : List UInt8, (fun r : ByteReader =>
      if r.failed = true ∨ c then (do modify (·.fail e); Pure.pure a) else m) ⟨x, false, ""⟩ =
        if c then (do modify (·.fail e); Pure.pure a : Decoder E α) else m := by
    intro x
    simp
  exact look (fun _ => inferInstance) hlook

end Exact

/-! ## What is accepted -/

/-- Two readings of one input agree. -/
theorem Decodes.unique {a₁ a₂ : α} {bytes₁ bytes₂ rest₁ rest₂ : List UInt8}
    (h₁ : Decodes m bytes₁ a₁) (h₂ : Decodes m bytes₂ a₂)
    (heq : bytes₁ ++ rest₁ = bytes₂ ++ rest₂) : a₁ = a₂ ∧ bytes₁ = bytes₂ ∧ rest₁ = rest₂ := by
  have hrun := h₁ rest₁
  rw [heq, h₂ rest₂] at hrun
  cases hrun
  exact ⟨rfl, List.append_cancel_right heq, rfl⟩

theorem Decodes.succeeds (h : Decodes m bytes a) (rest : List UInt8) :
    Succeeds m (bytes ++ rest) := ⟨a, _, h rest, rfl⟩

theorem succeeds_iff [hm : Exact m] :
    Succeeds m x ↔ ∃ bytes rest a, x = bytes ++ rest ∧ Decodes m bytes a := by
  constructor
  · rintro ⟨a, r, h, hr⟩
    obtain ⟨bytes, rest, hx, -, hread⟩ := hm.sound h hr
    exact ⟨bytes, rest, a, hx, hread⟩
  · rintro ⟨bytes, rest, a, rfl, h⟩
    exact h.succeeds rest

/-- A strict prefix of what is read is not accepted. -/
theorem Decodes.not_succeeds_of_prefix [Exact m] (h : Decodes m bytes a) (hx : x <+: bytes)
    (hne : x ≠ bytes) : ¬ Succeeds m x := by
  intro hsucceeds
  obtain ⟨more, rfl⟩ := hx
  obtain ⟨taken, rest, a', rfl, hread⟩ := succeeds_iff.mp hsucceeds
  -- The shorter input is read in the same way when it goes on.
  have heq : taken ++ (rest ++ more) = taken ++ rest ++ more ++ [] := by simp
  obtain ⟨-, -, hrest⟩ := hread.unique h heq
  rw [(List.append_eq_nil_iff.mp hrest).2, List.append_nil] at hne
  exact hne rfl

/-- Whatever follows, `a` is read back from `bytes`, and nothing else is consumed; a strict prefix
of `bytes` is not accepted. -/
structure RoundTrip (m : Decoder E α) (bytes : List UInt8) (a : α) : Prop where
  back : ∀ rest, m ⟨bytes ++ rest, false, ""⟩ = .ok a ⟨rest, false, ""⟩
  truncated : ∀ x, x <+: bytes → x ≠ bytes → ¬ Succeeds m x

theorem Decodes.roundTrip [Exact m] (h : Decodes m bytes a) : RoundTrip m bytes a :=
  ⟨h, fun _ hx hne => h.not_succeeds_of_prefix hx hne⟩

/-! ### Inversion -/

/-- What is read when the input ends with the bytes. -/
theorem Decodes.run (h : Decodes m bytes a) : m ⟨bytes, false, ""⟩ = .ok a ⟨[], false, ""⟩ := by
  have hrun := h []
  rwa [List.append_nil] at hrun

theorem decodes_pure_iff {a' : α} :
    Decodes (Pure.pure a : Decoder E α) bytes a' ↔ bytes = [] ∧ a' = a := by
  constructor
  · intro h
    cases h.run
    exact ⟨rfl, rfl⟩
  · rintro ⟨rfl, rfl⟩
    exact Decodes.pure _

theorem decodes_ensureOk_iff {e : String → E} {g : Unit → Decoder E β} :
    Decodes (ensureOk e >>= g) bytes b ↔ Decodes (g ()) bytes b := Iff.rfl

theorem decodes_bind_iff [hm : Exact m] [hf : ∀ a, Exact (f a)] :
    Decodes (m >>= f) bytes b ↔
      ∃ a chunk more, bytes = chunk ++ more ∧ Decodes m chunk a ∧ Decodes (f a) more b := by
  constructor
  · intro h
    obtain ⟨a, r, hfirst, hrest⟩ := run_bind_eq_ok_iff.mp h.run
    have hr : r.failed = false := by
      cases hfailed : r.failed with
      | false => rfl
      | true => cases (hf a).sticky hrest hfailed
    obtain ⟨chunk, more, rfl, rfl, hchunk⟩ := hm.sound hfirst hr
    obtain ⟨bytes, rest, rfl, hnil, hmore⟩ := (hf a).sound hrest rfl
    cases hnil
    rw [List.append_nil]
    exact ⟨a, chunk, bytes, rfl, hchunk, hmore⟩
  · rintro ⟨a, chunk, more, rfl, hchunk, hmore⟩
    exact hchunk.bind hmore

theorem decodes_map_iff [Exact m] {g : α → β} :
    Decodes (g <$> m) bytes b ↔ ∃ a, Decodes m bytes a ∧ b = g a := by
  rw [map_eq_pure_bind, decodes_bind_iff]
  constructor
  · rintro ⟨a, chunk, more, rfl, hchunk, hmore⟩
    obtain ⟨rfl, rfl⟩ := decodes_pure_iff.mp hmore
    rw [List.append_nil]
    exact ⟨a, hchunk, rfl⟩
  · rintro ⟨a, h, rfl⟩
    exact ⟨a, bytes, [], (List.append_nil _).symm, h, Decodes.pure _⟩

theorem decodes_bounded_iff {c : Prop} [Decidable c] {e : String} {a' : α} : Decodes (do
    if (← get).failed ∨ c then
      modify (·.fail e)
      Pure.pure a
    else m : Decoder E α) bytes a' ↔ ¬ c ∧ Decodes m bytes a' := by
  by_cases hc : c
  · simp only [hc, not_true_eq_false, false_and, iff_false]
    intro h
    cases h.run
  · simp only [hc, not_false_eq_true, true_and, or_false]
    exact Iff.rfl

/-- Reading while the reader has not failed reads the same as reading. -/
theorem decodes_timesWhileOk_iff [Exact m] {n : ℕ} {as : List α} :
    Decodes (timesWhileOk m n) bytes as ↔ Decodes (times m n) bytes as := by
  induction n generalizing bytes as with
  | zero => exact Iff.rfl
  | succ n ih =>
    have hgo : ∀ a, Exact (do
        if (← get).failed then Pure.pure []
        else
          let as ← timesWhileOk m n
          Pure.pure (a :: as) : Decoder E (List α)) :=
      fun a => Exact.look (fun _ => inferInstance) fun _ => rfl
    have hrest : ∀ a (more : List UInt8), Decodes (do
        if (← get).failed then Pure.pure []
        else
          let as ← timesWhileOk m n
          Pure.pure (a :: as) : Decoder E (List α)) more as ↔
        Decodes (times m n >>= fun as => Pure.pure (a :: as)) more as := by
      intro a more
      have hlook : Decodes (timesWhileOk m n >>= fun as => Pure.pure (a :: as)) more as ↔
          Decodes (times m n >>= fun as => Pure.pure (a :: as)) more as := by
        simp only [decodes_bind_iff, ih]
      exact hlook
    unfold timesWhileOk times
    simp only [decodes_bind_iff, hrest]

theorem length_of_decodes_times [Exact m] {n : ℕ} {as : List α}
    (h : Decodes (ByteReader.times m n) bytes as) : as.length = n := by
  induction n generalizing bytes as with
  | zero =>
    obtain ⟨-, rfl⟩ := decodes_pure_iff.mp h
    rfl
  | succ n ih =>
    obtain ⟨a, chunk, more, rfl, -, hmore⟩ := decodes_bind_iff.mp h
    obtain ⟨as, chunk', more, rfl, has, hpure⟩ := decodes_bind_iff.mp hmore
    obtain ⟨-, rfl⟩ := decodes_pure_iff.mp hpure
    rw [List.length_cons, ih has]

/-! ## Precise decoders -/

/-- `m` reads exactly the encodings of the values with `P`. -/
def Precise (m : Decoder E α) (encode : α → List UInt8) (P : α → Prop) : Prop :=
  ∀ bytes a, Decodes m bytes a ↔ P a ∧ bytes = encode a

namespace Precise

variable {encode : α → List UInt8} {P : α → Prop}

theorem decodes (h : Precise m encode P) (ha : P a) : Decodes m (encode a) a :=
  (h _ a).mpr ⟨ha, rfl⟩

theorem u8 : Precise (E := E) ByteReader.u8 (fun x => [x]) fun _ => True := by
  intro bytes a
  refine ⟨fun h => ⟨trivial, ?_⟩, fun h => h.2 ▸ Decodes.u8 a⟩
  have hrun := h.run
  cases bytes with
  | nil => cases hrun
  | cons y rest =>
    rw [ByteReader.u8, need_of_le (by simp)] at hrun
    cases hrun
    rfl

theorem take (n : ℕ) : Precise (E := E) (ByteReader.take n) id fun bytes => bytes.length = n := by
  intro bytes a
  constructor
  · intro h
    have hrun := h.run
    by_cases hn : n ≤ bytes.length
    · rw [Exact.take_of_le hn] at hrun
      obtain ⟨ha, hr⟩ := EStateM.Result.ok.inj hrun
      have hdrop : bytes.drop n = [] := congrArg ByteReader.rest hr
      have hlen : bytes.length = n := Nat.le_antisymm (List.drop_eq_nil_iff.mp hdrop) hn
      rw [List.take_of_length_le (Nat.le_of_eq hlen)] at ha
      exact ⟨ha ▸ hlen, ha⟩
    · rw [Exact.take_of_lt (Nat.not_le.mp hn)] at hrun
      cases hrun
  · rintro ⟨rfl, rfl⟩
    exact Decodes.take bytes

/-- A reading followed by a change of the value that can be undone. -/
theorem map (h : Precise m encode P) [Exact m] {g : α → β} {back : β → α}
    {Q : β → Prop} (hback : ∀ a, P a → back (g a) = a ∧ Q (g a))
    (hg : ∀ b, Q b → P (back b) ∧ g (back b) = b) :
    Precise (g <$> m) (fun b => encode (back b)) Q := by
  intro bytes b
  rw [decodes_map_iff]
  constructor
  · rintro ⟨a, ha, rfl⟩
    obtain ⟨hP, rfl⟩ := (h _ a).mp ha
    exact ⟨(hback a hP).2, by simp only [(hback a hP).1]⟩
  · rintro ⟨hQ, rfl⟩
    exact ⟨back b, h.decodes (hg b hQ).1, (hg b hQ).2.symm⟩

theorem number (width : ℕ) : Precise (E := E) (ByteReader.number width) (leBytes width)
    fun n => n < 256 ^ width := by
  induction width with
  | zero =>
    intro bytes n
    show Decodes (Pure.pure 0) bytes n ↔ _
    rw [decodes_pure_iff, leBytes]
    constructor
    · rintro ⟨rfl, rfl⟩
      exact ⟨by decide, rfl⟩
    · rintro ⟨hn, rfl⟩
      exact ⟨rfl, by simpa using hn⟩
  | succ width ih =>
    intro bytes n
    refine ⟨fun h => ?_, fun h => h.2 ▸ Decodes.number _ h.1⟩
    obtain ⟨b, chunk, more, rfl, hb, hmore⟩ := decodes_bind_iff.mp h
    obtain ⟨high, chunk', more, rfl, hhigh, hpure⟩ := decodes_bind_iff.mp hmore
    obtain ⟨rfl, rfl⟩ := decodes_pure_iff.mp hpure
    obtain ⟨-, rfl⟩ := (u8 _ _).mp hb
    obtain ⟨hlt, rfl⟩ := (ih _ _).mp hhigh
    have hbyte := b.toNat_lt
    have hmod : (b.toNat + 256 * high) % 256 = b.toNat := by omega
    have hdiv : (b.toNat + 256 * high) / 256 = high := by omega
    refine ⟨?_, ?_⟩
    · rw [Nat.pow_succ]
      omega
    · rw [leBytes, hmod, hdiv, List.append_nil]
      show b :: _ = UInt8.ofNat b.toNat :: _
      rw [UInt8.ofNat_toNat]
      rfl

theorem times (h : Precise m encode P) [Exact m] (n : ℕ) :
    Precise (ByteReader.times m n) (fun as => as.flatMap encode)
      fun as => as.length = n ∧ ∀ a ∈ as, P a := by
  intro bytes as
  constructor
  · intro hread
    induction n generalizing bytes as with
    | zero =>
      obtain ⟨rfl, rfl⟩ := decodes_pure_iff.mp hread
      exact ⟨⟨rfl, fun _ ha => by cases ha⟩, rfl⟩
    | succ n ih =>
      obtain ⟨a, chunk, more, rfl, ha, hmore⟩ := decodes_bind_iff.mp hread
      obtain ⟨as, chunk', more, rfl, has, hpure⟩ := decodes_bind_iff.mp hmore
      obtain ⟨rfl, rfl⟩ := decodes_pure_iff.mp hpure
      obtain ⟨hP, rfl⟩ := (h _ _).mp ha
      obtain ⟨⟨rfl, hall⟩, rfl⟩ := ih _ _ has
      refine ⟨⟨rfl, ?_⟩, by simp⟩
      intro a' ha'
      rcases List.mem_cons.mp ha' with rfl | ha'
      · exact hP
      · exact hall a' ha'
  · rintro ⟨⟨rfl, hall⟩, rfl⟩
    exact Decodes.times as fun a ha => h.decodes (hall a ha)

theorem table [DecidableEq κ] (h : Precise m encode P) [Exact m] {keys : List κ}
    (hkeys : ∀ k, k ∈ keys) (hnodup : keys.Nodup) (t₀ : κ → α) :
    Precise (ByteReader.table m keys t₀) (fun t => keys.flatMap fun k => encode (t k))
      fun t => ∀ k, P (t k) := by
  have key : ∀ (keys : List κ) (t₀ : κ → α) {bytes : List UInt8} {t : κ → α}, keys.Nodup →
      Decodes (ByteReader.table m keys t₀) bytes t →
        bytes = keys.flatMap (fun k => encode (t k)) ∧ (∀ k ∈ keys, P (t k)) ∧
          ∀ k, k ∉ keys → t k = t₀ k := by
    intro keys
    induction keys with
    | nil =>
      intro t₀ bytes t _ hread
      obtain ⟨rfl, rfl⟩ := decodes_pure_iff.mp hread
      exact ⟨rfl, ⟨fun _ hk => (List.not_mem_nil hk).elim, fun _ _ => rfl⟩⟩
    | cons k keys ih =>
      intro t₀ bytes t hnodup hread
      obtain ⟨hk, hnodup⟩ := List.nodup_cons.mp hnodup
      obtain ⟨a, chunk, more, rfl, ha, hmore⟩ := decodes_bind_iff.mp hread
      obtain ⟨rfl, hP, hrest⟩ := ih _ hnodup hmore
      obtain ⟨hPa, rfl⟩ := (h _ _).mp ha
      have hta : t k = a := by rw [hrest k hk, Function.update_self]
      refine ⟨by rw [List.flatMap_cons, hta], ?_, ?_⟩
      · intro k' hk'
        rcases List.mem_cons.mp hk' with rfl | hk'
        · exact hta ▸ hPa
        · exact hP k' hk'
      · intro k' hk'
        obtain ⟨hne, hk'⟩ := not_or.mp (mt List.mem_cons.mpr hk')
        rw [hrest k' hk', Function.update_of_ne hne]
  intro bytes t
  constructor
  · intro hread
    obtain ⟨hbytes, hP, -⟩ := key keys t₀ hnodup hread
    exact ⟨fun k => hP k (hkeys k), hbytes⟩
  · rintro ⟨hP, rfl⟩
    exact Decodes.table hkeys fun k => h.decodes (hP k)

end Precise

/-! ## Encodings over the limits -/

/-- On every input that starts with `bytes`, `m` reads them and returns `a` if `P` holds; it does
not succeed otherwise. -/
structure Settles (m : Decoder E α) (bytes : List UInt8) (a : α) (P : Prop) : Prop where
  decodes : P → Decodes m bytes a
  fails : ¬ P → ∀ rest, ¬ Succeeds m (bytes ++ rest)

theorem Decodes.settles (h : Decodes m bytes a) : Settles m bytes a True :=
  ⟨fun _ => h, fun hP => absurd trivial hP⟩

theorem not_succeeds_throw {e : E} : ¬ Succeeds (throw e : Decoder E α) x := by
  rintro ⟨a, r, hrun, -⟩
  cases hrun

theorem not_succeeds_bind [∀ a, Exact (f a)] (h : ¬ Succeeds m x) : ¬ Succeeds (m >>= f) x := by
  rintro ⟨b, r, hrun, hr⟩
  obtain ⟨a, r₁, hm, hf⟩ := run_bind_eq_ok_iff.mp hrun
  refine h ⟨a, r₁, hm, ?_⟩
  cases hfailed : r₁.failed with
  | false => rfl
  | true =>
    rw [Exact.sticky hf hfailed] at hr
    cases hr

namespace Settles

variable {P Q : Prop}

theorem congr (h : Settles m bytes a P) (hPQ : P ↔ Q) : Settles m bytes a Q :=
  ⟨fun hQ => h.decodes (hPQ.mpr hQ), fun hQ => h.fails (mt hPQ.mp hQ)⟩

/-- What follows a read that succeeds whatever the limits are. -/
theorem after {more : List UInt8} (hm : Decodes m bytes a) (hf : Settles (f a) more b P) :
    Settles (m >>= f) (bytes ++ more) b P where
  decodes hP := hm.bind (hf.decodes hP)
  fails hP rest := by
    rintro ⟨b, r, hrun, hr⟩
    obtain ⟨a', r₁, hm', hf'⟩ := run_bind_eq_ok_iff.mp hrun
    rw [List.append_assoc, hm] at hm'
    cases hm'
    exact hf.fails hP rest ⟨b, r, hf', hr⟩

theorem bind [∀ a, Exact (f a)] {more : List UInt8} (hm : Settles m bytes a P)
    (hf : Settles (f a) more b Q) : Settles (m >>= f) (bytes ++ more) b (P ∧ Q) where
  decodes h := (hm.decodes h.1).bind (hf.decodes h.2)
  fails h rest := by
    by_cases hP : P
    · exact (after (hm.decodes hP) hf).fails (fun hQ => h ⟨hP, hQ⟩) rest
    · rw [List.append_assoc]
      exact not_succeeds_bind (hm.fails hP _)

theorem step (hm : Decodes m chunk a) (hf : Settles (f a) chunks.flatten b P) :
    Settles (m >>= f) (chunk :: chunks).flatten b P := by
  rw [List.flatten_cons]
  exact after hm hf

theorem ensureOk {e : String → E} {g : Unit → Decoder E β} (h : Settles (g ()) bytes b P) :
    Settles (ByteReader.ensureOk e >>= g) bytes b P := ⟨h.decodes, h.fails⟩

/-- A read that is followed by a look at the mark of the reader. -/
theorem checked {e : String → E} {g : α → Unit → Decoder E β} (hm : Settles m chunk a P)
    (hf : Settles (g a ()) chunks.flatten b Q) :
    Settles (m >>= fun a => ByteReader.ensureOk e >>= g a) (chunk :: chunks).flatten b
      (P ∧ Q) where
  decodes h := (hm.decodes h.1).cons (hf.decodes h.2)
  fails h rest := by
    by_cases hP : P
    · exact (step (hm.decodes hP) (ensureOk hf)).fails (fun hQ => h ⟨hP, hQ⟩) rest
    · rintro ⟨b, r, hrun, -⟩
      obtain ⟨a', r₁, hm', hrest⟩ := run_bind_eq_ok_iff.mp hrun
      obtain ⟨_, r₂, hlook, -⟩ := run_bind_eq_ok_iff.mp hrest
      rw [List.flatten_cons, List.append_assoc] at hm'
      refine hm.fails hP _ ⟨a', r₁, hm', ?_⟩
      cases hfailed : r₁.failed with
      | false => rfl
      | true =>
        rw [ByteReader.ensureOk, if_pos hfailed] at hlook
        cases hlook

/-- The last read takes all that is left. -/
theorem last [∀ a, Exact (f a)] (hm : Settles m bytes a P) (hf : Decodes (f a) [] b) :
    Settles (m >>= f) bytes b P where
  decodes h := (hm.decodes h).last hf
  fails h rest := not_succeeds_bind (hm.fails h rest)

theorem map (g : α → β) (hm : Settles m bytes a P) : Settles (g <$> m) bytes (g a) P where
  decodes h := (hm.decodes h).map g
  fails h rest := by
    rw [map_eq_pure_bind]
    exact not_succeeds_bind (hm.fails h rest)

theorem ite {c : Prop} [Decidable c] {m' : Decoder E α} (hm : Settles m bytes a P)
    (hm' : ∀ x, ¬ Succeeds m' x) : Settles (if c then m' else m) bytes a (¬ c ∧ P) where
  decodes h := by
    rw [if_neg h.1]
    exact hm.decodes h.2
  fails h rest := by
    by_cases hc : c
    · rw [if_pos hc]
      exact hm' _
    · rw [if_neg hc]
      exact hm.fails (fun hP => h ⟨hc, hP⟩) rest

/-- A read behind a bound. -/
theorem bounded {c : Prop} [Decidable c] {e : String} {a₀ : α} (hm : Settles m bytes a P) :
    Settles (do
      if (← get).failed ∨ c then
        modify (·.fail e)
        Pure.pure a₀
      else m : Decoder E α) bytes a (¬ c ∧ P) where
  decodes h := decodes_bounded_iff.mpr ⟨h.1, hm.decodes h.2⟩
  fails h rest := by
    rintro ⟨a', r, hrun, hr⟩
    by_cases hc : c
    · simp only [hc, or_true] at hrun
      cases hrun
      cases hr
    · simp only [hc, or_false] at hrun
      exact hm.fails (fun hP => h ⟨hc, hP⟩) rest ⟨a', r, hrun, hr⟩

variable {encode : α → List UInt8} {R : α → Prop}

/-- An input that is read to its end, and agrees with `bytes` as far as both go, is `bytes`. -/
theorem eq_of_decodes (h : Settles m bytes a P) {a' : α} {y z : List UInt8} (hread : Decodes m x a')
    (heq : x ++ y = bytes ++ z) : x = bytes := by
  by_cases hP : P
  · exact (hread.unique (h.decodes hP) heq).2.1
  · exact absurd (heq ▸ hread.succeeds y) (h.fails hP z)

/-- The encodings of a list, each read as the value of its element. -/
theorem times_map [Exact m] {ε : Type} (es : List ε) {encode : ε → List UInt8} {value : ε → α}
    {R : ε → Prop} (h : ∀ e ∈ es, Settles m (encode e) (value e) (R e)) :
    Settles (ByteReader.times m es.length) (es.flatMap encode) (es.map value) (∀ e ∈ es, R e) := by
  induction es with
  | nil => exact (Decodes.pure []).settles.congr (by simp)
  | cons e es ih =>
    have hrest : Settles (ByteReader.times m es.length >>= fun as => Pure.pure (value e :: as))
        (es.flatMap encode) (value e :: es.map value) (∀ e ∈ es, R e) :=
      (ih fun e' he => h e' (List.mem_cons_of_mem _ he)).last (Decodes.pure _)
    rw [List.flatMap_cons]
    exact (bind (h e List.mem_cons_self) hrest).congr (by simp)

theorem times [Exact m] (as : List α) (h : ∀ a ∈ as, Settles m (encode a) a (R a)) :
    Settles (ByteReader.times m as.length) (as.flatMap encode) as (∀ a ∈ as, R a) := by
  have hmap : Settles (ByteReader.times m as.length) (as.flatMap encode) (as.map id)
      (∀ a ∈ as, R a) := times_map as h
  rwa [List.map_id] at hmap

/-- A decoder that reads the same inputs settles the same. -/
theorem of_decodes_iff {m' : Decoder E α} [Exact m] [Exact m']
    (hiff : ∀ bytes a, Decodes m' bytes a ↔ Decodes m bytes a) (h : Settles m bytes a P) :
    Settles m' bytes a P where
  decodes hP := (hiff _ _).mpr (h.decodes hP)
  fails hP rest := by
    intro hsucceeds
    obtain ⟨taken, rest', a', hx, hread⟩ := succeeds_iff.mp hsucceeds
    exact h.fails hP rest (succeeds_iff.mpr ⟨taken, rest', a', hx, (hiff _ _).mp hread⟩)

theorem timesWhileOk [Exact m] (as : List α) (h : ∀ a ∈ as, Settles m (encode a) a (R a)) :
    Settles (ByteReader.timesWhileOk m as.length) (as.flatMap encode) as (∀ a ∈ as, R a) :=
  (times as h).of_decodes_iff fun _ _ => decodes_timesWhileOk_iff

end Settles

end Fabric.Support

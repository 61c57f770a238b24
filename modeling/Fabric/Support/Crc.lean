import Mathlib.Data.List.GetD
import Mathlib.Logic.Function.Iterate

/-!
# Reflected cyclic redundancy checks

A reflected CRC keeps a register of `w` bits. Each bit of the message is added to the lowest bit
of the register, which then shifts down and, if a one falls out, adds the polynomial (`feedBit`).

* `turn_xor`: a turn of the register is linear; `turn_injective`: it loses nothing when the
  polynomial has its highest bit.
* `feed_eq`: feeding at most `w` bits is adding them all at once and then turning.
* `turns_eq`: `n` turns are those of the lowest `n` bits, added to the others moved down. This is
  what a table of the turns of `n` bits rests on.
* `eq_of_feed_burst`: messages that differ within `w` consecutive bits leave different registers.
-/

namespace Fabric.Support.Crc

variable {w : ℕ} (poly : BitVec w)

/-- One turn of the register without input. -/
def turn (c : BitVec w) : BitVec w := if c.getLsbD 0 then poly ^^^ (c >>> 1) else c >>> 1

/-- Feed one bit of the message. -/
def feedBit (c : BitVec w) (bit : Bool) : BitVec w :=
  if c.getLsbD 0 ^^ bit then poly ^^^ (c >>> 1) else c >>> 1

/-- Feed bits one after the other. -/
def feed (c : BitVec w) (bits : List Bool) : BitVec w := bits.foldl (feedBit poly) c

/-- The check of a message, computed bit by bit. -/
def serial (init final : BitVec w) (bits : List Bool) : BitVec w := feed poly init bits ^^^ final

theorem feed_append (c : BitVec w) (xs ys : List Bool) :
    feed poly c (xs ++ ys) = feed poly (feed poly c xs) ys := List.foldl_append

/-! ## Turns -/

theorem turn_xor (a b : BitVec w) : turn poly (a ^^^ b) = turn poly a ^^^ turn poly b := by
  have hcancel (x y : BitVec w) : x ^^^ y = (poly ^^^ x) ^^^ (poly ^^^ y) := by
    rw [BitVec.xor_comm poly x, BitVec.xor_assoc, ← BitVec.xor_assoc poly poly y, BitVec.xor_self,
      BitVec.zero_xor]
  unfold turn
  rw [BitVec.getLsbD_xor, BitVec.ushiftRight_xor_distrib]
  cases a.getLsbD 0 <;> cases b.getLsbD 0
  · rfl
  · rw [← BitVec.xor_assoc, BitVec.xor_comm poly]
    exact BitVec.xor_assoc _ _ _
  · exact (BitVec.xor_assoc _ _ _).symm
  · exact hcancel _ _

theorem turns_xor (n : ℕ) (a b : BitVec w) :
    (turn poly)^[n] (a ^^^ b) = (turn poly)^[n] a ^^^ (turn poly)^[n] b := by
  induction n generalizing a b with
  | zero => rfl
  | succ n ih =>
    simp only [Function.iterate_succ_apply, turn_xor]
    exact ih _ _

/-- A turn with a polynomial of full width loses nothing. -/
theorem turn_injective {poly : BitVec w} (hpoly : poly.msb = true) :
    Function.Injective (turn poly) := by
  have hkernel : ∀ c, turn poly c = 0#w → c = 0#w := by
    intro c hc
    have hbit (i : ℕ) : (turn poly c).getLsbD i = false := by rw [hc, BitVec.getLsbD_zero]
    -- The highest bit of a turn tells whether a one fell out.
    have hlow : c.getLsbD 0 = false := by
      by_contra hone
      have htop := hbit (w - 1)
      rw [turn, if_pos (eq_true_of_ne_false hone), BitVec.getLsbD_xor,
        BitVec.getLsbD_ushiftRight, BitVec.getLsbD_of_ge c (1 + (w - 1)) (by omega), Bool.xor_false,
        ← BitVec.msb_eq_getLsbD_last, hpoly] at htop
      cases htop
    apply BitVec.eq_of_getLsbD_eq
    intro i _
    rw [BitVec.getLsbD_zero]
    cases i with
    | zero => exact hlow
    | succ i =>
      have hi := hbit i
      rwa [turn, if_neg (by simp [hlow]), BitVec.getLsbD_ushiftRight, Nat.add_comm] at hi
  intro a b hab
  have hdiff := hkernel (a ^^^ b) (by rw [turn_xor, hab, BitVec.xor_self])
  exact BitVec.xor_eq_zero_iff.mp hdiff

theorem turns_of_low_zero {c : BitVec w} {n : ℕ} (h : ∀ i < n, c.getLsbD i = false) :
    (turn poly)^[n] c = c >>> n := by
  induction n with
  | zero => rfl
  | succ n ih =>
    rw [Function.iterate_succ_apply', ih fun i hi => h i (Nat.lt_succ_of_lt hi), turn,
      if_neg (by simp [h n (Nat.lt_succ_self n)]), BitVec.shiftRight_add]

/-- The lowest `n` bits. -/
def low (n : ℕ) (c : BitVec w) : BitVec w := (c.setWidth n).setWidth w

/-- Turns of a register are those of its lowest bits, and the others moved down. -/
theorem turns_eq (n : ℕ) (c : BitVec w) :
    (turn poly)^[n] c = (turn poly)^[n] (low n c) ^^^ (c >>> n) := by
  have hsplit : c = low n c ^^^ ((c >>> n) <<< n) := by
    apply BitVec.eq_of_getLsbD_eq
    intro i hi
    simp only [low, BitVec.getLsbD_xor, BitVec.getLsbD_setWidth, BitVec.getLsbD_shiftLeft,
      BitVec.getLsbD_ushiftRight, hi, decide_true, Bool.true_and]
    by_cases hn : i < n
    · simp [hn]
    · simp [hn, Nat.add_sub_cancel' (Nat.not_lt.mp hn)]
  have hdown : ((c >>> n) <<< n) >>> n = c >>> n := by
    apply BitVec.eq_of_getLsbD_eq
    intro i hi
    simp only [BitVec.getLsbD_ushiftRight, BitVec.getLsbD_shiftLeft]
    by_cases hw : n + i < w
    · simp [hw]
    · simp [hw, BitVec.getLsbD_of_ge c (n + i) (by omega)]
  have hzero : ∀ i < n, ((c >>> n) <<< n).getLsbD i = false := fun i hi => by simp [hi]
  have hturns := congrArg (turn poly)^[n] hsplit
  rwa [turns_xor, turns_of_low_zero poly hzero, hdown] at hturns

/-! ## Feeding bits -/

/-- A list of bits as a word, the first one lowest. -/
def word : List Bool → BitVec w
  | [] => 0#w
  | bit :: bits => (BitVec.ofBool bit).setWidth w ^^^ (word bits <<< 1)

theorem getLsbD_word {bits : List Bool} {i : ℕ} (hi : i < w) :
    (word bits : BitVec w).getLsbD i = bits.getD i false := by
  induction bits generalizing i with
  | nil => simp [word]
  | cons bit bits ih =>
    cases i with
    | zero => simp [word, hi]
    | succ i =>
      rw [word, BitVec.getLsbD_xor, BitVec.getLsbD_shiftLeft, Nat.add_sub_cancel,
        ih (Nat.lt_of_succ_lt hi)]
      simp [hi]

/-- A word of at most `w` bits determines them. -/
theorem word_injective {xs ys : List Bool} (hlen : xs.length = ys.length) (hw : xs.length ≤ w)
    (h : (word xs : BitVec w) = word ys) : xs = ys := by
  apply List.ext_getElem hlen
  intro i hx hy
  have hbit := congrArg (fun c : BitVec w => c.getLsbD i) h
  have hi : i < w := Nat.lt_of_lt_of_le hx hw
  simp only [getLsbD_word hi] at hbit
  rwa [List.getD_eq_getElem _ _ hx, List.getD_eq_getElem _ _ hy] at hbit

theorem feedBit_eq (hw : 0 < w) (c : BitVec w) (bit : Bool) :
    feedBit poly c bit = turn poly (c ^^^ (BitVec.ofBool bit).setWidth w) := by
  have hshift : (c ^^^ (BitVec.ofBool bit).setWidth w) >>> 1 = c >>> 1 := by
    apply BitVec.eq_of_getLsbD_eq
    intro i hi
    simp
  have hlow : (c ^^^ (BitVec.ofBool bit).setWidth w).getLsbD 0 = (c.getLsbD 0 ^^ bit) := by
    simp [hw]
  rw [feedBit, turn, hshift, hlow]

/-- Feeding at most `w` bits is adding them as a word and turning. -/
theorem feed_eq {bits : List Bool} (hlen : bits.length ≤ w) (c : BitVec w) :
    feed poly c bits = (turn poly)^[bits.length] (c ^^^ word bits) := by
  induction bits generalizing c with
  | nil => simp [feed, word]
  | cons bit bits ih =>
    have hroom : bits.length < w := hlen
    have hturn : turn poly (word bits <<< 1) = word bits := by
      rw [turn, if_neg (by simp)]
      apply BitVec.eq_of_getLsbD_eq
      intro i hi
      simp only [BitVec.getLsbD_ushiftRight, BitVec.getLsbD_shiftLeft]
      by_cases htop : 1 + i < w
      · simp [htop]
      · rw [getLsbD_word hi, List.getD_eq_default _ _ (by omega)]
        simp [htop]
    rw [feed, List.foldl_cons, ← feed, ih (Nat.le_of_lt hroom), feedBit_eq poly (by omega), List.length_cons,
      Function.iterate_succ_apply, word, ← BitVec.xor_assoc,
      turn_xor poly (c ^^^ (BitVec.ofBool bit).setWidth w), hturn]

/-! ## What a register tells apart -/

variable {poly}

theorem feed_injective (hw : 0 < w) (hpoly : poly.msb = true) (bits : List Bool) :
    Function.Injective (feed poly · bits) := by
  induction bits with
  | nil => exact fun a b h => h
  | cons bit bits ih =>
    intro a b h
    have hbit : feedBit poly a bit = feedBit poly b bit := ih h
    rw [feedBit_eq poly hw, feedBit_eq poly hw] at hbit
    exact (BitVec.xor_left_inj _).mp (turn_injective hpoly hbit)

/-- At most `w` bits are told apart. -/
theorem eq_of_feed_eq (hpoly : poly.msb = true) {xs ys : List Bool}
    (hlen : xs.length = ys.length) (hw : xs.length ≤ w) {c : BitVec w}
    (h : feed poly c xs = feed poly c ys) : xs = ys := by
  rw [feed_eq poly hw, feed_eq poly (hlen ▸ hw), hlen] at h
  exact word_injective hlen hw
    ((BitVec.xor_right_inj _).mp ((turn_injective hpoly).iterate _ h))

/-- Messages that differ within `w` consecutive bits leave different registers. -/
theorem eq_of_feed_burst (hpoly : poly.msb = true) {pre xs ys post : List Bool}
    (hlen : xs.length = ys.length) (hw : xs.length ≤ w) {c : BitVec w}
    (h : feed poly c (pre ++ xs ++ post) = feed poly c (pre ++ ys ++ post)) : xs = ys := by
  rcases Nat.eq_zero_or_pos w with hzero | hpos
  · obtain rfl := List.length_eq_zero_iff.mp (Nat.le_zero.mp (hzero ▸ hw))
    exact (List.length_eq_zero_iff.mp hlen.symm).symm
  · rw [feed_append, feed_append, feed_append, feed_append] at h
    exact eq_of_feed_eq hpoly hlen hw (feed_injective hpos hpoly post h)

end Fabric.Support.Crc

import Fabric.Support.Double
import Mathlib.Data.Rat.Floor

/-!
# Exact rationals in the place of doubles

`ℚ` as an instance of `Double`: arithmetic is exact, and the conversions to integers take the floor.
-/

namespace Fabric.Support

/-- Rational numbers in the place of doubles. Without evidence no confidence needs `exp`. -/
instance : Double ℚ where
  decLt := inferInstance
  decLe := inferInstance
  ofUInt64 n := n.toNat
  ofInt64 n := n.toInt
  toUInt64 x := .ofNat ⌊x⌋₊
  toInt64 x := .ofInt ⌊x⌋
  isFinite _ := true
  exp _ := 1

theorem Double.min_rat (a b : ℚ) : Double.min a b = Min.min a b := by
  unfold Double.min
  split_ifs with h
  · exact (min_eq_right h.le).symm
  · exact (min_eq_left (not_lt.mp h)).symm

theorem Double.max_rat (a b : ℚ) : Double.max a b = Max.max a b := by
  unfold Double.max
  split_ifs with h
  · exact (max_eq_right h.le).symm
  · exact (max_eq_left (not_lt.mp h)).symm

end Fabric.Support

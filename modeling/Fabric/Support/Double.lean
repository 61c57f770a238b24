import Mathlib.Data.Nat.Notation

/-!
# Double-precision numbers

`Double F` collects the operations of C++ `double` that a program can apply: arithmetic,
comparison, the conversions from and to 64-bit integers and `exp`. No law is assumed, so a
theorem over an arbitrary `F` holds for every rounding behaviour. `DoubleBits F` adds the
64-bit pattern of a number, as `memcpy` reads and writes it; it is a bijection.

`Binary64` is the IEEE 754 instance: a number is its bit pattern, and an operation unpacks
the patterns, computes with `Float` and packs the result. Out of range its casts saturate, which no
general result relies on: those are over an arbitrary `F`, and `Binary64` is for concrete numbers.
-/

namespace Fabric.Support

/-- The operations of `double`. `toUInt64` and `toInt64` are the truncating casts; out of the range
of the integer type C++ leaves them undefined, and so does this. -/
class Double (F : Type) extends
    Add F, Sub F, Mul F, Div F, Neg F, LT F, LE F, OfScientific F where
  decLt : DecidableLT F
  decLe : DecidableLE F
  ofUInt64 : UInt64 → F
  ofInt64 : Int64 → F
  toUInt64 : F → UInt64
  toInt64 : F → Int64
  isFinite : F → Bool
  exp : F → F

attribute [reducible, instance] Double.decLt Double.decLe

/-- A `double` together with its 64-bit pattern. -/
class DoubleBits (F : Type) extends Double F where
  toBits : F → UInt64
  ofBits : UInt64 → F
  ofBits_toBits : ∀ x, ofBits (toBits x) = x
  toBits_ofBits : ∀ b, toBits (ofBits b) = b

namespace Double

variable {F : Type} [Double F]

/-- `std::min`: the first argument unless the second is smaller. -/
def min (a b : F) : F := if b < a then b else a

/-- `std::max`: the first argument unless it is smaller. -/
def max (a b : F) : F := if a < b then b else a

/-- `std::clamp`. -/
def clamp (v lo hi : F) : F := if v < lo then lo else if hi < v then hi else v

end Double

/-- An IEEE 754 double as its bit pattern. -/
structure Binary64 where
  bits : UInt64
  deriving DecidableEq

namespace Binary64

def toFloat (a : Binary64) : Float := Float.ofBits a.bits

def ofFloat (a : Float) : Binary64 := ⟨a.toBits⟩

instance : DoubleBits Binary64 where
  add a b := ofFloat (a.toFloat + b.toFloat)
  sub a b := ofFloat (a.toFloat - b.toFloat)
  mul a b := ofFloat (a.toFloat * b.toFloat)
  div a b := ofFloat (a.toFloat / b.toFloat)
  neg a := ofFloat (-a.toFloat)
  lt a b := a.toFloat < b.toFloat
  le a b := a.toFloat ≤ b.toFloat
  ofScientific m s e := ofFloat (OfScientific.ofScientific m s e)
  decLt a b := inferInstanceAs (Decidable (a.toFloat < b.toFloat))
  decLe a b := inferInstanceAs (Decidable (a.toFloat ≤ b.toFloat))
  ofUInt64 n := ofFloat n.toFloat
  ofInt64 n := ofFloat (.ofModel (.ofInt64 n))
  toUInt64 a := a.toFloat.toUInt64
  toInt64 a := a.toFloat.toModel.toInt64
  isFinite a := a.toFloat.isFinite
  exp a := ofFloat a.toFloat.exp
  toBits := bits
  ofBits := mk
  ofBits_toBits _ := rfl
  toBits_ofBits _ := rfl

example : (0.10 : Binary64) = ⟨0x3FB999999999999A⟩ := by decide +kernel

example : Double.toUInt64 (Double.ofUInt64 1000 * (0.10 : Binary64)) = 100 := by
  decide +kernel

end Binary64

end Fabric.Support

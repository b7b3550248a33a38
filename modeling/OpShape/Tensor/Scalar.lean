/-
# `OpShape.Tensor.Scalar` — the arithmetic of tensor elements.

Kernels that only add and multiply are written over any type with `Scalar` operations, so that what
they do with positions can be told apart from what rounding does.  The rest of this module is about
32-bit floats: conversions, extremes that pass over values that are not numbers, and a total order.
-/
import OpShape.Fault

namespace OpShape

/-- Elements that can be added and multiplied. -/
class Scalar (α : Type) extends Add α, Mul α where
  /-- What an accumulator starts from. -/
  zero : α
  /-- What a sum of no elements is. -/
  emptySum : α

namespace Scalar

variable {α : Type}

/-- The sum of a list, added up from the left. -/
def sum [Scalar α] (xs : List α) : α :=
  xs.foldl (· + ·) emptySum

/-- The sum of a list on top of an accumulator. -/
def accumulate [Scalar α] (xs : List α) : α :=
  xs.foldl (· + ·) zero

end Scalar

/-- Sums of floats start at negative zero, which changes no float that is added to it. -/
instance : Scalar Float32 where
  zero := 0.0
  emptySum := -0.0

/-- A stream of random floats: what is drawn for each position. -/
abbrev Draws := Nat → Float32

namespace Single

/-! ## Constants and conversions -/

/-- Positive infinity. -/
def infinity : Float32 := 1.0 / 0.0

/-- The integer of thirty-two bits that is nearest to the float in the direction of zero; the
greatest or least one where the float lies beyond them, and zero for what is not a number. -/
def toInt (x : Float32) : Int :=
  x.toInt32.toInt

/-- The float nearest to a number of elements. -/
def ofCount (n : Nat) : Float32 :=
  Float32.ofNat n

/-- One for true and zero for false. -/
def flag (b : Bool) : Int :=
  if b then 1 else 0

/-! ## Extremes -/

/-- The greater of two floats, or the one that is a number.  Of two equal ones, which may be zeros
of either sign, the second. -/
def max (x y : Float32) : Float32 :=
  if x > y || y.isNaN then x else y

/-- The lesser of two floats, or the one that is a number.  Of two equal ones, which may be zeros
of either sign, the second. -/
def min (x y : Float32) : Float32 :=
  if x < y || y.isNaN then x else y

/-- The greatest of the floats that are numbers, or negative infinity if there are none. -/
def maximum (xs : List Float32) : Float32 :=
  xs.foldl max (-infinity)

/-- The float moved to the nearest bound of a range whose bounds are in order. -/
def clip (low high x : Float32) : Float32 :=
  if x < low then low else if x > high then high else x

/-- The float moved to the nearest bound of a range, which must have its bounds in order. -/
def clamp {ε : Type} (low high x : Float32) : Checked ε Float32 :=
  if low <= high then .ok (clip low high x) else Checked.breakDown .emptyRange

/-- One with the sign of the float; what is not a number stays as it is. -/
def signum (x : Float32) : Float32 :=
  if x.isNaN then x else if x.toBits < 0x80000000 then 1.0 else -1.0

/-! ## Chance -/

/-- Floats in `[0, 1)` that are spread evenly over the positions: the fractional parts of the
multiples of the golden ratio, to twenty-four binary digits.  Programs draw from them; nothing else
is said of any stream. -/
def spread : Draws := fun position =>
  ofCount ((position + 1) * 0x9E3779B9 % Nat.pow 2 32 / Nat.pow 2 8) / 16777216.0

/-! ## Order -/

/-- The rank of the float with these bits in the total order of all floats, from negative to
positive: negative zero comes before zero, and what is not a number comes before or behind all
numbers, according to its sign. -/
def rank (bits : UInt32) : Int :=
  let bits : Int := bits.toNat
  if bits < 0x80000000 then bits else 0x7fffffff - bits

end Single

end OpShape

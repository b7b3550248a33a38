/-
# `OpShape.Decimal.Shortest` — the fewest digits that read back.

A finite number of the 64-bit format stands for all reals that are rounded to it: an interval with
the number inside, whose ends belong to it when the significand is even.  The decimal text of the
number is the point of the coarsest decimal grid that has a point in this interval, and among two
such points the nearer one, or the greater one where both are equally near.

All of this is decided in exact arithmetic on natural numbers.
-/

namespace OpShape.Decimal

/-- The positive number `significand * 2 ^ exponent`. -/
structure Dyadic where
  significand : Nat
  exponent : Int
  deriving DecidableEq, Repr

/-- The number with the given bits of a 64-bit float whose sign bit is clear. -/
def Dyadic.ofBits (bits : Nat) : Dyadic :=
  let fraction := bits % Nat.pow 2 52
  let biased : Nat := bits / Nat.pow 2 52
  if biased = 0 then { significand := fraction, exponent := -1074 }
  else { significand := Nat.pow 2 52 + fraction, exponent := (biased : Int) - 1075 }

/-- The distance from the number down to the end of its interval, in quarters of its last place:
below a power of two the numbers lie twice as close. -/
def Dyadic.quartersBelow (x : Dyadic) : Nat :=
  if x.significand = Nat.pow 2 52 ∧ -1074 < x.exponent then 1 else 2

/-- What a quarter of the last place weighs against the decimal grid `10 ^ place`, when both are
scaled to natural numbers. -/
def Dyadic.quarterWeight (x : Dyadic) (place : Int) : Nat :=
  Nat.pow 2 (x.exponent - 2).toNat * Nat.pow 10 (-place).toNat

/-- What a step of the decimal grid `10 ^ place` weighs, on the scale of `quarterWeight`. -/
def Dyadic.stepWeight (x : Dyadic) (place : Int) : Nat :=
  Nat.pow 10 place.toNat * Nat.pow 2 (2 - x.exponent).toNat

/-- Does `steps * 10 ^ place` lie in the interval that is rounded to the number? -/
def Dyadic.contains (x : Dyadic) (steps : Nat) (place : Int) : Bool :=
  let quarter := x.quarterWeight place
  let low := (4 * x.significand - x.quartersBelow) * quarter
  let high := (4 * x.significand + 2) * quarter
  let point := steps * x.stepWeight place
  if x.significand % 2 = 0 then low ≤ point && point ≤ high else low < point && point < high

/-- The point of the grid `10 ^ place` in the number's interval that is nearest to the number. -/
def Dyadic.nearest? (x : Dyadic) (place : Int) : Option Nat :=
  let value := 4 * x.significand * x.quarterWeight place
  let step := x.stepWeight place
  let below := value / step
  match x.contains below place, x.contains (below + 1) place with
  | false, false => none
  | true, false => some below
  | false, true => some (below + 1)
  | true, true => if 2 * (value - below * step) < step then some below else some (below + 1)

/-- Search the grids `10 ^ (fuel - 325)`, `10 ^ (fuel - 326)`, … down to `10 ^ -324`, where no two
numbers of the format are closer than a step. -/
def Dyadic.coarsest (x : Dyadic) : Nat → Nat × Int
  | 0 => (0, 0)
  | fuel + 1 =>
    let place := (fuel : Int) - 324
    match x.nearest? place with
    | some steps => (steps, place)
    | none => x.coarsest fuel

/-- The shortest decimal of a positive number: digits that do not end in zero, and the place of the
last of them.  No number of the format reaches `10 ^ 309`. -/
def Dyadic.shortest (x : Dyadic) : Nat × Int :=
  x.coarsest 634

end OpShape.Decimal

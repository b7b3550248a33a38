/-
# `OpShape.Decimal.FloatRead` — reading a 64-bit float.

A number is an optional sign, digits with at most one point among or around them, and an optional
exponent; or one of the words `inf`, `infinity` and `nan` in letters of either case.  The decimal is
rounded to the nearest float.
-/
import OpShape.Decimal.Integer

namespace OpShape.Decimal

/-- Digits with a point: those before it, those after it, and what follows. -/
def takeDecimal (text : List Char) : List Char × List Char × List Char :=
  let whole := text.takeWhile Char.isDigit
  match text.dropWhile Char.isDigit with
  | '.' :: rest => (whole, rest.takeWhile Char.isDigit, rest.dropWhile Char.isDigit)
  | rest => (whole, [], rest)

/-- The exponent that a text gives: none if it is empty, and no reading if it is anything but the
letter e and an integer. -/
def readExponent? : List Char → Option Int
  | [] => some 0
  | c :: rest =>
    if c = 'e' ∨ c = 'E' then
      match rest with
      | '+' :: digits => (digitsValue? digits).map Int.ofNat
      | '-' :: digits => (digitsValue? digits).map fun n => -Int.ofNat n
      | digits => (digitsValue? digits).map Int.ofNat
    else none

/-- The float nearest to `digits * 10 ^ exponent`.  The format reaches neither `10 ^ 400` nor
`10 ^ -400`, so that greater exponents need no exact power. -/
def nearestFloat (digits : Nat) (exponent : Int) : Float :=
  let lead := ((Nat.toDigits 10 digits).length : Int) + exponent
  if digits = 0 then 0.0
  else if 400 < lead then 1.0 / 0.0
  else if lead < -400 then 0.0
  else if 0 ≤ exponent then Float.ofScientific (digits * Nat.pow 10 exponent.toNat) false 0
  else Float.ofScientific digits true (-exponent).toNat

/-- Read a number without its sign. -/
def readUnsigned? (text : List Char) : Option Float :=
  let lower := text.map Char.toLower
  if lower = ['i', 'n', 'f'] ∨ lower = ['i', 'n', 'f', 'i', 'n', 'i', 't', 'y'] then
    some (1.0 / 0.0)
  else if lower = ['n', 'a', 'n'] then some (0.0 / 0.0)
  else
    let (whole, fraction, rest) := takeDecimal text
    if whole.isEmpty && fraction.isEmpty then none
    else
      (readExponent? rest).map fun exponent =>
        nearestFloat (Nat.ofDigitChars 10 (whole ++ fraction) 0) (exponent - fraction.length)

/-- Read a float. -/
def readFloat? : List Char → Option Float
  | '+' :: rest => readUnsigned? rest
  | '-' :: rest => (readUnsigned? rest).map fun x => -x
  | text => readUnsigned? text

end OpShape.Decimal

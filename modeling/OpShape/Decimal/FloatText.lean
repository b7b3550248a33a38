/-
# `OpShape.Decimal.FloatText` — the text of a 64-bit float.

The digits are the fewest that read back.  Between a ten-thousandth and ten to the sixteenth they
are written around a point, with at least one digit after it; outside, with one digit before the
point and the exponent of ten behind the letter e.
-/
import OpShape.Decimal.Integer
import OpShape.Decimal.Shortest

namespace OpShape.Decimal

/-- Are the digits written around a point when the first of them stands for `10 ^ lead`? -/
def isPositional (lead : Int) : Bool :=
  -4 ≤ lead && lead ≤ 15

/-- Digits around a point, where `whole` of them stand before it. -/
def positional (digits : List Char) (whole : Int) : List Char :=
  if whole ≤ 0 then
    ['0', '.'] ++ List.replicate (-whole).toNat '0' ++ digits
  else
    let before := digits.take whole.toNat
    let after := digits.drop whole.toNat
    before ++ List.replicate (whole.toNat - digits.length) '0' ++ ['.'] ++
      (if after.isEmpty then ['0'] else after)

/-- One digit, the others behind a point if there are any, and the exponent of ten. -/
def scientific (digits : List Char) (lead : Int) : List Char :=
  digits.take 1 ++ (if 1 < digits.length then '.' :: digits.drop 1 else []) ++
    ['e'] ++ (intText lead).toList

/-- The text of a positive number. -/
def Dyadic.text (x : Dyadic) : List Char :=
  let (value, place) := x.shortest
  let digits := Nat.toDigits 10 value
  let lead := place + digits.length - 1
  if isPositional lead then positional digits (lead + 1) else scientific digits lead

/-- The text of the number with these bits. -/
def bitsText (bits : Nat) : List Char :=
  let sign := if bits < Nat.pow 2 63 then [] else ['-']
  let magnitude := bits % Nat.pow 2 63
  if 0x7ff0000000000000 < magnitude then ['N', 'a', 'N']
  else if magnitude = 0x7ff0000000000000 then sign ++ ['i', 'n', 'f']
  else if magnitude = 0 then sign ++ ['0', '.', '0']
  else sign ++ (Dyadic.ofBits magnitude).text

/-- The text of a float. -/
def floatText (x : Float) : String :=
  String.ofList (bitsText x.toBits.toNat)

end OpShape.Decimal

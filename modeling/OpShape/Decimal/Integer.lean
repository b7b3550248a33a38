/-
# `OpShape.Decimal.Integer` — whole numbers in decimal digits.

Numbers are written without leading zeros and with a minus sign where they are negative.  They are
read from one or more digits with an optional sign in front; a number beyond the range that is asked
for is not read at all.
-/

namespace OpShape.Decimal

/-! ## Writing -/

/-- The decimal digits of a number. -/
def natText (n : Nat) : String :=
  String.ofList (Nat.toDigits 10 n)

/-- The decimal digits of a number, after a minus sign if it is negative. -/
def intText (i : Int) : String :=
  if i < 0 then "-" ++ natText i.natAbs else natText i.natAbs

/-! ## Reading -/

/-- The number that a non-empty list of digits stands for. -/
def digitsValue? (digits : List Char) : Option Nat :=
  if digits.isEmpty || !digits.all Char.isDigit then none
  else some (Nat.ofDigitChars 10 digits 0)

/-- Read a size: digits, perhaps after a plus sign, for a number that fits sixty-four bits. -/
def readSize? (text : List Char) : Option Nat := do
  let digits := match text with
    | '+' :: rest => rest
    | _ => text
  let n ← digitsValue? digits
  if n < Nat.pow 2 64 then some n else none

/-- Read an integer: digits, perhaps after a sign, for a number that fits sixty-four bits with one
of them for the sign. -/
def readInt? (text : List Char) : Option Int := do
  let i : Int ← match text with
    | '+' :: rest => (digitsValue? rest).map Int.ofNat
    | '-' :: rest => (digitsValue? rest).map fun n => -Int.ofNat n
    | _ => (digitsValue? text).map Int.ofNat
  if -Int.pow 2 63 ≤ i ∧ i < Int.pow 2 63 then some i else none

theorem isDigit_of_mem_natText {n : Nat} {c : Char} (h : c ∈ (natText n).toList) :
    c.isDigit = true := by
  rw [natText, String.toList_ofList] at h
  exact Nat.isDigit_of_mem_toDigits (by decide) (by decide) h

end OpShape.Decimal

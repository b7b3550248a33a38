/-
# `OpShape.Json.Token` — the words and signs of a JSON text.

A text is scanned character by character.  What has been read of a number, a word or a string is
kept until it is complete, so that each character is looked at once.
-/
import OpShape.Json.Basic

namespace OpShape.Json

/-- A word or a sign of a JSON text. -/
inductive Token where
  | openArray
  | closeArray
  | openObject
  | closeObject
  | comma
  | colon
  /-- A value that consists of one word. -/
  | scalar (value : Value)
  | str (content : List Piece)

/-! ## Numbers -/

/-- How far a number has been read. -/
inductive NumberPart where
  | sign
  | zero
  | whole
  | point
  | fraction
  | exponent
  | exponentSign
  | exponentDigits
  deriving DecidableEq, Repr

namespace NumberPart

/-- Can the number end here? -/
def isComplete : NumberPart → Bool
  | zero | whole | fraction | exponentDigits => true
  | sign | point | exponent | exponentSign => false

/-- What follows the digits in front of a point. -/
def afterWhole (c : Char) : Option NumberPart :=
  if c = '.' then some point else if c = 'e' ∨ c = 'E' then some exponent else none

/-- How far the number has been read with another character, if that belongs to it.  No digit
follows a leading zero. -/
def next? (part : NumberPart) (c : Char) : Option NumberPart :=
  match part with
  | sign => if c = '0' then some zero else if c.isDigit then some whole else none
  | zero => afterWhole c
  | whole => if c.isDigit then some whole else afterWhole c
  | point => if c.isDigit then some fraction else none
  | fraction =>
    if c.isDigit then some fraction
    else if c = 'e' ∨ c = 'E' then some exponent
    else none
  | exponent =>
    if c.isDigit then some exponentDigits
    else if c = '+' ∨ c = '-' then some exponentSign
    else none
  | exponentSign => if c.isDigit then some exponentDigits else none
  | exponentDigits => if c.isDigit then some exponentDigits else none

end NumberPart

/-- The value of a number that has been read. -/
def numberValue (literal : List Char) : Value :=
  match Decimal.digitsValue? literal with
  | some value => .natural value
  | none => .number literal

/-- The value that a word stands for. -/
def wordValue? (word : List Char) : Option Value :=
  if word = ['n', 'u', 'l', 'l'] then some .null
  else if word = ['t', 'r', 'u', 'e'] then some (.bool true)
  else if word = ['f', 'a', 'l', 's', 'e'] then some (.bool false)
  else none

/-! ## Strings -/

/-- Is the number the first half of a pair? -/
def isFirstHalf (number : Nat) : Bool :=
  0xD800 ≤ number && number < 0xDC00

/-- Is the number the second half of a pair? -/
def isSecondHalf (number : Nat) : Bool :=
  0xDC00 ≤ number && number < 0xE000

/-- The character that a pair of halves stands for. -/
def joinedHalves (first second : Nat) : Char :=
  Char.ofNat (0x10000 + (first - 0xD800) * 0x400 + (second - 0xDC00))

/-- Add what a number stands for to the pieces read so far, of which the latest comes first. -/
def addNumbered (number : Nat) (pieces : List Piece) : List Piece :=
  if isFirstHalf number then .half number :: pieces
  else if isSecondHalf number then
    match pieces with
    | .half first :: rest =>
      if isFirstHalf first then .char (joinedHalves first number) :: rest
      else .half number :: pieces
    | _ => .half number :: pieces
  else .char (Char.ofNat number) :: pieces

/-- The character that a letter or a sign stands for after a backslash. -/
def marked? (c : Char) : Option Char :=
  if c = '"' ∨ c = '\\' ∨ c = '/' then some c
  else if c = 'b' then some '\x08'
  else if c = 'f' then some '\x0c'
  else if c = 'n' then some '\n'
  else if c = 'r' then some '\r'
  else if c = 't' then some '\t'
  else none

/-- The value of a hexadecimal digit. -/
def hexValue? (c : Char) : Option Nat :=
  if c.isDigit then some (c.toNat - '0'.toNat)
  else if 'a' ≤ c ∧ c ≤ 'f' then some (c.toNat - 'a'.toNat + 10)
  else if 'A' ≤ c ∧ c ≤ 'F' then some (c.toNat - 'A'.toNat + 10)
  else none

/-! ## Scanning -/

/-- What is being read.  Of everything that is kept, the latest comes first. -/
inductive Mode where
  | between
  | word (letters : List Char)
  | number (part : NumberPart) (literal : List Char)
  | str (pieces : List Piece)
  /-- After a backslash. -/
  | mark (pieces : List Piece)
  /-- After some of the four hexadecimal digits of a number. -/
  | numbered (pieces : List Piece) (digits value : Nat)

/-- The tokens that are complete, of which the latest comes first, and what is being read. -/
structure Scanner where
  tokens : List Token
  mode : Mode

/-- May the character stand between tokens? -/
def isBetween (c : Char) : Bool :=
  c = ' ' || c = '\n' || c = '\t' || c = '\r'

/-- The token that a sign stands for by itself. -/
def sign? (c : Char) : Option Token :=
  if c = '[' then some .openArray
  else if c = ']' then some .closeArray
  else if c = '\x7b' then some .openObject
  else if c = '\x7d' then some .closeObject
  else if c = ',' then some .comma
  else if c = ':' then some .colon
  else none

namespace Scanner

/-- The scanner in front of a text. -/
def start : Scanner :=
  { tokens := [], mode := .between }

/-- Take a token as complete. -/
def push (scanner : Scanner) (token : Token) : Scanner :=
  { tokens := token :: scanner.tokens, mode := .between }

/-- Complete the number or the word that is being read. -/
def complete? (scanner : Scanner) : Option Scanner :=
  match scanner.mode with
  | .between => some scanner
  | .word letters =>
    (wordValue? letters.reverse).map fun value => scanner.push (.scalar value)
  | .number part literal =>
    if part.isComplete then some (scanner.push (.scalar (numberValue literal.reverse))) else none
  | .str _ | .mark _ | .numbered _ _ _ => none

/-- Read a character between tokens. -/
def begin? (scanner : Scanner) (c : Char) : Option Scanner :=
  if isBetween c then some scanner
  else if c = '"' then some { scanner with mode := .str [] }
  else if c = '-' then some { scanner with mode := .number .sign [c] }
  else if c = '0' then some { scanner with mode := .number .zero [c] }
  else if c.isDigit then some { scanner with mode := .number .whole [c] }
  else if c.isLower then some { scanner with mode := .word [c] }
  else (sign? c).map scanner.push

/-- Read a character. -/
def step? (scanner : Scanner) (c : Char) : Option Scanner :=
  match scanner.mode with
  | .between => scanner.begin? c
  | .word letters =>
    if c.isLower then some { scanner with mode := .word (c :: letters) }
    else do (← scanner.complete?).begin? c
  | .number part literal =>
    match part.next? c with
    | some part => some { scanner with mode := .number part (c :: literal) }
    | none => do (← scanner.complete?).begin? c
  | .str pieces =>
    if c = '"' then some (scanner.push (.str pieces.reverse))
    else if c = '\\' then some { scanner with mode := .mark pieces }
    else if c < ' ' then none
    else some { scanner with mode := .str (.char c :: pieces) }
  | .mark pieces =>
    if c = 'u' then some { scanner with mode := .numbered pieces 0 0 }
    else (marked? c).map fun c => { scanner with mode := .str (.char c :: pieces) }
  | .numbered pieces digits value => do
    let value := value * 16 + (← hexValue? c)
    if digits = 3 then some { scanner with mode := .str (addNumbered value pieces) }
    else some { scanner with mode := .numbered pieces (digits + 1) value }

end Scanner

/-- The tokens of a text. -/
def tokens? (text : List Char) : Option (List Token) := do
  let scanner ← text.foldlM Scanner.step? Scanner.start
  some (← scanner.complete?).tokens.reverse

end OpShape.Json

/-
# `OpShape.Json.Printer` — JSON texts with one item per line.

The items of an array and the members of an object stand on lines of their own, two blanks further
in than what holds them.  An array or an object with nothing in it is written on one line.
-/
import OpShape.Json.Basic

namespace OpShape.Json

/-! ## Strings -/

/-- A number in four hexadecimal digits after a backslash and the letter u. -/
def numbered (number : Nat) : List Char :=
  let digits := Nat.toDigits 16 number
  ['\\', 'u'] ++ List.replicate (4 - digits.length) '0' ++ digits

/-- What stands for a character in a string.  Quotes and backslashes are marked, and so are control
characters, some of which have a letter of their own. -/
def escaped (c : Char) : List Char :=
  if c = '"' then ['\\', '"']
  else if c = '\\' then ['\\', '\\']
  else if c = '\x08' then ['\\', 'b']
  else if c = '\x0c' then ['\\', 'f']
  else if c = '\n' then ['\\', 'n']
  else if c = '\r' then ['\\', 'r']
  else if c = '\t' then ['\\', 't']
  else if c < ' ' then numbered c.toNat
  else [c]

/-- What stands for a piece of a string. -/
def Piece.chars : Piece → List Char
  | char c => escaped c
  | half number => numbered number

/-- A string in quotes. -/
def stringChars (content : List Piece) : List Char :=
  '"' :: content.flatMap Piece.chars ++ ['"']

/-! ## Values -/

/-- The start of a line, which lies `depth` steps further in than the first one. -/
def lineStart (depth : Nat) : List Char :=
  '\n' :: List.replicate (2 * depth) ' '

/-- Lines between an opening and a closing sign. -/
def block (opening closing : Char) (depth : Nat) (lines : List (List Char)) : List Char :=
  match lines with
  | [] => [opening, closing]
  | first :: rest =>
    opening :: lineStart (depth + 1) ++ first ++
      (rest.flatMap fun line => ',' :: lineStart (depth + 1) ++ line) ++
      lineStart depth ++ [closing]

namespace Value

mutual

/-- The text of a value that starts on a line `depth` steps in. -/
def chars (depth : Nat) : Value → List Char
  | null => ['n', 'u', 'l', 'l']
  | bool true => ['t', 'r', 'u', 'e']
  | bool false => ['f', 'a', 'l', 's', 'e']
  | natural value => (Decimal.natText value).toList
  | number literal => literal
  | str content => stringChars content
  | array items => block '[' ']' depth (itemLines (depth + 1) items)
  | object members => block '\x7b' '\x7d' depth (memberLines (depth + 1) members)

/-- The texts of items. -/
def itemLines (depth : Nat) : List Value → List (List Char)
  | [] => []
  | item :: items => item.chars depth :: itemLines depth items

/-- The texts of members. -/
def memberLines (depth : Nat) : List (List Piece × Value) → List (List Char)
  | [] => []
  | (name, value) :: members =>
    (stringChars name ++ [':', ' '] ++ value.chars depth) :: memberLines depth members

end

/-- The text of a value, over several lines. -/
def pretty (value : Value) : String :=
  String.ofList (value.chars 0)

end Value

end OpShape.Json

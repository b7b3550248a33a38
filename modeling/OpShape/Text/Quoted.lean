/-
# `OpShape.Text.Quoted` — texts between double quotes.

Inside the quotes a double quote and a backslash are marked by a backslash, five control characters
have a letter of their own, and every other character that cannot be shown by itself is written by
its number in hexadecimal digits.
-/
import OpShape.Text.Printable

namespace OpShape.Text

/-- Is the character written by its number inside quotes? -/
def isNumbered (c : Char) : Bool :=
  isExtending c || !isPrintable c

/-- A character by its number: a backslash, the letter u and the hexadecimal digits in braces. -/
def numbered (c : Char) : List Char :=
  ['\\', 'u', '\x7b'] ++ Nat.toDigits 16 c.toNat ++ ['\x7d']

/-- What stands for a character inside quotes. -/
def escaped (c : Char) : List Char :=
  if c = '\x00' then ['\\', '0']
  else if c = '\t' then ['\\', 't']
  else if c = '\n' then ['\\', 'n']
  else if c = '\r' then ['\\', 'r']
  else if c = '"' then ['\\', '"']
  else if c = '\\' then ['\\', '\\']
  else if isNumbered c then numbered c
  else [c]

/-- The characters of the text between double quotes. -/
def quotedChars (text : List Char) : List Char :=
  '"' :: text.flatMap escaped ++ ['"']

/-- The text between double quotes. -/
def quoted (text : String) : String :=
  String.ofList (quotedChars text.toList)

@[simp] theorem toList_quoted (text : String) : (quoted text).toList = quotedChars text.toList := by
  simp [quoted]

end OpShape.Text

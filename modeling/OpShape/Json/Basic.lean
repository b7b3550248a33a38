/-
# `OpShape.Json.Basic` — JSON values.

A string may name characters by their numbers in a wide alphabet, two numbers for one character, and
nothing keeps it from giving one number of such a pair without the other.  A string that does has no
text.  Of numbers only the natural ones have a value here; all others are kept as they are written.
-/
import OpShape.Sizes

namespace OpShape.Json

/-! ## Strings -/

/-- What a string is made of. -/
inductive Piece where
  | char (c : Char)
  /-- One half of a pair of numbers, without the other half. -/
  | half (number : Nat)
  deriving DecidableEq, Repr

/-- The character, if the piece is one. -/
def Piece.char? : Piece → Option Char
  | char c => some c
  | half _ => none

/-- The pieces of a text. -/
def piecesOf (text : String) : List Piece :=
  text.toList.map .char

/-- The text that pieces make, if none of them is a half. -/
def textOf? (pieces : List Piece) : Option String :=
  (pieces.mapM Piece.char?).map String.ofList

@[simp] theorem textOf?_piecesOf (text : String) : textOf? (piecesOf text) = some text := by
  have h (chars : List Char) : (chars.map Piece.char).mapM Piece.char? = some chars := by
    induction chars with
    | nil => rfl
    | cons c rest ih => simp [List.mapM_cons, Piece.char?, ih]
  simp [textOf?, piecesOf, h]

/-! ## Values -/

/-- A JSON value. -/
inductive Value where
  | null
  | bool (value : Bool)
  | natural (value : Nat)
  /-- A number with a sign, a fraction or an exponent, as it is written. -/
  | number (literal : List Char)
  | str (content : List Piece)
  | array (items : List Value)
  /-- Members in the order in which they are written; a name may come more than once. -/
  | object (members : List (List Piece × Value))

namespace Value

/-- The value of a text. -/
def ofText (text : String) : Value :=
  str (piecesOf text)

/-- The value of an optional one. -/
def ofOption {α : Type} (value : α → Value) : Option α → Value
  | none => null
  | some x => value x

/-- An object with members in order. -/
def ofMembers (members : List (String × Value)) : Value :=
  object (members.map fun member => (piecesOf member.1, member.2))

/-! ## Reading a value -/

/-- The text of a string. -/
def text? : Value → Option String
  | str content => textOf? content
  | _ => none

/-- A truth value. -/
def bool? : Value → Option Bool
  | bool value => some value
  | _ => none

/-- A natural number below a bound. -/
def below? (bound : Nat) : Value → Option Nat
  | natural value => if value < bound then some value else none
  | _ => none

/-- The items of an array, each of which `item` recognises. -/
def list? {α : Type} (item : Value → Option α) : Value → Option (List α)
  | array items => items.mapM item
  | _ => none

/-- Nothing, or what `value` recognises. -/
def option? {α : Type} (value : Value → Option α) : Value → Option (Option α)
  | null => some none
  | other => (value other).map some

/-- What is there of the members of the given names.  Other members do not matter, but every name
must be a text, and a name that is asked for may come only once.  An array with one item for each
name stands for an object too. -/
def record? (names : List String) : Value → Option (List (Option Value))
  | array items => if items.length = names.length then some (items.map some) else none
  | object members => do
    let members ← members.mapM fun member => (textOf? member.1).map fun name => (name, member.2)
    if names.any fun name => 1 < (members.filter fun member => member.1 = name).length then none
    else
      some (names.map fun name =>
        (members.find? fun member => member.1 = name).map Prod.snd)
  | _ => none

end Value

end OpShape.Json

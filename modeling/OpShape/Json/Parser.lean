/-
# `OpShape.Json.Parser` — the value of a JSON text.

Tokens are read one by one.  What is open around the place of reading is kept on a stack, the
innermost array or object first, so that values may nest to any depth.
-/
import OpShape.Json.Token

namespace OpShape.Json

/-- An array or an object that is open, with what has been read of it, the latest first. -/
inductive Frame where
  | array (items : List Value)
  | object (members : List (List Piece × Value))
  /-- An object that waits for the value of a member. -/
  | member (members : List (List Piece × Value)) (name : List Piece)

/-- What may come next. -/
inductive Expected where
  | value
  /-- The first item of an array, or its end. -/
  | firstItem
  /-- The first name of an object, or its end. -/
  | firstName
  | name
  | colon
  /-- A comma, or the end of what is open. -/
  | separator
  /-- Nothing, as the value is complete. -/
  | nothing (value : Value)

/-- What is open, the innermost first, and what may come next. -/
structure Reader where
  stack : List Frame
  expected : Expected

namespace Reader

/-- The reader in front of a text. -/
def start : Reader :=
  { stack := [], expected := .value }

/-- Put a complete value into what is open. -/
def deliver? (stack : List Frame) (value : Value) : Option Reader :=
  match stack with
  | [] => some { stack := [], expected := .nothing value }
  | .array items :: rest =>
    some { stack := .array (value :: items) :: rest, expected := .separator }
  | .member members name :: rest =>
    some { stack := .object ((name, value) :: members) :: rest, expected := .separator }
  | .object _ :: _ => none

/-- Read the first token of a value. -/
def beginValue? (stack : List Frame) : Token → Option Reader
  | .openArray => some { stack := .array [] :: stack, expected := .firstItem }
  | .openObject => some { stack := .object [] :: stack, expected := .firstName }
  | .scalar value => deliver? stack value
  | .str content => deliver? stack (.str content)
  | _ => none

/-- Read the name of a member. -/
def beginMember? (stack : List Frame) : Token → Option Reader
  | .str name =>
    match stack with
    | .object members :: rest =>
      some { stack := .member members name :: rest, expected := .colon }
    | _ => none
  | _ => none

/-- Read the end of what is open. -/
def close? (stack : List Frame) : Token → Option Reader
  | .closeArray =>
    match stack with
    | .array items :: rest => deliver? rest (.array items.reverse)
    | _ => none
  | .closeObject =>
    match stack with
    | .object members :: rest => deliver? rest (.object members.reverse)
    | _ => none
  | _ => none

/-- Read a comma or the end of what is open. -/
def separate? (stack : List Frame) : Token → Option Reader
  | .comma =>
    match stack with
    | .array _ :: _ => some { stack, expected := .value }
    | .object _ :: _ => some { stack, expected := .name }
    | _ => none
  | token => close? stack token

/-- Read a token. -/
def step? (reader : Reader) (token : Token) : Option Reader :=
  match reader.expected with
  | .value => beginValue? reader.stack token
  | .firstItem => (close? reader.stack token).orElse fun _ => beginValue? reader.stack token
  | .firstName => (close? reader.stack token).orElse fun _ => beginMember? reader.stack token
  | .name => beginMember? reader.stack token
  | .colon =>
    match token with
    | .colon => some { reader with expected := .value }
    | _ => none
  | .separator => separate? reader.stack token
  | .nothing _ => none

end Reader

namespace Value

/-- The value that tokens make. -/
def ofTokens? (tokens : List Token) : Option Value := do
  match (← tokens.foldlM Reader.step? Reader.start).expected with
  | .nothing value => some value
  | _ => none

/-- The value of a text. -/
def parse? (text : String) : Option Value := do
  ofTokens? (← tokens? text.toList)

end Value

end OpShape.Json

/-
# `OpShape.OpName` — names of operators.

An operator is named by a scope, a name in that scope and perhaps an overload, written
`scope::name` or `scope::name.overload`.  Each part is an identifier: one or more ASCII letters,
digits and underscores.  No part can hold a mark, so a text names at most one operator.
-/
import OpShape.Text.Split

namespace OpShape

/-- The name of an operator. -/
structure OpName where
  scope : String
  name : String
  overload : Option String
  deriving DecidableEq, Repr

namespace OpName

/-! ## Text -/

/-- The name as it is written. -/
def text (op : OpName) : String :=
  match op.overload with
  | none => op.scope ++ "::" ++ op.name
  | some overload => op.scope ++ "::" ++ op.name ++ "." ++ overload

/-- May the character stand in an identifier? -/
def isIdentifierChar (c : Char) : Bool :=
  c.isAlphanum || c == '_'

/-- Is the text an identifier? -/
def isIdentifier (text : List Char) : Bool :=
  !text.isEmpty && text.all isIdentifierChar

/-- The operator that a list of characters names. -/
def ofChars? (text : List Char) : Option OpName := do
  let (scope, rest) ← Text.cutPair ':' ':' text
  guard (isIdentifier scope)
  match Text.cutFirst '.' rest with
  | none =>
    guard (isIdentifier rest)
    some { scope := String.ofList scope, name := String.ofList rest, overload := none }
  | some (name, overload) =>
    guard (isIdentifier name)
    guard (isIdentifier overload)
    some { scope := String.ofList scope, name := String.ofList name,
           overload := some (String.ofList overload) }

/-- The operator that a text names. -/
def ofText? (text : String) : Option OpName :=
  ofChars? text.toList

/-- What is said about a text that names no operator. -/
def invalidText (text : String) : String :=
  "invalid operator name \"" ++ text ++ "\""

/-! ## Order -/

/-- Does one overload come before the other?  No overload comes before any. -/
def overloadBefore : Option String → Option String → Bool
  | none, some _ => true
  | some a, some b => a < b
  | _, none => false

/-- The order of names: by scope, then by name, then by overload. -/
def before (a b : OpName) : Bool :=
  a.scope < b.scope ||
    (a.scope == b.scope &&
      (a.name < b.name || (a.name == b.name && overloadBefore a.overload b.overload)))

/-- Is the name the other one or before it? -/
def atMost (a b : OpName) : Bool :=
  !before b a

end OpName

end OpShape

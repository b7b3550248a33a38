/-
# `OpShape.Registry.Basic` — the table of known operators.

A table has one schema per line; blank lines and lines that start with a number sign do not count.
No operator may have two schemas.  Errors tell the line, where the first line is line one.
-/
import OpShape.Registry.Schema

namespace OpShape

/-- What is wrong with a table, or with a function that is looked up in it. -/
inductive RegistryError where
  /-- The table could not be read, for a cause that lies outside. -/
  | unreadable (path cause : String)
  | badLine (line : Nat) (cause : SchemaError)
  | duplicateSchema (line : Nat) (op : OpName)
  | notRegistered (op : OpName)
  | signatureMismatch (op : OpName) (expected actual : String)
  deriving DecidableEq, Repr

/-- The error in words. -/
def RegistryError.message : RegistryError → String
  | unreadable path cause => "failed to read registry \"" ++ path ++ "\": " ++ cause
  | badLine line cause => "registry line " ++ Decimal.natText line ++ ": " ++ cause.message
  | duplicateSchema line op =>
    "registry line " ++ Decimal.natText line ++ ": duplicate schema for " ++ op.text
  | notRegistered op => "operator " ++ op.text ++ " is not in the registry"
  | signatureMismatch op expected actual =>
    "signature mismatch for " ++ op.text ++ ": expected " ++ expected ++ ", got " ++ actual

/-- Is the error caused by another one, outside of this library? -/
def RegistryError.hasSource : RegistryError → Bool
  | unreadable _ _ => true
  | _ => false

/-- The signatures of operators by their names. -/
structure Registry where
  entries : List (OpName × Signature)

namespace Registry

/-- The table without entries. -/
def empty : Registry :=
  { entries := [] }

/-- The signature that is expected of an operator's shape function. -/
def signature? (registry : Registry) (op : OpName) : Option Signature :=
  (registry.entries.find? fun entry => entry.1 = op).map Prod.snd

/-- Is the operator in the table? -/
def contains (registry : Registry) (op : OpName) : Bool :=
  (registry.signature? op).isSome

/-- The number of operators. -/
def size (registry : Registry) : Nat :=
  registry.entries.length

/-- Does a line hold no schema, once its outer blanks are removed? -/
def isIgnored (line : List Char) : Bool :=
  line.isEmpty || line.head? == some '#'

/-- Add the schema of a line, which comes with its number. -/
def addLine (registry : Registry) (entry : List Char × Nat) : Except RegistryError Registry :=
  let line := Text.trim entry.1
  if isIgnored line then .ok registry
  else
    match Schema.parse line with
    | .error cause => .error (.badLine entry.2 cause)
    | .ok (op, signature) =>
      if registry.contains op then .error (.duplicateSchema entry.2 op)
      else .ok { entries := registry.entries ++ [(op, signature)] }

/-- Read a table. -/
def parse (text : String) : Except RegistryError Registry :=
  ((Text.pieces '\n' text.toList).zipIdx 1).foldlM addLine empty

/-- Read a table from the bytes of a file, which must be a text. -/
def ofBytes (path : String) (bytes : ByteArray) : Except RegistryError Registry :=
  match String.fromUTF8? bytes with
  | some text => parse text
  | none => .error (.unreadable path "stream did not contain valid UTF-8")

end Registry

end OpShape

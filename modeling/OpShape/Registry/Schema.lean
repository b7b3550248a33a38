/-
# `OpShape.Registry.Schema` — operator schemas.

A schema is a line such as `aten::cat(Tensor[] tensors, int dim=0) -> Tensor`.  It names an operator
and gives the types, names and defaults of its parameters and the types that it returns.  Types may
carry alias marks in round brackets, which say nothing about shapes, and a lone star separates
parameters that are given by name.  Reading a schema gives the signature that is expected of the
operator's shape function.
-/
import OpShape.OpName
import OpShape.Call.Signature
import OpShape.Decimal.FloatRead
import OpShape.Text.Blank

namespace OpShape

/-- Why a line is no schema.  Each cause holds the part of the line that is at fault. -/
inductive SchemaError where
  | missingParams
  | badName (name : String)
  | unterminatedParams
  | missingReturns
  | unnamedParam (param : String)
  | malformedList (type : String)
  | badListLength (type : String)
  | unsupportedList (type : String)
  | unsupportedType (type : String)
  | badInt (value : String)
  | scalarForUnsized (value : String)
  | badFloat (value : String)
  | badBool (value : String)
  | badStr (value : String)
  | unsupportedDefault (value : String)
  deriving DecidableEq, Repr

/-- The cause in words. -/
def SchemaError.message : SchemaError → String
  | missingParams => "missing parameter list"
  | badName name => OpName.invalidText name
  | unterminatedParams => "unterminated parameter list"
  | missingReturns => "missing return type"
  | unnamedParam param => "parameter \"" ++ param ++ "\" has no name"
  | malformedList type => "malformed list type \"" ++ type ++ "\""
  | badListLength type => "invalid list length in \"" ++ type ++ "\""
  | unsupportedList type => "unsupported list type \"" ++ type ++ "\""
  | unsupportedType type => "unsupported type \"" ++ type ++ "\""
  | badInt value => "invalid int default \"" ++ value ++ "\""
  | scalarForUnsized value => "scalar default \"" ++ value ++ "\" for unsized list"
  | badFloat value => "invalid float default \"" ++ value ++ "\""
  | badBool value => "invalid bool default \"" ++ value ++ "\""
  | badStr value => "invalid str default " ++ value
  | unsupportedDefault value => "unsupported default \"" ++ value ++ "\""

namespace Schema

open Text

/-! ## Types -/

/-- A parameter's kind, and the length of a list type that has one. -/
structure ParamType where
  type : ArgType
  listLength : Option Nat
  deriving DecidableEq, Repr

/-- Is a value of the type written as an integer? -/
def isIntLike (type : List Char) : Bool :=
  String.ofList type ∈ ["int", "SymInt", "ScalarType", "Layout", "MemoryFormat"]

/-- The text without what stands in round brackets, where it starts inside `depth` open ones. -/
def withoutAliases (depth : Int) : List Char → List Char
  | [] => []
  | c :: rest =>
    if c = '(' then withoutAliases (depth + 1) rest
    else if c = ')' then withoutAliases (depth - 1) rest
    else if depth = 0 then c :: withoutAliases depth rest
    else withoutAliases depth rest

/-- The kind of a list whose items have the given type. -/
def listType? (item : List Char) : Option ArgType :=
  if item = "Tensor".toList then some .tensorList
  else if item = "Tensor?".toList then some .optTensorList
  else if isIntLike item then some .intList
  else none

/-- The kind of a type that is no list. -/
def plainType? (type : List Char) : Option ArgType :=
  match String.ofList type with
  | "Tensor" => some .tensor
  | "float" => some .float
  | "Scalar" => some .float
  | "bool" => some .bool
  | "str" => some .str
  | "Device" => some .device
  | "Generator" => some .any
  | _ => if isIntLike type then some .int else none

/-- Read a type that is not marked as optional. -/
def parseRequired (type : List Char) : Except SchemaError ParamType :=
  match stripEnd ']' type with
  | some list =>
    match cutFirst '[' list with
    | none => .error (.malformedList (String.ofList type))
    | some (item, length) => do
      let listLength ←
        if length.isEmpty then pure none
        else
          match Decimal.readSize? length with
          | some n => pure (some n)
          | none => .error (.badListLength (String.ofList type))
      match listType? item with
      | some kind => .ok { type := kind, listLength }
      | none => .error (.unsupportedList (String.ofList type))
  | none =>
    match plainType? type with
    | some kind => .ok { type := kind, listLength := none }
    | none => .error (.unsupportedType (String.ofList type))

/-- Read a type without alias marks; a question mark at its end makes it optional. -/
def parseType (type : List Char) : Except SchemaError ParamType :=
  match stripEnd '?' type with
  | some required => do
    let parsed ← parseRequired required
    .ok { parsed with type := parsed.type.toOptional }
  | none => parseRequired type

/-! ## Defaults -/

/-- Read an integer; the name of the usual memory format stands for its number. -/
def parseInt (value : List Char) : Except SchemaError Int :=
  if value = "contiguous_format".toList then .ok 0
  else
    match Decimal.readInt? value with
    | some i => .ok i
    | none => .error (.badInt (String.ofList value))

/-- What stands between two equal quotes of either sort. -/
def unquoted? (value : List Char) : Option (List Char) :=
  ((stripStart ['"'] value).bind (stripEnd '"')).orElse fun _ =>
    (stripStart ['\''] value).bind (stripEnd '\'')

/-- Read the default of a list: a list in brackets, or one item to repeat in a list whose length is
part of its type. -/
def parseListDefault (value : List Char) (listLength : Option Nat) :
    Except SchemaError Default :=
  match (stripStart ['['] value).bind (stripEnd ']') with
  | some items => do
    let items := ((pieces ',' items).map trim).filter fun item => !item.isEmpty
    .ok (.intList (← items.mapM parseInt))
  | none =>
    match listLength with
    | some length => do .ok (.intList (List.replicate length (← parseInt value)))
    | none => .error (.scalarForUnsized (String.ofList value))

/-- Read the default of a parameter of the given type. -/
def parseDefault (value : List Char) (type : ParamType) : Except SchemaError Default :=
  if value = "None".toList then .ok .none
  else
    match type.type with
    | .int | .optInt => do .ok (.int (← parseInt value))
    | .intList | .optIntList => parseListDefault value type.listLength
    | .float | .optFloat =>
      match Decimal.readFloat? value with
      | some x => .ok (.float x)
      | none => .error (.badFloat (String.ofList value))
    | .bool | .optBool =>
      if value = "True".toList then .ok (.bool true)
      else if value = "False".toList then .ok (.bool false)
      else .error (.badBool (String.ofList value))
    | .str | .optStr =>
      match unquoted? value with
      | some text => .ok (.str (String.ofList text))
      | none => .error (.badStr (String.ofList value))
    | _ => .error (.unsupportedDefault (String.ofList value))

/-! ## Parameters and results -/

/-- Read a parameter: a type, a blank and a name, and perhaps a default behind an equals sign. -/
def parseParam (param : List Char) : Except SchemaError Param := do
  let (declared, default) :=
    match cutFirst '=' param with
    | some (declared, default) => (trim declared, some (trim default))
    | none => (param, none)
  match cutLast ' ' declared with
  | none => .error (.unnamedParam (String.ofList param))
  | some (type, name) =>
    let type ← parseType (withoutAliases 0 (trim type))
    let default ←
      match default with
      | some value => some <$> parseDefault value type
      | none => pure none
    .ok { name := String.ofList (trim name), type := type.type, default }

/-- The number of values in a list of results, such as `Tensor` or `(Tensor values, int count)`. -/
def countReturns (returns : List Char) : Nat :=
  match (stripStart ['('] returns).bind (stripEnd ')') with
  | some inner => if (trim inner).isEmpty then 0 else (outerPieces ',' inner).length
  | none => 1

/-- What stands before and after the round bracket that closes the text, where `depth` more
brackets are open. -/
def cutClosing (depth : Nat) : List Char → Option (List Char × List Char)
  | [] => none
  | c :: rest =>
    if c = ')' then
      match depth with
      | 0 => some ([], rest)
      | depth + 1 => (cutClosing depth rest).map fun parts => (c :: parts.1, parts.2)
    else
      (cutClosing (if c = '(' then depth + 1 else depth) rest).map fun parts =>
        (c :: parts.1, parts.2)

/-- Read the parameters between the outer brackets of a schema. -/
def parseParams (text : List Char) : Except SchemaError (List Param) :=
  let text := trim text
  if text.isEmpty then .ok []
  else (((outerPieces ',' text).map trim).filter fun param => param ≠ ['*']).mapM parseParam

/-- Read a schema: the operator that it names and the signature of that operator. -/
def parse (schema : List Char) : Except SchemaError (OpName × Signature) :=
  match cutFirst '(' schema with
  | none => .error .missingParams
  | some (name, rest) =>
    match OpName.ofChars? (trim name) with
    | none => .error (.badName (String.ofList (trim name)))
    | some op =>
      match cutClosing 0 rest with
      | none => .error .unterminatedParams
      | some (params, rest) =>
        match stripStart ['-', '>'] (trim rest) with
        | none => .error .missingReturns
        | some returns => do
          let params ← parseParams params
          .ok (op, { params, returns := countReturns (trim returns) })

end Schema

end OpShape

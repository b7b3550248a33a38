/-
# `OpShape.Proofs.Registry.Grammar` — schemas as they are written.

A schema is written from an operator name, parameters with stars among them, and results.  Each form
below is a part of a schema: it has a text, and it says what the text stands for.  The kinds of the
types are those of the table that goes with the registry format; what a default may look like
depends on the type in front of it.
-/
import OpShape.Proofs.Decimal.Literal
import OpShape.Registry.Schema

namespace OpShape.Schema

open Decimal (Numeral IntLiteral FloatLiteral)
open Text (Balanced)

/-! ## Words -/

/-- An identifier. -/
structure Identifier where
  text : String
  isIdentifier : OpName.isIdentifier text.toList = true

/-- The identifier as it is written. -/
def Identifier.chars (name : Identifier) : List Char :=
  name.text.toList

/-- The types whose values are written as integers. -/
inductive IntWord where
  | int
  | symInt
  | scalarType
  | layout
  | memoryFormat

/-- The word as it is written. -/
def IntWord.text : IntWord → String
  | int => "int"
  | symInt => "SymInt"
  | scalarType => "ScalarType"
  | layout => "Layout"
  | memoryFormat => "MemoryFormat"

/-- The types whose values are written as floats. -/
inductive FloatWord where
  | float
  | scalar

/-- The word as it is written. -/
def FloatWord.text : FloatWord → String
  | float => "float"
  | scalar => "Scalar"

/-! ## Types -/

/-- An alias mark, such as `(a)`, or `(a!)` where the tensor is written to. -/
structure AliasMark where
  name : Identifier
  isWritten : Bool

/-- What stands between the brackets of the mark. -/
def AliasMark.inner (mark : AliasMark) : List Char :=
  mark.name.chars ++ if mark.isWritten then ['!'] else []

/-- The mark as it is written, if there is one. -/
def aliasChars : Option AliasMark → List Char
  | none => []
  | some mark => '(' :: (mark.inner ++ [')'])

/-- The length of a list type. -/
structure ListLength where
  numeral : Numeral
  fits : numeral.value < Nat.pow 2 64

/-- The length as it is written, if there is one. -/
def lengthChars : Option ListLength → List Char
  | none => []
  | some length => length.numeral.digits

/-- A question mark, where a type is marked as optional. -/
def optionalChars (optional : Bool) : List Char :=
  if optional then ['?'] else []

/-- **A type.**  A tensor may have an alias mark, a list of integers may have a length, and in a
list of tensors it is the items that may be optional. -/
inductive TypeForm where
  | tensor (mark? : Option AliasMark) (optional : Bool)
  | tensors (mark? : Option AliasMark) (optionalItems : Bool)
  | int (word : IntWord) (optional : Bool)
  | ints (word : IntWord) (length? : Option ListLength) (optional : Bool)
  | float (word : FloatWord) (optional : Bool)
  | bool (optional : Bool)
  | str (optional : Bool)
  | device (optional : Bool)
  | generator (optional : Bool)

namespace TypeForm

/-- The word that names the type or its items. -/
def word : TypeForm → String
  | tensor _ _ => "Tensor"
  | tensors _ _ => "Tensor"
  | int word _ => word.text
  | ints word _ _ => word.text
  | float word _ => word.text
  | bool _ => "bool"
  | str _ => "str"
  | device _ => "Device"
  | generator _ => "Generator"

/-- The alias mark behind the word. -/
def mark? : TypeForm → Option AliasMark
  | tensor mark? _ => mark?
  | tensors mark? _ => mark?
  | _ => none

/-- What stands behind the word and its alias mark. -/
def suffix : TypeForm → List Char
  | tensor _ optional => optionalChars optional
  | tensors _ optionalItems => optionalChars optionalItems ++ ['[', ']']
  | int _ optional => optionalChars optional
  | ints _ length? optional => '[' :: (lengthChars length? ++ ']' :: optionalChars optional)
  | float _ optional => optionalChars optional
  | bool optional => optionalChars optional
  | str optional => optionalChars optional
  | device optional => optionalChars optional
  | generator optional => optionalChars optional

/-- The type as it is written. -/
def chars (type : TypeForm) : List Char :=
  type.word.toList ++ (aliasChars type.mark? ++ type.suffix)

/-- The kind of a parameter of the type. -/
def kind : TypeForm → ArgType
  | tensor _ false => .tensor
  | tensor _ true => .optTensor
  | tensors _ false => .tensorList
  | tensors _ true => .optTensorList
  | int _ false => .int
  | int _ true => .optInt
  | ints _ _ false => .intList
  | ints _ _ true => .optIntList
  | float _ false => .float
  | float _ true => .optFloat
  | bool false => .bool
  | bool true => .optBool
  | str false => .str
  | str true => .optStr
  | device false => .device
  | device true => .optDevice
  | generator _ => .any

/-- The length that the type gives its lists. -/
def listLength : TypeForm → Option Nat
  | ints _ (some length) _ => some length.numeral.value
  | _ => none

end TypeForm

/-! ## Defaults -/

/-- An integer: a literal, or the name of the usual memory format. -/
inductive IntForm where
  | literal (number : IntLiteral)
  | contiguousFormat

/-- The name of the usual memory format. -/
def contiguousFormatText : String :=
  "contiguous_format"

/-- The integer as it is written. -/
def IntForm.chars : IntForm → List Char
  | literal number => number.chars
  | contiguousFormat => contiguousFormatText.toList

/-- The number that is meant. -/
def IntForm.value : IntForm → Int
  | literal number => number.value
  | contiguousFormat => 0

/-- Quotes of either sort. -/
inductive QuoteMark where
  | double
  | single

/-- The quote as it is written. -/
def QuoteMark.char : QuoteMark → Char
  | double => '"'
  | single => '\''

/-- The items with a comma and some spaces between them. -/
def commaList (gap : Nat) (items : List (List Char)) : List Char :=
  (',' :: List.replicate gap ' ').intercalate items

/-- **A default** that a parameter of the type may have.  Every type admits `None`.  A list has
items in brackets; if its type gives a length, one integer may stand for all items. -/
inductive DefaultForm : TypeForm → Type
  | none {type : TypeForm} : DefaultForm type
  | int {word : IntWord} {optional : Bool} (value : IntForm) : DefaultForm (.int word optional)
  | list {word : IntWord} {length? : Option ListLength} {optional : Bool} (gap : Nat)
      (items : List IntForm) : DefaultForm (.ints word length? optional)
  | repeated {word : IntWord} {length : ListLength} {optional : Bool} (item : IntForm) :
      DefaultForm (.ints word (some length) optional)
  | float {word : FloatWord} {optional : Bool} (value : FloatLiteral) :
      DefaultForm (.float word optional)
  | bool {optional : Bool} (value : Bool) : DefaultForm (.bool optional)
  | str {optional : Bool} (quote : QuoteMark) (body : List Char) (balanced : Balanced false body) :
      DefaultForm (.str optional)

namespace DefaultForm

/-- The default as it is written. -/
def chars : {type : TypeForm} → DefaultForm type → List Char
  | _, none => "None".toList
  | _, int value => value.chars
  | _, list gap items => '[' :: (commaList gap (items.map IntForm.chars) ++ [']'])
  | _, repeated item => item.chars
  | _, float value => value.chars
  | _, bool true => "True".toList
  | _, bool false => "False".toList
  | _, str quote body _ => quote.char :: (body ++ [quote.char])

/-- The default that is meant. -/
def value : {type : TypeForm} → DefaultForm type → Default
  | _, none => .none
  | _, int value => .int value.value
  | _, list _ items => .intList (items.map IntForm.value)
  | _, @repeated _ length _ item => .intList (List.replicate length.numeral.value item.value)
  | _, float value => .float value.value
  | _, bool value => .bool value
  | _, str _ body _ => .str (String.ofList body)

end DefaultForm

/-! ## Parameters, results and schemas -/

/-- A parameter: a type and a name, and perhaps a default. -/
structure ParamForm where
  type : TypeForm
  name : Identifier
  default? : Option (DefaultForm type)

namespace ParamForm

/-- The type and the name as they are written. -/
def declared (form : ParamForm) : List Char :=
  form.type.chars ++ ' ' :: form.name.chars

/-- The parameter as it is written. -/
def chars (form : ParamForm) : List Char :=
  match form.default? with
  | none => form.declared
  | some default => form.declared ++ '=' :: default.chars

/-- The parameter that is meant. -/
def param (form : ParamForm) : Param where
  name := form.name.text
  type := form.type.kind
  default := form.default?.map DefaultForm.value

end ParamForm

/-- What stands between the commas of the parameters: a parameter, or a star. -/
inductive ItemForm where
  | star
  | param (form : ParamForm)

namespace ItemForm

/-- The item as it is written. -/
def chars : ItemForm → List Char
  | star => ['*']
  | param form => form.chars

/-- The parameter that is meant; a star means none. -/
def param? : ItemForm → Option Param
  | star => none
  | param form => some form.param

end ItemForm

/-- A result in brackets: a type, and perhaps a name. -/
structure EntryForm where
  type : TypeForm
  name? : Option Identifier

/-- The result as it is written. -/
def EntryForm.chars (form : EntryForm) : List Char :=
  match form.name? with
  | none => form.type.chars
  | some name => form.type.chars ++ ' ' :: name.chars

/-- The results: a single type, or a list in round brackets. -/
inductive ReturnForm where
  | one (type : TypeForm)
  | many (gap : Nat) (entries : List EntryForm)

namespace ReturnForm

/-- The results as they are written. -/
def chars : ReturnForm → List Char
  | one type => type.chars
  | many gap entries => '(' :: (commaList gap (entries.map EntryForm.chars) ++ [')'])

/-- The number of results. -/
def count : ReturnForm → Nat
  | one _ => 1
  | many _ entries => entries.length

end ReturnForm

/-- The name of an operator. -/
structure NameForm where
  scope : Identifier
  name : Identifier
  overload? : Option Identifier

/-- The operator that is meant. -/
def NameForm.op (form : NameForm) : OpName where
  scope := form.scope.text
  name := form.name.text
  overload := form.overload?.map Identifier.text

/-- **A schema**: the name of an operator, its parameters and its results. -/
structure SchemaForm where
  name : NameForm
  items : List ItemForm
  returns : ReturnForm

namespace SchemaForm

/-- The parameters as they are written. -/
def itemChars (schema : SchemaForm) : List Char :=
  commaList 1 (schema.items.map ItemForm.chars)

/-- The schema as it is written. -/
def chars (schema : SchemaForm) : List Char :=
  schema.name.op.text.toList ++
    '(' :: (schema.itemChars ++ ')' :: (" -> ".toList ++ schema.returns.chars))

/-- The signature that is meant. -/
def signature (schema : SchemaForm) : Signature where
  params := schema.items.filterMap ItemForm.param?
  returns := schema.returns.count

end SchemaForm

end OpShape.Schema

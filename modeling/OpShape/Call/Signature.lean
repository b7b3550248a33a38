/-
# `OpShape.Call.Signature` — the parameters of a function and their text.

A signature lists parameters with their kinds and defaults and says how many shapes are returned.
Its text is what a declared signature and a registered one are compared by.
-/
import OpShape.Call.Arg

namespace OpShape

/-- The kind of a parameter.  A tensor is given to a shape function as its shape. -/
inductive ArgType where
  | tensor
  | optTensor
  | tensorList
  | optTensorList
  | int
  | optInt
  | intList
  | optIntList
  | float
  | optFloat
  | bool
  | optBool
  | str
  | optStr
  | device
  | optDevice
  | any
  deriving DecidableEq, Repr

namespace ArgType

/-- The kind as it is written. -/
def text : ArgType → String
  | tensor => "shape"
  | optTensor => "shape?"
  | tensorList => "shape[]"
  | optTensorList => "shape?[]"
  | int => "int"
  | optInt => "int?"
  | intList => "int[]"
  | optIntList => "int[]?"
  | float => "float"
  | optFloat => "float?"
  | bool => "bool"
  | optBool => "bool?"
  | str => "str"
  | optStr => "str?"
  | device => "device"
  | optDevice => "device?"
  | any => "any"

/-- The kind that also admits no value, where there is one. -/
def toOptional : ArgType → ArgType
  | tensor => optTensor
  | int => optInt
  | intList => optIntList
  | float => optFloat
  | bool => optBool
  | str => optStr
  | device => optDevice
  | other => other

end ArgType

/-- The value of a parameter that a call leaves out. -/
inductive Default where
  | none
  | int (value : Int)
  | float (value : Float)
  | bool (value : Bool)
  | str (value : String)
  | intList (values : List Int)

namespace Default

/-- The default as an argument; it never holds a tensor. -/
def toArg {τ : Type} : Default → Arg τ
  | none => .none
  | int value => .int value
  | float value => .float value
  | bool value => .bool value
  | str value => .str value
  | intList values => .list (values.map .int)

/-- The default as it is written. -/
def text : Default → String
  | none => "None"
  | int value => Decimal.intText value
  | float value => Decimal.floatText value
  | bool value => Arg.boolText value
  | str value => Text.quoted value
  | intList values => Text.bracketed (values.map Decimal.intText)

end Default

/-- A parameter with its kind, and its default if it may be left out. -/
structure Param where
  name : String
  type : ArgType
  default : Option Default

/-- The parameter as it is written. -/
def Param.text (param : Param) : String :=
  match param.default with
  | none => param.name ++ ": " ++ param.type.text
  | some default => param.name ++ ": " ++ param.type.text ++ " = " ++ default.text

/-- The parameters of a function and the number of shapes that it returns.  A number other than one
means that the function returns a tuple. -/
structure Signature where
  params : List Param
  returns : Nat

namespace Signature

/-- The shapes that are returned, as they are written. -/
def returnsText (returns : Nat) : String :=
  if returns = 1 then ArgType.tensor.text
  else "(" ++ Text.joined ", " (List.replicate returns ArgType.tensor.text) ++ ")"

/-- The signature as it is written. -/
def text (signature : Signature) : String :=
  "(" ++ Text.joined ", " (signature.params.map Param.text) ++ ") -> " ++
    returnsText signature.returns

end Signature

end OpShape

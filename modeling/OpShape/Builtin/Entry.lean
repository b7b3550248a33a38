/-
# `OpShape.Builtin.Entry` — how built-in shape functions are written down.

Short forms for names, parameters, arguments and entries, so that a family of shape functions reads
as a table.
-/
import OpShape.Library
import OpShape.Rule.Basic

namespace OpShape.Builtin

/-! ## Names and parameters -/

/-- An operator of tensors. -/
def aten (name : String) : OpName :=
  { scope := "aten", name, overload := none }

/-- One of several overloads of an operator of tensors. -/
def atenOverload (name overload : String) : OpName :=
  { scope := "aten", name, overload := some overload }

/-- A parameter that every call has to give. -/
def param (name : String) (type : ArgType) : Param :=
  { name, type, default := none }

/-- A parameter with a default. -/
def paramOr (name : String) (type : ArgType) (default : Default) : Param :=
  { name, type, default := some default }

/-! ## Arguments of invocations -/

/-- A tensor of floats. -/
def floats (sizes : Sizes) : Arg Placeholder :=
  .tensor { sizes, kind := .float32 }

/-- A tensor of integers. -/
def longs (sizes : Sizes) : Arg Placeholder :=
  .tensor { sizes, kind := .int64 }

/-- A tensor of truth values. -/
def flags (sizes : Sizes) : Arg Placeholder :=
  .tensor { sizes, kind := .bool }

/-- A list of integers. -/
def ints (values : List Int) : Arg Placeholder :=
  .list (values.map .int)

/-! ## Functions and entries -/

/-- The arguments of a shape function. -/
abbrev ShapeArgs := BoundArgs Sizes

/-- A function that answers with one shape, none of whose sizes is left open. -/
def one (sizes : ShapeArgs → ShapeResult Sizes) (_ : Nat) (args : ShapeArgs) :
    ShapeResult (Returned Shape) := do
  .ok (.one (.ofSizes (← sizes args)))

/-- A function that answers with a tuple of shapes, none of whose sizes is left open. -/
def many (sizes : ShapeArgs → ShapeResult (List Sizes)) (_ : Nat) (args : ShapeArgs) :
    ShapeResult (Returned Shape) := do
  .ok (.many ((← sizes args).map .ofSizes))

/-- The shape function of an operator. -/
def entry (op : OpName) (params : List Param) (returns : Nat)
    (compute : Nat → ShapeArgs → ShapeResult (Returned Shape)) (invocations : List Invocation) :
    ShapeFunction :=
  { op, signature := { params, returns }, compute, invocations, isExempt := false }

/-- The shape of `self`. -/
def selfShape (args : ShapeArgs) : ShapeResult Sizes := do
  .ok (Rule.unary (← args.tensor "self"))

end OpShape.Builtin

/-
# `OpShape.Builtin.Reduce` — shape functions of reductions.

Sums, means, extrema and the like, over all elements or over some dimensions.
-/
import OpShape.Builtin.Entry
import OpShape.Rule.Reduce

namespace OpShape.Builtin

open Rule

/-! ## Shapes -/

/-- The shape of a reduction over all elements. -/
def fullReduction (_ : ShapeArgs) : ShapeResult Sizes :=
  .ok []

/-- The shape of a reduction over all elements, of which there has to be one. -/
def fullExtremum (args : ShapeArgs) : ShapeResult Sizes := do
  if elementCount (← args.tensor "self") = 0 then
    invalid "expected reduction dim to be specified for input with no elements"
  else
    .ok []

/-- Refuse a dimension without entries. -/
def checkNonemptyDim (shape : Sizes) (dim : Int) : ShapeResult Unit := do
  let dim ← resolveDim dim shape.length
  if shape[dim]? = some 0 then
    invalid "cannot reduce over a zero-size dimension without an identity"
  else
    .ok ()

/-- The shape of the positions of greatest elements, along a dimension or among all. -/
def argmax (args : ShapeArgs) : ShapeResult Sizes := do
  let shape ← args.tensor "self"
  let keepdim ← args.bool "keepdim"
  match ← args.optInt "dim" with
  | some dim =>
    checkNonemptyDim shape dim
    reduceDim shape dim keepdim
  | none =>
    let scalar ← fullExtremum args
    .ok (if keepdim then List.replicate shape.length 1 else scalar)

/-- The shape of a reduction over one dimension. -/
def dimReduction (args : ShapeArgs) : ShapeResult Sizes := do
  let shape ← args.tensor "self"
  let dim ← args.int "dim"
  reduceDim shape dim (← args.bool "keepdim")

/-- The shapes of the greatest elements along a dimension and of their positions. -/
def dimExtremum (args : ShapeArgs) : ShapeResult (List Sizes) := do
  let shape ← args.tensor "self"
  let dim ← args.int "dim"
  checkNonemptyDim shape dim
  let output ← reduceDim shape dim (← args.bool "keepdim")
  .ok [output, output]

/-- The shape of a reduction over several dimensions, or over all of them if none is named. -/
def dimsReduction (args : ShapeArgs) : ShapeResult Sizes := do
  let dims ← args.optInts "dim"
  let shape ← args.tensor "self"
  reduceDims shape (dims.getD []) (← args.bool "keepdim")

/-- The shape of a count of each number, whose length depends on the greatest number. -/
def binCount (token : Nat) (args : ShapeArgs) : ShapeResult (Returned Shape) := do
  let input ← args.tensor "self"
  if input.length ≠ 1 then
    wrongRank "bincount only supports 1-d tensors"
  else if (← args.int "minlength") < 0 then
    invalid "minlength should be >= 0"
  else if ((← args.optTensor "weights").getD input) ≠ input then
    incompatible "weights should be 1-d and have the same length as input"
  else
    .ok (.one (.unknownVector token))

/-! ## Entries -/

/-- The invocations of a reduction over several dimensions. -/
def dimsInvocations : List Invocation := [
  .ok [floats [2, 3, 4], ints [1]],
  .ok [floats [2, 3, 4], ints [0, -1], .bool true],
  .ok [floats [2, 3], ints []],
  .ok [floats [0, 3], ints [0]],
  .fails [floats [2, 3], ints [2]],
  .fails [floats [2, 3], ints [1, -1]]]

/-- The shape function of a reduction to a truth value. -/
def truthEntry (op : OpName) : ShapeFunction :=
  entry op
    [param "self" .tensor] 1
    (one fullReduction) [
      .ok [floats [2, 3]],
      .ok [floats []],
      .ok [floats [0, 3]]]

/-- The shape function of a sum or a mean of all elements. -/
def totalEntry (op : OpName) : ShapeFunction :=
  entry op
    [param "self" .tensor, paramOr "dtype" .optInt .none] 1
    (one fullReduction) [
      .ok [floats [2, 3]],
      .ok [floats [5]] [("dtype", .int 6)]]

/-- The shape function of a measure of how far elements are spread. -/
def spreadEntry (op : OpName) : ShapeFunction :=
  entry op
    [param "self" .tensor, paramOr "unbiased" .bool (.bool true)] 1
    (one fullReduction) [
      .ok [floats [2, 3]],
      .ok [floats [4], .bool false]]

/-- The shape function of sums or means over several dimensions. -/
def dimsEntry (op : OpName) : ShapeFunction :=
  entry op
    [param "self" .tensor, param "dim" .intList, paramOr "keepdim" .bool (.bool false),
     paramOr "dtype" .optInt .none] 1
    (one dimsReduction) dimsInvocations

/-- Reductions.  As the number of bins of a count is not known without the elements, only its
failing invocations can be tried. -/
def reduceFamily : List ShapeFunction := [
  truthEntry (aten "any"),
  truthEntry (aten "all"),
  entry (aten "max")
    [param "self" .tensor] 1
    (one fullExtremum) [
      .ok [floats [2, 3]],
      .ok [floats []],
      .fails [floats [0, 3]]],
  totalEntry (aten "sum"),
  totalEntry (aten "mean"),
  spreadEntry (aten "var"),
  spreadEntry (aten "std"),
  entry (aten "argmax")
    [param "self" .tensor, paramOr "dim" .optInt .none, paramOr "keepdim" .bool (.bool false)] 1
    (one argmax) [
      .ok [floats [2, 3]],
      .ok [floats [2, 3]] [("dim", .int 0)],
      .ok [floats [2, 3], .int 1, .bool true],
      .ok [floats [2, 3]] [("keepdim", .bool true)],
      .ok [floats [0, 3], .int (-1)],
      .fails [floats [2, 3]] [("dim", .int 2)],
      .fails [floats [0, 3]],
      .fails [floats [0, 3], .int 0]],
  entry (atenOverload "any" "dim")
    [param "self" .tensor, param "dim" .int, paramOr "keepdim" .bool (.bool false)] 1
    (one dimReduction) [
      .ok [floats [2, 3], .int 1],
      .ok [floats [2, 3], .int (-2), .bool true],
      .ok [floats [0, 3], .int 0],
      .ok [floats [], .int 0],
      .fails [floats [2, 3], .int 2]],
  entry (atenOverload "max" "dim")
    [param "self" .tensor, param "dim" .int, paramOr "keepdim" .bool (.bool false)] 2
    (many dimExtremum) [
      .ok [floats [2, 3], .int 1],
      .ok [floats [2, 3, 4], .int 0, .bool true],
      .fails [floats [0, 3], .int 0],
      .fails [floats [2, 3], .int 3]],
  dimsEntry (atenOverload "mean" "dim"),
  dimsEntry (atenOverload "sum" "dim_IntList"),
  entry (aten "linalg_vector_norm")
    [param "self" .tensor, paramOr "ord" .float (.float 2.0), paramOr "dim" .optIntList .none,
     paramOr "keepdim" .bool (.bool false), paramOr "dtype" .optInt .none] 1
    (one dimsReduction) [
      .ok [floats [2, 3]],
      .ok [floats [2, 3], .int 1, ints [1]],
      .ok [floats [2, 3, 4], .int 2, ints [0, 2], .bool true],
      .ok [floats [2, 3], .int 2, .none, .bool true],
      .fails [floats [2, 3]] [("dim", ints [3])]],
  entry (aten "bincount")
    [param "self" .tensor, paramOr "weights" .optTensor .none, paramOr "minlength" .int (.int 0)] 1
    binCount [
      .fails [longs [2, 3]],
      .fails [longs [4]] [("minlength", .int (-1))],
      .fails [longs [4], floats [3]]]]

end OpShape.Builtin

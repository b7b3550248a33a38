/-
# `OpShape.Builtin.Softmax` — shape functions of normalised exponentials.

The output has the shape of the input; the dimension must be one of its own.
-/
import OpShape.Builtin.Entry

namespace OpShape.Builtin

open Rule

/-! ## Shapes -/

/-- The shape of exponentials that are normalised along a dimension. -/
def softmax (args : ShapeArgs) : ShapeResult Sizes := do
  let shape ← args.tensor "self"
  let _ ← resolveDim (← args.int "dim") shape.length
  .ok shape

/-- The same where halves could be widened, of which there are none here. -/
def softmaxOfHalves (args : ShapeArgs) : ShapeResult Sizes := do
  if ← args.bool "half_to_float" then
    invalid "conversion is supported for half type only"
  else
    softmax args

/-- The shape of the gradient, which has the shape of the output. -/
def softmaxGradient (args : ShapeArgs) : ShapeResult Sizes := do
  let gradient ← args.tensor "grad_output"
  if gradient ≠ (← args.tensor "output") then
    incompatible "gradient and output must have the same shape"
  else
    let _ ← resolveDim (← args.int "dim") gradient.length
    .ok gradient

/-! ## Entries -/

/-- The shape function of exponentials where halves could be widened. -/
def softmaxOfHalvesEntry (op : OpName) : ShapeFunction :=
  entry op
    [param "self" .tensor, param "dim" .int, param "half_to_float" .bool] 1
    (one softmaxOfHalves) [
      .ok [floats [2, 3], .int 1, .bool false],
      .ok [floats [], .int 0, .bool false],
      .fails [floats [2, 3], .int 1, .bool true],
      .fails [floats [2, 3], .int 2, .bool false]]

/-- The shape function of exponentials. -/
def softmaxEntry (op : OpName) : ShapeFunction :=
  entry op
    [param "self" .tensor, param "dim" .int, paramOr "dtype" .optInt .none] 1
    (one softmax) [
      .ok [floats [2, 3], .int 1],
      .ok [floats [2, 3, 4], .int (-2)] [("dtype", .int 6)],
      .ok [floats [0, 3], .int 0],
      .fails [floats [2, 3], .int 2]]

/-- The shape function of a gradient. -/
def softmaxGradientEntry (op : OpName) : ShapeFunction :=
  entry op
    [param "grad_output" .tensor, param "output" .tensor, param "dim" .int,
     param "input_dtype" .int] 1
    (one softmaxGradient) [
      .ok [floats [2, 3], floats [2, 3], .int 1, .int 6],
      .fails [floats [2, 3], floats [3], .int 0, .int 6],
      .fails [floats [2, 3], floats [2, 3], .int 2, .int 6]]

/-- Normalised exponentials and their logarithms. -/
def softmaxFamily : List ShapeFunction := [
  softmaxOfHalvesEntry (aten "_softmax"),
  softmaxOfHalvesEntry (aten "_log_softmax"),
  softmaxEntry (atenOverload "softmax" "int"),
  softmaxEntry (atenOverload "log_softmax" "int"),
  softmaxGradientEntry (aten "_softmax_backward_data"),
  softmaxGradientEntry (aten "_log_softmax_backward_data")]

end OpShape.Builtin

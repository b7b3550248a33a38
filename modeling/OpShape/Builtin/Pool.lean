/-
# `OpShape.Builtin.Pool` — shape functions of pooling.
-/
import OpShape.Builtin.Entry
import OpShape.Rule.Window

namespace OpShape.Builtin

open Rule

/-! ## Shapes -/

/-- The shape of the greatest elements of windows. -/
def maxPool2d (args : ShapeArgs) : ShapeResult Sizes := do
  let input ← args.tensor "self"
  let kernel ← args.ints "kernel_size"
  let stride ← args.ints "stride"
  let padding ← args.ints "padding"
  let dilation ← args.ints "dilation"
  pool2d input kernel stride padding dilation (← args.bool "ceil_mode")

/-- The shapes of the greatest elements of windows and of their positions. -/
def maxPool2dWithIndices (args : ShapeArgs) : ShapeResult (List Sizes) := do
  let output ← maxPool2d args
  .ok [output, output]

/-- The shape of the gradient of pooling, which is that of the input. -/
def maxPool2dGradient (args : ShapeArgs) : ShapeResult Sizes := do
  let output ← maxPool2d args
  let gradient ← args.tensor "grad_output"
  let positions ← args.tensor "indices"
  if gradient ≠ output ∨ positions ≠ output then
    incompatible "gradient and indices must have the shape of the pooling output"
  else
    .ok (← args.tensor "self")

/-- The shape of the means of windows. -/
def avgPool2d (args : ShapeArgs) : ShapeResult Sizes := do
  if (← args.optInt "divisor_override") = some 0 then
    invalid "divisor must be not zero"
  else
    let input ← args.tensor "self"
    let kernel ← args.ints "kernel_size"
    let stride ← args.ints "stride"
    let padding ← args.ints "padding"
    pool2d input kernel stride padding [1] (← args.bool "ceil_mode")

/-- The shape of the means of as many windows as are asked for. -/
def adaptiveAvgPool2d (args : ShapeArgs) : ShapeResult Sizes := do
  let input ← args.tensor "self"
  adaptivePool2d input (← args.ints "output_size")

/-! ## Entries -/

/-- The parameters of pooling by the greatest element. -/
def maxPoolParams : List Param :=
  [param "self" .tensor, param "kernel_size" .intList, paramOr "stride" .intList (.intList []),
    paramOr "padding" .intList (.intList [0, 0]), paramOr "dilation" .intList (.intList [1, 1]),
    paramOr "ceil_mode" .bool (.bool false)]

/-- The invocations of pooling by the greatest element. -/
def maxPoolInvocations : List Invocation := [
  .ok [floats [1, 3, 8, 8], ints [2, 2]],
  .ok [floats [3, 8, 8], ints [3, 3], ints [2, 2], ints [1, 1]],
  .ok [floats [1, 1, 5, 5], ints [2, 2], ints [2, 2], ints [0, 0], ints [1, 1], .bool true],
  .ok [floats [1, 1, 9, 9], ints [3, 3]] [("dilation", ints [2, 2])],
  .fails [floats [1, 1, 8, 8], ints [2, 2], ints [2, 2], ints [2, 2]],
  .fails [floats [1, 1, 2, 2], ints [3, 3]],
  .fails [floats [8, 8], ints [2, 2]],
  .fails [floats [1, 0, 8, 8], ints [2, 2]]]

/-- Pooling. -/
def poolFamily : List ShapeFunction := [
  entry (aten "max_pool2d") maxPoolParams 1 (one maxPool2d) maxPoolInvocations,
  entry (aten "max_pool2d_with_indices") maxPoolParams 2 (many maxPool2dWithIndices)
    maxPoolInvocations,
  entry (aten "max_pool2d_with_indices_backward")
    [param "grad_output" .tensor, param "self" .tensor, param "kernel_size" .intList,
     param "stride" .intList, param "padding" .intList, param "dilation" .intList,
     param "ceil_mode" .bool, param "indices" .tensor] 1
    (one maxPool2dGradient) [
      .ok [floats [1, 3, 4, 4], floats [1, 3, 8, 8], ints [2, 2], ints [2, 2], ints [0, 0],
        ints [1, 1], .bool false, longs [1, 3, 4, 4]],
      .fails [floats [1, 3, 3, 3], floats [1, 3, 8, 8], ints [2, 2], ints [2, 2], ints [0, 0],
        ints [1, 1], .bool false, longs [1, 3, 3, 3]]],
  entry (aten "avg_pool2d")
    [param "self" .tensor, param "kernel_size" .intList, paramOr "stride" .intList (.intList []),
     paramOr "padding" .intList (.intList [0, 0]), paramOr "ceil_mode" .bool (.bool false),
     paramOr "count_include_pad" .bool (.bool true), paramOr "divisor_override" .optInt .none] 1
    (one avgPool2d) [
      .ok [floats [1, 3, 8, 8], ints [2, 2]],
      .ok [floats [3, 7, 7], ints [3, 3], ints [2, 2], ints [1, 1], .bool true],
      .ok [floats [1, 1, 6, 6], ints [3, 3]] [("count_include_pad",
        .bool false), ("divisor_override", .int 2)],
      .fails [floats [1, 1, 6, 6], ints [3, 3]] [("divisor_override", .int 0)],
      .fails [floats [1, 1, 8, 8], ints [2, 2], ints [2, 2], ints [2, 2]]],
  entry (aten "adaptive_avg_pool2d")
    [param "self" .tensor, param "output_size" .intList] 1
    (one adaptiveAvgPool2d) [
      .ok [floats [1, 3, 8, 8], ints [2, 2]],
      .ok [floats [3, 5, 7], ints [3, 2]],
      .ok [floats [1, 3, 4, 4], ints [6, 6]],
      .fails [floats [1, 3, 8, 8], ints [2]],
      .fails [floats [8, 8], ints [2, 2]],
      .fails [floats [1, 3, 0, 8], ints [2, 2]]]]

end OpShape.Builtin

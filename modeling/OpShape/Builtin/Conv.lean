/-
# `OpShape.Builtin.Conv` — shape functions of convolutions.
-/
import OpShape.Builtin.Entry
import OpShape.Rule.Window

namespace OpShape.Builtin

open Rule

/-! ## Shapes -/

/-- The parameters with one value per spatial dimension. -/
def convParams (args : ShapeArgs) : ShapeResult ConvParams := do
  let stride ← args.ints "stride"
  let padding ← args.ints "padding"
  let dilation ← args.ints "dilation"
  .ok { stride, padding, dilation }

/-- The shape of a convolution over two spatial dimensions.  An input without a batch dimension is a
batch of one, and then the output has no batch dimension either. -/
def conv2d (args : ShapeArgs) : ShapeResult Sizes := do
  let input ← args.tensor "input"
  let weight ← args.tensor "weight"
  if weight.length ≠ 4 then
    wrongRank "conv2d weight must be 4D"
  else
    let isSingle := input.length = 3
    let bias ← args.optTensor "bias"
    let params ← convParams args
    let groups ← args.int "groups"
    let output ←
      convOutputSize (if isSingle then 1 :: input else input) weight bias params groups
    if isSingle then Checked.eraseIdx output 0 else .ok output

/-- The shape of a convolution or a transposed convolution. -/
def convolution (args : ShapeArgs) : ShapeResult Sizes := do
  let input ← args.tensor "input"
  let weight ← args.tensor "weight"
  let bias ← args.optTensor "bias"
  let params ← convParams args
  let groups ← args.int "groups"
  if ← args.bool "transposed" then
    let outputPadding ← args.ints "output_padding"
    convTransposeOutputSize input weight bias params outputPadding groups
  else
    convOutputSize input weight bias params groups

/-! ## Entries -/

/-- Convolutions. -/
def convFamily : List ShapeFunction := [
  entry (aten "conv2d")
    [param "input" .tensor, param "weight" .tensor, paramOr "bias" .optTensor .none,
     paramOr "stride" .intList (.intList [1, 1]), paramOr "padding" .intList (.intList [0, 0]),
     paramOr "dilation" .intList (.intList [1, 1]), paramOr "groups" .int (.int 1)] 1
    (one conv2d) [
      .ok [floats [1, 3, 8, 8], floats [4, 3, 3, 3]],
      .ok [floats [1, 3, 8, 8], floats [4, 3, 3, 3], floats [4], ints [2, 2], ints [1, 1]],
      .ok [floats [2, 4, 5, 5], floats [6, 2, 3, 3], .none, ints [1, 1], ints [0, 0], ints [1, 1],
        .int 2],
      .ok [floats [3, 8, 8], floats [4, 3, 3, 3]],
      .ok [floats [1, 1, 7, 7], floats [1, 1, 3, 3]] [("dilation", ints [2, 2])],
      .fails [floats [1, 2, 8, 8], floats [4, 3, 3, 3]],
      .fails [floats [1, 3, 2, 2], floats [4, 3, 3, 3]],
      .fails [floats [1, 3, 8, 8], floats [4, 3, 3, 3], floats [5]],
      .fails [floats [1, 3, 8, 8], floats [4, 3, 3]]],
  entry (aten "convolution")
    [param "input" .tensor, param "weight" .tensor, param "bias" .optTensor,
     param "stride" .intList, param "padding" .intList, param "dilation" .intList,
     param "transposed" .bool, param "output_padding" .intList, param "groups" .int] 1
    (one convolution) [
      .ok [floats [1, 3, 8, 8], floats [4, 3, 3, 3], .none, ints [1, 1], ints [0, 0], ints [1, 1],
        .bool false, ints [0, 0], .int 1],
      .ok [floats [2, 3, 10], floats [4, 3, 3], floats [4], ints [1], ints [0], ints [1],
        .bool false, ints [0], .int 1],
      .ok [floats [1, 4, 5, 5], floats [4, 2, 3, 3], .none, ints [2, 2], ints [1, 1], ints [1, 1],
        .bool true, ints [1, 1], .int 1],
      .fails [floats [1, 4, 5, 5], floats [4, 2, 3, 3], .none, ints [1, 1], ints [0, 0],
        ints [1, 1], .bool true, ints [1, 1], .int 1],
      .fails [floats [1, 3, 8, 8], floats [4, 3, 3, 3], .none, ints [0, 0], ints [0, 0],
        ints [1, 1], .bool false, ints [0, 0], .int 1]]]

end OpShape.Builtin

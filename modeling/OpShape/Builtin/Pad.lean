/-
# `OpShape.Builtin.Pad` — shape functions of padding.
-/
import OpShape.Builtin.Entry
import OpShape.Rule.Pad

namespace OpShape.Builtin

open Rule

/-! ## Shapes -/

/-- The shape of padding with a value. -/
def constantPadded (args : ShapeArgs) : ShapeResult Sizes := do
  let shape ← args.tensor "self"
  pad shape (← args.ints "pad")

/-- The shape of padding in a mode. -/
def padded (args : ShapeArgs) : ShapeResult Sizes := do
  let mode ← padMode (← args.str "mode")
  let shape ← args.tensor "self"
  padWithMode shape (← args.ints "pad") mode

/-! ## Entries -/

/-- Padding. -/
def padFamily : List ShapeFunction := [
  entry (aten "constant_pad_nd")
    [param "self" .tensor, param "pad" .intList, paramOr "value" .float (.float 0.0)] 1
    (one constantPadded) [
      .ok [floats [2, 3], ints [1, 1]],
      .ok [floats [2, 3], ints [1, 2, 0, 1]],
      .ok [floats [2, 3], ints [-1, 0], .float 2.5],
      .fails [floats [2, 3], ints [1]],
      .fails [floats [2, 3], ints [1, 1, 1, 1, 1, 1]],
      .fails [floats [2, 3], ints [-2, -2]]],
  entry (aten "pad")
    [param "self" .tensor, param "pad" .intList, paramOr "mode" .str (.str "constant"),
     paramOr "value" .optFloat .none] 1
    (one padded) [
      .ok [floats [2, 3], ints [1, 1]],
      .ok [floats [2, 3], ints [0, 1, 1, 0], .str "constant", .float 0.5],
      .ok [floats [2, 3], ints [1, 1]] [("mode", .str "reflect")],
      .ok [floats [1, 2, 3], ints [2, 2, 1, 1]] [("mode", .str "replicate")],
      .ok [floats [1, 2, 3], ints [3, 3]] [("mode", .str "circular")],
      .fails [floats [2, 3], ints [3, 0]] [("mode", .str "reflect")],
      .fails [floats [3], ints [1, 1]] [("mode", .str "reflect")],
      .fails [floats [2, 3], ints [1, 1]] [("mode", .str "wrap")],
      .fails [floats [2, 3], ints [1, 1, 1]]]]

end OpShape.Builtin

/-
# `OpShape.Builtin.Index` — shape functions that select elements.

Single positions, ranges, positions that are given by other tensors, look-up in a table, and the
greatest elements.
-/
import OpShape.Builtin.Entry
import OpShape.Rule.Index

namespace OpShape.Builtin

open Rule

/-! ## Shapes -/

/-- The shape of one position of a dimension. -/
def selected (args : ShapeArgs) : ShapeResult Sizes := do
  let shape ← args.tensor "self"
  let dim ← args.int "dim"
  select shape dim (← args.int "index")

/-- The shape of a range of positions of a dimension. -/
def sliced (args : ShapeArgs) : ShapeResult Sizes := do
  let shape ← args.tensor "self"
  let dim ← args.int "dim"
  let start ← args.optInt "start"
  let stop ← args.optInt "end"
  slice shape dim start stop (← args.int "step")

/-- The shape that a rule gives for `self`, a dimension and a tensor of positions. -/
def withIndex (rule : Sizes → Int → Sizes → ShapeResult Sizes) (args : ShapeArgs) :
    ShapeResult Sizes := do
  let shape ← args.tensor "self"
  let dim ← args.int "dim"
  rule shape dim (← args.tensor "index")

/-- The shape of `self` indexed by tensors. -/
def indexed (args : ShapeArgs) : ShapeResult Sizes := do
  let shape ← args.tensor "self"
  advancedIndex shape (← args.optTensors "indices")

/-- The shape of a tensor after values are written to indexed elements, over which they have to
stretch. -/
def overwritten (shape : Sizes) (indices : List (Option Sizes)) (values : Sizes) :
    ShapeResult Sizes := do
  if stretchesOver values (← advancedIndex shape indices) then .ok shape
  else incompatible "values must broadcast to the shape of the indexed elements"

/-- The shape of a tensor with other values at positions of some dimensions. -/
def indexPut (args : ShapeArgs) : ShapeResult Sizes := do
  let shape ← args.tensor "self"
  let indices ← args.optTensors "indices"
  overwritten shape indices (← args.tensor "values")

/-- The shape of a tensor with other values at positions of its first dimensions. -/
def indexPutFirst (args : ShapeArgs) : ShapeResult Sizes := do
  let shape ← args.tensor "self"
  let indices ← args.tensors "indices"
  overwritten shape (indices.map some) (← args.tensor "values")

/-- The shape of rows that are looked up in a table. -/
def lookedUp (args : ShapeArgs) : ShapeResult Sizes := do
  let weight ← args.tensor "weight"
  embedding weight (← args.tensor "indices")

/-- The shapes of the greatest entries along a dimension and of their positions. -/
def greatest (args : ShapeArgs) : ShapeResult (List Sizes) := do
  let shape ← args.tensor "self"
  let k ← args.int "k"
  let (values, positions) ← topk shape k (← args.int "dim")
  .ok [values, positions]

/-! ## Entries -/

/-- Functions that select elements.  As tensors of positions hold nothing but ones in an invocation,
the dimensions that they index have at least two entries there. -/
def indexFamily : List ShapeFunction := [
  entry (atenOverload "select" "int")
    [param "self" .tensor, param "dim" .int, param "index" .int] 1
    (one selected) [
      .ok [floats [2, 3], .int 0, .int 1],
      .ok [floats [2, 3], .int (-1), .int (-3)],
      .ok [floats [4], .int 0, .int 3],
      .fails [floats [2, 3], .int 1, .int 3],
      .fails [floats [2, 3], .int 2, .int 0],
      .fails [floats [], .int 0, .int 0]],
  entry (atenOverload "slice" "Tensor")
    [param "self" .tensor, paramOr "dim" .int (.int 0), paramOr "start" .optInt .none,
     paramOr "end" .optInt .none, paramOr "step" .int (.int 1)] 1
    (one sliced) [
      .ok [floats [5, 3]],
      .ok [floats [5, 3], .int 0, .int 1, .int 4],
      .ok [floats [5, 3], .int 1, .none, .none, .int 2],
      .ok [floats [5, 3]] [("start", .int (-2))],
      .ok [floats [5, 3], .int 0, .int 10, .int 20],
      .ok [floats [5, 3], .int 0, .int 3, .int 1],
      .fails [floats [5, 3]] [("step", .int 0)],
      .fails [floats [5, 3], .int 2],
      .fails [floats []]],
  entry (aten "gather")
    [param "self" .tensor, param "dim" .int, param "index" .tensor,
     paramOr "sparse_grad" .bool (.bool false)] 1
    (one (withIndex gather)) [
      .ok [floats [2, 3], .int 1, longs [2, 2]],
      .ok [floats [2, 3], .int 0, longs [2, 3]],
      .ok [floats [2, 3], .int (-1), longs [1, 5]],
      .fails [floats [2, 3], .int 1, longs [2]],
      .fails [floats [2, 3], .int 1, longs [3, 2]],
      .fails [floats [2, 3], .int 2, longs [2, 2]]],
  entry (aten "index_select")
    [param "self" .tensor, param "dim" .int, param "index" .tensor] 1
    (one (withIndex indexSelect)) [
      .ok [floats [3, 4], .int 0, longs [2]],
      .ok [floats [3, 4], .int (-1), longs [5]],
      .ok [floats [3, 4], .int 1, longs []],
      .fails [floats [3, 4], .int 0, longs [2, 2]],
      .fails [floats [3, 4], .int 2, longs [2]]],
  entry (atenOverload "index" "Tensor")
    [param "self" .tensor, param "indices" .optTensorList] 1
    (one indexed) [
      .ok [floats [3, 4], .list [longs [2]]],
      .ok [floats [3, 4], .list [.none, longs [5]]],
      .ok [floats [3, 4, 5], .list [longs [2], longs [2]]],
      .ok [floats [3, 4, 5], .list [longs [2], .none, longs [2]]],
      .ok [floats [3, 4], .list [longs [2, 2]]],
      .fails [floats [3, 4], .list [longs [2], longs [3]]],
      .fails [floats [3], .list [longs [1], longs [1]]]],
  entry (aten "index_put")
    [param "self" .tensor, param "indices" .optTensorList, param "values" .tensor,
     paramOr "accumulate" .bool (.bool false)] 1
    (one indexPut) [
      .ok [floats [3, 4], .list [longs [2]], floats [2, 4]],
      .ok [floats [3, 4], .list [longs [2]], floats []],
      .ok [floats [3, 4], .list [.none, longs [2]], floats [1], .bool true],
      .fails [floats [3, 4], .list [longs [2]], floats [3, 4]]],
  entry (atenOverload "index_put" "hacked_twin")
    [param "self" .tensor, param "indices" .tensorList, param "values" .tensor,
     paramOr "accumulate" .bool (.bool false)] 1
    (one indexPutFirst) [
      .ok [floats [3, 4], .list [longs [2], longs [2]], floats [2]],
      .fails [floats [3, 4], .list [longs [2], longs [2]], floats [3]]],
  entry (aten "embedding")
    [param "weight" .tensor, param "indices" .tensor, paramOr "padding_idx" .int (.int (-1)),
     paramOr "scale_grad_by_freq" .bool (.bool false), paramOr "sparse" .bool (.bool false)] 1
    (one lookedUp) [
      .ok [floats [5, 3], longs [2, 4]],
      .ok [floats [5, 3], longs []],
      .ok [floats [5, 3], longs [0]],
      .fails [floats [5], longs [2]]],
  entry (aten "topk")
    [param "self" .tensor, param "k" .int, paramOr "dim" .int (.int (-1)),
     paramOr "largest" .bool (.bool true), paramOr "sorted" .bool (.bool true)] 2
    (many greatest) [
      .ok [floats [2, 5], .int 3],
      .ok [floats [2, 5], .int 1, .int 0],
      .ok [floats [2, 5], .int 0] [("largest", .bool false)],
      .fails [floats [2, 5], .int 6],
      .fails [floats [2, 5], .int 1, .int 2]]]

end OpShape.Builtin

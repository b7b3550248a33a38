/-
# `OpShape.Builtin.Layout` — shape functions that rearrange elements.

Permutations, views, stretching, inserted and removed dimensions, and concatenation.
-/
import OpShape.Builtin.Entry
import OpShape.Rule.Broadcast
import OpShape.Rule.Layout

namespace OpShape.Builtin

open Rule

/-! ## Shapes -/

/-- The shape that a rule gives for `self` and a list of integers. -/
def withInts (rule : Sizes → List Int → ShapeResult Sizes) (name : String) (args : ShapeArgs) :
    ShapeResult Sizes := do
  let shape ← args.tensor "self"
  rule shape (← args.ints name)

/-- The shape that a rule gives for `self` and a dimension. -/
def withDim (rule : Sizes → Int → ShapeResult Sizes) (args : ShapeArgs) : ShapeResult Sizes := do
  let shape ← args.tensor "self"
  rule shape (← args.int "dim")

/-- The shape that a rule gives for `self` and two dimensions. -/
def withDims (rule : Sizes → Int → Int → ShapeResult Sizes) (first second : String)
    (args : ShapeArgs) : ShapeResult Sizes := do
  let shape ← args.tensor "self"
  let dim ← args.int first
  rule shape dim (← args.int second)

/-- The shape of a transposed matrix. -/
def transposedMatrix (args : ShapeArgs) : ShapeResult Sizes := do
  transpose2d (← args.tensor "self")

/-- The shape of `self` stretched to that of another tensor. -/
def expandAs (args : ShapeArgs) : ShapeResult Sizes := do
  let target ← args.tensor "other"
  expand (← args.tensor "self") (target.map signed)

/-- The shape of a tensor that is given other sizes, whatever its elements are then. -/
def resized (args : ShapeArgs) : ShapeResult Sizes := do
  sizesToShape (← args.ints "size")

/-- The shape without dimensions of size one. -/
def squeezed (args : ShapeArgs) : ShapeResult Sizes := do
  .ok (squeeze (← args.tensor "self"))

/-- Mark a dimension that is turned around; none may be named twice. -/
def markFlipped (rank : Nat) (marks : List Bool) (dim : Int) : ShapeResult (List Bool) := do
  let dim ← resolveDim dim rank
  if ← Checked.get marks dim then
    invalid "dim appears multiple times in the list of dims"
  else
    Checked.set marks dim true

/-- The shape of a tensor some of whose dimensions are turned around. -/
def flipped (args : ShapeArgs) : ShapeResult Sizes := do
  let shape ← args.tensor "self"
  let dims ← args.ints "dims"
  let _ ← dims.foldlM (markFlipped shape.length) (List.replicate (max shape.length 1) false)
  .ok shape

/-- The shape of tensors put behind each other. -/
def concatenated (args : ShapeArgs) : ShapeResult Sizes := do
  let shapes ← args.tensors "tensors"
  cat shapes (← args.int "dim")

/-! ## Entries -/

/-- The shape function of a view. -/
def viewEntry (op : OpName) : ShapeFunction :=
  entry op
    [param "self" .tensor, param "size" .intList] 1
    (one (withInts view "size")) [
      .ok [floats [2, 3, 4], ints [6, 4]],
      .ok [floats [2, 3, 4], ints [-1, 2]],
      .ok [floats [1], ints []],
      .ok [floats [0, 3], ints [3, 0]],
      .fails [floats [2, 3], ints [4, 2]],
      .fails [floats [2, 3], ints [-1, -1]],
      .fails [floats [0, 3], ints [-1, 0]]]

/-- Functions that rearrange elements. -/
def layoutFamily : List ShapeFunction := [
  entry (aten "permute")
    [param "self" .tensor, param "dims" .intList] 1
    (one (withInts permute "dims")) [
      .ok [floats [2, 3, 4], ints [2, 0, 1]],
      .ok [floats [2, 3], ints [-1, 0]],
      .ok [floats [], ints []],
      .fails [floats [2, 3], ints [0]],
      .fails [floats [2, 3], ints [0, 0]],
      .fails [floats [2, 3], ints [0, 2]]],
  entry (atenOverload "transpose" "int")
    [param "self" .tensor, param "dim0" .int, param "dim1" .int] 1
    (one (withDims transpose "dim0" "dim1")) [
      .ok [floats [2, 3, 4], .int 0, .int 2],
      .ok [floats [2, 3], .int (-1), .int (-2)],
      .ok [floats [], .int 0, .int (-1)],
      .fails [floats [2, 3], .int 0, .int 2]],
  entry (aten "t")
    [param "self" .tensor] 1
    (one transposedMatrix) [
      .ok [floats [2, 3]],
      .ok [floats [4]],
      .ok [floats []],
      .fails [floats [2, 3, 4]]],
  entry (aten "expand")
    [param "self" .tensor, param "size" .intList, paramOr "implicit" .bool (.bool false)] 1
    (one (withInts expand "size")) [
      .ok [floats [3, 1], ints [3, 4]],
      .ok [floats [3, 1], ints [2, -1, 4]],
      .ok [floats [], ints [2, 2]],
      .fails [floats [3, 2], ints [3, 4]],
      .fails [floats [3, 1], ints [4]],
      .fails [floats [3], ints [-1, 3]]],
  entry (aten "expand_as")
    [param "self" .tensor, param "other" .tensor] 1
    (one expandAs) [
      .ok [floats [3, 1], floats [2, 3, 4]],
      .fails [floats [3, 2], floats [3, 4]]],
  entry (aten "broadcast_to")
    [param "self" .tensor, param "size" .intList] 1
    (one (withInts expand "size")) [
      .ok [floats [3], ints [2, 3]],
      .fails [floats [3], ints [2, 4]]],
  viewEntry (aten "view"),
  viewEntry (aten "_unsafe_view"),
  entry (aten "reshape")
    [param "self" .tensor, param "shape" .intList] 1
    (one (withInts view "shape")) [
      .ok [floats [2, 3, 4], ints [4, -1]],
      .ok [floats [6], ints [2, 3]],
      .fails [floats [2, 3], ints [5]]],
  entry (aten "_reshape_alias")
    [param "self" .tensor, param "size" .intList, param "stride" .intList] 1
    (one (withInts view "size")) [
      .ok [floats [2, 3], ints [3, 2], ints [2, 1]],
      .fails [floats [2, 3], ints [4, 2], ints [2, 1]]],
  entry (aten "resize_")
    [param "self" .tensor, param "size" .intList, paramOr "memory_format" .optInt .none] 1
    (one resized) [
      .ok [floats [2, 3], ints [4, 5]],
      .ok [floats [2, 3], ints []],
      .fails [floats [2, 3], ints [-2]]],
  entry (atenOverload "flatten" "using_ints")
    [param "self" .tensor, paramOr "start_dim" .int (.int 0), paramOr "end_dim" .int (.int (-1))] 1
    (one (withDims flatten "start_dim" "end_dim")) [
      .ok [floats [2, 3, 4]],
      .ok [floats [2, 3, 4, 5], .int 1, .int 2],
      .ok [floats [2, 3, 4]] [("start_dim", .int (-2))],
      .ok [floats []],
      .fails [floats [2, 3, 4], .int 2, .int 1],
      .fails [floats [2, 3], .int 0, .int 2]],
  entry (aten "unsqueeze")
    [param "self" .tensor, param "dim" .int] 1
    (one (withDim unsqueeze)) [
      .ok [floats [2, 3], .int 0],
      .ok [floats [2, 3], .int 2],
      .ok [floats [2, 3], .int (-1)],
      .ok [floats [], .int 0],
      .fails [floats [2, 3], .int 3],
      .fails [floats [2, 3], .int (-4)]],
  entry (aten "squeeze")
    [param "self" .tensor] 1
    (one squeezed) [
      .ok [floats [1, 3, 1, 2]],
      .ok [floats [1]],
      .ok [floats [2, 3]]],
  entry (atenOverload "squeeze" "dim")
    [param "self" .tensor, param "dim" .int] 1
    (one (withDim squeezeDim)) [
      .ok [floats [1, 3, 1], .int 0],
      .ok [floats [1, 3, 1], .int 1],
      .ok [floats [1, 3, 1], .int (-1)],
      .ok [floats [], .int 0],
      .fails [floats [1, 3, 1], .int 3]],
  entry (aten "flip")
    [param "self" .tensor, param "dims" .intList] 1
    (one flipped) [
      .ok [floats [2, 3], ints [0]],
      .ok [floats [2, 3, 4], ints [-1, 0]],
      .ok [floats [2, 3], ints []],
      .fails [floats [2, 3], ints [2]],
      .fails [floats [2, 3], ints [1, -1]]],
  entry (aten "cat")
    [param "tensors" .tensorList, paramOr "dim" .int (.int 0)] 1
    (one concatenated) [
      .ok [.list [floats [2, 3], floats [4, 3]]],
      .ok [.list [floats [2, 3], floats [2, 1]], .int 1],
      .ok [.list [floats [2, 3], floats [2, 3], floats [2, 3]]] [("dim", .int (-1))],
      .ok [.list [floats [0], floats [2, 3]]],
      .ok [.list [floats [0], floats [0]]],
      .fails [.list []],
      .fails [.list [floats [2, 3], floats [2, 4]]],
      .fails [.list [floats [2, 3], floats [3]]],
      .fails [.list [floats [], floats []]],
      .fails [.list [floats [2, 3]], .int 2]]]

end OpShape.Builtin

/-
# `OpShape.Rule.Layout` — the same elements in another order or shape.

Views, permutations, inserted and removed dimensions of size one, and concatenation.
-/
import OpShape.Rule.Basic

namespace OpShape.Rule

/-! ## Views -/

/-- What is known of a list of requested sizes: is one of them left to be inferred, and what is the
product of the others? -/
structure ViewRequest where
  inferred : Bool
  known : Nat

/-- Take another requested size into account. -/
def ViewRequest.add (request : ViewRequest) (size : Int) : ShapeResult ViewRequest :=
  if size = -1 then
    if request.inferred then invalid "only one dimension can be inferred"
    else .ok { request with inferred := true }
  else if size < 0 then invalid "invalid shape dimension"
  else
    let known := request.known * size.toNat
    if known < Nat.pow 2 64 then .ok { request with known } else invalid "shape size overflows"

/-- The size that is inferred for a number of elements; zero stands in where none is asked for. -/
def ViewRequest.inferredSize (request : ViewRequest) (count : Nat) : ShapeResult Nat :=
  if request.inferred then
    if request.known = 0 then incompatible "shape is invalid for input size"
    else do
      if (← Checked.mod count request.known) = 0 then Checked.div count request.known
      else incompatible "shape is invalid for input size"
  else if request.known = count then .ok 0
  else incompatible "shape is invalid for input size"

/-- The shape seen as one of the requested sizes, where minus one stands for a size to infer. -/
def view (shape : Sizes) (sizes : List Int) : ShapeResult Sizes := do
  let request ← sizes.foldlM ViewRequest.add { inferred := false, known := 1 }
  let inferred ← request.inferredSize (elementCount shape)
  .ok (sizes.map fun size => if size = -1 then inferred else size.toNat)

/-- The shape with a range of dimensions made into one. -/
def flatten (shape : Sizes) (startDim endDim : Int) : ShapeResult Sizes := do
  let first ← resolveDim startDim shape.length
  let last ← resolveDim endDim shape.length
  if last < first then
    invalid "flatten() has invalid args: start_dim cannot come after end_dim"
  else if shape.isEmpty then
    .ok [1]
  else
    let front ← Checked.slice shape 0 first
    let middle ← Checked.slice shape first (last + 1)
    let back ← Checked.slice shape (last + 1) shape.length
    .ok (front ++ elementCount middle :: back)

/-! ## Order of dimensions -/

/-- Take a dimension for the next place of a permutation. -/
def permuteStep (shape : Sizes) (state : List Bool × Sizes) (dim : Int) :
    ShapeResult (List Bool × Sizes) := do
  let dim ← resolveDim dim shape.length
  if ← Checked.get state.1 dim then
    invalid "repeated dim in permutation"
  else
    let seen ← Checked.set state.1 dim true
    .ok (seen, state.2 ++ [← Checked.get shape dim])

/-- The shape with its dimensions in another order; each must be named once. -/
def permute (shape : Sizes) (dims : List Int) : ShapeResult Sizes := do
  if dims.length ≠ shape.length then
    wrongRank "number of dims in permutation must match input rank"
  else
    let state ← dims.foldlM (permuteStep shape) (List.replicate shape.length false, [])
    .ok state.2

/-- The shape with two dimensions exchanged. -/
def transpose (shape : Sizes) (dim0 dim1 : Int) : ShapeResult Sizes := do
  let first ← resolveDim dim0 shape.length
  let second ← resolveDim dim1 shape.length
  if shape.isEmpty then
    .ok shape
  else
    let a ← Checked.get shape first
    let b ← Checked.get shape second
    Checked.set (← Checked.set shape first b) second a

/-- The shape of the transpose of a matrix; a vector or a scalar is its own transpose. -/
def transpose2d : Sizes → ShapeResult Sizes
  | [] => .ok []
  | [size] => .ok [size]
  | [rows, cols] => .ok [cols, rows]
  | _ => wrongRank "t() expects a tensor with <= 2 dimensions"

/-! ## Dimensions of size one -/

/-- The shape without its dimensions of size one. -/
def squeeze (shape : Sizes) : Sizes :=
  shape.filter fun size => size ≠ 1

/-- The shape without a dimension, if that has size one. -/
def squeezeDim (shape : Sizes) (dim : Int) : ShapeResult Sizes := do
  let dim ← resolveDim dim shape.length
  .ok ((shape.zipIdx.filter fun entry => entry.2 ≠ dim || entry.1 ≠ 1).map Prod.fst)

/-- The shape with a new dimension of size one, which is named by its place in the result. -/
def unsqueeze (shape : Sizes) (dim : Int) : ShapeResult Sizes := do
  Checked.insertIdx shape (← resolveDim dim (shape.length + 1)) 1

/-! ## Concatenation -/

/-- Is the shape that of an empty vector, which concatenation leaves out whatever the ranks of the
others? -/
def isLeftOut (shape : Sizes) : Bool :=
  shape == [0]

/-- Put another shape behind those concatenated so far. -/
def catStep (first : Sizes) (dim : Nat) (output shape : Sizes) : ShapeResult Sizes := do
  if shape.length ≠ first.length then
    wrongRank "tensors must have the same number of dimensions"
  else if !((first.zip shape).zipIdx.all fun entry =>
      entry.2 == dim || entry.1.1 == entry.1.2) then
    incompatible "sizes of tensors must match except in the concatenation dimension"
  else
    Checked.set output dim ((← Checked.get output dim) + (← Checked.get shape dim))

/-- The shape of tensors put behind each other along a dimension. -/
def cat (shapes : List Sizes) (dim : Int) : ShapeResult Sizes := do
  if shapes.isEmpty then
    invalid "expected a non-empty list of tensors"
  else if shapes.any List.isEmpty then
    wrongRank "zero-dimensional tensor cannot be concatenated"
  else
    match shapes.filter fun shape => !isLeftOut shape with
    | [] => .ok [0]
    | first :: others =>
      let dim ← resolveDim dim first.length
      others.foldlM (catStep first dim) first

end OpShape.Rule

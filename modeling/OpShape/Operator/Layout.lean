/-
# `OpShape.Operator.Layout` — operators that rearrange elements.

No element is changed: a tensor is given other sizes, its dimensions another order, or its elements
other positions.
-/
import OpShape.Operator.Args
import OpShape.Operator.Broadcast
import OpShape.Tensor.Permute

namespace OpShape.Operator

variable {α : Type}

/-! ## Orders of dimensions -/

/-- Put the dimensions into the order of a list that names each of them once. -/
def permuteOf : Operator := fun args => do
  let input ← args.tensor "self"
  let dims ← args.ints "dims"
  if dims.length ≠ input.rank then
    invalid "Permutation has wrong length"
  else
    let order ← resolveAxes input.rank dims
    one (← input.toFloats.permute order)

/-- The order of `rank` dimensions with two of them exchanged. -/
def exchange (rank first second : Nat) : List Nat :=
  (List.range rank).map fun dim =>
    if dim = first then second else if dim = second then first else dim

/-- Exchange two dimensions. -/
def transposeOf : Operator := fun args => do
  let input ← floatArg args "self"
  let rank := input.sizes.length
  let first ← resolveAxis rank (← args.int "dim0")
  let second ← resolveAxis rank (← args.int "dim1")
  if rank = 0 then one input else one (← input.permute (exchange rank first second))

/-- Exchange the dimensions of a matrix. -/
def matrixTransposeOf : Operator := fun args => do
  let input ← floatArg args "self"
  match input.sizes.length with
  | 0 | 1 => one input
  | 2 => one (← input.permute [1, 0])
  | _ => invalid "t expects a tensor with <= 2 dims"

/-! ## Expansion -/

/-- The sizes that a list asks for when the last of them are to match `sizes`: -1 keeps a size. -/
def expandAligned : Sizes → List Int → OpResult Sizes
  | size :: sizes, wanted :: rest => do
    let size ← if wanted = -1 then .ok size else toSize wanted
    let sizes ← expandAligned sizes rest
    .ok (size :: sizes)
  | _, rest => rest.mapM toSize

/-- The sizes of leading dimensions that expansion adds. -/
def expandLeading (wanted : Int) : OpResult Nat :=
  if wanted = -1 then invalid "-1 is not allowed for a new leading dim" else toSize wanted

/-- The sizes that a list asks for. -/
def expandSizes (sizes : Sizes) (wanted : List Int) : OpResult Sizes :=
  if wanted.length < sizes.length then
    invalid "Expanded shape has fewer dims than input"
  else do
    let added := wanted.length - sizes.length
    let leading ← (wanted.take added).mapM expandLeading
    let aligned ← expandAligned sizes (wanted.drop added)
    .ok (leading ++ aligned)

/-- Repeat the elements to fill the sizes that a list asks for. -/
def expandTo (input : Tensor Float32) (wanted : List Int) : OpResult (Returned RealTensor) := do
  one (← broadcastTo input (← expandSizes input.sizes wanted))

/-- Repeat the elements to fill sizes. -/
def expandOf : Operator := fun args => do
  let input ← floatArg args "self"
  expandTo input (← args.ints "size")

/-- Repeat the elements to fill the sizes of another tensor. -/
def expandAsOf : Operator := fun args => do
  let wanted := (← args.tensor "other").sizes.map signed
  expandTo (← floatArg args "self") wanted

/-! ## Other sizes -/

/-- The element count that the given sizes ask for, -1 standing for a size that is left open, and
whether there is such a size.  Counts beyond sixty-four bits are refused. -/
def countKnown : Nat → Bool → List Int → OpResult (Nat × Bool)
  | known, inferred, [] => .ok (known, inferred)
  | known, inferred, size :: sizes =>
    if size = -1 then
      if inferred then invalid "Only one size can be inferred" else countKnown known true sizes
    else if size < 0 then invalid "Size is negative"
    else if Nat.pow 2 64 ≤ known * size.toNat then invalid "Shape size overflows"
    else countKnown (known * size.toNat) inferred sizes

/-- The sizes that `count` elements take where one size may be left open. -/
def reshapeSizes (count : Nat) (sizes : List Int) : OpResult Sizes := do
  let (known, inferred) ← countKnown 1 false sizes
  if inferred then
    if known = 0 ∨ count % known ≠ 0 then invalid "Cannot infer size"
    else .ok (sizes.map fun size => if size = -1 then count / known else size.toNat)
  else if known ≠ count then invalid "Shape does not match number of elements"
  else .ok (sizes.map Int.toNat)

/-- The same elements with the sizes of a list. -/
def reshapeOf (name : String) : Operator := fun args => do
  let input ← floatArg args "self"
  let sizes ← reshapeSizes (elementCount input.sizes) (← args.ints name)
  one (← input.withSizes sizes)

/-- The first elements as far as they go, then zeros, to fill sizes. -/
def resizeOf : Operator := fun args => do
  let input ← floatArg args "self"
  let sizes ← toSizes (← args.ints "size")
  one (← Tensor.ofOffsets sizes fun offset => .ok (input.data[offset]?.getD 0.0))

/-- Join a range of dimensions into one. -/
def flattenOf : Operator := fun args => do
  let input ← floatArg args "self"
  let rank := input.sizes.length
  let start ← resolveAxis rank (← args.int "start_dim")
  let stop ← resolveAxis rank (← args.int "end_dim")
  if stop < start then
    invalid "start_dim must be <= end_dim"
  else if rank = 0 then
    one (← input.withSizes [1])
  else
    let joined := elementCount ((input.sizes.take (stop + 1)).drop start)
    one (← input.withSizes (input.sizes.take start ++ joined :: input.sizes.drop (stop + 1)))

/-- Add a dimension of size one. -/
def unsqueezeOf : Operator := fun args => do
  let input ← floatArg args "self"
  let axis ← resolveAxis (input.sizes.length + 1) (← args.int "dim")
  one (← input.withSizes (← Checked.insertIdx input.sizes axis 1))

/-- Remove all dimensions of size one. -/
def squeezeOf : Operator := fun args => do
  let input ← floatArg args "self"
  one (← input.withSizes (input.sizes.filter fun size => size != 1))

/-- Remove a dimension if its size is one. -/
def squeezeDimOf : Operator := fun args => do
  let input ← floatArg args "self"
  let axis ← resolveAxis input.sizes.length (← args.int "dim")
  if input.sizes[axis]? = some 1 then one (← input.withSizes (input.sizes.eraseIdx axis))
  else one input

/-! ## Other positions -/

/-- The index counted from the other end along some axes. -/
def indexFromEnd (axes : List Nat) (sizes : Sizes) (index : List Nat) : List Nat :=
  (index.zip sizes).zipIdx.map fun entry =>
    if axes.contains entry.2 then entry.1.2 - 1 - entry.1.1 else entry.1.1

/-- The tensor with its elements in reverse along some axes. -/
def flip (input : Tensor α) (axes : List Nat) : OpResult (Tensor α) :=
  Tensor.ofIndices input.sizes fun index => input.at? (indexFromEnd axes input.sizes index)

/-- The axes to flip; a scalar accepts at most one, which changes nothing. -/
def flipAxes (rank : Nat) (dims : List Int) : OpResult (List Nat) :=
  if rank = 0 then do
    let _ ← dims.mapM (resolveAxis 0)
    if 1 < dims.length then invalid "Axes contain duplicates" else .ok []
  else resolveAxes rank dims

/-- Reverse the elements along axes. -/
def flipOf : Operator := fun args => do
  let input ← floatArg args "self"
  let axes ← flipAxes input.sizes.length (← args.ints "dims")
  one (← flip input axes)

/-! ## Concatenation -/

/-- Is the tensor a vector without elements?  Such tensors are passed over in concatenation. -/
def isEmptyVector (tensor : Tensor α) : Bool :=
  tensor.sizes == [0]

/-- The elements of one chunk: what a tensor contributes to one row of a concatenation. -/
def chunk (tensor : Tensor α) (axis inner row : Nat) : OpResult (List α) := do
  let size := (← Checked.get tensor.sizes axis) * inner
  .ok (← Checked.window tensor.data (row * size) ((row + 1) * size)).toList

/-- Refuse a tensor that differs from the first one in more than the size along the axis. -/
def requireMatch (first : Sizes) (axis : Nat) (tensor : Tensor α) : OpResult Unit :=
  if tensor.sizes.length ≠ first.length then
    incompatible "Tensors must have the same number of dims"
  else if (tensor.sizes.zip first).zipIdx.all fun entry =>
      entry.2 == axis || entry.1.1 == entry.1.2 then .ok ()
  else incompatible "Sizes must match except in the concatenated dim"

/-- Put tensors one after the other along an axis. -/
def concat (tensors : List (Tensor α)) (dim : Int) : OpResult (Tensor α) :=
  if tensors.isEmpty then
    invalid "Expected a non-empty list of tensors"
  else if tensors.any fun tensor => tensor.sizes.isEmpty then
    invalid "Zero-dim tensors cannot be concatenated"
  else
    match tensors.filter fun tensor => !isEmptyVector tensor with
    | [] => Tensor.ofData [0] #[]
    | first :: rest => do
      let tensors := first :: rest
      let axis ← resolveAxis first.sizes.length dim
      tensors.forM (requireMatch first.sizes axis)
      let along ← tensors.mapM fun tensor => Checked.get tensor.sizes axis
      let sizes ← Checked.set first.sizes axis (totalSize along)
      let outer := elementCount (sizes.take axis)
      let inner := elementCount (sizes.drop (axis + 1))
      let rows ← (List.range outer).mapM fun row =>
        tensors.mapM fun tensor => chunk tensor axis inner row
      Tensor.ofData sizes (rows.map List.flatten).flatten.toArray

/-- Put tensors one after the other. -/
def catOf : Operator := fun args => do
  let tensors := (← args.tensors "tensors").map RealTensor.toFloats
  one (← concat tensors (← args.int "dim"))

/-! ## Names -/

/-- The operators that rearrange elements. -/
def layoutTable : List (String × Operator) := [
  ("aten::permute", permuteOf),
  ("aten::transpose.int", transposeOf),
  ("aten::t", matrixTransposeOf),
  ("aten::expand", expandOf),
  ("aten::expand_as", expandAsOf),
  ("aten::broadcast_to", expandOf),
  ("aten::view", reshapeOf "size"),
  ("aten::_unsafe_view", reshapeOf "size"),
  ("aten::_reshape_alias", reshapeOf "size"),
  ("aten::reshape", reshapeOf "shape"),
  ("aten::resize_", resizeOf),
  ("aten::flatten.using_ints", flattenOf),
  ("aten::unsqueeze", unsqueezeOf),
  ("aten::squeeze", squeezeOf),
  ("aten::squeeze.dim", squeezeDimOf),
  ("aten::flip", flipOf),
  ("aten::cat", catOf)
]

end OpShape.Operator

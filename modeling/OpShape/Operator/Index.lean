/-
# `OpShape.Operator.Index` — operators that pick elements.

Elements are picked by positions: one for a dimension, a range of them, a list, or a tensor of them.
Each answer is built position by position from the tensor it is read from.
-/
import OpShape.Operator.Args
import OpShape.Operator.Broadcast
import OpShape.Tensor.Lane

namespace OpShape.Operator

variable {α : Type}

/-! ## One dimension -/

/-- The elements at one position of an axis, which is left out of the answer. -/
def select (input : Tensor α) (axis position : Nat) : OpResult (Tensor α) := do
  let sizes ← Checked.eraseIdx input.sizes axis
  Tensor.ofIndices sizes fun index => do
    input.at? (← Checked.insertIdx index axis position)

/-- The elements at a list of positions of an axis. -/
def pick (input : Tensor α) (axis : Nat) (positions : List Nat) : OpResult (Tensor α) := do
  let sizes ← Checked.set input.sizes axis positions.length
  Tensor.ofIndices sizes fun index => do
    let position ← Checked.get positions (← Checked.get index axis)
    input.at? (index.set axis position)

/-- Pick one position of a dimension. -/
def selectOf : Operator := fun args => do
  let input ← floatArg args "self"
  if input.sizes.isEmpty then
    invalid "select cannot be applied to a 0-dim tensor"
  else
    let axis ← resolveAxis input.sizes.length (← args.int "dim")
    let index ← args.int "index"
    let position ← resolveIndex index (← Checked.get input.sizes axis)
    one (← select input axis position)

/-- A bound of a slice as a position: from the end if it is negative, and inside the dimension. -/
def sliceBound (size : Nat) (bound : Int) : OpResult Int :=
  let span := signed size
  Checked.clamp 0 span (if bound < 0 then bound + span else bound)

/-- The first position of a slice and the number of its positions.  The length of the range and the
step are added up as words. -/
def sliceRange (size : Nat) (start stop : Option Int) (step : Int) : OpResult (Nat × Nat) :=
  if step ≤ 0 then
    invalid "Slice step must be positive"
  else do
    let start ← sliceBound size (start.getD 0)
    let stop ← sliceBound size (stop.getD (signed size))
    let count := if start < stop then (toWord (stop - start + step - 1)).tdiv step else 0
    .ok (start.toNat, wordSize count)

/-- The elements at `count` positions of an axis, from `start` on in steps. -/
def slice (input : Tensor α) (axis start count step : Nat) : OpResult (Tensor α) := do
  let sizes ← Checked.set input.sizes axis count
  Tensor.ofIndices sizes fun index => do
    let position ← Checked.get index axis
    input.at? (index.set axis (start + position * step))

/-- Pick a range of positions of a dimension. -/
def sliceOf : Operator := fun args => do
  let input ← floatArg args "self"
  if input.sizes.isEmpty then
    invalid "slice cannot be applied to a 0-dim tensor"
  else
    let axis ← resolveAxis input.sizes.length (← args.int "dim")
    let step ← args.int "step"
    let size ← Checked.get input.sizes axis
    let start ← args.optInt "start"
    let stop ← args.optInt "end"
    let (start, count) ← sliceRange size start stop step
    one (← slice input axis start count step.toNat)

/-- Pick a list of positions of a dimension; of a scalar there is nothing to pick. -/
def indexSelectOf : Operator := fun args => do
  let input ← floatArg args "self"
  let index ← intArg args "index"
  if 1 < index.sizes.length then
    invalid "Index must be a scalar or vector"
  else
    let axis ← resolveAxis input.sizes.length (← args.int "dim")
    if input.sizes.isEmpty then
      one input
    else
      let size ← Checked.get input.sizes axis
      let positions ← index.data.toList.mapM fun i => resolveIndex i size
      one (← pick input axis positions)

/-! ## Positions in the place of a coordinate -/

/-- The sizes of a scalar as a tensor of `rank` dimensions, and other sizes as they are. -/
def paddedSizes (rank : Nat) (sizes : Sizes) : Sizes :=
  if sizes.isEmpty then List.replicate rank 1 else sizes

/-- May an index of these sizes read a tensor of those sizes along an axis? -/
def indexFits (index input : Sizes) (axis : Nat) : Bool :=
  index.zipIdx.all fun entry => entry.2 == axis || entry.1 ≤ input[entry.2]?.getD 1

/-- The elements at the positions along an axis that an index tensor gives, the other coordinates
being those of the index itself. -/
def gather (input : Tensor α) (axis : Nat) (index : Tensor Int) : OpResult (Tensor α) :=
  -- A scalar on either side is read as if it had the dimensions of the other one.
  let rank := max input.sizes.length index.sizes.length
  let source := paddedSizes rank input.sizes
  let own := paddedSizes rank index.sizes
  let span := source[axis]?.getD 1
  Tensor.ofOffsets index.sizes fun offset => do
    let position ← Checked.fetch index.data offset
    if position < 0 ∨ (span : Int) ≤ position then
      invalid "Index is out of bounds"
    else
      Checked.fetch input.data (ravel ((unravel offset own).set axis position.toNat) source)

/-- Pick along an axis by a tensor of positions. -/
def gatherOf : Operator := fun args => do
  let input ← floatArg args "self"
  let index ← intArg args "index"
  let axis ← resolveAxis input.sizes.length (← args.int "dim")
  if max index.sizes.length 1 ≠ max input.sizes.length 1 then
    incompatible "Index must have the same number of dims as input"
  else if !indexFits index.sizes input.sizes axis then
    incompatible "Index size must not exceed input size outside of the gathered dim"
  else
    one (← gather input axis index)

/-- The rows of a table that a tensor of positions names. -/
def embedding (weight : Tensor α) (indices : Tensor Int) : OpResult (Tensor α) :=
  match weight.sizes with
  | [rows, width] => do
    let picked ← indices.data.toList.mapM fun i => do
      let row ← resolveIndex i rows
      .ok (← Checked.window weight.data (row * width) ((row + 1) * width)).toList
    Tensor.ofData (indices.sizes ++ [width]) picked.flatten.toArray
  | _ => invalid "Embedding weight must be 2D"

/-- Pick rows of a table. -/
def embeddingOf : Operator := fun args => do
  let weight ← floatArg args "weight"
  let indices ← intArg args "indices"
  one (← embedding weight indices)

/-! ## Positions for several dimensions -/

/-- Which elements a list of index tensors picks: the sizes of the answer, and the offset of each of
its elements in the tensor that is read. -/
structure Picked where
  sizes : Sizes
  offsets : List Nat

/-- The common shape of the index tensors. -/
def indexShape (indices : List (Option (Tensor Int))) : OpResult Sizes :=
  indices.foldlM
    (fun sizes index =>
      match index with
      | none => .ok sizes
      | some index =>
        match commonShape? sizes index.sizes with
        | some sizes => .ok sizes
        | none => incompatible "Index tensors could not be broadcast together")
    []

/-- The dimensions that have an index. -/
def indexedDims (indices : List (Option (Tensor Int))) : List Nat :=
  (indices.zipIdx.filter fun entry => entry.1.isSome).map Prod.snd

/-- Does each entry follow the one before it? -/
def areAdjacent : List Nat → Bool
  | first :: second :: rest => second == first + 1 && areAdjacent (second :: rest)
  | _ => true

/-- The place of the index dimensions among those that are kept: that of the first indexed dimension
if the indexed ones are adjacent, and else the front. -/
def indexPlace (dims : List Nat) : Nat :=
  if areAdjacent dims then dims.head?.getD 0 else 0

/-- The coordinates of a source element: for an indexed dimension the position that its index gives,
for another one the next of the coordinates that are kept. -/
def sourceCoordinates (entry : Nat) :
    Sizes → List (Option (Tensor Int)) → List Nat → OpResult (List Nat)
  | [], _, _ => .ok []
  | size :: sizes, some index :: indices, kept => do
    let position ← resolveIndex (← Checked.fetch index.data entry) size
    let rest ← sourceCoordinates entry sizes indices kept
    .ok (position :: rest)
  | _ :: sizes, indices, kept => do
    let coordinate ← Checked.get kept 0
    let rest ← sourceCoordinates entry sizes (indices.drop 1) (kept.drop 1)
    .ok (coordinate :: rest)

/-- The elements that index tensors pick, one per leading dimension.  The index tensors are
stretched over each other, and their common shape stands in the place of the indexed dimensions. -/
def pickedElements (sizes : Sizes) (indices : List (Option (Tensor Int))) : OpResult Picked :=
  if sizes.length < indices.length then
    invalid "Too many indices for tensor"
  else do
    let common ← indexShape indices
    let indices ← indices.mapM fun index =>
      match index with
      | none => .ok none
      | some index => do .ok (some (← broadcastTo index common))
    let dims := indexedDims indices
    let kept := (sizes.zipIdx.filter fun entry => !dims.contains entry.2).map Prod.fst
    let front := indexPlace dims
    let leading ← Checked.slice kept 0 front
    let trailing ← Checked.slice kept front kept.length
    let picked := leading ++ common ++ trailing
    let offsets ← (List.range (elementCount picked)).mapM fun offset => do
      let index := unravel offset picked
      -- The middle of an index says which entry of the index tensors is meant, the rest what is kept.
      let entry := ravel ((index.drop front).take common.length) common
      let rest := index.take front ++ index.drop (front + common.length)
      .ok (ravel (← sourceCoordinates entry sizes indices rest) sizes)
    .ok { sizes := picked, offsets }

/-- The index tensors of a call. -/
def indexTensors (args : TensorArgs) (optional : Bool) : OpResult (List (Option (Tensor Int))) := do
  if optional then
    .ok ((← args.optTensors "indices").map fun index => index.map toInts)
  else
    .ok ((← args.tensors "indices").map fun index => some (toInts index))

/-- The elements that index tensors pick. -/
def index (input : Tensor α) (indices : List (Option (Tensor Int))) : OpResult (Tensor α) := do
  let picked ← pickedElements input.sizes indices
  let data ← picked.offsets.mapM (Checked.fetch input.data)
  Tensor.ofData picked.sizes data.toArray

/-- Pick by index tensors. -/
def indexOf : Operator := fun args => do
  let input ← floatArg args "self"
  one (← index input (← indexTensors args true))

/-- Write one value to each of a list of offsets, one after the other. -/
def writeAll (write : α → α → α) (data : Array α) (entries : List (Nat × α)) :
    OpResult (Array α) :=
  entries.foldlM
    (fun data entry => do
      Checked.store data entry.1 (write (← Checked.fetch data entry.1) entry.2))
    data

/-- Write values to the elements that index tensors pick.  Where an element is picked several times,
the writes follow each other in row-major order. -/
def indexPut (write : α → α → α) (input : Tensor α) (indices : List (Option (Tensor Int)))
    (values : Tensor α) : OpResult (Tensor α) := do
  let picked ← pickedElements input.sizes indices
  let values ← broadcastTo values picked.sizes
  let data ← writeAll write input.data (picked.offsets.zip values.data.toList)
  Tensor.ofData input.sizes data

/-- Write values to the elements that index tensors pick, or add to them. -/
def indexPutOf (optional : Bool) : Operator := fun args => do
  let input ← floatArg args "self"
  let values ← floatArg args "values"
  let accumulate ← args.bool "accumulate"
  let indices ← indexTensors args optional
  one (← indexPut (fun old new => if accumulate then old + new else new) input indices values)

/-! ## Extremes -/

section Extremes

-- Floats are compared by their bits alone, so that the elements may be whatever has the bits of a
-- float.
variable (bits : α → UInt32)

/-- The first `k` entries of a lane by rank, with their positions.  Entries of equal rank keep their
order. -/
def topEntries (largest : Bool) (k : Nat) (lane : List α) : List (α × Nat) :=
  let rank (entry : α × Nat) : Int := Single.rank (bits entry.1)
  let before (a b : α × Nat) : Bool := if largest then rank b ≤ rank a else rank a ≤ rank b
  (lane.zipIdx.mergeSort before).take k

/-- The first `k` entries of the lane through a place, each with the offset at which a table of `k`
entries per lane keeps it. -/
def laneWrites (largest : Bool) (data : Array α) (sizes : Sizes) (axis k : Nat)
    (place : List Nat) : OpResult (List (Nat × α × Nat)) := do
  let size ← Checked.get sizes axis
  let table ← Checked.set sizes axis k
  let elements ← (List.range size).mapM fun i =>
    Checked.fetch data (ravel (place.set axis i) sizes)
  .ok ((topEntries bits largest k elements).zipIdx.map fun entry =>
    (ravel (place.set axis entry.2) table, entry.1))

/-- The entries that are written for all lanes, one lane after the other.  The lanes are counted by
the elements that there are. -/
def topWrites (largest : Bool) (data : Array α) (sizes : Sizes) (axis k : Nat) :
    OpResult (List (Nat × α × Nat)) := do
  let size ← Checked.get sizes axis
  let writes ← (List.range (elementCount sizes / max size 1)).mapM fun lane =>
    laneWrites bits largest data sizes axis k (unravel lane (laneSizes sizes axis))
  .ok writes.flatten

/-- The `k` greatest or least entries along an axis, and their positions, which are written to blank
tables.  A scalar is read as a vector with one element, whose tables lose their dimension at the
end. -/
def topkAlong (blank : α) (input : Tensor α) (k : Int) (axis : Nat) (largest : Bool) :
    OpResult (Tensor α × Tensor Int) := do
  let sizes := paddedSizes 1 input.sizes
  let size ← Checked.get sizes axis
  if k < 0 ∨ (size : Int) < k then
    invalid "k is out of range"
  else
    let table ← Checked.set sizes axis k.toNat
    let writes ← topWrites bits largest input.data sizes axis k.toNat
    let values ← writeAll (fun _ new => new) (Array.replicate (elementCount table) blank)
      (writes.map fun entry => (entry.1, entry.2.1))
    let positions ← writeAll (fun _ new => new) (Array.replicate (elementCount table) 0)
      (writes.map fun entry => (entry.1, wrapInt entry.2.2))
    let output := if input.sizes.isEmpty then [] else table
    .ok (← Tensor.ofData output values, ← Tensor.ofData output positions)

/-- The `k` greatest or least entries along a dimension, and their positions. -/
def topk (blank : α) (input : Tensor α) (k dim : Int) (largest : Bool) :
    OpResult (Tensor α × Tensor Int) := do
  let axis ← resolveAxis input.sizes.length dim
  topkAlong bits blank input k axis largest

end Extremes

/-- Pick the greatest or least entries along an axis. -/
def topkOf : Operator := fun args => do
  let input ← floatArg args "self"
  let k ← args.int "k"
  let largest ← args.bool "largest"
  let dim ← args.int "dim"
  let (values, positions) ← topk Float32.toBits 0.0 input k dim largest
  many [.float values, .int positions]

/-! ## Names -/

/-- The operators that pick elements. -/
def indexTable : List (String × Operator) := [
  ("aten::select.int", selectOf),
  ("aten::slice.Tensor", sliceOf),
  ("aten::gather", gatherOf),
  ("aten::index_select", indexSelectOf),
  ("aten::index.Tensor", indexOf),
  ("aten::index_put", indexPutOf true),
  ("aten::index_put.hacked_twin", indexPutOf false),
  ("aten::embedding", embeddingOf),
  ("aten::topk", topkOf)
]

end OpShape.Operator

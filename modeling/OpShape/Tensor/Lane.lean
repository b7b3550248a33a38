/-
# `OpShape.Tensor.Lane` — the elements along one dimension.

A lane is the list of offsets that differ in one coordinate only, in the order of that coordinate.
The lanes along a dimension are numbered in row-major order of the other coordinates.  A scalar has
a single lane with its one element.
-/
import OpShape.Tensor.Offset

namespace OpShape

/-- The sizes of the tensor that has one element per lane. -/
def laneSizes (sizes : Sizes) (axis : Nat) : Sizes :=
  sizes.set axis 1

/-- The offsets of the lane of an index, whose coordinate along the axis does not matter. -/
def laneThrough (sizes : Sizes) (axis : Nat) (index : List Nat) : List Nat :=
  match sizes with
  | [] => [0]
  | _ => (List.range (sizes[axis]?.getD 0)).map fun i => ravel (index.set axis i) sizes

/-- The lanes along an axis. -/
def lanes (sizes : Sizes) (axis : Nat) : List (List Nat) :=
  let outer := laneSizes sizes axis
  (List.range (elementCount outer)).map fun lane => laneThrough sizes axis (unravel lane outer)

/-- The number of the lane of an index. -/
def laneNumber (sizes : Sizes) (axis : Nat) (index : List Nat) : Nat :=
  ravel (index.set axis 0) (laneSizes sizes axis)

namespace Tensor

variable {ε α β : Type}

/-- The elements of each lane along an axis. -/
def laneElements (tensor : Tensor α) (axis : Nat) : Checked ε (List (List α)) :=
  (lanes tensor.sizes axis).mapM fun offsets => offsets.mapM (Checked.fetch tensor.data)

/-- A tensor whose lanes along an axis are given in order. -/
def ofLanes (sizes : Sizes) (axis : Nat) (lanes : List (List α)) : Checked ε (Tensor α) :=
  let table := lanes.toArray.map List.toArray
  ofIndices sizes fun index => do
    let lane ← Checked.fetch table (laneNumber sizes axis index)
    Checked.fetch lane (index[axis]?.getD 0)

/-- Put another list of elements in the place of each lane along an axis. -/
def mapLanes (tensor : Tensor α) (axis : Nat) (f : List α → List β) : Checked ε (Tensor β) := do
  ofLanes tensor.sizes axis ((← tensor.laneElements axis).map f)

end Tensor

end OpShape

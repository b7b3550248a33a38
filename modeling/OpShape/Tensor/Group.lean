/-
# `OpShape.Tensor.Group` — reductions of tensors.

The elements of a tensor fall into groups, one per index of the dimensions that are kept.  A
reduction puts one value in the place of each group.
-/
import OpShape.Tensor.Offset

namespace OpShape

/-- The sizes with one in the place of each reduced dimension. -/
def keptSizes (axes : List Nat) (sizes : Sizes) : Sizes :=
  sizes.zipIdx.map fun entry => if axes.contains entry.2 then 1 else entry.1

/-- The sizes of the dimensions that are not reduced. -/
def remainingSizes (axes : List Nat) (sizes : Sizes) : Sizes :=
  (sizes.zipIdx.filter fun entry => !axes.contains entry.2).map Prod.fst

/-- The index of the group of an element: its own index with zero along each reduced dimension. -/
def groupIndex (axes : List Nat) (index : List Nat) : List Nat :=
  index.zipIdx.map fun entry => if axes.contains entry.2 then 0 else entry.1

namespace Tensor

variable {ε α β : Type}

/-- The elements with the number of the group of each, in row-major order. -/
def numbered (tensor : Tensor α) (axes : List Nat) : List (Nat × α) :=
  let kept := keptSizes axes tensor.sizes
  tensor.data.toList.zipIdx.map fun entry =>
    (ravel (groupIndex axes (unravel entry.2 tensor.sizes)) kept, entry.1)

/-- The groups of elements, in the order of the indices that are kept. -/
def groups (tensor : Tensor α) (axes : List Nat) : List (List α) :=
  let numbered := tensor.numbered axes
  (List.range (elementCount (keptSizes axes tensor.sizes))).map fun group =>
    (numbered.filter fun entry => entry.1 == group).map Prod.snd

/-- Put one value in the place of each group of elements along the axes.  The axes stay with size
one if `keepDims` is set.  Axes that the tensor does not have are passed over. -/
def reduce (tensor : Tensor α) (axes : List Nat) (keepDims : Bool) (f : List α → β) :
    Checked ε (Tensor β) :=
  let sizes :=
    if keepDims then keptSizes axes tensor.sizes else remainingSizes axes tensor.sizes
  ofData sizes ((tensor.groups axes).map f).toArray

end Tensor

end OpShape

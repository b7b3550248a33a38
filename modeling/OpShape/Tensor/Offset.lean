/-
# `OpShape.Tensor.Offset` — row-major positions.

An element of a tensor has an index, one coordinate per dimension, and an offset in row-major order.
`ravel` takes the one to the other and `unravel` back.
-/
import OpShape.Tensor.Basic

namespace OpShape

/-- How far apart two neighbours along each dimension lie. -/
def strides : Sizes → List Nat
  | [] => []
  | _ :: rest => elementCount rest :: strides rest

/-- The offset of an index. -/
def ravel : List Nat → Sizes → Nat
  | i :: index, _ :: rest => i * elementCount rest + ravel index rest
  | _, _ => 0

/-- The index of an offset. -/
def unravel (offset : Nat) : Sizes → List Nat
  | [] => []
  | size :: rest => offset / elementCount rest % size :: unravel offset rest

@[simp] theorem length_strides (sizes : Sizes) : (strides sizes).length = sizes.length := by
  induction sizes with
  | nil => rfl
  | cons size rest ih => simp [strides, ih]

@[simp] theorem length_unravel (offset : Nat) (sizes : Sizes) :
    (unravel offset sizes).length = sizes.length := by
  induction sizes with
  | nil => rfl
  | cons size rest ih => simp [unravel, ih]

/-- The offset of an index is the sum of its coordinates, each times its stride. -/
theorem ravel_eq_sum (index : List Nat) (sizes : Sizes) :
    ravel index sizes =
      totalSize ((index.zip (strides sizes)).map fun entry => entry.1 * entry.2) := by
  induction index generalizing sizes with
  | nil => cases sizes <;> simp [ravel, strides]
  | cons i index ih =>
    cases sizes with
    | nil => simp [ravel, strides]
    | cons size rest => simp [ravel, strides, ih]

namespace Tensor

variable {ε α : Type}

/-- The element at an index. -/
def at? (tensor : Tensor α) (index : List Nat) : Checked ε α :=
  Checked.fetch tensor.data (ravel index tensor.sizes)

/-- The tensor whose element at each offset is computed from the offset. -/
def ofOffsets (sizes : Sizes) (entry : Nat → Checked ε α) : Checked ε (Tensor α) := do
  let data ← (List.range (elementCount sizes)).mapM entry
  ofData sizes data.toArray

/-- The tensor whose element at each index is computed from the index. -/
def ofIndices (sizes : Sizes) (entry : List Nat → Checked ε α) : Checked ε (Tensor α) :=
  ofOffsets sizes fun offset => entry (unravel offset sizes)

/-- Apply a function that may break down to each element. -/
def mapChecked {β : Type} (f : α → Checked ε β) (tensor : Tensor α) : Checked ε (Tensor β) := do
  let data ← tensor.data.toList.mapM f
  ofData tensor.sizes data.toArray

/-- The same elements with other sizes. -/
def withSizes (tensor : Tensor α) (sizes : Sizes) : Checked ε (Tensor α) :=
  ofData sizes tensor.data

/-- The tensor without dimensions that holds one element. -/
def scalar (value : α) : Tensor α :=
  full [] value

/-- The tensor with one dimension that holds the elements of a list. -/
def vector (values : List α) : Tensor α where
  sizes := [values.length]
  data := values.toArray
  size_data := by simp

end Tensor

end OpShape

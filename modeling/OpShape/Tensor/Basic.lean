/-
# `OpShape.Tensor.Basic` — tensors.

A tensor is a list of sizes and its elements in row-major order.  That there are as many elements as
the sizes ask for is part of the type; whoever builds a tensor from data breaks down otherwise.
Counts of elements are natural numbers without a bound, and there is memory for any of them.
-/
import OpShape.Fault
import OpShape.Sizes

namespace OpShape

/-- Elements in row-major order, as many as the sizes ask for. -/
structure Tensor (α : Type) where
  sizes : Sizes
  data : Array α
  size_data : data.size = elementCount sizes

namespace Tensor

variable {ε α β : Type}

/-- The tensor with the given sizes and elements. -/
def ofData (sizes : Sizes) (data : Array α) : Checked ε (Tensor α) :=
  if h : data.size = elementCount sizes then .ok { sizes, data, size_data := h }
  else Checked.breakDown (.dataLength (elementCount sizes) data.size)

/-- The tensor with the given sizes whose elements are all the same. -/
def full (sizes : Sizes) (value : α) : Tensor α where
  sizes := sizes
  data := Array.replicate (elementCount sizes) value
  size_data := by simp

/-- Apply a function to each element. -/
def map (f : α → β) (tensor : Tensor α) : Tensor β where
  sizes := tensor.sizes
  data := tensor.data.map f
  size_data := by simp [tensor.size_data]

theorem ofData_of_eq {sizes : Sizes} {data : Array α} (h : data.size = elementCount sizes) :
    (ofData sizes data : Checked ε (Tensor α)) = .ok { sizes, data, size_data := h } := by
  simp [ofData, h]

@[simp] theorem sizes_map (f : α → β) (tensor : Tensor α) :
    (tensor.map f).sizes = tensor.sizes := rfl

end Tensor

/-- A tensor of floats or of integers.  Integers and truth values are both kept as integers of
thirty-two bits. -/
inductive RealTensor where
  | float (tensor : Tensor Float32)
  | int (tensor : Tensor Int)

namespace RealTensor

/-- The sizes of the tensor. -/
def sizes : RealTensor → Sizes
  | float tensor => tensor.sizes
  | int tensor => tensor.sizes

/-- The number of dimensions. -/
def rank (tensor : RealTensor) : Nat :=
  tensor.sizes.length

/-- The number of elements. -/
def count (tensor : RealTensor) : Nat :=
  elementCount tensor.sizes

/-- Are there no elements? -/
def isEmpty (tensor : RealTensor) : Bool :=
  tensor.count == 0

/-- Are the elements integers? -/
def isInt : RealTensor → Bool
  | float _ => false
  | int _ => true

/-- The elements as floats, in row-major order. -/
def floats : RealTensor → Array Float32
  | float tensor => tensor.data
  | int tensor => tensor.data.map Float32.ofInt

/-- The tensor with its elements as floats. -/
def toFloats : RealTensor → Tensor Float32
  | float tensor => tensor
  | int tensor => tensor.map Float32.ofInt

@[simp] theorem sizes_toFloats (tensor : RealTensor) : tensor.toFloats.sizes = tensor.sizes := by
  cases tensor <;> rfl

end RealTensor

end OpShape

/-
# `OpShape.Tensor.Permute` — dimensions in another order.
-/
import OpShape.Tensor.Offset

namespace OpShape.Tensor

variable {ε α : Type}

/-- The tensor with dimension `dims[i]` of the old one as its dimension `i`. -/
def permute (tensor : Tensor α) (dims : List Nat) : Checked ε (Tensor α) := do
  let sizes ← dims.mapM (Checked.get tensor.sizes)
  let weights ← dims.mapM (Checked.get (strides tensor.sizes))
  ofIndices sizes fun index =>
    Checked.fetch tensor.data (totalSize ((index.zip weights).map fun entry => entry.1 * entry.2))

end OpShape.Tensor

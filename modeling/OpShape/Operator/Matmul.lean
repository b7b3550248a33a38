/-
# `OpShape.Operator.Matmul` — products of matrices.

The product of stacks of matrices, with vectors taken as matrices of one row or one column.  The
kernel works over any elements that can be added and multiplied.
-/
import OpShape.Operator.Args
import OpShape.Operator.Broadcast

namespace OpShape.Operator

variable {α : Type}

/-! ## Kernel -/

/-- One element of the product of an `m × k` matrix that starts at offset `first` of `a` and a
`k × n` matrix that starts at offset `second` of `b`. -/
def productEntry [Scalar α] (a b : Array α) (first second k n row column : Nat) : OpResult α := do
  let terms ← (List.range k).mapM fun p => do
    let x ← Checked.fetch a (first + row * k + p)
    let y ← Checked.fetch b (second + p * n + column)
    .ok (x * y)
  .ok (Scalar.sum terms)

/-- The product of two matrices. -/
def mm [Scalar α] (a b : Tensor α) : OpResult (Tensor α) :=
  match a.sizes, b.sizes with
  | [m, k], [k', n] =>
    if k ≠ k' then
      incompatible "Columns of first matrix does not match rows of second matrix"
    else
      Tensor.ofOffsets [m, n] fun offset =>
        productEntry a.data b.data 0 0 k n (offset / n) (offset % n)
  | _, _ => invalid "mm inputs must be matrices"

/-! ## Stacks -/

/-- The sizes of the left operand of a product as a stack of matrices: its batch sizes, rows and
columns. -/
def leftMatrix? : Sizes → Option (Sizes × Nat × Nat)
  | [] => none
  | [k] => some ([], 1, k)
  | [m, k] => some ([], m, k)
  | size :: rest => (leftMatrix? rest).map fun parts => (size :: parts.1, parts.2)

/-- The sizes of the right operand of a product as a stack of matrices. -/
def rightMatrix? : Sizes → Option (Sizes × Nat × Nat)
  | [] => none
  | [k] => some ([], k, 1)
  | [k, n] => some ([], k, n)
  | size :: rest => (rightMatrix? rest).map fun parts => (size :: parts.1, parts.2)

/-- The product of two stacks of matrices, whose batch sizes stretch over each other.  The dimension
that a vector gained as a matrix is left out of the answer. -/
def matmul [Scalar α] (a b : Tensor α) : OpResult (Tensor α) :=
  match leftMatrix? a.sizes, rightMatrix? b.sizes with
  | some (leftBatch, m, k), some (rightBatch, k', n) =>
    if k ≠ k' then
      incompatible "Columns of first matrix does not match rows of second matrix"
    else
      match commonShape? leftBatch rightBatch with
      | none => incompatible "Cannot broadcast batch dims"
      | some batch => do
        let left ← broadcastTo (← a.withSizes (leftBatch ++ [m, k])) (batch ++ [m, k])
        let right ← broadcastTo (← b.withSizes (rightBatch ++ [k, n])) (batch ++ [k, n])
        let product ← Tensor.ofOffsets (batch ++ [m, n]) fun offset =>
          let matrix := offset / (m * n)
          productEntry left.data right.data (matrix * (m * k)) (matrix * (k * n)) k n
            (offset / n % m) (offset % n)
        product.withSizes (batch
          ++ (if a.sizes.length = 1 then [] else [m])
          ++ (if b.sizes.length = 1 then [] else [n]))
  | _, _ => invalid "matmul inputs must be at least 1D"

/-- The products of two stacks of as many matrices. -/
def bmm [Scalar α] (a b : Tensor α) : OpResult (Tensor α) :=
  match a.sizes, b.sizes with
  | [batch, _, _], [batch', _, _] =>
    if batch ≠ batch' then incompatible "Batch sizes do not match" else matmul a b
  | _, _ => invalid "bmm inputs must be 3D"

/-! ## Operators -/

/-- The product of two stacks of matrices. -/
def matmulOf : Operator := fun args => do
  let a ← floatArg args "self"
  let b ← floatArg args "other"
  one (← matmul a b)

/-- The product of two matrices. -/
def mmOf : Operator := fun args => do
  let a ← floatArg args "self"
  let b ← floatArg args "mat2"
  one (← mm a b)

/-- The products of two stacks of as many matrices. -/
def bmmOf : Operator := fun args => do
  let a ← floatArg args "self"
  let b ← floatArg args "mat2"
  one (← bmm a b)

/-- A matrix, or what stretches to one, plus the product of two matrices, both scaled. -/
def addmmOf : Operator := fun args => do
  let beta ← singleArg args "beta"
  let alpha ← singleArg args "alpha"
  let input ← floatArg args "self"
  let a ← floatArg args "mat1"
  let b ← floatArg args "mat2"
  let product ← mm a b
  let input ← broadcastTo input product.sizes
  one (← zip2 input product fun x y => beta * x + alpha * y)

/-- The matrix with its rows as columns; a vector or scalar as it is. -/
def transposed (weight : Tensor α) : OpResult (Tensor α) :=
  match weight.sizes with
  | [] | [_] => .ok weight
  | [rows, columns] =>
    Tensor.ofOffsets [columns, rows] fun offset =>
      Checked.fetch weight.data (offset % rows * columns + offset / rows)
  | _ => invalid "linear weight must be at most 2D"

/-- The product of an input and a transposed weight, plus a bias if there is one. -/
def linearOf : Operator := fun args => do
  let input ← floatArg args "input"
  let weight ← transposed (← floatArg args "weight")
  let output ← matmul input weight
  match ← optFloatArg args "bias" with
  | none => one output
  | some bias =>
    let bias ← broadcastTo bias output.sizes
    one (← zip2 output bias fun x b => x + b)

/-! ## Names -/

/-- The operators on matrices. -/
def matmulTable : List (String × Operator) := [
  ("aten::matmul", matmulOf),
  ("aten::mm", mmOf),
  ("aten::bmm", bmmOf),
  ("aten::addmm", addmmOf),
  ("aten::linear", linearOf)
]

end OpShape.Operator

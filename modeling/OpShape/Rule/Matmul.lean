/-
# `OpShape.Rule.Matmul` — matrix products.

A vector takes part in a product as a matrix with one row or one column, which is dropped from the
result.  Dimensions in front of the last two are batches, which stretch over each other.
-/
import OpShape.Rule.Broadcast
import OpShape.Rule.Layout

namespace OpShape.Rule

/-- The shape of the product of two matrices. -/
def mm (a b : Sizes) : ShapeResult Sizes :=
  match a with
  | [m, k] =>
    match b with
    | [k', n] =>
      if k ≠ k' then incompatible "mm: lhs columns must match rhs rows" else .ok [m, n]
    | _ => wrongRank "mm: rhs must be a matrix"
  | _ => wrongRank "mm: lhs must be a matrix"

/-- The shape of the products of two batches of matrices of the same length. -/
def bmm (a b : Sizes) : ShapeResult Sizes :=
  match a with
  | [batch, m, k] =>
    match b with
    | [batch', k', n] =>
      if batch ≠ batch' then incompatible "bmm: batch sizes must match"
      else if k ≠ k' then incompatible "bmm: lhs columns must match rhs rows"
      else .ok [batch, m, n]
    | _ => wrongRank "bmm: rhs must be a 3D tensor"
  | _ => wrongRank "bmm: lhs must be a 3D tensor"

/-- The batch sizes, the rows and the columns of a left operand; a vector has no rows of its own. -/
def leftView (shape : Sizes) : ShapeResult (Sizes × Option Nat × Nat) :=
  match shape.reverse with
  | [] => wrongRank "matmul: lhs must be at least 1D"
  | [k] => .ok ([], none, k)
  | k :: m :: batch => .ok (batch.reverse, some m, k)

/-- The batch sizes, the rows and the columns of a right operand; a vector has no columns of its
own. -/
def rightView (shape : Sizes) : ShapeResult (Sizes × Nat × Option Nat) :=
  match shape.reverse with
  | [] => wrongRank "matmul: rhs must be at least 1D"
  | [k] => .ok ([], k, none)
  | n :: k :: batch => .ok (batch.reverse, k, some n)

/-- The shape of a product with at least one operand of more than two dimensions. -/
def batchedMatmul (a b : Sizes) : ShapeResult Sizes := do
  let (aBatch, rows, aCols) ← leftView a
  let (bBatch, bRows, cols) ← rightView b
  if aCols ≠ bRows then
    incompatible "matmul: lhs columns must match rhs rows"
  else
    match broadcast aBatch bBatch with
    | .ok batch => .ok (batch ++ rows.toList ++ cols.toList)
    | .error (.error _) => incompatible "matmul: batch dims must broadcast"
    | .error (.fault cause) => Checked.breakDown cause

/-- The shape of a product of vectors, matrices and batches of matrices. -/
def matmul (a b : Sizes) : ShapeResult Sizes :=
  match a, b with
  | [k], [k'] => if k ≠ k' then incompatible "matmul: vector lengths must match" else .ok []
  | [m, k], [k'] =>
    if k ≠ k' then incompatible "matmul: lhs columns must match vector length" else .ok [m]
  | [k], [k', n] =>
    if k ≠ k' then incompatible "matmul: vector length must match rhs rows" else .ok [n]
  | [_, _], [_, _] => mm a b
  | _, _ => batchedMatmul a b

/-- The shape of a matrix that is added to the product of two others. -/
def addmm (input m1 m2 : Sizes) : ShapeResult Sizes := do
  let output ← mm m1 m2
  if stretchesOver input output then .ok output
  else incompatible "addmm: input must broadcast to the product shape"

/-- The shape of a product with the transpose of `weight`, to which a bias may be added. -/
def linear (input weight : Sizes) (bias : Option Sizes) : ShapeResult Sizes := do
  let output ← matmul input (← transpose2d weight)
  match bias with
  | some bias =>
    if stretchesOver bias output then .ok output
    else incompatible "linear: bias must broadcast to the output shape"
  | none => .ok output

end OpShape.Rule

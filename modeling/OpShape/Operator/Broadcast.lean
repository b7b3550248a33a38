/-
# `OpShape.Operator.Broadcast` — tensors that stretch over each other.

Shapes are compared from their last dimensions on.  A dimension of size one, or one that is missing,
is repeated as often as the other operand asks for.
-/
import OpShape.Operator.Error
import OpShape.Tensor.Offset

namespace OpShape.Operator

variable {α β : Type}

/-- The common shape of two shapes that are given with their last dimension first. -/
def commonReversed : Sizes → Sizes → Option Sizes
  | [], b => some b
  | a, [] => some a
  | x :: a, y :: b => do
    let size ← if x = y then some x else if x = 1 then some y else if y = 1 then some x else none
    let sizes ← commonReversed a b
    some (size :: sizes)

/-- The common shape of two shapes. -/
def commonShape? (a b : Sizes) : Option Sizes :=
  (commonReversed a.reverse b.reverse).map List.reverse

/-- The index of the element that is repeated at an index of the wider shape. -/
def sourceIndex (source : Sizes) (index : List Nat) : List Nat :=
  let own := index.drop (index.length - source.length)
  (source.zip own).map fun entry => if entry.1 = 1 then 0 else entry.2

/-- The tensor with its elements repeated to fill a shape. -/
def broadcastTo (tensor : Tensor α) (sizes : Sizes) : OpResult (Tensor α) :=
  if sizes.length < tensor.sizes.length then
    incompatible "Cannot broadcast to a shape with fewer dims"
  else
    let aligned := sizes.drop (sizes.length - tensor.sizes.length)
    if (tensor.sizes.zip aligned).all fun entry => entry.1 == entry.2 || entry.1 == 1 then
      Tensor.ofIndices sizes fun index => tensor.at? (sourceIndex tensor.sizes index)
    else
      incompatible "Cannot broadcast input"

/-- Refuse unless shapes have a common one. -/
def requireCommon : Option Sizes → OpResult Sizes
  | some sizes => .ok sizes
  | none => incompatible "Cannot broadcast inputs"

/-- Combine the elements of two tensors after repeating them to a common shape. -/
def zip2 {γ : Type} (a : Tensor α) (b : Tensor β) (f : α → β → γ) : OpResult (Tensor γ) := do
  let sizes ← requireCommon (commonShape? a.sizes b.sizes)
  let a ← broadcastTo a sizes
  let b ← broadcastTo b sizes
  Tensor.ofData sizes (Array.zipWith f a.data b.data)

/-- Combine the elements of three tensors after repeating them to a common shape. -/
def zip3 {γ : Type} (a b c : Tensor α) (f : α → α → α → γ) : OpResult (Tensor γ) := do
  let sizes ← requireCommon do commonShape? (← commonShape? a.sizes b.sizes) c.sizes
  let a ← broadcastTo a sizes
  let b ← broadcastTo b sizes
  let c ← broadcastTo c sizes
  Tensor.ofData sizes
    (Array.zipWith (fun pair z => f pair.1 pair.2 z) (Array.zip a.data b.data) c.data)

end OpShape.Operator

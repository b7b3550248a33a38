/-
# `OpShape.Operator.Loss` — the negative log likelihood loss.

The input holds a logarithm of a probability per class, for one item or a batch of them.  The loss
of an item is the logarithm at its target class, weighted and negated; one class may be ignored.
-/
import OpShape.Operator.Args
import OpShape.Operator.Index

namespace OpShape.Operator

/-- What is made of the losses of a batch. -/
inductive LossReduction where
  | none
  | mean
  | sum
  deriving DecidableEq, Repr

/-- The reduction that a code stands for. -/
def LossReduction.ofCode (code : Int) : OpResult LossReduction :=
  if code = 0 then .ok none
  else if code = 1 then .ok mean
  else if code = 2 then .ok sum
  else invalid "Invalid reduction"

/-- The target class of an item with that class's weight, or none for an item that is ignored. -/
abbrev LossTarget := Option (Nat × Float32)

/-- The operands of a loss, once they are known to fit each other. -/
structure Loss where
  input : Tensor Float32
  classes : Nat
  targets : List LossTarget
  reduction : LossReduction

/-- The number of classes of an input that goes with a target. -/
def lossClasses (input target : Sizes) : OpResult Nat :=
  let fits (classes batch : Nat) : OpResult Nat :=
    if target.head? = some batch then .ok classes
    else incompatible "Input and target batch sizes must match"
  match input with
  | [classes] =>
    if 1 < target.length then invalid "Target must be 0D or 1D"
    else if target.isEmpty then .ok classes
    else fits classes classes
  | [batch, classes] =>
    if 1 < target.length then invalid "Target must be 0D or 1D" else fits classes batch
  | _ => invalid "Input must be 1D or 2D"

/-- A target class with its weight. -/
def lossTarget (weights : Option (Tensor Float32)) (classes : Nat) (ignored target : Int) :
    OpResult LossTarget :=
  if target = ignored then .ok none
  else if target < 0 ∨ (classes : Int) ≤ target then invalid "Target is out of bounds"
  else
    match weights with
    | some weights => do .ok (some (target.toNat, ← Checked.fetch weights.data target.toNat))
    | none => .ok (some (target.toNat, 1.0))

/-- The operands of a call. -/
def Loss.ofArgs (args : TensorArgs) : OpResult Loss := do
  let input ← floatArg args "self"
  let target ← intArg args "target"
  let classes ← lossClasses input.sizes target.sizes
  let weights ← optFloatArg args "weight"
  if weights.any fun weights =>
      1 < weights.sizes.length || elementCount weights.sizes != classes then
    incompatible "Weight must have one element per class"
  else
    let reduction ← LossReduction.ofCode (← args.int "reduction")
    let ignored ← args.int "ignore_index"
    let targets ← target.data.toList.mapM (lossTarget weights classes ignored)
    .ok { input, classes, targets, reduction }

namespace Loss

/-- The weight of an item; zero for one that is ignored. -/
def weightOf : LossTarget → Float32
  | some target => target.2
  | none => 0.0

/-- The sum of the weights of all items. -/
def totalWeight (loss : Loss) : Float32 :=
  Scalar.sum (loss.targets.map weightOf)

/-- Is the input a batch? -/
def isBatch (loss : Loss) : Bool :=
  loss.input.sizes.length == 2

/-- The loss of each item. -/
def items (loss : Loss) : OpResult (List Float32) :=
  loss.targets.zipIdx.mapM fun entry =>
    match entry.1 with
    | some target => do
      let x ← Checked.fetch loss.input.data (entry.2 * loss.classes + target.1)
      .ok (-target.2 * x)
    | none => .ok 0.0

/-- The sizes of the losses of all items. -/
def itemSizes (loss : Loss) : Sizes :=
  if loss.isBatch then [loss.targets.length] else []

/-- The losses, reduced as asked for. -/
def value (loss : Loss) : OpResult (Tensor Float32) := do
  let items ← loss.items
  match loss.reduction with
  | .none => Tensor.ofData loss.itemSizes items.toArray
  | .sum => .ok (.scalar (Scalar.sum items))
  | .mean => .ok (.scalar (Scalar.sum items / loss.totalWeight))

/-- The incoming slope of each item. -/
def itemSlopes (loss : Loss) (grad : Tensor Float32) : OpResult (List Float32) :=
  if loss.reduction = .none ∧ loss.isBatch then
    if grad.sizes = [loss.targets.length] then .ok grad.data.toList
    else incompatible "Gradient must have the shape of the loss"
  else if elementCount grad.sizes ≠ 1 then
    incompatible "Gradient must have a single element"
  else do
    let slope ← Checked.fetch grad.data 0
    let slope := if loss.reduction = .mean then slope / loss.totalWeight else slope
    .ok (loss.targets.map fun _ => slope)

/-- The slope of the loss at its input. -/
def slope (loss : Loss) (grad : Tensor Float32) : OpResult (Tensor Float32) := do
  let slopes ← loss.itemSlopes grad
  let entries := (loss.targets.zip slopes).zipIdx.filterMap fun entry =>
    entry.1.1.map fun target => (entry.2 * loss.classes + target.1, -target.2 * entry.1.2)
  let blank := Array.replicate (elementCount loss.input.sizes) 0.0
  Tensor.ofData loss.input.sizes (← writeAll (fun _ new => new) blank entries)

end Loss

/-- The loss, and the sum of the weights of all items. -/
def lossOf : Operator := fun args => do
  let loss ← Loss.ofArgs args
  many [.float (← loss.value), .float (.scalar loss.totalWeight)]

/-- The slope of the loss at its input. -/
def lossBackwardOf : Operator := fun args => do
  let loss ← Loss.ofArgs args
  let total ← floatArg args "total_weight"
  if elementCount total.sizes ≠ 1 then
    incompatible "Total weight must have a single element"
  else
    one (← loss.slope (← floatArg args "grad_output"))

/-! ## Names -/

/-- The loss operators. -/
def lossTable : List (String × Operator) := [
  ("aten::nll_loss_forward", lossOf),
  ("aten::nll_loss_backward", lossBackwardOf)
]

end OpShape.Operator

/-
# `OpShape.Builtin.Loss` — shape functions of losses.

The negative log likelihood of target classes, for one sample or a batch of them, each by itself or
made into one number.
-/
import OpShape.Builtin.Entry

namespace OpShape.Builtin

open Rule

/-! ## Shapes -/

/-- The batch size and the number of classes of an input, whose target has one class per sample.
A single sample has the number of its classes in the place of a batch size. -/
def lossOperands (input target : Sizes) : ShapeResult (Nat × Nat) := do
  if input.isEmpty ∨ 2 < input.length then
    wrongRank "input tensor should be 1D or 2D"
  else if 1 < target.length then
    wrongRank "0D or 1D target tensor expected, multi-target not supported"
  else
    let first ← Checked.get input 0
    if !(input.length == 1 && target.isEmpty) && target.head? ≠ some first then
      incompatible "input and target batch sizes must match"
    else
      .ok (first, ← Checked.get input (← Checked.sub input.length 1))

/-- Refuse weights of which there is not one per class. -/
def checkClassWeights (weight : Option Sizes) (classes : Nat) : ShapeResult Unit :=
  match weight with
  | some weight =>
    if 1 < weight.length ∨ elementCount weight ≠ classes then
      incompatible "weight tensor should be defined either for all classes or no classes"
    else
      .ok ()
  | none => .ok ()

/-- The shape of a loss: one number, or without reduction one per sample of a batch. -/
def lossShape (args : ShapeArgs) : ShapeResult Sizes := do
  let input ← args.tensor "self"
  let target ← args.tensor "target"
  let (first, classes) ← lossOperands input target
  checkClassWeights (← args.optTensor "weight") classes
  match ← args.int "reduction" with
  | 0 => .ok (if input.length = 2 then [first] else [])
  | 1 | 2 => .ok []
  | _ => invalid "invalid reduction"

/-- The shapes of a loss and of the total weight. -/
def nllLoss (args : ShapeArgs) : ShapeResult (List Sizes) := do
  .ok [← lossShape args, []]

/-- Does a gradient have the shape of the loss?  One element will do for one number. -/
def fitsLoss (gradient loss : Sizes) : Bool :=
  if loss.isEmpty then elementCount gradient == 1 else gradient == loss

/-- The shape of the gradient of a loss, which is that of the input. -/
def nllLossGradient (args : ShapeArgs) : ShapeResult Sizes := do
  let loss ← lossShape args
  if !fitsLoss (← args.tensor "grad_output") loss then
    incompatible "grad_output must have the shape of the loss"
  else if elementCount (← args.tensor "total_weight") ≠ 1 then
    incompatible "expected a single element total_weight tensor"
  else
    .ok (← args.tensor "self")

/-! ## Entries -/

/-- Losses. -/
def lossFamily : List ShapeFunction := [
  entry (aten "nll_loss_forward")
    [param "self" .tensor, param "target" .tensor, param "weight" .optTensor,
     param "reduction" .int, param "ignore_index" .int] 2
    (many nllLoss) [
      .ok [floats [2, 3], longs [2], .none, .int 1, .int (-100)],
      .ok [floats [3], longs [], .none, .int 1, .int (-100)],
      .ok [floats [2, 3], longs [2], floats [3], .int 0, .int (-100)],
      .fails [floats [2, 3], longs [3], .none, .int 1, .int (-100)],
      .fails [floats [2, 3], longs [2], floats [2], .int 2, .int (-100)]],
  entry (aten "nll_loss_backward")
    [param "grad_output" .tensor, param "self" .tensor, param "target" .tensor,
     param "weight" .optTensor, param "reduction" .int, param "ignore_index" .int,
     param "total_weight" .tensor] 1
    (one nllLossGradient) [
      .ok [floats [], floats [2, 3], longs [2], .none, .int 1, .int (-100), floats []],
      .ok [floats [2], floats [2, 3], longs [2], .none, .int 0, .int (-100), floats []],
      .fails [floats [3], floats [2, 3], longs [2], .none, .int 0, .int (-100), floats []]]]

end OpShape.Builtin

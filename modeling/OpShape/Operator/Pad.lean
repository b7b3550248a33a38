/-
# `OpShape.Operator.Pad` — operators that pad or crop the last dimensions.

Each position of a padded dimension is read from a position of the input's dimension, or holds the
fill value.  The four ways to pad differ only in where they read from.
-/
import OpShape.Operator.Args
import OpShape.Tensor.Offset

namespace OpShape.Operator

variable {α : Type}

/-! ## Where a position is read from -/

/-- What stands around a padded dimension. -/
inductive Padding where
  /-- A fill value. -/
  | constant
  /-- The elements in reverse, the border element not being repeated. -/
  | reflect
  /-- The border element. -/
  | replicate
  /-- The elements from the other end on. -/
  | circular
  deriving DecidableEq, Repr

/-- The position of the input's dimension that a position is read from, if there is one.  Positions
are counted from the input's first element. -/
def Padding.source (padding : Padding) (position size : Int) : OpResult (Option Int) :=
  if 0 ≤ position ∧ position < size then .ok (some position)
  else
    match padding with
    | constant => .ok none
    | reflect => .ok (some (if position < 0 then -position else 2 * (size - 1) - position))
    | replicate => do .ok (some (← Checked.clamp 0 (size - 1) position))
    | circular => do
      if size = 0 then Checked.breakDown .divisionByZero
      else .ok (some (position % size))

/-! ## Plans -/

/-- A dimension with the elements that are added, or taken away, at either end. -/
structure PaddedDim where
  size : Nat
  before : Int
  after : Int
  /-- Does the list of pads name the dimension? -/
  isPadded : Bool

/-- The size after padding. -/
def PaddedDim.padded (dim : PaddedDim) : Int :=
  signed dim.size + dim.before + dim.after

/-- The number of positions that are added in front and behind. -/
def PaddedDim.added (dim : PaddedDim) : Int × Int :=
  (max dim.before 0, max dim.after 0)

/-- The pair of pads of a dimension: pairs are listed from the last dimension on. -/
def padPair (pads : List Int) (pair : Nat) : OpResult (Int × Int) := do
  .ok (← Checked.get pads (pair * 2), ← Checked.get pads (pair * 2 + 1))

/-- A dimension of a tensor with its pads. -/
def padDim (pads : List Int) (rank : Nat) (size axis : Nat) : OpResult PaddedDim := do
  let pair := rank - 1 - axis
  if pair < pads.length / 2 then
    let (before, after) ← padPair pads pair
    .ok { size, before, after, isPadded := true }
  else
    .ok { size, before := 0, after := 0, isPadded := false }

/-- Refuse what a way to pad cannot do with a dimension. -/
def requirePaddable (padding : Padding) (dim : PaddedDim) : OpResult Unit :=
  let size := signed dim.size
  let (before, after) := dim.added
  if dim.padded < 0 then
    invalid "Padded size is negative"
  else if !dim.isPadded then
    .ok ()
  else
    match padding with
    | .reflect =>
      if size ≤ before ∨ size ≤ after then
        invalid "Reflect padding must be smaller than the input dim"
      else .ok ()
    | .circular =>
      if size < before ∨ size < after then
        invalid "Circular padding must not exceed the input dim"
      else .ok ()
    | .replicate => if size = 0 then invalid "Cannot replicate an empty dim" else .ok ()
    | .constant => .ok ()

/-- The dimensions of a tensor with their pads. -/
def padPlan (padding : Padding) (sizes : Sizes) (pads : List Int) : OpResult (List PaddedDim) := do
  let rank := sizes.length
  let padded := pads.length / 2
  if pads.length % 2 ≠ 0 then
    invalid "Padding length must be even"
  else if rank < padded then
    invalid "Padding has more pairs than input dims"
  else if padding ≠ .constant ∧ (3 < padded ∨ rank < padded + 1 ∨ padded + 2 < rank) then
    unsupported "Non-constant padding needs 1 or 2 unpadded leading dims"
  else
    sizes.zipIdx.mapM fun entry => do
      let dim ← padDim pads rank entry.1 entry.2
      requirePaddable padding dim
      .ok dim

/-- The coordinates that an index of the answer is read from, if all of them have a source. -/
def padSource (padding : Padding) :
    List PaddedDim → List Nat → OpResult (Option (List Nat))
  | dim :: dims, i :: index => do
    match ← padding.source ((i : Int) - dim.before) (signed dim.size) with
    | none => .ok none
    | some position =>
      let rest ← padSource padding dims index
      .ok (rest.map fun rest => position.toNat :: rest)
  | _, _ => .ok (some [])

/-- Pad or crop the last dimensions of a tensor. -/
def padTensor (padding : Padding) (fill : α) (input : Tensor α) (pads : List Int) :
    OpResult (Tensor α) := do
  let plan ← padPlan padding input.sizes pads
  Tensor.ofIndices (plan.map fun dim => dim.padded.toNat) fun index => do
    match ← padSource padding plan index with
    | some source => input.at? source
    | none => .ok fill

/-! ## Operators -/

/-- The way to pad that a call names, and its fill value. -/
def paddingArg (args : TensorArgs) : OpResult (Padding × Float32) := do
  match ← args.str "mode" with
  | "constant" => .ok (.constant, ((← args.optFloat "value").getD 0.0).toFloat32)
  | "reflect" => .ok (.reflect, 0.0)
  | "replicate" => .ok (.replicate, 0.0)
  | "circular" => .ok (.circular, 0.0)
  | _ => invalid "Unrecognized padding mode"

/-- Pad with a number. -/
def constantPadOf : Operator := fun args => do
  let input ← floatArg args "self"
  let value ← singleArg args "value"
  one (← padTensor .constant value input (← args.ints "pad"))

/-- Pad in the way that a call names. -/
def padOf : Operator := fun args => do
  let (padding, fill) ← paddingArg args
  let input ← floatArg args "self"
  one (← padTensor padding fill input (← args.ints "pad"))

/-! ## Names -/

/-- The operators that pad. -/
def padTable : List (String × Operator) := [
  ("aten::constant_pad_nd", constantPadOf),
  ("aten::pad", padOf)
]

end OpShape.Operator

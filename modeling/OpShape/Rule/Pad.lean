/-
# `OpShape.Rule.Pad` — adding elements at the ends of dimensions.

Pads come in pairs, one before and one after, for the last dimension first.  A negative pad takes
elements away.
-/
import OpShape.Rule.Basic

namespace OpShape

/-- What the added elements are. -/
inductive PadMode where
  /-- One given value. -/
  | constant
  /-- The elements in reverse, the outermost one not being repeated. -/
  | reflect
  /-- The outermost element again. -/
  | replicate
  /-- The elements from the other end. -/
  | circular
  deriving DecidableEq, Repr

/-- The mode of a name. -/
def PadMode.ofName? : String → Option PadMode
  | "constant" => some constant
  | "reflect" => some reflect
  | "replicate" => some replicate
  | "circular" => some circular
  | _ => none

namespace Rule

/-- The mode of a name, which must have one. -/
def padMode (name : String) : ShapeResult PadMode :=
  match PadMode.ofName? name with
  | some mode => .ok mode
  | none => invalid "unrecognized padding mode"

/-- The pads of each dimension, the last dimension first: up to two of them at a time. -/
def padChunks : List Int → List (List Int)
  | before :: after :: rest => [before, after] :: padChunks rest
  | [before] => [[before]]
  | [] => []

/-- The pad before a dimension and the one after it. -/
def padPair (chunk : List Int) : ShapeResult (Int × Int) := do
  .ok (← Checked.get chunk 0, ← Checked.get chunk 1)

/-- Pad the dimension that lies so many places in front of the last one. -/
def padDim (output : Sizes) (entry : (Int × Int) × Nat) : ShapeResult Sizes := do
  let dim ← Checked.sub output.length (entry.2 + 1)
  let padded := signed (← Checked.get output dim) + entry.1.1 + entry.1.2
  if padded < 0 then invalid "padded dimension would have negative size"
  else Checked.set output dim padded.toNat

/-- The shape with pads at its last dimensions. -/
def pad (shape : Sizes) (pads : List Int) : ShapeResult Sizes := do
  if pads.length % 2 ≠ 0 then
    invalid "padding length must be divisible by 2"
  else if shape.length < pads.length / 2 then
    invalid "padding length too large for input rank"
  else
    (padChunks pads).zipIdx.foldlM
      (fun output entry => do padDim output (← padPair entry.1, entry.2)) shape

/-- Does a dimension of this size have the elements that its pads are taken from? -/
def padFits (mode : PadMode) (size before after : Int) : Bool :=
  let before := max before 0
  let after := max after 0
  match mode with
  | .constant => true
  | .reflect => before < size && after < size
  | .replicate => 0 < size
  | .circular => before ≤ size && after ≤ size

/-- Refuse pads that ask for more elements than a dimension has. -/
def checkPadFits (shape : Sizes) (mode : PadMode) (entry : (Int × Int) × Nat) :
    ShapeResult Unit := do
  let dim ← Checked.sub shape.length (entry.2 + 1)
  let size := signed (← Checked.get shape dim)
  if padFits mode size entry.1.1 entry.1.2 then .ok ()
  else invalid "padding is too large for the input dim"

/-- The shape with pads of a mode.  All modes but the constant one pad at most three dimensions and
leave one or two in front of them alone. -/
def padWithMode (shape : Sizes) (pads : List Int) (mode : PadMode) : ShapeResult Sizes := do
  let output ← pad shape pads
  if mode = .constant then
    .ok output
  else
    let padded := pads.length / 2
    if 3 < padded ∨ shape.length < padded + 1 ∨ padded + 2 < shape.length then
      wrongRank "non-constant padding needs 1 or 2 unpadded leading dims"
    else
      (padChunks pads).zipIdx.forM fun entry => do
        checkPadFits shape mode (← padPair entry.1, entry.2)
      .ok output

end Rule

end OpShape

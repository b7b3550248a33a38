/-
# `OpShape.Rule.Index` — selecting elements by position.

Single positions, ranges with a step, and positions that are given by other tensors.
-/
import OpShape.Rule.Broadcast

namespace OpShape.Rule

/-! ## Positions and ranges -/

/-- The shape of one position of a dimension, which disappears. -/
def select (shape : Sizes) (dim index : Int) : ShapeResult Sizes := do
  if shape.isEmpty then
    wrongRank "select() cannot be applied to a 0-dim tensor"
  else
    let dim ← resolveDim dim shape.length
    let _ ← resolveIndex index (← Checked.get shape dim)
    Checked.eraseIdx shape dim

/-- A bound of a range, counted from the end if negative, moved to the nearest one in range. -/
def clampBound (size index : Int) : ShapeResult Int :=
  Checked.clamp 0 size (if index < 0 then index + size else index)

/-- The shape of every `step`-th position of a range in a dimension.  Bounds out of range are moved
to the nearest ones in range, so that a range may be empty. -/
def slice (shape : Sizes) (dim : Int) (start stop : Option Int) (step : Int) :
    ShapeResult Sizes := do
  if shape.isEmpty then
    wrongRank "slice() cannot be applied to a 0-dim tensor"
  else if step ≤ 0 then
    invalid "slice step must be positive"
  else
    let dim ← resolveDim dim shape.length
    let size := signed (← Checked.get shape dim)
    let start ← clampBound size (start.getD 0)
    let stop := max (← clampBound size (stop.getD size)) start
    let length ←
      if stop = start then pure 0 else do pure ((← Checked.tdiv (stop - start - 1) step) + 1)
    Checked.set shape dim length.toNat

/-- The shapes of the `k` greatest or least entries along a dimension, and of their positions. -/
def topk (shape : Sizes) (k dim : Int) : ShapeResult (Sizes × Sizes) := do
  let dim ← resolveDim dim shape.length
  let size := shape[dim]?.getD 1
  if k < 0 ∨ size < k.toNat then
    invalid "selected index k out of range"
  else if shape.isEmpty then
    .ok (shape, shape)
  else
    let output ← Checked.set shape dim k.toNat
    .ok (output, output)

/-! ## Positions given by tensors -/

/-- The shape of elements that are picked along a dimension, one for each entry of an index. -/
def gather (shape : Sizes) (dim : Int) (index : Sizes) : ShapeResult Sizes := do
  if max index.length 1 ≠ max shape.length 1 then
    wrongRank "index tensor must have the same number of dimensions as input tensor"
  else
    let dim ← resolveDim dim shape.length
    if (shape.zip index).zipIdx.all fun entry => entry.2 == dim || entry.1.2 ≤ entry.1.1 then
      .ok index
    else
      incompatible "index size must not exceed input size outside of gather dim"

/-- The shape of the entries of a dimension that a vector or a scalar of positions selects. -/
def indexSelect (shape : Sizes) (dim : Int) (index : Sizes) : ShapeResult Sizes := do
  if 1 < index.length then
    wrongRank "index_select(): index must be a vector or scalar"
  else
    let dim ← resolveDim dim shape.length
    let count := elementCount index
    if shape.isEmpty then
      if count ≠ 1 then invalid "index_select(): index to scalar can have only 1 value"
      else .ok []
    else
      Checked.set shape dim count

/-- The dimensions that carry an index. -/
def indexedDims (indices : List (Option Sizes)) : List Nat :=
  (indices.zipIdx.filter fun entry => entry.1.isSome).map Prod.snd

/-- The common shape of all index tensors. -/
def indexShape (indices : List (Option Sizes)) : ShapeResult Sizes :=
  (indices.filterMap id).foldlM
    (fun common index =>
      match broadcast common index with
      | .ok shape => .ok shape
      | .error (.error _) => incompatible "index tensors could not be broadcast together"
      | .error (.fault cause) => Checked.breakDown cause)
    []

/-- The sizes of the dimensions that carry no index. -/
def keptSizes (shape : Sizes) (indices : List (Option Sizes)) : Sizes :=
  (shape.zipIdx.filter fun entry => (indices[entry.2]?.getD none).isNone).map Prod.fst

/-- The shape of indexing dimensions by tensors.  The common shape of the index tensors takes the
place of the indexed dimensions if these are neighbours, and otherwise comes first. -/
def advancedIndex (shape : Sizes) (indices : List (Option Sizes)) : ShapeResult Sizes := do
  if shape.length < indices.length then
    wrongRank "too many indices for tensor"
  else
    let indexed := indexedDims indices
    match indexed.head?, indexed.getLast? with
    | some first, some last =>
      let common ← indexShape indices
      -- Indexed dimensions are neighbours if there are as many as from the first to the last one.
      if (← Checked.sub last first) + 1 = indexed.length then
        .ok ((← Checked.slice shape 0 first) ++ common ++
          (← Checked.slice shape (last + 1) shape.length))
      else
        .ok (common ++ keptSizes shape indices)
    | _, _ => .ok shape

/-- The shape of rows that are looked up in a table. -/
def embedding (weight indices : Sizes) : ShapeResult Sizes :=
  match weight with
  | [_, width] => .ok (indices ++ [width])
  | _ => wrongRank "embedding weight must be 2-D"

end OpShape.Rule

/-
# `OpShape.Rule.Reduce` — reductions over dimensions.

A reduced dimension disappears, or stays with size one where that is asked for.  No dimension may be
named twice, and naming none means all of them.
-/
import OpShape.Rule.Basic

namespace OpShape.Rule

/-- Mark a dimension as reduced.  A scalar has nothing to mark. -/
def markReduced (rank : Nat) (marks : List Bool) (dim : Int) : ShapeResult (List Bool) := do
  let dim ← resolveDim dim rank
  if rank = 0 then
    .ok marks
  else if ← Checked.get marks dim then
    invalid "dim appears multiple times in the list of dims"
  else
    Checked.set marks dim true

/-- What remains of a dimension. -/
def reducedSize (keepdim : Bool) (size : Nat) (reduced : Bool) : Option Nat :=
  if !reduced then some size else if keepdim then some 1 else none

/-- The shape of a reduction over several dimensions, or over all of them if none is named. -/
def reduceDims (shape : Sizes) (dims : List Int) (keepdim : Bool) : ShapeResult Sizes := do
  let marks ← dims.foldlM (markReduced shape.length) (List.replicate shape.length dims.isEmpty)
  .ok ((shape.zip marks).filterMap fun entry => reducedSize keepdim entry.1 entry.2)

/-- The shape of a reduction over one dimension. -/
def reduceDim (shape : Sizes) (dim : Int) (keepdim : Bool) : ShapeResult Sizes :=
  reduceDims shape [dim] keepdim

end OpShape.Rule

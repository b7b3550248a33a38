/-
# `OpShape.Rule.Broadcast` — shapes that stretch over each other.

Shapes are aligned at their last dimensions, and a missing leading dimension counts as size one.  A
size of one stretches to the other size; any other two sizes must be equal.
-/
import OpShape.Rule.Basic

namespace OpShape.Rule

/-- The shape with as many leading ones as it takes to reach a rank. -/
def padRank (rank : Nat) (shape : Sizes) : ShapeResult Sizes := do
  .ok (List.replicate (← Checked.sub rank shape.length) 1 ++ shape)

/-- The common size of two aligned dimensions. -/
def commonSize (a b : Nat) : ShapeResult Nat :=
  if a = b then .ok a
  else if a = 1 then .ok b
  else if b = 1 then .ok a
  else incompatible "sizes must be equal or 1 at each non-singleton dimension"

/-- The smallest shape over which both shapes stretch. -/
def broadcast (a b : Sizes) : ShapeResult Sizes := do
  let rank := max a.length b.length
  let a ← padRank rank a
  let b ← padRank rank b
  (a.zip b).mapM fun sizes => commonSize sizes.1 sizes.2

/-- The smallest shape over which three shapes stretch. -/
def broadcast3 (a b c : Sizes) : ShapeResult Sizes := do
  broadcast (← broadcast a b) c

/-- The size that a dimension gets when it is asked to stretch to `target`; there is no current
size for a new leading dimension. -/
def expandedSize (current : Option Nat) (target : Int) : ShapeResult Nat :=
  match current with
  | none =>
    if target = -1 then invalid "size -1 is not allowed for new leading dimensions"
    else if target < 0 then invalid "expanded size must be non-negative"
    else .ok target.toNat
  | some size =>
    if target = -1 then .ok size
    else if target < 0 then invalid "expanded size must be non-negative"
    else if signed size = target then .ok size
    else if size = 1 then .ok target.toNat
    else incompatible "expanded size must match existing size at non-singleton dimension"

/-- The size of the dimension at a place behind `offset` new ones; a new one has no size so far. -/
def currentSize (shape : Sizes) (offset place : Nat) : ShapeResult (Option Nat) :=
  if place < offset then .ok none else do .ok (some (← Checked.get shape (place - offset)))

/-- The shape stretched to the given sizes, where minus one keeps the size of a dimension. -/
def expand (shape : Sizes) (sizes : List Int) : ShapeResult Sizes :=
  if sizes.length < shape.length then
    wrongRank "number of sizes must be at least the input rank"
  else do
    let offset ← Checked.sub sizes.length shape.length
    sizes.zipIdx.mapM fun entry => do
      expandedSize (← currentSize shape offset entry.2) entry.1

/-- Does `shape` stretch over `target` without changing it? -/
def stretchesOver (shape target : Sizes) : Bool :=
  match broadcast shape target with
  | .ok common => common == target
  | .error _ => false

end OpShape.Rule

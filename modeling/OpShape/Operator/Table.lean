/-
# `OpShape.Operator.Table` — all operators by name.
-/
import OpShape.Operator.Unary
import OpShape.Operator.Binary
import OpShape.Operator.Reduce
import OpShape.Operator.Matmul
import OpShape.Operator.Layout
import OpShape.Operator.Creation
import OpShape.Operator.Index
import OpShape.Operator.Pad
import OpShape.Operator.Conv
import OpShape.Operator.Pool
import OpShape.Operator.Softmax
import OpShape.Operator.Norm
import OpShape.Operator.Loss

namespace OpShape.Operator

/-- The operators that leave nothing to chance. -/
def steadyTable : List (String × Operator) :=
  unaryTable ++ binaryTable ++ reduceTable ++ matmulTable ++ layoutTable ++ creationTable ++
    indexTable ++ padTable ++ convTable ++ poolTable ++ softmaxTable ++ normTable ++ lossTable

/-- The operators that draw from a stream of random floats, each of them from its start. -/
def chanceTable (draws : Draws) : List (String × Operator) := [
  ("aten::dropout", dropout draws),
  ("aten::bernoulli", bernoulli draws),
  ("aten::rand_like", randomLike draws)
]

/-- The operators with their names as they are written. -/
def table (draws : Draws) : List (String × Operator) :=
  steadyTable ++ chanceTable draws

/-- The operator of a name. -/
def ofName? (draws : Draws) (name : String) : Option Operator :=
  let isNamed (entry : String × Operator) : Bool := entry.1 == name
  ((steadyTable.find? isNamed).or ((chanceTable draws).find? isNamed)).map Prod.snd

/-- The operators are looked up in the table of all of them. -/
theorem ofName?_eq (draws : Draws) (name : String) :
    ofName? draws name = ((table draws).find? fun entry => entry.1 == name).map Prod.snd := by
  unfold table
  rw [List.find?_append]
  rfl

end OpShape.Operator

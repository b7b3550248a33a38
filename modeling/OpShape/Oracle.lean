/-
# `OpShape.Oracle` — what operators do to real tensors.

An oracle answers calls of operators on tensors.  Shape functions are judged by it: whatever an
oracle answers is taken as right.
-/
import OpShape.OpName
import OpShape.Operator.Error

namespace OpShape

/-- What operators answer on tensors.  An oracle may refuse a call or break down in it. -/
abbrev Oracle := OpName → CallArgs RealTensor → OpResult (Returned RealTensor)

end OpShape

/-
# `OpShape.Proofs.Builtin.Entry` — the table of the built-in shape functions.

What holds of all built-in functions is shown family by family, where an entry of the table has the
name and the computation that it is given.
-/
import OpShape.Builtin.Library

namespace OpShape.Builtin

section Entry

variable (op : OpName) (params : List Param) (returns : Nat)
  (compute : Nat → ShapeArgs → ShapeResult (Returned Shape)) (invocations : List Invocation)

@[simp] theorem op_entry : (entry op params returns compute invocations).op = op := rfl

@[simp] theorem compute_entry :
    (entry op params returns compute invocations).compute = compute := rfl

end Entry

/-- **Family by family**: what holds of each family holds of all built-in functions. -/
theorem forall_functions {P : ShapeFunction → Prop} (unary : ∀ function ∈ unaryFamily, P function)
    (backward : ∀ function ∈ backwardFamily, P function)
    (convert : ∀ function ∈ convertFamily, P function)
    (scalar : ∀ function ∈ scalarFamily, P function)
    (broadcast : ∀ function ∈ broadcastFamily, P function)
    (reduce : ∀ function ∈ reduceFamily, P function)
    (matmul : ∀ function ∈ matmulFamily, P function)
    (layout : ∀ function ∈ layoutFamily, P function)
    (creation : ∀ function ∈ creationFamily, P function)
    (index : ∀ function ∈ indexFamily, P function) (pad : ∀ function ∈ padFamily, P function)
    (inPlace : ∀ function ∈ inPlaceFamily, P function)
    (conv : ∀ function ∈ convFamily, P function) (pool : ∀ function ∈ poolFamily, P function)
    (softmax : ∀ function ∈ softmaxFamily, P function)
    (norm : ∀ function ∈ normFamily, P function) (loss : ∀ function ∈ lossFamily, P function) :
    ∀ function ∈ functions, P function := by
  unfold functions
  simp only [List.forall_mem_append, and_assoc]
  exact ⟨unary, backward, convert, scalar, broadcast, reduce, matmul, layout, creation, index, pad,
    inPlace, conv, pool, softmax, norm, loss⟩

end OpShape.Builtin

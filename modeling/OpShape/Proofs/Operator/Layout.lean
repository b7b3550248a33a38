/-
# `OpShape.Proofs.Operator.Layout` — the layout functions agree with the operators.

Each function of the family answers with one shape that a rule gives, and the operator of the same
name follows that rule.
-/
import OpShape.Proofs.Operator.Concat
import OpShape.Proofs.Operator.Order
import OpShape.Proofs.Operator.Stretch
import OpShape.Proofs.Operator.View

namespace OpShape

variable {draws : Draws}

/-- **The layout functions agree with the operators**, on every well typed call: of tensors of any
ranks, every size below 2⁶⁴, and with any integers that are signed words. -/
theorem layout_agrees {function : ShapeFunction} (hfunction : function ∈ Builtin.layoutFamily)
    {args : CallArgs RealTensor} {bound : TensorArgs}
    (hbind : function.signature.bind args = .ok bound)
    (htyped : function.signature.WellTyped bound) (hfits : bound.Fits (2 ^ 64)) (token : Nat) :
    ∃ operator, Operator.ofName? draws function.op.text = some operator ∧
      Agree (function.call token (args.map RealTensor.sizes)) (operator bound) := by
  rw [ShapeFunction.call_sizes hbind]
  unfold Builtin.layoutFamily at hfunction
  simp only [List.mem_cons, List.not_mem_nil, or_false] at hfunction
  rcases hfunction with rfl | rfl | rfl | rfl | rfl | rfl | rfl | rfl | rfl | rfl | rfl | rfl |
    rfl | rfl | rfl | rfl | rfl
  · exact ⟨_, rfl, agree_of_singleOf token (Operator.permuteOf_follows _ bound hfits)⟩
  · exact ⟨_, rfl, agree_of_singleOf token (Operator.transposeOf_follows _ bound hfits)⟩
  · exact ⟨_, rfl, agree_of_singleOf token (Operator.matrixTransposeOf_follows _ bound hfits)⟩
  · exact ⟨_, rfl, agree_of_singleOf token (Operator.expandOf_follows bound hfits)⟩
  · exact ⟨_, rfl, agree_of_singleOf token (Operator.expandAsOf_follows bound hfits)⟩
  · exact ⟨_, rfl, agree_of_singleOf token (Operator.expandOf_follows bound hfits)⟩
  · exact ⟨_, rfl, agree_of_singleOf token (Operator.reshapeOf_follows _ "size" bound hfits)⟩
  · exact ⟨_, rfl, agree_of_singleOf token (Operator.reshapeOf_follows _ "size" bound hfits)⟩
  · exact ⟨_, rfl, agree_of_singleOf token (Operator.reshapeOf_follows _ "shape" bound hfits)⟩
  · exact ⟨_, rfl, agree_of_singleOf token (Operator.reshapeOf_follows _ "size" bound hfits)⟩
  · have hself := htyped.tensor "self" rfl rfl
    exact ⟨_, rfl, agree_of_singleOf token (Operator.resizeOf_alike hfits hself)⟩
  · exact ⟨_, rfl, agree_of_singleOf token (Operator.flattenOf_follows _ bound hfits)⟩
  · exact ⟨_, rfl, agree_of_singleOf token (Operator.unsqueezeOf_follows _ bound hfits)⟩
  · exact ⟨_, rfl, agree_of_singleOf token (Operator.squeezeOf_follows _ bound hfits)⟩
  · exact ⟨_, rfl, agree_of_singleOf token (Operator.squeezeDimOf_follows _ bound hfits)⟩
  · exact ⟨_, rfl, agree_of_singleOf token (Operator.flipOf_follows _ bound hfits)⟩
  · exact ⟨_, rfl, agree_of_singleOf token (Operator.catOf_follows _ bound hfits)⟩

/-- A matrix of six elements is viewed as a vector whose length is left to be inferred. -/
theorem layout_agrees_view :
    let matrix : TensorArgs := { values := [
      ("self", .tensor (.float (Tensor.full [2, 3] 1))),
      ("size", .list [.int (-1)])] }
    ∃ operator, Operator.ofName? Single.spread "aten::view" = some operator ∧
      Agree
        ((Builtin.viewEntry (Builtin.aten "view")).call 0
          { positional := [.tensor [2, 3], .list [.int (-1)]], keywords := [] })
        (operator matrix) := by
  intro matrix
  refine @layout_agrees Single.spread (Builtin.viewEntry (Builtin.aten "view")) ?_ {
    positional := [.tensor (.float (Tensor.full [2, 3] 1)), .list [.int (-1)]],
    keywords := [] } matrix rfl ?_ ?_ 0
  · exact List.mem_of_getElem? (i := 6) rfl
  · exact .cons ⟨rfl, _, rfl⟩ (.cons ⟨rfl, [-1], rfl⟩ .nil)
  · exact .cons (.ofSizes [2, 3] rfl (by decide)) (.cons (.ints [-1] (by decide)) .nil)

end OpShape

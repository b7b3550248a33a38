/-
# `OpShape.Proofs.Operator.Arity` — how many tensors an operator answers with.

Six operators answer with a tuple of tensors, and all others with one tensor.  How many tensors a
tuple has depends on nothing but the name of the operator: each operator ends in the same form of
answer on all paths on which it answers at all.
-/
import OpShape.Oracle.Reference
import OpShape.Proofs.Outcome

namespace OpShape

/-- The number of values of an answer. -/
def Returned.HasCount {α : Type} (n : Nat) (returned : Returned α) : Prop :=
  returned.toList.length = n

@[simp] theorem Returned.hasCount_one {α : Type} {n : Nat} {value : α} :
    HasCount n (one value) ↔ 1 = n := Iff.rfl

namespace Operator

open Returned (HasCount)

/-! ## The ways in which operators end -/

section Endings

variable {α : Type} {P : α → Prop} {details : String}

@[simp] theorem answersIf_invalid : AnswersIf False P (invalid details : OpResult α) := id

@[simp] theorem answersIf_incompatible :
    AnswersIf False P (incompatible details : OpResult α) := id

@[simp] theorem answersIf_unsupported : AnswersIf False P (unsupported details : OpResult α) := id

variable {n : Nat}

@[simp] theorem answersIf_one {tensor : Tensor Float32} :
    AnswersIf False (HasCount n) (one tensor) ↔ 1 = n := Iff.rfl

@[simp] theorem answersIf_oneInt {tensor : Tensor Int} :
    AnswersIf False (HasCount n) (oneInt tensor) ↔ 1 = n := Iff.rfl

@[simp] theorem answersIf_many {tensors : List RealTensor} :
    AnswersIf False (HasCount n) (many tensors) ↔ tensors.length = n := Iff.rfl

end Endings

/-! ## Tuples -/

/-- The number of tensors that the operator of a name answers with. -/
def outputCount (name : String) : Nat :=
  if name ∈ ["aten::max.dim", "aten::topk", "aten::max_pool2d_with_indices",
      "aten::nll_loss_forward"] then 2
  else if name ∈ ["aten::native_layer_norm", "aten::native_batch_norm"] then 3
  else 1

/-- **Each operator of the table answers with as many tensors as its name says.** -/
def CountsByName (table : List (String × Operator)) : Prop :=
  ∀ entry ∈ table, ∀ args, AnswersIf False (HasCount (outputCount entry.1)) (entry.2 args)

/-! ## Table by table -/

theorem counts_unary : CountsByName unaryTable := by
  simp [CountsByName, unaryTable, outputCount, Option.forall, mapSelf, identity, zeroed, hardtanh,
    geluSelf, leakyRelu, clamp, threshold, castTo, castToOptional, castLike,
    compareWith, combineWith, combineWithScaled, subtractFrom, power]

theorem counts_binary : CountsByName binaryTable := by
  simp [CountsByName, binaryTable, outputCount, arithmetic, arithmeticScaled, logical, bitwiseAnd,
    maskedFill, choose, chooseTensors, chooseNumbers, chooseOrNumber, chooseNumberOr, interpolate,
    addCombined, tanhBackward, geluBackward, thresholdBackward]

theorem counts_reduce : CountsByName reduceTable := by
  simp [CountsByName, reduceTable, outputCount, Option.forall, reduceAll, testAll, maxAll,
    varianceAll, argmaxOf, anyAlong, maxAlong, reduceAlong, normAlong, bincount]

theorem counts_matmul : CountsByName matmulTable := by
  simp [CountsByName, matmulTable, outputCount, Option.forall, matmulOf, mmOf, bmmOf, addmmOf,
    linearOf]

theorem count_matrixTranspose (args : TensorArgs) :
    AnswersIf False (HasCount 1) (matrixTransposeOf args) := by
  unfold matrixTransposeOf
  simp only [answersIf_false_bind]
  intro input _
  split <;> simp

theorem counts_layout : CountsByName layoutTable := by
  simp [CountsByName, layoutTable, outputCount, permuteOf, transposeOf, count_matrixTranspose,
    expandTo, expandOf, expandAsOf, reshapeOf, resizeOf, flattenOf, unsqueezeOf, squeezeOf,
    squeezeDimOf, flipOf, catOf]

theorem counts_creation : CountsByName creationTable := by
  simp [CountsByName, creationTable, outputCount, filledOf, fullOf, filledLike, fullLike, filledNew,
    rangeVector, arangeStep, arangeStart, arange, floatScalar, intScalar, boolScalar,
    sizesVector]

theorem counts_index : CountsByName indexTable := by
  simp [CountsByName, indexTable, outputCount, selectOf, sliceOf, indexSelectOf, gatherOf,
    embeddingOf, indexOf, indexPutOf, topkOf]

theorem counts_pad : CountsByName padTable := by
  simp [CountsByName, padTable, outputCount, constantPadOf, padOf]

theorem counts_conv : CountsByName convTable := by
  simp [CountsByName, convTable, outputCount, conv2dOf, convolutionOf]

theorem count_adaptiveAvgPool (args : TensorArgs) :
    AnswersIf False (HasCount 1) (adaptiveAvgPoolOf args) := by
  unfold adaptiveAvgPoolOf
  simp only [answersIf_false_bind]
  intro input _ sizes _
  split <;> simp

theorem counts_pool : CountsByName poolTable := by
  simp [CountsByName, poolTable, outputCount, maxPoolOf, maxPoolWithPositionsOf, maxPoolBackwardOf,
    avgPoolOf, count_adaptiveAvgPool]

theorem counts_softmax : CountsByName softmaxTable := by
  simp [CountsByName, softmaxTable, outputCount, mapLanesOf, mapLanesUnconverted, mapLanePairs]

theorem counts_norm : CountsByName normTable := by
  simp [CountsByName, normTable, outputCount, layerNormOf, nativeLayerNormOf, batchNormOf,
    nativeBatchNormOf]

theorem counts_loss : CountsByName lossTable := by
  simp [CountsByName, lossTable, outputCount, lossOf, lossBackwardOf]

theorem counts_chance (draws : Draws) : CountsByName (chanceTable draws) := by
  simp [CountsByName, chanceTable, outputCount, dropout, bernoulli, randomLike]

/-- **Every operator answers with as many tensors as its name says.** -/
theorem counts_table (draws : Draws) : CountsByName (table draws) := by
  unfold CountsByName table steadyTable
  simp only [List.forall_mem_append, and_assoc]
  exact ⟨counts_unary, counts_binary, counts_reduce, counts_matmul, counts_layout, counts_creation,
    counts_index, counts_pad, counts_conv, counts_pool, counts_softmax, counts_norm, counts_loss,
    counts_chance draws⟩

end Operator

/-- An answer of the reference oracle has as many tensors as the name of its operator says, whatever
floats it draws. -/
theorem Oracle.count_drawing (draws : Draws) (registry : Registry) (op : OpName)
    (args : CallArgs RealTensor) :
    AnswersIf False (Returned.HasCount (Operator.outputCount op.text))
      (drawing draws registry op args) := by
  unfold drawing
  split
  · next operator signature hoperator _ =>
    rw [Operator.ofName?_eq] at hoperator
    obtain ⟨entry, hentry, rfl⟩ := Option.map_eq_some_iff.mp hoperator
    have hname : entry.1 = op.text := by simpa using List.find?_some hentry
    simp only [answersIf_false_bind, ← hname]
    intro bound _
    exact Operator.counts_table draws entry (List.mem_of_find?_eq_some hentry) bound
  · exact id

end OpShape

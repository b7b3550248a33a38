/-
# `OpShape.Proofs.Builtin.Unbroken` — the built-in shape functions do not break down.

Arguments need not be of the kinds that the parameters declare: reading one of another kind is
refused, and what has been read goes into rules that do not break down.  The one exception is a
slice, which breaks down on a dimension whose size is taken for a negative number, and on nothing
else.
-/
import OpShape.Proofs.Builtin.Entry
import OpShape.Proofs.Rule.Unbroken

namespace OpShape

namespace Builtin

variable {args : ShapeArgs}

/-! ## What is asked of a function -/

/-- **`Steady compute`** — the computation does not break down, whatever its arguments are. -/
def Steady (compute : Nat → ShapeArgs → ShapeResult (Returned Shape)) : Prop :=
  ∀ token args, Unbroken (compute token args)

@[simp] theorem steady_one {sizes : ShapeArgs → ShapeResult Sizes} :
    Steady (one sizes) ↔ ∀ args, Unbroken (sizes args) := by
  unfold Steady one
  simp

@[simp] theorem steady_many {sizes : ShapeArgs → ShapeResult (List Sizes)} :
    Steady (many sizes) ↔ ∀ args, Unbroken (sizes args) := by
  unfold Steady many
  simp

/-- The operator of slices. -/
def sliceOp : OpName :=
  atenOverload "slice" "Tensor"

/-- A function other than that of slices, which does not break down. -/
def Sound (function : ShapeFunction) : Prop :=
  function.op ≠ sliceOp ∧ Steady function.compute

@[simp] theorem sound_entry {op : OpName} {params : List Param} {returns : Nat}
    {compute : Nat → ShapeArgs → ShapeResult (Returned Shape)} {invocations : List Invocation} :
    Sound (entry op params returns compute invocations) ↔ op ≠ sliceOp ∧ Steady compute :=
  Iff.rfl

@[simp] theorem sound_markExempt {function : ShapeFunction} :
    Sound function.markExempt ↔ Sound function :=
  Iff.rfl

@[simp] theorem aten_ne_sliceOp (name : String) : aten name ≠ sliceOp := by
  simp [aten, sliceOp, atenOverload]

@[simp] theorem atenOverload_eq_sliceOp (name overload : String) :
    atenOverload name overload = sliceOp ↔ name = "slice" ∧ overload = "Tensor" := by
  simp [sliceOp, atenOverload]

@[simp] theorem mk_eq_sliceOp (scope name : String) (overload : Option String) :
    ({ scope, name, overload } : OpName) = sliceOp ↔
      scope = "aten" ∧ name = "slice" ∧ overload = some "Tensor" := by
  simp [sliceOp, atenOverload]

/-! ## Functions with checks of their own -/

theorem unbroken_checkApproximate : Unbroken (checkApproximate args) := by
  unfold checkApproximate
  refine (unbroken_argument _).bind fun name _ => ?_
  split <;> simp

theorem unbroken_checkNonemptyDim (shape : Sizes) (dim : Int) :
    Unbroken (checkNonemptyDim shape dim) := by
  unfold checkNonemptyDim
  simp

theorem unbroken_fullExtremum : Unbroken (fullExtremum args) := by
  unfold fullExtremum
  simp

theorem unbroken_argmax : Unbroken (argmax args) := by
  unfold argmax
  refine (unbroken_argument _).bind fun shape _ => ?_
  refine (unbroken_argument _).bind fun keepdim _ => ?_
  refine (unbroken_argument _).bind fun dim _ => ?_
  cases dim <;> simp [unbroken_checkNonemptyDim, unbroken_fullExtremum]

/-- A count of each number has a length that is left open, but it is found like any other shape. -/
theorem steady_binCount : Steady binCount := by
  intro token args
  unfold binCount
  simp

section Flip

variable {rank : Nat} {marks : List Bool} (hmarks : marks.length = max rank 1) {dim : Int}
include hmarks

theorem unbroken_markFlipped : Unbroken (markFlipped rank marks dim) := by
  unfold markFlipped
  refine (Rule.unbroken_resolveDim dim rank).bind fun axis haxis => ?_
  have hlt : axis < marks.length := hmarks ▸ Rule.resolveDim_lt haxis
  simp [hlt]

theorem length_markFlipped {next : List Bool} (h : markFlipped rank marks dim = .ok next) :
    next.length = max rank 1 := by
  obtain ⟨axis, -, h⟩ := bind_eq_ok.mp h
  obtain ⟨marked, -, h⟩ := bind_eq_ok.mp h
  cases marked with
  | true => cases h
  | false =>
    obtain ⟨-, rfl⟩ := set_eq_ok.mp h
    rw [List.length_set, hmarks]

end Flip

/-- A scalar has one dimension to be turned around, so that there is a mark for it as well. -/
theorem unbroken_flipped : Unbroken (flipped args) := by
  unfold flipped
  refine (unbroken_argument _).bind fun shape _ => ?_
  refine (unbroken_argument _).bind fun dims _ => ?_
  have hmarks : Unbroken (dims.foldlM (markFlipped shape.length)
      (List.replicate (max shape.length 1) false)) :=
    Unbroken.foldlM (P := fun marks => marks.length = max shape.length 1) List.length_replicate
      (fun _ hmarks _ _ => unbroken_markFlipped hmarks)
      fun _ hmarks _ _ _ hnext => length_markFlipped hmarks hnext
  simp [hmarks]

@[simp] theorem unbroken_rangeLength (start stop step : Float) :
    Unbroken (rangeLength start stop step) := by
  unfold rangeLength
  simp

theorem unbroken_overwritten (shape : Sizes) (indices : List (Option Sizes)) (values : Sizes) :
    Unbroken (overwritten shape indices values) := by
  unfold overwritten
  simp

theorem unbroken_convParams : Unbroken (convParams args) := by
  unfold convParams
  simp

/-- The batch of one that a single input is made into is there to be removed from the output. -/
theorem unbroken_conv2d : Unbroken (conv2d args) := by
  unfold conv2d
  refine (unbroken_argument _).bind fun input _ => ?_
  refine (unbroken_argument _).bind fun weight _ => ?_
  rw [unbroken_ite]
  refine ⟨fun _ => Rule.unbroken_wrongRank _, fun _ => ?_⟩
  refine (unbroken_argument _).bind fun bias _ => ?_
  refine unbroken_convParams.bind fun params _ => ?_
  refine (unbroken_argument _).bind fun groups _ => ?_
  refine (Rule.unbroken_convOutputSize _ _ _ _ _).bind fun output houtput => ?_
  have hpos := Rule.length_convOutputSize_pos houtput
  simp [hpos]

theorem unbroken_convolution : Unbroken (convolution args) := by
  unfold convolution
  simp [unbroken_convParams]

theorem unbroken_maxPool2d : Unbroken (maxPool2d args) := by
  unfold maxPool2d
  simp

theorem unbroken_checkNormalizedParam (normalized : List Int) (name : String) :
    Unbroken (checkNormalizedParam args normalized name) := by
  unfold checkNormalizedParam
  refine (unbroken_argument _).bind fun shape _ => ?_
  cases shape <;> simp

/-- The normalised dimensions are the last ones of the input, which has at least as many. -/
theorem unbroken_normalizedAxis : Unbroken (normalizedAxis args) := by
  unfold normalizedAxis
  refine (unbroken_argument _).bind fun input _ => ?_
  refine (unbroken_argument _).bind fun normalized _ => ?_
  by_cases hrank : input.length < normalized.length
  · simp [hrank, unbroken_checkNormalizedParam]
  · simp [hrank, Nat.not_lt.mp hrank, unbroken_checkNormalizedParam]

theorem normalizedAxis_le {axis : Nat} (h : normalizedAxis args = .ok axis) :
    ∃ input, args.tensor "input" = .ok input ∧ axis ≤ input.length := by
  obtain ⟨input, hinput, h⟩ := bind_eq_ok.mp h
  obtain ⟨normalized, -, h⟩ := bind_eq_ok.mp h
  refine ⟨input, argument_eq_ok.mp hinput, ?_⟩
  split_ifs at h with hempty hrank
  · cases h
  · obtain ⟨⟨⟩, -, h⟩ := bind_eq_ok.mp h
    obtain ⟨⟨⟩, -, h⟩ := bind_eq_ok.mp h
    cases h
  · obtain ⟨⟨⟩, -, h⟩ := bind_eq_ok.mp h
    obtain ⟨⟨⟩, -, h⟩ := bind_eq_ok.mp h
    obtain ⟨rest, hrest, h⟩ := bind_eq_ok.mp h
    obtain ⟨trailing, -, h⟩ := bind_eq_ok.mp h
    obtain ⟨-, rfl⟩ := sub_eq_ok.mp hrest
    split_ifs at h with htrailing
    · cases h
    · obtain rfl := Except.ok.inj h
      exact Nat.sub_le _ _

/-- The statistics are those of the dimensions in front of the normalised ones. -/
theorem unbroken_layerNormWithStats : Unbroken (layerNormWithStats args) := by
  unfold layerNormWithStats
  refine unbroken_normalizedAxis.bind fun axis haxis => ?_
  obtain ⟨input, hinput, hle⟩ := normalizedAxis_le haxis
  simp [hinput, hle]

theorem unbroken_checkChannelParam (channels : Nat) (name : String) :
    Unbroken (checkChannelParam args channels name) := by
  unfold checkChannelParam
  refine (unbroken_argument _).bind fun shape _ => ?_
  cases shape <;> simp

/-- An input that has channels has a second dimension. -/
theorem unbroken_batchChannels : Unbroken (batchChannels args) := by
  unfold batchChannels isGiven
  refine (unbroken_argument _).bind fun input _ => ?_
  by_cases hrank : input.length < 2
  · simp [hrank]
  · have hlt : 1 < input.length := by omega
    simp [hrank, hlt, unbroken_checkChannelParam]

/-- A loss has at least one class. -/
theorem unbroken_lossOperands (input target : Sizes) : Unbroken (lossOperands input target) := by
  unfold lossOperands
  by_cases hrank : input.isEmpty ∨ 2 < input.length
  · rw [if_pos hrank]
    exact Rule.unbroken_wrongRank _
  · have hpos : 0 < input.length := by
      rw [List.length_pos_iff]
      exact fun hempty => hrank (.inl (List.isEmpty_iff.mpr hempty))
    have hle : 1 ≤ input.length := hpos
    have hlt : input.length - 1 < input.length := by omega
    rw [if_neg hrank]
    simp [hpos, hle, hlt]

theorem unbroken_checkClassWeights (weight : Option Sizes) (classes : Nat) :
    Unbroken (checkClassWeights weight classes) := by
  unfold checkClassWeights
  cases weight <;> simp

theorem unbroken_lossShape : Unbroken (lossShape args) := by
  unfold lossShape
  refine (unbroken_argument _).bind fun input _ => ?_
  refine (unbroken_argument _).bind fun target _ => ?_
  refine (unbroken_lossOperands input target).bind fun ⟨first, classes⟩ _ => ?_
  refine (unbroken_argument _).bind fun weight _ => ?_
  refine (unbroken_checkClassWeights weight classes).bind fun _ _ => ?_
  refine (unbroken_argument _).bind fun reduction _ => ?_
  split <;> simp

/-! ## Families of functions -/

theorem unaryFamily_sound : ∀ function ∈ unaryFamily, Sound function := by
  simp [unaryFamily, plainOps, selfShape, gelu, clamp, hasBound, dropout, unbroken_checkApproximate]

theorem backwardFamily_sound : ∀ function ∈ backwardFamily, Sound function := by
  simp [backwardFamily, scaledGradient, geluGradient, unbroken_checkApproximate]

theorem convertFamily_sound : ∀ function ∈ convertFamily, Sound function := by
  simp [convertFamily, selfShape]

theorem scalarFamily_sound : ∀ function ∈ scalarFamily, Sound function := by
  simp [scalarFamily, scalarOps, scaledScalarOps, scalarEntry, scaledScalarEntry, selfShape]

theorem broadcastFamily_sound : ∀ function ∈ broadcastFamily, Sound function := by
  simp [broadcastFamily, pairOps, scaledSumEntry, pairEntry, addedEntry, broadcastOf, broadcast3Of,
    conditionShape]

theorem reduceFamily_sound : ∀ function ∈ reduceFamily, Sound function := by
  simp [reduceFamily, truthEntry, totalEntry, spreadEntry, dimsEntry, fullReduction, dimReduction,
    dimExtremum, dimsReduction, unbroken_fullExtremum, unbroken_argmax, unbroken_checkNonemptyDim,
    steady_binCount]

theorem matmulFamily_sound : ∀ function ∈ matmulFamily, Sound function := by
  simp [matmulFamily, productOf, addedProduct, linearLayer]

theorem layoutFamily_sound : ∀ function ∈ layoutFamily, Sound function := by
  simp [layoutFamily, viewEntry, withInts, withDim, withDims, transposedMatrix, expandAs, resized,
    squeezed, concatenated, unbroken_flipped]

theorem creationFamily_sound : ∀ function ∈ creationFamily, Sound function := by
  simp [creationFamily, filledEntry, likeEntry, newEntry, givenSizes, singleValue, range, rangeFrom,
    steppedRange, sizesVector, selfShape]

theorem padFamily_sound : ∀ function ∈ padFamily, Sound function := by
  simp [padFamily, constantPadded, padded]

theorem inPlaceFamily_sound : ∀ function ∈ inPlaceFamily, Sound function := by
  simp [inPlaceFamily, selfShape, indexPut, unbroken_overwritten]

theorem convFamily_sound : ∀ function ∈ convFamily, Sound function := by
  simp [convFamily, unbroken_conv2d, unbroken_convolution]

theorem poolFamily_sound : ∀ function ∈ poolFamily, Sound function := by
  simp [poolFamily, maxPool2dWithIndices, maxPool2dGradient, avgPool2d, adaptiveAvgPool2d,
    unbroken_maxPool2d]

theorem softmaxFamily_sound : ∀ function ∈ softmaxFamily, Sound function := by
  simp [softmaxFamily, softmaxOfHalvesEntry, softmaxEntry, softmaxGradientEntry, softmaxOfHalves,
    softmax, softmaxGradient]

theorem normFamily_sound : ∀ function ∈ normFamily, Sound function := by
  simp [normFamily, layerNorm, batchNorm, batchNormWithStats, unbroken_normalizedAxis,
    unbroken_layerNormWithStats, unbroken_batchChannels]

theorem lossFamily_sound : ∀ function ∈ lossFamily, Sound function := by
  simp [lossFamily, nllLoss, nllLossGradient, unbroken_lossShape]

/-- Of the functions that select elements, all but that of slices are sound. -/
theorem indexFamily_sound :
    ∀ function ∈ indexFamily, Sound function ∨
      function.op = sliceOp ∧ function.compute = one sliced := by
  simp [indexFamily, selected, withIndex, indexed, indexPut, indexPutFirst, unbroken_overwritten,
    lookedUp, greatest]

/-- **Every built-in function but one is sound**, and the one computes slices. -/
theorem functions_sound :
    ∀ function ∈ functions, Sound function ∨
      function.op = sliceOp ∧ function.compute = one sliced := by
  apply forall_functions
  · exact fun function h => .inl (unaryFamily_sound function h)
  · exact fun function h => .inl (backwardFamily_sound function h)
  · exact fun function h => .inl (convertFamily_sound function h)
  · exact fun function h => .inl (scalarFamily_sound function h)
  · exact fun function h => .inl (broadcastFamily_sound function h)
  · exact fun function h => .inl (reduceFamily_sound function h)
  · exact fun function h => .inl (matmulFamily_sound function h)
  · exact fun function h => .inl (layoutFamily_sound function h)
  · exact fun function h => .inl (creationFamily_sound function h)
  · exact indexFamily_sound
  · exact fun function h => .inl (padFamily_sound function h)
  · exact fun function h => .inl (inPlaceFamily_sound function h)
  · exact fun function h => .inl (convFamily_sound function h)
  · exact fun function h => .inl (poolFamily_sound function h)
  · exact fun function h => .inl (softmaxFamily_sound function h)
  · exact fun function h => .inl (normFamily_sound function h)
  · exact fun function h => .inl (lossFamily_sound function h)

theorem mem_functions_of_indexFamily {function : ShapeFunction} (h : function ∈ indexFamily) :
    function ∈ functions := by
  unfold functions
  simp [h]

/-! ## Slices -/

/-- The arguments of a slice of an oversized dimension. -/
def SlicesOversized (args : ShapeArgs) : Prop :=
  ∃ shape dim start stop step,
    args.tensor "self" = .ok shape ∧ args.int "dim" = .ok dim ∧ args.optInt "start" = .ok start ∧
      args.optInt "end" = .ok stop ∧ args.int "step" = .ok step ∧
        Rule.CutsOversized shape dim step

theorem unbroken_sliced : Unbroken (sliced args) ↔ ¬ SlicesOversized args := by
  unfold sliced SlicesOversized
  simp [Rule.unbroken_slice_iff]

/-! ## Calls -/

/-- **A call of a built-in function breaks down in one way only**, whatever its arguments are: it
slices a dimension whose size is taken for a negative number.  Every other call answers or refuses,
so that no position that it reads, takes out or puts in lies outside, no length falls below zero and
nothing is divided by zero. -/
theorem call_unbroken_iff {function : ShapeFunction} (hfunction : function ∈ functions)
    (token : Nat) (args : CallArgs Sizes) :
    Unbroken (function.call token args) ↔
      ¬ (function.op = sliceOp ∧
        ∃ bound, function.signature.bind args = .ok bound ∧ SlicesOversized bound) := by
  unfold ShapeFunction.call
  rw [unbroken_bind]
  simp only [unbroken_argument, true_and, argument_eq_ok]
  rcases functions_sound function hfunction with ⟨hop, hsteady⟩ | ⟨hop, hcompute⟩
  · exact iff_of_true (fun bound _ => hsteady token bound) fun h => hop h.1
  · rw [hcompute, hop]
    unfold one
    simp [unbroken_sliced]

theorem call_unbroken_iff_greatest :
    indexFamily[1] ∈ functions ∧
      Unbroken (indexFamily[1].call 0 { positional := [.tensor [2 ^ 63 - 1]], keywords := [] }) := by
  have hmem : indexFamily[1] ∈ functions := mem_functions_of_indexFamily (List.getElem_mem _)
  refine ⟨hmem, (call_unbroken_iff hmem 0 _).mpr ?_⟩
  rintro ⟨-, bound, hbind, shape, dim, start, stop, step, hshape, -, -, -, -, hcut⟩
  obtain rfl := Except.ok.inj hbind
  obtain rfl := Except.ok.inj hshape
  exact Rule.not_cutsOversized (by simp) dim step hcut

/-- A slice of a dimension of 2⁶³ entries breaks down: its bounds are moved into the range from zero
to the negative number that the size is taken for. -/
theorem slice_breaks_down :
    ¬ ∀ function ∈ functions, ∀ token args, Unbroken (function.call token args) := by
  intro h
  have hmem : indexFamily[1] ∈ functions := mem_functions_of_indexFamily (List.getElem_mem _)
  exact h indexFamily[1] hmem 0 { positional := [.tensor [2 ^ 63]], keywords := [] } .emptyRange rfl

end Builtin

end OpShape

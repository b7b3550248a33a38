/-
# `OpShape.Proofs.Operator.Reduce` — reductions agree with the operators.

The rules mark the dimensions that are reduced and drop or flatten them; the operators list the axes
and group the elements along them.  The marks are those of the listed axes, so that both come to the
same sizes, and there is a group for every element of the answer.
-/
import OpShape.Builtin.Reduce
import OpShape.Operator.Reduce
import OpShape.Proofs.Operator.Order
import OpShape.Proofs.Tensor.Group

namespace OpShape.Operator

open Tensor (HasSizes answers_reduce)

variable {α : Type}

/-! ## Dimensions that are reduced -/

/-- All dimensions are reduced if none is named. -/
theorem marks_all (count : Nat) : Marks count (List.replicate count true) (List.range count) where
  length := List.length_replicate
  get dim hdim := by
    rw [List.getElem?_replicate, if_pos hdim]
    simp [hdim]

/-- One more dimension is marked, or refused, alike. -/
theorem markReduced_alike {rank : Nat} {marks : List Bool} {named : List Nat}
    (h : Marks rank marks named) (hrank : rank ≠ 0) (dim : Int) :
    Alike (Marks rank) (Rule.markReduced rank marks dim) (addAxis rank named dim) := by
  unfold Rule.markReduced addAxis
  apply (alike_axis dim rank).bind
  rintro axis _ ⟨rfl, haxis⟩
  have hlt : axis < rank := by omega
  rw [if_neg hrank, h.get_eq hlt, ok_bind]
  by_cases hnamed : named.contains axis = true
  · rw [if_pos hnamed, if_pos hnamed]
    exact alike_error_error
  · rw [if_neg hnamed, if_neg hnamed, h.set_eq hlt]
    exact h.mark axis

/-- A scalar has nothing to mark, but its dimensions have to be named right, however often. -/
theorem scalarMarks_alike (dims : List Int) :
    Alike (fun marks _ => marks = []) (dims.foldlM (Rule.markReduced 0) [])
      (dims.mapM (resolveAxis 0)) := by
  induction dims with
  | nil => rfl
  | cons dim dims ih =>
    rw [List.foldlM_cons, List.mapM_cons]
    unfold Rule.markReduced
    rw [bind_assoc]
    apply (alike_axis dim 0).bind
    rintro axis _ ⟨rfl, -⟩
    rw [if_pos rfl, ok_bind]
    exact ih.bind_right fun _ _ hmarks => hmarks

/-- **Both sides reduce the same dimensions** of a list, or refuse it. -/
theorem reductionAxes_alike (rank : Nat) (dims : List Int) :
    Alike (Marks rank) (dims.foldlM (Rule.markReduced rank) (List.replicate rank dims.isEmpty))
      (reductionAxes rank dims) := by
  unfold reductionAxes
  by_cases hempty : dims.isEmpty = true
  · rw [if_pos hempty, hempty, List.isEmpty_iff.mp hempty]
    exact marks_all rank
  rw [if_neg hempty, Bool.not_eq_true _ |>.mp hempty]
  by_cases hrank : rank = 0
  · subst hrank
    rw [if_pos rfl]
    apply (scalarMarks_alike dims).bind_right
    rintro _ _ rfl
    exact marks_initial 0
  · rw [if_neg hrank]
    exact Alike.foldlM (marks_initial rank) fun _ _ h dim _ => markReduced_alike h hrank dim

/-- One dimension by itself is a list of one. -/
theorem reducedAxis_alike (rank : Nat) (dim : Int) :
    Alike (fun marks axis => Marks rank marks [axis])
      ([dim].foldlM (Rule.markReduced rank) (List.replicate rank false)) (resolveAxis rank dim) := by
  rw [List.foldlM_cons, ← bind_pure (resolveAxis rank dim)]
  unfold Rule.markReduced
  rw [bind_assoc]
  apply (alike_axis dim rank).bind
  rintro axis _ ⟨rfl, haxis⟩
  by_cases hrank : rank = 0
  · rw [if_pos hrank]
    subst hrank
    exact ⟨rfl, fun other hother => absurd hother (Nat.not_lt_zero other)⟩
  · have hlt : axis < rank := by omega
    have hinitial := marks_initial rank
    rw [if_neg hrank, hinitial.get_eq hlt, ok_bind, hinitial.set_eq hlt]
    exact hinitial.mark axis

/-! ## Sizes of the answer -/

/-- **What the rules keep of the sizes is what the operators keep.** -/
theorem reducedSizes_eq {shape : Sizes} {marks : List Bool} {axes : List Nat}
    (h : Marks shape.length marks axes) (keepDims : Bool) :
    ((shape.zip marks).filterMap fun entry => Rule.reducedSize keepDims entry.1 entry.2) =
      reducedSizes keepDims axes shape := by
  have hmarks : marks = shape.zipIdx.map fun entry => axes.contains entry.2 := by
    apply List.ext_getElem?
    intro dim
    rw [List.getElem?_map, List.getElem?_zipIdx]
    by_cases hdim : dim < shape.length
    · simp [h.get dim hdim, hdim]
    · rw [List.getElem?_eq_none (h.length ▸ Nat.not_lt.mp hdim),
        List.getElem?_eq_none (Nat.not_lt.mp hdim)]
      rfl
  have hzip : shape.zip marks = shape.zipIdx.map fun entry => (entry.1, axes.contains entry.2) :=
    calc shape.zip marks
        = (shape.zipIdx.map Prod.fst).zip (shape.zipIdx.map fun entry => axes.contains entry.2) := by
          rw [List.zipIdx_map_fst, ← hmarks]
      _ = _ := List.zip_map'
  rw [hzip, List.filterMap_map]
  unfold Rule.reducedSize reducedSizes keptSizes remainingSizes
  cases keepDims with
  | true =>
    simp only [if_true]
    rw [← List.filterMap_eq_map']
    apply List.filterMap_congr
    rintro ⟨size, axis⟩ -
    rw [Function.comp_apply]
    cases axes.contains axis <;> rfl
  | false =>
    simp only [Bool.false_eq_true, if_false]
    rw [← List.filterMap_eq_map, List.filterMap_filter]
    apply List.filterMap_congr
    rintro ⟨size, axis⟩ -
    rw [Function.comp_apply]
    cases axes.contains axis <;> rfl

/-- **A reduction over a list of dimensions** gives the sizes of the operator's axes. -/
theorem reduceDims_alike (sizes : Sizes) (dims : List Int) (keepDims : Bool) :
    Alike (fun out axes => out = reducedSizes keepDims axes sizes)
      (Rule.reduceDims sizes dims keepDims) (reductionAxes sizes.length dims) := by
  rw [← bind_pure (reductionAxes sizes.length dims)]
  apply (reductionAxes_alike sizes.length dims).bind
  intro marks axes hmarks
  exact reducedSizes_eq hmarks keepDims

/-- **A reduction over one dimension** gives the sizes of the operator's axis. -/
theorem reduceDim_alike (sizes : Sizes) (dim : Int) (keepDims : Bool) :
    Alike (fun out axis => out = reducedSizes keepDims [axis] sizes)
      (Rule.reduceDim sizes dim keepDims) (resolveAxis sizes.length dim) := by
  rw [← bind_pure (resolveAxis sizes.length dim)]
  apply (reducedAxis_alike sizes.length dim).bind
  intro marks axis hmarks
  exact reducedSizes_eq hmarks keepDims

/-- **A dimension without positions is refused on both sides**, where no value stands for none. -/
theorem extremumAxis_alike (sizes : Sizes) (dim : Int) (keepDims : Bool) :
    Alike (fun out axis => out = reducedSizes keepDims [axis] sizes)
      (do
        Builtin.checkNonemptyDim sizes dim
        Rule.reduceDim sizes dim keepDims)
      (do
        let axis ← resolveAxis sizes.length dim
        requirePositions sizes axis
        .ok axis) := by
  have hreduce := reduceDim_alike sizes dim keepDims
  unfold Builtin.checkNonemptyDim requirePositions
  rw [bind_assoc]
  apply (alike_axis dim sizes.length).and_eq_ok.bind
  rintro axis _ ⟨⟨rfl, -⟩, haxis⟩
  by_cases hempty : sizes[axis]? = some 0
  · rw [if_pos hempty, if_pos hempty]
    exact alike_error_error
  · rw [if_neg hempty, if_neg hempty, ok_bind, ok_bind]
    rwa [haxis] at hreduce

/-! ## Calls -/

section Calls

variable {bound : TensorArgs}

/-- **A reduction follows its rule** once both sides know along which axes it goes. -/
theorem alike_reduce {β γ : Type} {input : Tensor Float32} {keepDims : Bool}
    {shapes : ShapeResult Sizes} {named : OpResult γ} {axes : γ → List Nat}
    (h : Alike (fun out value => out = reducedSizes keepDims (axes value) input.sizes) shapes named)
    (f : List Float32 → β) :
    Alike HasSizes shapes
      (do
        let value ← named
        input.reduce (axes value) keepDims f) := by
  apply h.bind_right
  rintro _ value rfl
  exact answers_reduce input (axes value) keepDims f

/-- All dimensions of a tensor are reduced away. -/
theorem answers_reduce_all {β : Type} (input : Tensor Float32) (f : List Float32 → β) :
    Answers (HasSizes []) (input.reduce (allAxes input) false f : OpResult (Tensor β)) := by
  have hsizes : reducedSizes false (allAxes input) input.sizes = [] :=
    remainingSizes_range input.sizes
  have hreduce : Answers (HasSizes (reducedSizes false (allAxes input) input.sizes))
      (input.reduce (allAxes input) false f : OpResult (Tensor β)) :=
    answers_reduce input (allAxes input) false f
  rwa [hsizes] at hreduce

/-- A reduction of all elements to a float does not ask for anything. -/
theorem reduceAll_alike (f : List Float32 → Float32) {input : RealTensor}
    (hinput : bound.tensor "self" = .ok input) :
    Alike SingleOf (Builtin.fullReduction (bound.map RealTensor.sizes)) (reduceAll f bound) := by
  unfold reduceAll Builtin.fullReduction
  rw [floatArg_eq "self" hinput, ok_bind]
  exact (answers_reduce_all input.toFloats f).alike.single

theorem testAll_alike (f : List Float32 → Int) {input : RealTensor}
    (hinput : bound.tensor "self" = .ok input) :
    Alike OneOf (Builtin.fullReduction (bound.map RealTensor.sizes)) (testAll f bound) := by
  unfold testAll Builtin.fullReduction
  rw [floatArg_eq "self" hinput, ok_bind]
  exact (answers_reduce_all input.toFloats f).alike.singleInt

theorem varianceAll_alike (finish : Float32 → Float32) {input : RealTensor} {unbiased : Bool}
    (hinput : bound.tensor "self" = .ok input) (hunbiased : bound.bool "unbiased" = .ok unbiased) :
    Alike SingleOf (Builtin.fullReduction (bound.map RealTensor.sizes))
      (varianceAll finish bound) := by
  have hflag : (liftM (bound.bool "unbiased") : OpResult Bool) = .ok unbiased :=
    lift_eq_ok.mpr hunbiased
  unfold varianceAll Builtin.fullReduction
  rw [hflag, ok_bind, floatArg_eq "self" hinput, ok_bind]
  exact (answers_reduce_all input.toFloats _).alike.single

/-- The greatest of all elements is refused on both sides if there are none. -/
theorem maxAll_alike (bound : TensorArgs) :
    Alike SingleOf (Builtin.fullExtremum (bound.map RealTensor.sizes)) (maxAll bound) := by
  unfold maxAll Builtin.fullExtremum
  apply (alike_floats "self" bound).bind
  rintro _ input rfl
  by_cases hempty : elementCount input.sizes = 0
  · rw [if_pos hempty, if_pos hempty]
    exact alike_error_error
  · rw [if_neg hempty, if_neg hempty]
    exact (answers_reduce_all input Single.maximum).alike.single

/-- **The position of the greatest element** along a dimension, or among all elements. -/
theorem argmaxOf_alike {input : RealTensor} (hinput : bound.tensor "self" = .ok input) :
    Alike OneOf (Builtin.argmax (bound.map RealTensor.sizes)) (argmaxOf bound) := by
  unfold argmaxOf Builtin.argmax Builtin.fullExtremum
  rw [floatArg_eq "self" hinput, tensor_sizes "self" hinput, ← input.sizes_toFloats]
  generalize input.toFloats = values
  simp only [lift_ok, ok_bind]
  apply (alike_bool "keepdim" bound).bind
  rintro keepDims _ rfl
  apply (alike_optInt "dim" bound).bind
  rintro dim _ rfl
  cases dim with
  | some dim =>
    dsimp only
    have haxis := alike_reduce (extremumAxis_alike values.sizes dim keepDims) argmax
    simpa only [bind_assoc, ok_bind] using haxis.singleInt
  | none =>
    dsimp only
    by_cases hempty : elementCount values.sizes = 0
    · rw [if_pos hempty, if_pos hempty]
      exact alike_error_error
    · rw [if_neg hempty, if_neg hempty, ok_bind]
      apply Alike.singleInt
      apply Answers.alike
      have hsizes : (if keepDims then List.replicate values.sizes.length 1 else []) =
          reducedSizes keepDims (allAxes values) values.sizes := by
        unfold reducedSizes allAxes
        rw [keptSizes_range, remainingSizes_range]
      rw [hsizes]
      exact answers_reduce values (allAxes values) keepDims argmax

/-- **A reduction over a list of dimensions follows its rule**, whatever it makes of a group. -/
theorem reduceDims_alike_reduce (f : List Float32 → Float32) (input : Tensor Float32)
    (dims : List Int) (keepDims : Bool) :
    Alike SingleOf (Rule.reduceDims input.sizes dims keepDims)
      (do
        let axes ← reductionAxes input.sizes.length dims
        one (← input.reduce axes keepDims f)) := by
  have hreduce := alike_reduce (reduceDims_alike input.sizes dims keepDims) f
  simpa only [bind_assoc] using hreduce.single

section KeepDims

variable {keepDims : Bool} (hkeep : bound.bool "keepdim" = .ok keepDims)

include hkeep

/-- The flag on both sides. -/
theorem lift_keepDims :
    (liftM ((bound.map RealTensor.sizes).bool "keepdim") : ShapeResult Bool) = .ok keepDims ∧
      (liftM (bound.bool "keepdim") : OpResult Bool) = .ok keepDims := by
  rw [BoundArgs.bool_map, hkeep]
  exact ⟨rfl, rfl⟩

theorem anyAlong_alike :
    Alike OneOf (Builtin.dimReduction (bound.map RealTensor.sizes)) (anyAlong bound) := by
  obtain ⟨hshapes, htensors⟩ := lift_keepDims hkeep
  unfold anyAlong Builtin.dimReduction
  simp only [hshapes, htensors, ok_bind]
  apply (alike_floats "self" bound).bind
  rintro _ input rfl
  apply (alike_int "dim" bound).bind
  rintro dim _ rfl
  have hreduce := alike_reduce (reduceDim_alike input.sizes dim keepDims) anyNonzero
  simpa only [bind_assoc] using hreduce.singleInt

/-- The greatest element along a dimension and its position have the same sizes. -/
theorem maxAlong_alike :
    Alike ManyOf (Builtin.dimExtremum (bound.map RealTensor.sizes)) (maxAlong bound) := by
  obtain ⟨hshapes, htensors⟩ := lift_keepDims hkeep
  unfold maxAlong Builtin.dimExtremum
  simp only [hshapes, htensors, ok_bind]
  apply (alike_floats "self" bound).bind
  rintro _ input rfl
  apply (alike_int "dim" bound).bind
  rintro dim _ rfl
  have hreduce := (extremumAxis_alike input.sizes dim keepDims).bind (S := ManyOf)
    (f := fun output => .ok [output, output])
    (g := fun axis => do
      let values ← (input.reduce [axis] keepDims Single.maximum : OpResult (Tensor Float32))
      let positions ← (input.reduce [axis] keepDims argmax : OpResult (Tensor Int))
      many [.float values, .int positions]) ?_
  · simpa only [bind_assoc, ok_bind] using hreduce
  · rintro _ axis rfl
    apply Answers.alike
    apply (answers_reduce input [axis] keepDims Single.maximum).bind
    intro values (hvalues : values.sizes = _)
    apply (answers_reduce input [axis] keepDims argmax).bind
    intro positions (hpositions : positions.sizes = _)
    show Returned.many [values.sizes, positions.sizes] = _
    rw [hvalues, hpositions]

theorem reduceAlong_alike (f : List Float32 → Float32) {dims : List Int}
    (hdims : bound.ints "dim" = .ok dims) (hoptDims : bound.optInts "dim" = .ok (some dims)) :
    Alike SingleOf (Builtin.dimsReduction (bound.map RealTensor.sizes)) (reduceAlong f bound) := by
  obtain ⟨hshapes, htensors⟩ := lift_keepDims hkeep
  unfold reduceAlong Builtin.dimsReduction
  simp only [hshapes, htensors, lift_eq_ok.mpr hdims, BoundArgs.optInts_map, hoptDims, lift_ok,
    ok_bind]
  apply (alike_floats "self" bound).bind
  rintro _ input rfl
  exact reduceDims_alike_reduce f input dims keepDims

theorem normAlong_alike {order : Float} {dims : Option (List Int)}
    (horder : bound.float "ord" = .ok order) (hdims : bound.optInts "dim" = .ok dims) :
    Alike SingleOf (Builtin.dimsReduction (bound.map RealTensor.sizes)) (normAlong bound) := by
  obtain ⟨hshapes, htensors⟩ := lift_keepDims hkeep
  unfold normAlong Builtin.dimsReduction
  simp only [hshapes, htensors, singleArg_eq "ord" horder, BoundArgs.optInts_map, hdims, lift_ok,
    ok_bind]
  apply (alike_floats "self" bound).bind
  rintro _ input rfl
  exact reduceDims_alike_reduce (vectorNorm order.toFloat32) input (dims.getD []) keepDims

end KeepDims

/-! ## Counting -/

/-- No number that is to be counted is negative. -/
def NonnegativeValues (bound : TensorArgs) : Prop :=
  ∀ input, intArg bound "self" = .ok input → ∀ value ∈ input.data, 0 ≤ value

/-- The answers of a count: a dimension of unknown size, and a vector of floats. -/
def Counted (token : Nat) (shapes : Returned Shape) (tensors : Returned RealTensor) : Prop :=
  shapes = .one (.unknownVector token) ∧
    ∃ counts : Tensor Float32, tensors = .one (.float counts) ∧ counts.sizes.length = 1

/-- Weights that stand for themselves, or that are not there, have the sizes of what they weigh. -/
theorem weights_alike (weights : Option (Tensor Float32)) (sizes : Sizes) :
    (weights.map Tensor.sizes).getD sizes ≠ sizes ↔
      (weights.any fun weights => weights.sizes != sizes) = true := by
  cases weights <;> simp

/-- **A count follows its rule**, up to the numbers that are counted. -/
theorem bincount_alike {input : RealTensor} (hinput : bound.tensor "self" = .ok input)
    (token : Nat) :
    AlikeIf (NonnegativeValues bound) (Counted token)
      (Builtin.binCount token (bound.map RealTensor.sizes)) (bincount bound) := by
  have hvalues := intArg_eq "self" hinput
  unfold Builtin.binCount bincount
  rw [hvalues, tensor_sizes "self" hinput, ← sizes_toInts input]
  generalize toInts input = values at hvalues
  simp only [lift_ok, ok_bind]
  by_cases hrank : values.sizes.length ≠ 1
  · rw [if_pos hrank, if_pos hrank]
    trivial
  rw [if_neg hrank, if_neg hrank]
  apply (alike_int "minlength" bound).bind_if
  rintro least _ rfl
  by_cases hleast : least < 0
  · rw [if_pos hleast, if_pos hleast]
    trivial
  rw [if_neg hleast, if_neg hleast]
  apply (alike_optFloatArg "weights" bound).bind_if
  rintro _ weights rfl
  by_cases hweights : (weights.map Tensor.sizes).getD values.sizes ≠ values.sizes
  · rw [if_pos hweights, if_pos ((weights_alike weights values.sizes).mp hweights)]
    trivial
  rw [if_neg hweights, if_neg (mt (weights_alike weights values.sizes).mpr hweights)]
  by_cases hnegative : (values.data.any fun value => value < 0) = true
  · rw [if_pos hnegative]
    intro hnonnegative
    obtain ⟨position, hposition, hvalue⟩ := Array.any_eq_true.mp hnegative
    have hle : 0 ≤ values.data[position] :=
      hnonnegative values hvalues _ (Array.getElem_mem hposition)
    exact absurd (of_decide_eq_true hvalue) (Int.not_lt.mpr hle)
  · rw [if_neg hnegative]
    exact ⟨rfl, _, rfl, rfl⟩

end Calls

end OpShape.Operator

namespace OpShape

variable {draws : Draws}

/-! ## Agreement -/

section Entries

variable {op : OpName} {bound : TensorArgs} (token : Nat)

theorem truthEntry_agrees (htyped : (Builtin.truthEntry op).signature.WellTyped bound)
    (f : List Float32 → Int) :
    Agree ((Builtin.truthEntry op).compute token (bound.map RealTensor.sizes))
      (Operator.testAll f bound) := by
  obtain ⟨input, hinput⟩ := htyped.tensor "self" rfl rfl
  exact agree_of_oneOf token (Operator.testAll_alike f hinput)

theorem totalEntry_agrees (htyped : (Builtin.totalEntry op).signature.WellTyped bound)
    (f : List Float32 → Float32) :
    Agree ((Builtin.totalEntry op).compute token (bound.map RealTensor.sizes))
      (Operator.reduceAll f bound) := by
  obtain ⟨input, hinput⟩ := htyped.tensor "self" rfl rfl
  exact agree_of_singleOf token (Operator.reduceAll_alike f hinput)

theorem spreadEntry_agrees (htyped : (Builtin.spreadEntry op).signature.WellTyped bound)
    (finish : Float32 → Float32) :
    Agree ((Builtin.spreadEntry op).compute token (bound.map RealTensor.sizes))
      (Operator.varianceAll finish bound) := by
  obtain ⟨input, hinput⟩ := htyped.tensor "self" rfl rfl
  obtain ⟨unbiased, hunbiased⟩ := htyped.bool "unbiased" rfl rfl
  exact agree_of_singleOf token (Operator.varianceAll_alike finish hinput hunbiased)

theorem dimsEntry_agrees (htyped : (Builtin.dimsEntry op).signature.WellTyped bound)
    (f : List Float32 → Float32) :
    Agree ((Builtin.dimsEntry op).compute token (bound.map RealTensor.sizes))
      (Operator.reduceAlong f bound) := by
  obtain ⟨keepDims, hkeep⟩ := htyped.bool "keepdim" rfl rfl
  obtain ⟨dims, hdims, hoptDims⟩ := htyped.ints "dim" rfl rfl
  exact agree_of_singleOf token (Operator.reduceAlong_alike hkeep f hdims hoptDims)

/-- An operator of the family that is not the count. -/
theorem agrees_uncounted {name : String} {shapes : ShapeResult (Returned Shape)}
    {operator : Operator} (hoperator : Operator.ofName? draws name = some operator)
    (hname : name ≠ "aten::bincount") (h : Agree shapes (operator bound)) :
    ∃ operator, Operator.ofName? draws name = some operator ∧
      (name ≠ "aten::bincount" → Agree shapes (operator bound)) ∧
      (name = "aten::bincount" →
        AlikeIf (Operator.NonnegativeValues bound) (Operator.Counted token) shapes
          (operator bound)) :=
  ⟨operator, hoperator, fun _ => h, fun hcount => absurd hcount hname⟩

end Entries

end OpShape

/-
# `OpShape.Proofs.Operator.Pool` — the functions that pool agree with the operators.

Both sides read the same window from a call and count the same places for it.  What is left to the
operators are values for places, computed from what the window shows, and a gradient, which is
written back to the positions that a call brings along; those alone may lie outside the input.
-/
import OpShape.Builtin.Pool
import OpShape.Proofs.Operator.Index
import OpShape.Proofs.Operator.Window

namespace OpShape.Operator

open Tensor (HasSizes answers_ofData)

variable {bound : TensorArgs}

attribute [local irreducible] signed wrapInt

/-! ## Maxima -/

/-- Greatest elements and their positions, one of each for every place in an input of these sizes. -/
structure PooledTo (sizes out : Sizes) (pooled : Tensor Float32 × Tensor Int) : Prop where
  values : HasSizes out pooled.1
  positions : HasSizes out pooled.2
  stacked : ∃ planes rows columns, Stacked sizes 0 planes ∧ out = planes.stack ++ [rows, columns]

/-- What is left of pooling by the greatest element once the places are counted always answers. -/
theorem answers_windowMaxima {input : Tensor Float32} {planes : Planes}
    (hplanes : Stacked input.sizes 0 planes) (window : PlaneWindow) (rows columns : Nat) :
    Answers (PooledTo input.sizes (planes.stack ++ [rows, columns]))
      (do
        let best ← planes.build rows columns (windowMax planes input.data window)
        .ok (best.map Prod.fst, best.map fun entry => wrapInt entry.2)) := by
  refine (answers_build fun plane hplane row _ column _ =>
    answers_windowMax hplanes.size_data hplane window row column).bind ?_
  intro best hbest
  exact {
    values := hbest
    positions := hbest
    stacked := ⟨planes, rows, columns, hplanes, rfl⟩ }

/-- Pooling by the greatest element, as a call asks for it. -/
def maxPoolCall (args : TensorArgs) : OpResult (Tensor Float32 × Tensor Int) := do
  let input ← floatArg args "self"
  let window ← windowArg args
  maxPool input window

theorem maxPoolOf_eq (bound : TensorArgs) :
    maxPoolOf bound = (do one (← maxPoolCall bound).1) := by
  unfold maxPoolOf maxPoolCall
  simp only [bind_assoc]

theorem maxPoolWithPositionsOf_eq (bound : TensorArgs) :
    maxPoolWithPositionsOf bound = (do
      let pooled ← maxPoolCall bound
      many [.float pooled.1, .int pooled.2]) := by
  unfold maxPoolWithPositionsOf maxPoolCall
  simp only [bind_assoc]

/-- **Pooling by the greatest element follows its rule**, for whatever window a call gives. -/
theorem maxPoolCall_alike (hfits : bound.Fits (2 ^ 64)) :
    Alike (fun out pooled => ∃ input, floatArg bound "self" = .ok input ∧
        PooledTo input.sizes out pooled)
      (Builtin.maxPool2d (bound.map RealTensor.sizes)) (maxPoolCall bound) := by
  unfold Builtin.maxPool2d maxPoolCall windowArg maxPool
  simp only [bind_assoc]
  apply (alike_floatArg "self" hfits).and_eq_ok.bind
  rintro _ input ⟨⟨rfl, -⟩, hinput⟩
  apply (alike_ints "kernel_size" hfits).bind
  rintro kernel _ ⟨rfl, hkernel⟩
  apply (alike_ints "stride" hfits).bind
  rintro stride _ ⟨rfl, hstride⟩
  apply (alike_ints "padding" hfits).bind
  rintro padding _ ⟨rfl, hpadding⟩
  apply (alike_ints "dilation" hfits).bind
  rintro dilation _ ⟨rfl, hdilation⟩
  apply (alike_bool "ceil_mode" bound).bind
  rintro ceilMode _ rfl
  apply pool2d_alike ceilMode hkernel hstride hpadding hdilation
  intro window planes rows columns hplanes
  apply (answers_windowMaxima hplanes window rows columns).imp
  intro pooled hpooled
  exact ⟨input, hinput, hpooled⟩

theorem maxPoolOf_follows : Follows (2 ^ 64) maxPoolOf Builtin.maxPool2d := by
  intro bound hfits
  rw [maxPoolOf_eq]
  apply (maxPoolCall_alike hfits).bind_right
  rintro out ⟨values, positions⟩ ⟨_, _, hpooled⟩
  exact ⟨values, rfl, hpooled.values⟩

/-- Pooling by the greatest element, with positions, gives two tensors of one size. -/
theorem maxPoolWithPositionsOf_alike (hfits : bound.Fits (2 ^ 64)) :
    Alike ManyOf (Builtin.maxPool2dWithIndices (bound.map RealTensor.sizes))
      (maxPoolWithPositionsOf bound) := by
  rw [maxPoolWithPositionsOf_eq]
  unfold Builtin.maxPool2dWithIndices
  apply (maxPoolCall_alike hfits).bind
  rintro out ⟨values, positions⟩ ⟨_, _, hpooled⟩
  show Returned.many [values.sizes, positions.sizes] = .many [out, out]
  rw [show values.sizes = out from hpooled.values, show positions.sizes = out from hpooled.positions]

/-! ## The gradient of maxima -/

/-- The positions of a call lie in the plane that they are written back to. -/
def PositionsInPlane (bound : TensorArgs) : Prop :=
  ∀ input positions, floatArg bound "self" = .ok input → intArg bound "indices" = .ok positions →
    ∀ position ∈ positions.data,
      0 ≤ position ∧ position < elementCount (input.sizes.drop (input.sizes.length - 2))

/-- **A position in a plane is a place in the input**, for as many elements as the planes of the
answer have. -/
theorem answersIf_planeOffset {p : Prop} {planes : Planes} {outLength offset : Nat} {position : Int}
    (hoffset : offset < elementCount planes.stack * outLength)
    (hposition : p → 0 ≤ position ∧ position < (planes.height * planes.width : Nat)) :
    AnswersIf p (fun place => place < elementCount (planes.stack ++ [planes.height, planes.width]))
      (planeOffset planes outLength offset position) := by
  have houtLength : 0 < outLength := Nat.pos_of_mul_pos_left (Nat.zero_lt_of_lt hoffset)
  have hplane : offset / outLength < elementCount planes.stack :=
    Nat.div_lt_of_lt_mul (Nat.mul_comm _ _ ▸ hoffset)
  unfold planeOffset
  rw [Checked.div_of_ne_zero (Nat.ne_of_gt houtLength), ok_bind]
  dsimp only
  by_cases hout : position < 0 ∨ ((planes.height * planes.width : Nat) : Int) ≤ position
  · rw [if_pos hout]
    intro hp
    have := hposition hp
    omega
  · rw [if_neg hout]
    show _ < _
    rw [elementCount_planes]
    exact row_add_lt hplane (by omega)

/-- Add the slopes up at their positions, once both have the shape of the answer. -/
def writeBack (input grad : Tensor Float32) (positions : Tensor Int) (planes : Planes)
    (outLength : Nat) : OpResult (Returned RealTensor) := do
  let entries ← (grad.data.zip positions.data).toList.zipIdx.mapM fun entry => do
    .ok (← planeOffset planes outLength entry.2 entry.1.2, entry.1.1)
  let blank := Array.replicate (elementCount input.sizes) 0.0
  one (← Tensor.ofData input.sizes (← writeAll (· + ·) blank entries))

/-- **Slopes are written back** if every position lies in its plane. -/
theorem answersIf_writeBack {p : Prop} {input grad : Tensor Float32} {positions : Tensor Int}
    {planes : Planes} {rows columns : Nat} (hplanes : Stacked input.sizes 0 planes)
    (hgrad : grad.sizes = planes.stack ++ [rows, columns])
    (hpositions : p → ∀ position ∈ positions.data,
      0 ≤ position ∧ position < (planes.height * planes.width : Nat)) :
    AnswersIf p (SingleOf input.sizes)
      (writeBack input grad positions planes (rows * columns)) := by
  have hgradData : grad.data.size = elementCount planes.stack * (rows * columns) := by
    rw [grad.size_data, hgrad, elementCount_planes]
  have hentries : AnswersIf p
      (List.Forall₂ (fun _ (entry : Nat × Float32) => entry.1 < elementCount input.sizes)
        (grad.data.zip positions.data).toList.zipIdx)
      ((grad.data.zip positions.data).toList.zipIdx.mapM fun entry => do
        .ok (← planeOffset planes (rows * columns) entry.2 entry.1.2, entry.1.1)) := by
    apply AnswersIf.mapM
    rintro ⟨⟨slope, position⟩, offset⟩ hentry
    have hoffset : offset < (grad.data.zip positions.data).toList.length :=
      (List.mem_zipIdx' hentry).1
    rw [Array.length_toList, Array.size_zip, hgradData] at hoffset
    have hmem : position ∈ positions.data := by
      have hzip := List.fst_mem_of_mem_zipIdx hentry
      rw [Array.toList_zip] at hzip
      exact Array.mem_toList_iff.mp (List.of_mem_zip hzip).2
    refine (answersIf_planeOffset (Nat.lt_of_lt_of_le hoffset (Nat.min_le_left _ _))
      fun hp => hpositions hp position hmem).bind ?_
    intro place hplace
    rw [hplanes.sizes_eq]
    exact hplace
  unfold writeBack
  apply hentries.bind
  intro entries hplaces
  apply Answers.answersIf
  generalize hblank : Array.replicate (elementCount input.sizes) (0.0 : Float32) = blank
  have hsize : blank.size = elementCount input.sizes := by
    rw [← hblank, Array.size_replicate]
  have hwrites : ∀ entry ∈ entries, entry.1 < blank.size := by
    rw [hsize]
    exact (forall₂_right_iff.mp hplaces).2
  dsimp only
  apply (answers_writeAll hwrites).bind
  intro data hdata
  apply (answers_ofData (hdata.trans hsize)).bind
  intro output houtput
  exact ⟨output, rfl, houtput⟩

section Gradient

variable {input grad positions : RealTensor} (hinput : bound.tensor "self" = .ok input)
  (hgrad : bound.tensor "grad_output" = .ok grad)
  (hpositions : bound.tensor "indices" = .ok positions)

include hinput hgrad hpositions

/-- The operator pools again, only to find out which shape the slopes have to have. -/
theorem maxPoolBackwardOf_eq :
    maxPoolBackwardOf bound = (do
      let pooled ← maxPoolCall bound
      if grad.sizes ≠ pooled.1.sizes ∨ positions.sizes ≠ pooled.1.sizes then
        incompatible "Gradient and indices must have the shape of the pooling output"
      else
        let planes ← Planes.ofSizes input.sizes 0
        writeBack input.toFloats grad.toFloats (toInts positions) planes
          (elementCount (pooled.1.sizes.drop (pooled.1.sizes.length - 2)))) := by
  unfold maxPoolBackwardOf maxPoolCall
  rw [floatArg_eq "self" hinput, floatArg_eq "grad_output" hgrad, intArg_eq "indices" hpositions]
  simp only [ok_bind, bind_assoc]
  rw [← input.sizes_toFloats, ← grad.sizes_toFloats, ← sizes_toInts positions]
  rfl

/-- The rule does the same. -/
theorem maxPool2dGradient_eq :
    Builtin.maxPool2dGradient (bound.map RealTensor.sizes) = (do
      let out ← Builtin.maxPool2d (bound.map RealTensor.sizes)
      if grad.sizes ≠ out ∨ positions.sizes ≠ out then
        Rule.incompatible "gradient and indices must have the shape of the pooling output"
      else .ok input.sizes) := by
  unfold Builtin.maxPool2dGradient
  rw [tensor_sizes "self" hinput, tensor_sizes "grad_output" hgrad,
    tensor_sizes "indices" hpositions]
  rfl

/-- **The gradient follows its rule**, and answers if every position lies in its plane. -/
theorem maxPoolBackwardOf_follows (hfits : bound.Fits (2 ^ 64)) :
    AlikeIf (PositionsInPlane bound) SingleOf
      (Builtin.maxPool2dGradient (bound.map RealTensor.sizes)) (maxPoolBackwardOf bound) := by
  rw [maxPoolBackwardOf_eq hinput hgrad hpositions, maxPool2dGradient_eq hinput hgrad hpositions]
  apply (maxPoolCall_alike hfits).bind_if
  rintro out ⟨values, _⟩ ⟨self, hself, ⟨hvalues, -, planes, rows, columns, hplanes, rfl⟩⟩
  obtain rfl : input.toFloats = self := Except.ok.inj ((floatArg_eq "self" hinput).symm.trans hself)
  rw [show values.sizes = planes.stack ++ [rows, columns] from hvalues]
  by_cases hshape : grad.sizes ≠ planes.stack ++ [rows, columns] ∨
      positions.sizes ≠ planes.stack ++ [rows, columns]
  · rw [if_pos hshape, if_pos hshape]
    trivial
  · obtain ⟨hgradShape, -⟩ := not_or.mp hshape
    have hlast : elementCount ((planes.stack ++ [rows, columns]).drop
        ((planes.stack ++ [rows, columns]).length - 2)) = rows * columns := by
      simp
    rw [if_neg hshape, if_neg hshape, hlast, ← input.sizes_toFloats, hplanes.planes_eq, ok_bind]
    refine AnswersIf.alikeIf (answersIf_writeBack hplanes ?_ ?_)
    · rw [grad.sizes_toFloats]
      exact not_not.mp hgradShape
    · intro hinside position hposition
      have hplane := hinside _ _ hself (intArg_eq "indices" hpositions) position hposition
      rw [hplanes.drop_eq] at hplane
      simpa using hplane

end Gradient

/-! ## Means -/

/-- **Means of windows follow their rule**, which looks at the divisor before anything else. -/
theorem avgPoolOf_alike {withPadding : Bool} {fixed : Option Int} (hfits : bound.Fits (2 ^ 64))
    (hwithPadding : bound.bool "count_include_pad" = .ok withPadding)
    (hfixed : bound.optInt "divisor_override" = .ok fixed) :
    Alike SingleOf (Builtin.avgPool2d (bound.map RealTensor.sizes)) (avgPoolOf bound) := by
  have hflag : (liftM (bound.bool "count_include_pad") : OpResult Bool) = .ok withPadding :=
    lift_eq_ok.mpr hwithPadding
  have hdivisor : (liftM (bound.optInt "divisor_override") : OpResult (Option Int)) = .ok fixed :=
    lift_eq_ok.mpr hfixed
  have hdivisor' : (liftM ((bound.map RealTensor.sizes).optInt "divisor_override") :
      ShapeResult (Option Int)) = .ok fixed := by
    rw [BoundArgs.optInt_map, hfixed]
    rfl
  unfold Builtin.avgPool2d avgPoolOf
  simp only [hflag, hdivisor, hdivisor', ok_bind]
  by_cases hzero : fixed = some 0
  · simp only [if_pos hzero]
    refine alike_error_bind fun _ => alike_error_bind fun _ => alike_error_bind fun _ =>
      alike_error_bind fun _ => alike_error_bind fun _ => alike_error_bind fun _ => ?_
    exact alike_error_error
  simp only [if_neg hzero]
  unfold avgPool
  simp only [bind_assoc]
  apply (alike_floatArg "self" hfits).bind
  rintro _ input ⟨rfl, -⟩
  apply (alike_ints "kernel_size" hfits).bind
  rintro kernel _ ⟨rfl, hkernel⟩
  apply (alike_ints "stride" hfits).bind
  rintro stride _ ⟨rfl, hstride⟩
  apply (alike_ints "padding" hfits).bind
  rintro padding _ ⟨rfl, hpadding⟩
  apply (alike_bool "ceil_mode" bound).bind
  rintro ceilMode _ rfl
  apply pool2d_alike ceilMode hkernel hstride hpadding (by decide)
  intro window planes rows columns hplanes
  refine (answers_build fun plane hplane row _ column _ => ?_).bind fun means hmeans => ?_
  · refine (answers_planeSum hplanes.size_data hplane ?_ ?_).bind fun _ _ => trivial
    · exact fun _ => lt_of_mem_extent
    · exact fun _ => lt_of_mem_extent
  · exact ⟨means, rfl, hmeans⟩

/-- The means of as many windows as are asked for are there. -/
theorem answers_adaptiveMeans {input : Tensor Float32} {planes : Planes}
    (hplanes : Stacked input.sizes 1 planes) (rows columns : Nat) :
    Answers (HasSizes (planes.stack ++ [rows, columns])) (adaptiveAvgPool input rows columns) := by
  unfold adaptiveAvgPool
  rw [hplanes.planes_eq, ok_bind]
  apply answers_build
  intro plane hplane row hrow column hcolumn
  apply (answers_adaptiveRange hrow).bind
  intro down hdown
  apply (answers_adaptiveRange hcolumn).bind
  intro across hacross
  exact (answers_planeSum hplanes.size_data hplane hdown hacross).bind fun _ _ => trivial

/-- **An adaptive mean is refused on both sides** for the rank of the input or an empty plane, and
has the rows and columns that were asked for otherwise. -/
theorem adaptiveAvgPool_alike (input : Tensor Float32) (rows columns : Nat) :
    Alike HasSizes
      (if input.sizes.length ≠ 3 ∧ input.sizes.length ≠ 4 then
        Rule.wrongRank "adaptive pooling input must be a 3D or 4D tensor"
      else if (input.sizes.drop (input.sizes.length - 2)).contains 0 then
        Rule.incompatible "adaptive pooling input has an empty spatial dimension"
      else .ok (input.sizes.take (input.sizes.length - 2) ++ [rows, columns]))
      (adaptiveAvgPool input rows columns) := by
  rcases stacked_cases input.sizes 1 with ⟨planes, hplanes⟩ | ⟨⟨failure, hrefused⟩, hshape⟩
  · have hplane : input.sizes.length - 3 + 1 = input.sizes.length - 2 := by
      have hrank := hplanes.rank
      omega
    have hnonempty := hplanes.nonempty
    rw [hplane] at hnonempty
    rw [if_neg hplanes.ranked, hnonempty, if_neg Bool.false_ne_true, hplanes.take_eq]
    exact (answers_adaptiveMeans hplanes rows columns).alike
  · unfold adaptiveAvgPool
    rw [hrefused, error_bind]
    by_cases hrank : input.sizes.length ≠ 3 ∧ input.sizes.length ≠ 4
    · rw [if_pos hrank]
      exact alike_error_error
    · have hplane : input.sizes.length - 3 + 1 = input.sizes.length - 2 := by omega
      have hempty := hshape.resolve_left hrank
      rw [hplane] at hempty
      rw [if_neg hrank, if_pos hempty]
      exact alike_error_error

theorem adaptiveAvgPoolOf_follows (limit : Nat) :
    Follows limit adaptiveAvgPoolOf Builtin.adaptiveAvgPool2d := by
  intro bound hfits
  unfold adaptiveAvgPoolOf Builtin.adaptiveAvgPool2d
  apply (alike_floatArg "self" hfits).bind
  rintro _ input ⟨rfl, -⟩
  apply (alike_ints "output_size" hfits).bind
  rintro outputSize _ ⟨rfl, -⟩
  match outputSize with
  | [height, width] =>
    by_cases hnegative : height < 0 ∨ width < 0
    · unfold Rule.adaptivePool2d
      simp only [if_pos hnegative]
      exact alike_error_error
    · simp only [if_neg hnegative, Rule.adaptivePool2d_of_nonneg hnegative]
      exact (adaptiveAvgPool_alike input height.toNat width.toNat).single
  | [] | [_] | _ :: _ :: _ :: _ => exact alike_error_error

end OpShape.Operator

namespace OpShape

variable {draws : Draws}

/-! ## Agreement -/

/-- **The functions that pool agree with the operators** on every well typed call, with sizes below 2⁶⁴
and integers that are signed words: both give the same number of outputs of the same sizes, or neither
gives any.  Only where a gradient is written back does the operator rely on the positions of the
call. -/
theorem pooling_agrees {function : ShapeFunction} (hfunction : function ∈ Builtin.poolFamily)
    {args : CallArgs RealTensor} {bound : TensorArgs}
    (hbind : function.signature.bind args = .ok bound)
    (htyped : function.signature.WellTyped bound) (hfits : bound.Fits (2 ^ 64)) (token : Nat) :
    ∃ operator, Operator.ofName? draws function.op.text = some operator ∧
      AgreeIf
        (function.op.text = "aten::max_pool2d_with_indices_backward" →
          Operator.PositionsInPlane bound)
        (function.call token (args.map RealTensor.sizes)) (operator bound) := by
  rw [ShapeFunction.call_sizes hbind]
  unfold Builtin.poolFamily at hfunction
  simp only [List.mem_cons, List.not_mem_nil, or_false] at hfunction
  rcases hfunction with rfl | rfl | rfl | rfl | rfl
  · have hfollows := Operator.maxPoolOf_follows bound hfits
    exact ⟨_, rfl, (agree_of_singleOf token hfollows).alikeIf _⟩
  · have hfollows := Operator.maxPoolWithPositionsOf_alike hfits
    exact ⟨_, rfl, (agree_of_manyOf token hfollows).alikeIf _⟩
  · obtain ⟨input, hinput⟩ := htyped.tensor "self" rfl rfl
    obtain ⟨grad, hgrad⟩ := htyped.tensor "grad_output" rfl rfl
    obtain ⟨positions, hpositions⟩ := htyped.tensor "indices" rfl rfl
    have hfollows := Operator.maxPoolBackwardOf_follows hinput hgrad hpositions hfits
    refine ⟨_, rfl, agreeIf_of_singleOf token (hfollows.of_imp ?_)⟩
    intro hplane
    exact hplane rfl
  · obtain ⟨withPadding, hwithPadding⟩ := htyped.bool "count_include_pad" rfl rfl
    obtain ⟨fixed, hfixed⟩ := htyped.optInt "divisor_override" rfl rfl
    have hfollows := Operator.avgPoolOf_alike hfits hwithPadding hfixed
    exact ⟨_, rfl, (agree_of_singleOf token hfollows).alikeIf _⟩
  · have hfollows := Operator.adaptiveAvgPoolOf_follows _ bound hfits
    exact ⟨_, rfl, (agree_of_singleOf token hfollows).alikeIf _⟩

/-- One slope is written back to the last of the four elements that its window has seen. -/
theorem pooling_agrees_gradient :
    let slope : TensorArgs := { values := [
      ("grad_output", .tensor (.float (Tensor.full [1, 1, 1] 1))),
      ("self", .tensor (.float (Tensor.full [1, 2, 2] 1))),
      ("kernel_size", .list [.int 2]),
      ("stride", .list []),
      ("padding", .list [.int 0]),
      ("dilation", .list [.int 1]),
      ("ceil_mode", .bool false),
      ("indices", .tensor (.int (Tensor.full [1, 1, 1] 3)))] }
    (∃ operator, Operator.ofName? Single.spread "aten::max_pool2d_with_indices_backward" = some operator ∧
      AgreeIf
        ("aten::max_pool2d_with_indices_backward" = "aten::max_pool2d_with_indices_backward" →
          Operator.PositionsInPlane slope)
        (Builtin.poolFamily[2].call 0 {
          positional := [.tensor [1, 1, 1], .tensor [1, 2, 2], .list [.int 2], .list [],
            .list [.int 0], .list [.int 1], .bool false, .tensor [1, 1, 1]],
          keywords := [] })
        (operator slope)) ∧
      Operator.PositionsInPlane slope := by
  intro slope
  constructor
  · refine @pooling_agrees Single.spread Builtin.poolFamily[2] (List.getElem_mem _) {
      positional := [.tensor (.float (Tensor.full [1, 1, 1] 1)),
        .tensor (.float (Tensor.full [1, 2, 2] 1)), .list [.int 2], .list [], .list [.int 0],
        .list [.int 1], .bool false, .tensor (.int (Tensor.full [1, 1, 1] 3))],
      keywords := [] } slope rfl ?_ ?_ 0
    · exact .cons ⟨rfl, _, rfl⟩ (.cons ⟨rfl, _, rfl⟩ (.cons ⟨rfl, [2], rfl⟩
        (.cons ⟨rfl, [], rfl⟩ (.cons ⟨rfl, [0], rfl⟩ (.cons ⟨rfl, [1], rfl⟩
          (.cons ⟨rfl, _, rfl⟩ (.cons ⟨rfl, _, rfl⟩ .nil)))))))
    · exact .cons (.ofSizes [1, 1, 1] rfl (by decide)) (.cons (.ofSizes [1, 2, 2] rfl (by decide))
        (.cons (.ints [2] (by decide)) (.cons (.ints [] (by decide)) (.cons (.ints [0] (by decide))
          (.cons (.ints [1] (by decide)) (.cons .bool (.cons (.ofSizes [1, 1, 1] rfl (by decide))
            .nil)))))))
  · intro input positions hinput hpositions
    obtain rfl : (Tensor.full [1, 2, 2] 1 : Tensor Float32) = input := Except.ok.inj hinput
    obtain rfl : (Tensor.full [1, 1, 1] 3 : Tensor Int) = positions := Except.ok.inj hpositions
    intro position hposition
    obtain rfl : position = 3 := Array.eq_of_mem_replicate hposition
    decide

end OpShape

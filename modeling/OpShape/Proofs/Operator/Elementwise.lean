/-
# `OpShape.Proofs.Operator.Elementwise` — functions of single elements agree with the operators.

Operands that stretch over each other are brought to their common shape by both sides.  The rules
look for it in two or three shapes, the operators also where one of the operands is a number, which
they take as a scalar.
-/
import OpShape.Builtin.Backward
import OpShape.Builtin.Broadcast
import OpShape.Operator.Binary
import OpShape.Proofs.Operator.Broadcast
import OpShape.Proofs.Operator.Unary

namespace OpShape.Operator

open Tensor (HasSizes)

variable {bound : TensorArgs} {γ : Type}

/-! ## Two operands -/

/-- **Two operands that are combined follow the rule for their common shape**, whatever the answer
is wrapped up as. -/
theorem pairwise_alike (first second : String) (f : Float32 → Float32 → γ)
    {finish : Tensor γ → OpResult (Returned RealTensor)}
    (h : ∀ tensor, Answers (OneOf tensor.sizes) (finish tensor)) :
    Alike OneOf (Builtin.broadcastOf first second (bound.map RealTensor.sizes))
      (do
        let a ← floatArg bound first
        let b ← floatArg bound second
        finish (← zip2 a b f)) := by
  unfold Builtin.broadcastOf
  apply (alike_floats first bound).bind
  rintro _ a rfl
  apply (alike_floats second bound).bind
  rintro _ b rfl
  apply (zip2_alike a b f).bind_right
  rintro _ tensor rfl
  exact h tensor

theorem arithmetic_alike (f : Float32 → Float32 → Float32) :
    Alike OneOf (Builtin.broadcastOf "self" "other" (bound.map RealTensor.sizes))
      (arithmetic f bound) :=
  pairwise_alike "self" "other" f fun _ => rfl

theorem logical_alike (f : Float32 → Float32 → Bool) :
    Alike OneOf (Builtin.broadcastOf "self" "other" (bound.map RealTensor.sizes))
      (logical f bound) :=
  pairwise_alike "self" "other" _ fun _ => rfl

theorem bitwiseAnd_alike :
    Alike OneOf (Builtin.broadcastOf "self" "other" (bound.map RealTensor.sizes))
      (bitwiseAnd bound) :=
  pairwise_alike "self" "other" bitAnd fun _ => rfl

theorem arithmeticScaled_alike (f : Float32 → Float32 → Float32) {alpha : Float}
    (halpha : bound.float "alpha" = .ok alpha) :
    Alike OneOf (Builtin.broadcastOf "self" "other" (bound.map RealTensor.sizes))
      (arithmeticScaled f bound) := by
  unfold arithmeticScaled
  rw [singleArg_eq "alpha" halpha, ok_bind]
  exact pairwise_alike "self" "other" _ fun _ => rfl

theorem maskedFill_alike {value : Float} (hvalue : bound.float "value" = .ok value) :
    Alike OneOf (Builtin.broadcastOf "self" "mask" (bound.map RealTensor.sizes))
      (maskedFill bound) := by
  unfold maskedFill
  simp only [singleArg_eq "value" hvalue, ok_bind]
  exact pairwise_alike "self" "mask" _ fun _ => rfl

/-! ## Three operands -/

/-- **Three operands that are combined follow the rule for their common shape.** -/
theorem threefold_alike (first second third : String)
    (f : Float32 → Float32 → Float32 → Float32) :
    Alike OneOf (Builtin.broadcast3Of first second third (bound.map RealTensor.sizes))
      (do
        let a ← floatArg bound first
        let b ← floatArg bound second
        let c ← floatArg bound third
        one (← zip3 a b c f)) := by
  unfold Builtin.broadcast3Of
  apply (alike_floats first bound).bind
  rintro _ a rfl
  apply (alike_floats second bound).bind
  rintro _ b rfl
  apply (alike_floats third bound).bind
  rintro _ c rfl
  apply (zip3_alike a b c f).bind_right
  rintro _ tensor rfl
  rfl

theorem chooseTensors_alike :
    Alike OneOf (Builtin.broadcast3Of "condition" "self" "other" (bound.map RealTensor.sizes))
      (chooseTensors bound) :=
  threefold_alike "condition" "self" "other" _

theorem interpolate_alike :
    Alike OneOf (Builtin.broadcast3Of "self" "end" "weight" (bound.map RealTensor.sizes))
      (interpolate bound) :=
  threefold_alike "self" "end" "weight" _

theorem addCombined_alike (f : Float32 → Float32 → Float32 → Float32 → Float32) {value : Float}
    (hvalue : bound.float "value" = .ok value) :
    Alike OneOf (Builtin.broadcast3Of "self" "tensor1" "tensor2" (bound.map RealTensor.sizes))
      (addCombined f bound) := by
  unfold addCombined
  rw [singleArg_eq "value" hvalue, ok_bind]
  exact threefold_alike "self" "tensor1" "tensor2" _

/-! ## Numbers as operands -/

/-- A scalar stretches over every shape and changes none. -/
theorem broadcast_scalar_right (sizes : Sizes) : Rule.broadcast sizes [] = .ok sizes := by
  rw [broadcast_eq_ok]
  unfold commonShape?
  rw [List.reverse_nil]
  cases hreversed : sizes.reverse with
  | nil =>
    rw [List.reverse_eq_nil_iff.mp hreversed]
    rfl
  | cons size rest =>
    have hsame : commonReversed (size :: rest) [] = some (size :: rest) := rfl
    rw [hsame, ← hreversed, Option.map_some, List.reverse_reverse]

theorem choose_alike (condition x y : Tensor Float32) :
    Alike OneOf (Rule.broadcast3 condition.sizes x.sizes y.sizes) (choose condition x y) := by
  apply (zip3_alike condition x y _).bind_right
  rintro _ tensor rfl
  rfl

theorem chooseNumbers_alike {x y : Float} (hx : bound.float "self" = .ok x)
    (hy : bound.float "other" = .ok y) :
    Alike OneOf (Builtin.conditionShape (bound.map RealTensor.sizes)) (chooseNumbers bound) := by
  unfold Builtin.conditionShape chooseNumbers
  simp only [singleArg_eq "self" hx, singleArg_eq "other" hy, ok_bind]
  apply (alike_floats "condition" bound).bind
  rintro _ condition rfl
  have hchoice := choose_alike condition (.scalar x.toFloat32) (.scalar y.toFloat32)
  have hsizes : Rule.broadcast3 condition.sizes [] [] = .ok condition.sizes := by
    unfold Rule.broadcast3
    rw [broadcast_scalar_right, ok_bind, broadcast_scalar_right]
  exact hsizes ▸ hchoice

theorem chooseOrNumber_alike {y : Float} (hy : bound.float "other" = .ok y) :
    Alike OneOf (Builtin.broadcastOf "condition" "self" (bound.map RealTensor.sizes))
      (chooseOrNumber bound) := by
  unfold Builtin.broadcastOf chooseOrNumber
  simp only [singleArg_eq "other" hy, ok_bind]
  apply (alike_floats "condition" bound).bind
  rintro _ condition rfl
  apply (alike_floats "self" bound).bind
  rintro _ x rfl
  have hchoice := choose_alike condition x (.scalar y.toFloat32)
  have hsizes : Rule.broadcast3 condition.sizes x.sizes [] =
      Rule.broadcast condition.sizes x.sizes := by
    unfold Rule.broadcast3
    simp only [broadcast_scalar_right]
    exact bind_pure _
  exact hsizes ▸ hchoice

theorem chooseNumberOr_alike {x : Float} (hx : bound.float "self" = .ok x) :
    Alike OneOf (Builtin.broadcastOf "condition" "other" (bound.map RealTensor.sizes))
      (chooseNumberOr bound) := by
  unfold Builtin.broadcastOf chooseNumberOr
  simp only [singleArg_eq "self" hx, ok_bind]
  apply (alike_floats "condition" bound).bind
  rintro _ condition rfl
  apply (alike_floats "other" bound).bind
  rintro _ y rfl
  have hchoice := choose_alike condition (.scalar x.toFloat32) y
  have hsizes : Rule.broadcast3 condition.sizes [] y.sizes =
      Rule.broadcast condition.sizes y.sizes := by
    unfold Rule.broadcast3
    rw [broadcast_scalar_right, ok_bind]
  exact hsizes ▸ hchoice

/-! ## Gradients -/

section Gradients

variable {args : Builtin.ShapeArgs} {saved : Sizes}

/-- A tensor that is there is found where a tensor or none is asked for. -/
theorem optTensor_of_tensor {name : String} (h : args.tensor name = .ok saved) :
    args.optTensor name = .ok (some saved) := by
  obtain ⟨arg, harg, hview⟩ := BoundArgs.take_eq_ok.mp h
  refine BoundArgs.take_eq_ok.mpr ⟨arg, harg, ?_⟩
  cases arg with
  | tensor value => exact congrArg some hview
  | _ => cases hview

theorem savedShape_output (h : args.tensor "output" = .ok saved) :
    Builtin.savedShape args = .ok (some saved) := by
  unfold Builtin.savedShape
  rw [optTensor_of_tensor h]

/-- Where no output was saved, the input was. -/
theorem savedShape_self {e : BindError} (hmissing : args.arg "output" = .error e)
    (h : args.tensor "self" = .ok saved) : Builtin.savedShape args = .ok (some saved) := by
  have houtput : args.optTensor "output" = .error e := by
    unfold BoundArgs.optTensor
    rw [BoundArgs.take_eq, hmissing, error_bind]
  unfold Builtin.savedShape
  rw [houtput, optTensor_of_tensor h]

/-- What was saved and the gradient stretch over each other. -/
theorem scaledGradient_eq {name : String} (h : args.tensor name = .ok saved)
    (hsaved : Builtin.savedShape args = .ok (some saved)) :
    Builtin.scaledGradient args = Builtin.broadcastOf "grad_output" name args := by
  unfold Builtin.scaledGradient Builtin.broadcastOf
  rw [hsaved, h]
  rfl

end Gradients

theorem tanhBackward_alike {output : RealTensor} (houtput : bound.tensor "output" = .ok output) :
    Alike OneOf (Builtin.scaledGradient (bound.map RealTensor.sizes)) (tanhBackward bound) := by
  have hshape := tensor_sizes "output" houtput
  rw [scaledGradient_eq hshape (savedShape_output hshape)]
  exact pairwise_alike "grad_output" "output" _ fun _ => rfl

section SavedInput

variable {input : RealTensor} {e : BindError} (hmissing : bound.arg "output" = .error e)
  (hinput : bound.tensor "self" = .ok input)

include hmissing hinput

/-- The shape of a gradient for which the input was saved. -/
theorem scaledGradient_self :
    Builtin.scaledGradient (bound.map RealTensor.sizes) =
      Builtin.broadcastOf "grad_output" "self" (bound.map RealTensor.sizes) := by
  have hshape := tensor_sizes "self" hinput
  have hmissing' : (bound.map RealTensor.sizes).arg "output" = .error e := by
    rw [BoundArgs.arg_map, hmissing]
    rfl
  exact scaledGradient_eq hshape (savedShape_self hmissing' hshape)

theorem geluBackward_alike :
    Alike OneOf (Builtin.geluGradient (bound.map RealTensor.sizes)) (geluBackward bound) := by
  unfold Builtin.geluGradient geluBackward
  apply approximate_alike.bind
  intro _ approximate _
  rw [scaledGradient_self hmissing hinput]
  exact pairwise_alike "grad_output" "self" _ fun _ => rfl

theorem thresholdBackward_alike {limit : Float} (hlimit : bound.float "threshold" = .ok limit) :
    Alike OneOf (Builtin.scaledGradient (bound.map RealTensor.sizes))
      (thresholdBackward bound) := by
  unfold thresholdBackward
  rw [scaledGradient_self hmissing hinput, singleArg_eq "threshold" hlimit, ok_bind]
  exact pairwise_alike "grad_output" "self" _ fun _ => rfl

end SavedInput

end OpShape.Operator

namespace OpShape

variable {draws : Draws}

/-! ## Agreement -/

section Families

variable {bound : TensorArgs} {function : ShapeFunction}

/-- The operators without other parameters keep the sizes of their operand. -/
theorem plain_follows {op : OpName} (hop : op ∈ Builtin.plainOps) :
    ∃ operator, Operator.ofName? draws op.text = some operator ∧
      Alike OneOf (Builtin.selfShape (bound.map RealTensor.sizes)) (operator bound) := by
  unfold Builtin.plainOps at hop
  simp only [List.mem_cons, List.not_mem_nil, or_false] at hop
  rcases hop with rfl | rfl | rfl | rfl | rfl | rfl | rfl | rfl | rfl | rfl | rfl | rfl | rfl |
    rfl | rfl | rfl | rfl | rfl | rfl | rfl | rfl | rfl
  · exact ⟨_, rfl, Operator.mapSelf_alike _⟩
  · exact ⟨_, rfl, Operator.mapSelf_alike _⟩
  · exact ⟨_, rfl, Operator.mapSelf_alike _⟩
  · exact ⟨_, rfl, Operator.mapSelf_alike _⟩
  · exact ⟨_, rfl, Operator.mapSelf_alike _⟩
  · exact ⟨_, rfl, Operator.mapSelf_alike _⟩
  · exact ⟨_, rfl, Operator.mapSelf_alike _⟩
  · exact ⟨_, rfl, Operator.mapSelf_alike _⟩
  · exact ⟨_, rfl, Operator.mapSelf_alike _⟩
  · exact ⟨_, rfl, Operator.mapSelf_alike _⟩
  · exact ⟨_, rfl, Operator.mapSelf_alike _⟩
  · exact ⟨_, rfl, Operator.mapSelf_alike _⟩
  · exact ⟨_, rfl, Operator.mapSelf_alike _⟩
  · exact ⟨_, rfl, Operator.identity_alike⟩
  · exact ⟨_, rfl, Operator.mapSelf_alike _⟩
  · exact ⟨_, rfl, Operator.mapSelf_alike _⟩
  · exact ⟨_, rfl, Operator.mapSelf_alike _⟩
  · exact ⟨_, rfl, Operator.mapSelf_alike _⟩
  · exact ⟨_, rfl, Operator.mapSelf_alike _⟩
  · exact ⟨_, rfl, Operator.mapSelf_alike _⟩
  · exact ⟨_, rfl, Operator.mapSelf_alike _⟩
  · exact ⟨_, rfl, Operator.zeroed_alike⟩

theorem unary_agrees (hfunction : function ∈ Builtin.unaryFamily)
    (hop : function.op ≠ Builtin.aten "hardtanh") (htyped : function.signature.WellTyped bound) :
    AgreesOn draws function bound := by
  unfold Builtin.unaryFamily at hfunction
  rcases List.mem_append.mp hfunction with hplain | hother
  · obtain ⟨op, hmem, rfl⟩ := List.mem_map.mp hplain
    obtain ⟨operator, hoperator, hfollows⟩ := plain_follows hmem
    exact agreesOn_entry hoperator hfollows
  · simp only [List.mem_cons, List.not_mem_nil, or_false] at hother
    rcases hother with rfl | rfl | rfl | rfl | rfl | rfl | rfl
    · exact absurd rfl hop
    · exact agreesOn_entry rfl Operator.geluSelf_alike
    · obtain ⟨slope, hslope⟩ := htyped.float "negative_slope" rfl rfl
      exact agreesOn_entry rfl (Operator.leakyRelu_alike hslope)
    · obtain ⟨low, hlow⟩ := htyped.optFloat "min" rfl rfl
      obtain ⟨high, hhigh⟩ := htyped.optFloat "max" rfl rfl
      exact agreesOn_entry rfl (Operator.clamp_alike hlow hhigh)
    · obtain ⟨limit, hlimit⟩ := htyped.float "threshold" rfl rfl
      obtain ⟨value, hvalue⟩ := htyped.float "value" rfl rfl
      exact agreesOn_entry rfl (Operator.threshold_alike hlimit hvalue)
    · obtain ⟨p, hp⟩ := htyped.float "p" rfl rfl
      obtain ⟨train, htrain⟩ := htyped.bool "train" rfl rfl
      exact agreesOn_entry rfl (Operator.dropout_alike hp htrain)
    · exact agreesOn_entry rfl Operator.bernoulli_alike

theorem backward_agrees (hfunction : function ∈ Builtin.backwardFamily)
    (htyped : function.signature.WellTyped bound) : AgreesOn draws function bound := by
  unfold Builtin.backwardFamily at hfunction
  simp only [List.mem_cons, List.not_mem_nil, or_false] at hfunction
  rcases hfunction with rfl | rfl | rfl
  · obtain ⟨output, houtput⟩ := htyped.tensor "output" rfl rfl
    exact agreesOn_entry rfl (Operator.tanhBackward_alike houtput)
  · obtain ⟨input, hinput⟩ := htyped.tensor "self" rfl rfl
    have hmissing := htyped.unknown "output" rfl
    exact agreesOn_entry rfl (Operator.geluBackward_alike hmissing hinput)
  · obtain ⟨input, hinput⟩ := htyped.tensor "self" rfl rfl
    obtain ⟨limit, hlimit⟩ := htyped.float "threshold" rfl rfl
    have hmissing := htyped.unknown "output" rfl
    exact agreesOn_entry rfl (Operator.thresholdBackward_alike hmissing hinput hlimit)

theorem convert_agrees (hfunction : function ∈ Builtin.convertFamily)
    (htyped : function.signature.WellTyped bound) : AgreesOn draws function bound := by
  unfold Builtin.convertFamily at hfunction
  simp only [List.mem_cons, List.not_mem_nil, or_false] at hfunction
  rcases hfunction with rfl | rfl | rfl | rfl | rfl | rfl | rfl
  · obtain ⟨code, hcode⟩ := htyped.int "dtype" rfl rfl
    exact agreesOn_entry rfl (Operator.castTo_alike hcode)
  · obtain ⟨code, hcode⟩ := htyped.optInt "dtype" rfl rfl
    exact agreesOn_entry rfl (Operator.castToOptional_alike hcode)
  · obtain ⟨other, hother⟩ := htyped.tensor "other" rfl rfl
    exact agreesOn_entry rfl (Operator.castLike_alike hother)
  · obtain ⟨code, hcode⟩ := htyped.optInt "dtype" rfl rfl
    exact agreesOn_entry rfl (Operator.castToOptional_alike hcode)
  · obtain ⟨other, hother⟩ := htyped.tensor "other" rfl rfl
    exact agreesOn_entry rfl (Operator.castLike_alike hother)
  · exact agreesOn_entry rfl Operator.identity_alike
  · exact agreesOn_entry rfl Operator.identity_alike

/-- Comparisons and arithmetic with a number keep the sizes of the tensor. -/
theorem scalarOp_follows {op : OpName} (hop : op ∈ Builtin.scalarOps) {other : Float}
    (hother : bound.float "other" = .ok other) :
    ∃ operator, Operator.ofName? draws op.text = some operator ∧
      Alike OneOf (Builtin.selfShape (bound.map RealTensor.sizes)) (operator bound) := by
  unfold Builtin.scalarOps at hop
  simp only [List.map_cons, List.map_nil, List.mem_cons, List.not_mem_nil, or_false] at hop
  rcases hop with rfl | rfl | rfl | rfl | rfl | rfl | rfl | rfl | rfl
  · exact ⟨_, rfl, Operator.compareWith_alike hother _⟩
  · exact ⟨_, rfl, Operator.compareWith_alike hother _⟩
  · exact ⟨_, rfl, Operator.compareWith_alike hother _⟩
  · exact ⟨_, rfl, Operator.compareWith_alike hother _⟩
  · exact ⟨_, rfl, Operator.compareWith_alike hother _⟩
  · exact ⟨_, rfl, Operator.compareWith_alike hother _⟩
  · exact ⟨_, rfl, Operator.combineWith_alike hother _⟩
  · exact ⟨_, rfl, Operator.combineWith_alike hother _⟩
  · exact ⟨_, rfl, Operator.combineWith_alike hother _⟩

/-- The same where the number is scaled first. -/
theorem scaledScalarOp_follows {op : OpName} (hop : op ∈ Builtin.scaledScalarOps)
    {other alpha : Float} (hother : bound.float "other" = .ok other)
    (halpha : bound.float "alpha" = .ok alpha) :
    ∃ operator, Operator.ofName? draws op.text = some operator ∧
      Alike OneOf (Builtin.selfShape (bound.map RealTensor.sizes)) (operator bound) := by
  unfold Builtin.scaledScalarOps at hop
  simp only [List.map_cons, List.map_nil, List.mem_cons, List.not_mem_nil, or_false] at hop
  rcases hop with rfl | rfl | rfl
  · exact ⟨_, rfl, Operator.combineWithScaled_alike hother halpha _⟩
  · exact ⟨_, rfl, Operator.combineWithScaled_alike hother halpha _⟩
  · exact ⟨_, rfl, Operator.subtractFrom_alike hother halpha⟩

theorem scalar_agrees (hfunction : function ∈ Builtin.scalarFamily)
    (htyped : function.signature.WellTyped bound) : AgreesOn draws function bound := by
  unfold Builtin.scalarFamily at hfunction
  rcases List.mem_append.mp hfunction with hscalar | hpower
  · rcases List.mem_append.mp hscalar with hplain | hscaled
    · obtain ⟨op, hop, rfl⟩ := List.mem_map.mp hplain
      obtain ⟨other, hother⟩ := htyped.float "other" rfl rfl
      obtain ⟨operator, hoperator, hfollows⟩ := scalarOp_follows hop hother
      exact agreesOn_entry hoperator hfollows
    · obtain ⟨op, hop, rfl⟩ := List.mem_map.mp hscaled
      obtain ⟨other, hother⟩ := htyped.float "other" rfl rfl
      obtain ⟨alpha, halpha⟩ := htyped.float "alpha" rfl rfl
      obtain ⟨operator, hoperator, hfollows⟩ := scaledScalarOp_follows hop hother halpha
      exact agreesOn_entry hoperator hfollows
  · obtain rfl := List.mem_singleton.mp hpower
    obtain ⟨exponent, hexponent⟩ := htyped.float "exponent" rfl rfl
    exact agreesOn_entry rfl (Operator.power_alike hexponent)

/-- The operators on two tensors without other parameters follow the rule for a common shape. -/
theorem pairOp_follows {op : OpName} (hop : op ∈ Builtin.pairOps) :
    ∃ operator, Operator.ofName? draws op.text = some operator ∧
      Alike OneOf (Builtin.broadcastOf "self" "other" (bound.map RealTensor.sizes))
        (operator bound) := by
  unfold Builtin.pairOps at hop
  simp only [List.mem_cons, List.not_mem_nil, or_false] at hop
  rcases hop with rfl | rfl | rfl | rfl | rfl | rfl | rfl | rfl | rfl | rfl
  · exact ⟨_, rfl, Operator.arithmetic_alike _⟩
  · exact ⟨_, rfl, Operator.arithmetic_alike _⟩
  · exact ⟨_, rfl, Operator.bitwiseAnd_alike⟩
  · exact ⟨_, rfl, Operator.arithmetic_alike _⟩
  · exact ⟨_, rfl, Operator.arithmetic_alike _⟩
  · exact ⟨_, rfl, Operator.bitwiseAnd_alike⟩
  · exact ⟨_, rfl, Operator.logical_alike _⟩
  · exact ⟨_, rfl, Operator.logical_alike _⟩
  · exact ⟨_, rfl, Operator.logical_alike _⟩
  · exact ⟨_, rfl, Operator.logical_alike _⟩

theorem broadcast_agrees (hfunction : function ∈ Builtin.broadcastFamily)
    (htyped : function.signature.WellTyped bound) : AgreesOn draws function bound := by
  unfold Builtin.broadcastFamily at hfunction
  rcases List.mem_append.mp hfunction with hpair | hthree
  · rcases List.mem_append.mp hpair with hscaled | hplain
    · simp only [List.mem_cons, List.not_mem_nil, or_false] at hscaled
      rcases hscaled with rfl | rfl | rfl
      · obtain ⟨value, hvalue⟩ := htyped.float "value" rfl rfl
        exact agreesOn_entry rfl (Operator.maskedFill_alike hvalue)
      · obtain ⟨alpha, halpha⟩ := htyped.float "alpha" rfl rfl
        exact agreesOn_entry rfl (Operator.arithmeticScaled_alike _ halpha)
      · obtain ⟨alpha, halpha⟩ := htyped.float "alpha" rfl rfl
        exact agreesOn_entry rfl (Operator.arithmeticScaled_alike _ halpha)
    · obtain ⟨op, hop, rfl⟩ := List.mem_map.mp hplain
      obtain ⟨operator, hoperator, hfollows⟩ := pairOp_follows hop
      exact agreesOn_entry hoperator hfollows
  · simp only [List.mem_cons, List.not_mem_nil, or_false] at hthree
    rcases hthree with rfl | rfl | rfl | rfl | rfl | rfl | rfl
    · exact agreesOn_entry rfl Operator.chooseTensors_alike
    · obtain ⟨x, hx⟩ := htyped.float "self" rfl rfl
      obtain ⟨y, hy⟩ := htyped.float "other" rfl rfl
      exact agreesOn_entry rfl (Operator.chooseNumbers_alike hx hy)
    · obtain ⟨y, hy⟩ := htyped.float "other" rfl rfl
      exact agreesOn_entry rfl (Operator.chooseOrNumber_alike hy)
    · obtain ⟨x, hx⟩ := htyped.float "self" rfl rfl
      exact agreesOn_entry rfl (Operator.chooseNumberOr_alike hx)
    · exact agreesOn_entry rfl Operator.interpolate_alike
    · obtain ⟨value, hvalue⟩ := htyped.float "value" rfl rfl
      exact agreesOn_entry rfl (Operator.addCombined_alike _ hvalue)
    · obtain ⟨value, hvalue⟩ := htyped.float "value" rfl rfl
      exact agreesOn_entry rfl (Operator.addCombined_alike _ hvalue)

end Families

/-- The functions that work on single elements. -/
def elementwiseFamily : List ShapeFunction :=
  Builtin.unaryFamily ++ Builtin.backwardFamily ++ Builtin.convertFamily ++ Builtin.scalarFamily ++
    Builtin.broadcastFamily

end OpShape

/-
# `OpShape.Proofs.Operator.Softmax` — shares along an axis follow their rules.

Shares, their logarithms and their slopes are computed lane by lane, and each lane keeps its length.
So the answer has the sizes of the operand, and both sides refuse the same axes; a scalar has an
axis too, along which its one element is a lane.
-/
import OpShape.Builtin.Softmax
import OpShape.Operator.Softmax
import OpShape.Proofs.Operator.Agreement
import OpShape.Proofs.Tensor.Lane

namespace OpShape.Operator

open Tensor (HasSizes answers_mapLanes answers_ofData)

/-! ## One lane -/

theorem length_softmaxLane (lane : List Float32) : (softmaxLane lane).length = lane.length := by
  unfold softmaxLane
  rw [List.length_map, List.length_map]

theorem length_logSoftmaxLane (lane : List Float32) :
    (logSoftmaxLane lane).length = lane.length := by
  unfold logSoftmaxLane
  rw [List.length_map]

theorem length_softmaxLaneSlope (lane : List (Float32 × Float32)) :
    (softmaxLaneSlope lane).length = lane.length := by
  unfold softmaxLaneSlope
  rw [List.length_map]

theorem length_logSoftmaxLaneSlope (lane : List (Float32 × Float32)) :
    (logSoftmaxLaneSlope lane).length = lane.length := by
  unfold logSoftmaxLaneSlope
  rw [List.length_map]

/-! ## Operators -/

section Operators

variable {bound : TensorArgs}

/-- **What keeps the length of each lane follows the rule for shares.** -/
theorem mapLanesOf_alike {f : List Float32 → List Float32}
    (hf : ∀ lane, (f lane).length = lane.length) :
    Alike SingleOf (Builtin.softmax (bound.map RealTensor.sizes)) (mapLanesOf f bound) := by
  unfold Builtin.softmax mapLanesOf
  apply (alike_floats "self" bound).bind
  rintro _ input rfl
  apply (alike_int "dim" bound).bind
  rintro dim _ rfl
  apply (alike_axis dim input.sizes.length).bind
  rintro _ axis ⟨rfl, haxis⟩
  exact (answers_mapLanes haxis hf).alike.single

/-- The same where both sides refuse a conversion. -/
theorem mapLanesUnconverted_alike {f : List Float32 → List Float32}
    (hf : ∀ lane, (f lane).length = lane.length) :
    Alike SingleOf (Builtin.softmaxOfHalves (bound.map RealTensor.sizes))
      (mapLanesUnconverted f bound) := by
  unfold Builtin.softmaxOfHalves mapLanesUnconverted
  apply (alike_bool "half_to_float" bound).bind
  rintro converted _ rfl
  apply alike_guard
  intro _
  exact mapLanesOf_alike hf

/-- **A slope follows its rule**: it is taken where an output and its incoming slope have the same
sizes. -/
theorem mapLanePairs_alike {f : List (Float32 × Float32) → List Float32}
    (hf : ∀ lane, (f lane).length = lane.length) :
    Alike SingleOf (Builtin.softmaxGradient (bound.map RealTensor.sizes))
      (mapLanePairs f bound) := by
  unfold Builtin.softmaxGradient mapLanePairs
  apply (alike_floats "grad_output" bound).bind
  rintro _ grad rfl
  apply (alike_floats "output" bound).bind
  rintro _ output rfl
  by_cases hsame : grad.sizes = output.sizes
  · rw [if_neg (not_not_intro hsame), if_neg (not_not_intro hsame)]
    apply (alike_int "dim" bound).bind
    rintro dim _ rfl
    apply (alike_axis dim grad.sizes.length).bind
    rintro _ axis ⟨rfl, haxis⟩
    have hzip : (grad.data.zip output.data).size = elementCount grad.sizes := by
      rw [Array.size_zip, grad.size_data, output.size_data, hsame, Nat.min_self]
    obtain ⟨pairs, hpairs, hsizes⟩ := answers_iff.mp (answers_ofData (ε := OpError) hzip)
    rw [hpairs, ok_bind, ← hsizes]
    rw [← hsizes] at haxis
    exact (answers_mapLanes haxis hf).alike.single
  · rw [if_pos hsame, if_pos hsame]
    exact alike_error_error

end Operators

end OpShape.Operator

namespace OpShape

variable {draws : Draws}

/-- **Functions of shares agree with the operators** on every call that is bound. -/
theorem softmax_agrees {function : ShapeFunction} {bound : TensorArgs}
    (hfunction : function ∈ Builtin.softmaxFamily) : AgreesOn draws function bound := by
  unfold Builtin.softmaxFamily at hfunction
  simp only [List.mem_cons, List.not_mem_nil, or_false] at hfunction
  rcases hfunction with rfl | rfl | rfl | rfl | rfl | rfl
  · exact agreesOn_entry rfl (Operator.mapLanesUnconverted_alike Operator.length_softmaxLane).oneOf
  · exact agreesOn_entry rfl (Operator.mapLanesUnconverted_alike Operator.length_logSoftmaxLane).oneOf
  · exact agreesOn_entry rfl (Operator.mapLanesOf_alike Operator.length_softmaxLane).oneOf
  · exact agreesOn_entry rfl (Operator.mapLanesOf_alike Operator.length_logSoftmaxLane).oneOf
  · exact agreesOn_entry rfl (Operator.mapLanePairs_alike Operator.length_softmaxLaneSlope).oneOf
  · exact agreesOn_entry rfl (Operator.mapLanePairs_alike Operator.length_logSoftmaxLaneSlope).oneOf

end OpShape

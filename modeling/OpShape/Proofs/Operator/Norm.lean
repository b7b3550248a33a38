/-
# `OpShape.Proofs.Operator.Norm` — normalisation agrees with the operators.

Layers and channels are normalised in two passes: one measures each group of elements, the other one
reads the statistics of the group of each element and the factors of its place.  What the sizes of
the operands are checked for is just what makes all these positions be there, also where groups are
empty or where there are none.
-/
import OpShape.Builtin.Norm
import OpShape.Operator.Norm
import OpShape.Proofs.Operator.Softmax
import OpShape.Proofs.Tensor.Group
import OpShape.Proofs.Unbroken

namespace OpShape.Operator

open Tensor (HasSizes AnswersAtAll answers_fetch answers_ofData answers_ofOffsets answers_row)

attribute [local irreducible] signed

/-! ## Factors -/

/-- A factor is there at every position that its tensor has. -/
theorem answers_factorAt {factors : Option (Tensor Float32)} {position count : Nat}
    (absent : Float32) (hfactors : ∀ tensor ∈ factors, elementCount tensor.sizes = count)
    (hposition : position < count) : AnswersAtAll (factorAt factors position absent) := by
  cases factors with
  | none => trivial
  | some tensor =>
    refine answers_fetch ?_
    rw [tensor.size_data, hfactors tensor rfl]
    exact hposition

/-! ## Operands of a layer -/

/-- **The operands of a layer fit each other**: something is normalised, and the factors and the
last dimensions of the input have the sizes that are asked for. -/
structure LayerFits (input : RealTensor) (wanted : List Int) (weight bias : Option RealTensor) :
    Prop where
  nonempty : wanted ≠ []
  weight : ∀ tensor ∈ weight, tensor.sizes.map signed = wanted
  bias : ∀ tensor ∈ bias, tensor.sizes.map signed = wanted
  rank : wanted.length ≤ input.sizes.length
  trailing : (input.sizes.drop (input.sizes.length - wanted.length)).map signed = wanted

/-- The operands of a layer as the operator keeps them. -/
def layerOperands (input : RealTensor) (wanted : List Int) (weight bias : Option RealTensor) :
    LayerNorm where
  input := input.toFloats
  weight := weight.map RealTensor.toFloats
  bias := bias.map RealTensor.toFloats
  axis := input.sizes.length - wanted.length

section Operands

variable {bound : TensorArgs} {input : RealTensor} {wanted : List Int}
variable {weight bias : Option RealTensor}

theorem checkNormalizedParam_eq_ok (wanted : List Int) {name : String}
    {factors : Option RealTensor} (hfactors : bound.optTensor name = .ok factors) :
    Builtin.checkNormalizedParam (bound.map RealTensor.sizes) wanted name = .ok () ↔
      ∀ tensor ∈ factors, tensor.sizes.map signed = wanted := by
  unfold Builtin.checkNormalizedParam
  rw [BoundArgs.optTensor_map, hfactors]
  cases factors with
  | none => simp [Except.map, lift_ok]
  | some tensor =>
    show (if tensor.sizes.map signed ≠ wanted then _ else _ : ShapeResult Unit) = .ok () ↔ _
    simp [Rule.incompatible, Checked.refuse]

theorem sizesAre_iff {sizes : Sizes} {wanted : List Int} :
    sizesAre sizes wanted = true ↔ sizes.map signed = wanted := beq_iff_eq

/-- The factors that are there are checked one by one. -/
theorem any_factors_eq_false (weight bias : Option RealTensor) (wanted : List Int) :
    (((weight.map RealTensor.toFloats).toList ++ (bias.map RealTensor.toFloats).toList).any
        fun factors => !sizesAre factors.sizes wanted) = false ↔
      (∀ tensor ∈ weight, tensor.sizes.map signed = wanted) ∧
        ∀ tensor ∈ bias, tensor.sizes.map signed = wanted := by
  cases weight <;> cases bias <;> simp [sizesAre]

variable (hinput : bound.tensor "input" = .ok input)
  (hwanted : bound.ints "normalized_shape" = .ok wanted)
  (hweight : bound.optTensor "weight" = .ok weight) (hbias : bound.optTensor "bias" = .ok bias)
include hinput hwanted hweight hbias

theorem normalizedAxis_eq_ok {axis : Nat} :
    Builtin.normalizedAxis (bound.map RealTensor.sizes) = .ok axis ↔
      LayerFits input wanted weight bias ∧ axis = input.sizes.length - wanted.length := by
  have hweight' := checkNormalizedParam_eq_ok wanted hweight
  have hbias' := checkNormalizedParam_eq_ok wanted hbias
  unfold Builtin.normalizedAxis
  rw [tensor_sizes "input" hinput, BoundArgs.ints_map, hwanted]
  simp only [lift_ok, ok_bind, Rule.invalid, Rule.incompatible, Checked.refuse, guarded_eq_ok,
    bind_eq_ok, Unique.exists_iff, hweight', hbias', Except.ok.injEq, Nat.not_lt, not_not,
    List.isEmpty_iff, sub_eq_ok, slice_eq_ok]
  constructor
  · rintro ⟨hnonempty, hweight, hbias, hrank, _, ⟨-, rfl⟩, _, ⟨-, rfl⟩, htrailing, rfl⟩
    rw [List.take_length] at htrailing
    exact ⟨⟨hnonempty, hweight, hbias, hrank, htrailing⟩, rfl⟩
  · rintro ⟨hfits, rfl⟩
    refine ⟨hfits.nonempty, hfits.weight, hfits.bias, hfits.rank, _, ⟨hfits.rank, rfl⟩, _,
      ⟨⟨Nat.sub_le _ _, Nat.le_refl _⟩, rfl⟩, ?_, rfl⟩
    rw [List.take_length]
    exact hfits.trailing

theorem ofArgs_eq_ok {norm : LayerNorm} :
    LayerNorm.ofArgs bound = .ok norm ↔
      LayerFits input wanted weight bias ∧
        norm = layerOperands input wanted weight bias := by
  unfold LayerNorm.ofArgs layerOperands
  rw [floatArg_eq "input" hinput, hwanted, optFloatArg_eq "weight" hweight,
    optFloatArg_eq "bias" hbias]
  simp only [lift_ok_operator, ok_bind, invalid, incompatible, Checked.refuse, guarded_eq_ok,
    RealTensor.sizes_toFloats, Bool.not_eq_true, Bool.not_eq_false', any_factors_eq_false,
    sizesAre_iff, List.isEmpty_eq_false_iff, Except.ok.injEq, Nat.not_lt]
  constructor
  · rintro ⟨hnonempty, ⟨hweight, hbias⟩, hrank, htrailing, rfl⟩
    exact ⟨⟨hnonempty, hweight, hbias, hrank, htrailing⟩, rfl⟩
  · rintro ⟨hfits, rfl⟩
    exact ⟨hfits.nonempty, ⟨hfits.weight, hfits.bias⟩, hfits.rank, hfits.trailing, rfl⟩

end Operands

/-! ## Groups of a layer -/

namespace LayerNorm

/-- There is a factor for each place of a group, if there are factors. -/
structure HasFactors (norm : LayerNorm) : Prop where
  weight : ∀ factors ∈ norm.weight, elementCount factors.sizes = norm.groupLength
  bias : ∀ factors ∈ norm.bias, elementCount factors.sizes = norm.groupLength

/-- **The factors of operands that fit each other are those of a group**, since their sizes are
words. -/
theorem hasFactors {input : RealTensor} {wanted : List Int} {weight bias : Option RealTensor}
    (h : LayerFits input wanted weight bias) (hinput : ∀ size ∈ input.sizes, size < 2 ^ 64)
    (hweight : ∀ tensor ∈ weight, ∀ size ∈ tensor.sizes, size < 2 ^ 64)
    (hbias : ∀ tensor ∈ bias, ∀ size ∈ tensor.sizes, size < 2 ^ 64) :
    (layerOperands input wanted weight bias).HasFactors := by
  have hgroup : (layerOperands input wanted weight bias).groupLength =
      elementCount (input.sizes.drop (input.sizes.length - wanted.length)) := by
    unfold groupLength layerOperands
    rw [RealTensor.sizes_toFloats]
  have hcount : ∀ factors : Option RealTensor,
      (∀ tensor ∈ factors, ∀ size ∈ tensor.sizes, size < 2 ^ 64) →
        (∀ tensor ∈ factors, tensor.sizes.map signed = wanted) →
          ∀ tensor ∈ factors.map RealTensor.toFloats, elementCount tensor.sizes =
            (layerOperands input wanted weight bias).groupLength := by
    intro factors hsizes hwanted _ hfactors
    obtain ⟨tensor, htensor, rfl⟩ := Option.map_eq_some_iff.mp hfactors
    -- The same numbers are asked for in both places.
    have hsame : tensor.sizes = input.sizes.drop (input.sizes.length - wanted.length) := by
      refine sizes_eq_of_signed (hsizes tensor htensor) ?_
        ((hwanted tensor htensor).trans h.trailing.symm)
      exact fun size hsize => hinput size (List.mem_of_mem_drop hsize)
    rw [RealTensor.sizes_toFloats, hgroup, hsame]
  exact ⟨hcount weight hweight h.weight, hcount bias hbias h.bias⟩

variable {norm : LayerNorm}

/-- The elements of a layer are those of its groups. -/
theorem elementCount_groups (norm : LayerNorm) :
    elementCount norm.input.sizes = norm.groupCount * norm.groupLength := by
  unfold groupCount groupLength
  rw [← elementCount_append, List.take_append_drop]

/-- **Every group is measured**, also if it is empty. -/
theorem answers_statistics (norm : LayerNorm) (eps : Float32) :
    Answers (fun statistics => statistics.length = norm.groupCount) (norm.statistics eps) := by
  have hgroups : Answers (List.Forall₂ (fun _ _ => True) (List.range norm.groupCount))
      (norm.statistics eps) := by
    unfold statistics
    refine Answers.mapM fun group hgroup => ?_
    by_cases hempty : norm.groupLength = 0
    · rw [if_pos hempty]
      trivial
    · rw [if_neg hempty]
      have hdata := norm.input.size_data.trans norm.elementCount_groups
      exact (answers_row hdata (List.mem_range.mp hgroup)).bind fun _ _ => trivial
  refine hgroups.imp fun statistics hstatistics => ?_
  rw [← hstatistics.length_eq, List.length_range]

/-- **Every element finds the statistics of its group and the factors of its place.** -/
theorem answers_output (h : norm.HasFactors) {statistics : List (Float32 × Float32)}
    (hstatistics : statistics.length = norm.groupCount) :
    Answers (HasSizes norm.input.sizes) (norm.output statistics) := by
  unfold output
  refine answers_ofOffsets fun offset hoffset => ?_
  have hdata : offset < norm.input.data.size := norm.input.size_data ▸ hoffset
  rw [norm.elementCount_groups] at hoffset
  have hlength : 0 < norm.groupLength := Nat.pos_of_lt_mul_left hoffset
  have hgroup : offset / norm.groupLength < statistics.toArray.size := by
    rw [List.size_toArray, hstatistics]
    exact Nat.div_lt_of_lt_mul (Nat.mul_comm _ _ ▸ hoffset)
  have hplace : offset % norm.groupLength < norm.groupLength := Nat.mod_lt offset hlength
  rw [Checked.fetch_of_lt hdata, ok_bind, Checked.fetch_of_lt hgroup, ok_bind]
  apply (answers_factorAt 1.0 h.weight hplace).bind
  intro scale _
  apply (answers_factorAt 0.0 h.bias hplace).bind
  intro shift _
  trivial

/-- A tensor of statistics has one element for each group. -/
theorem elementCount_statisticsSizes (norm : LayerNorm) :
    elementCount norm.statisticsSizes = norm.groupCount := by
  unfold statisticsSizes groupCount
  rw [elementCount_append, elementCount_ones, Nat.mul_one]

end LayerNorm

/-! ## Normalised layers -/

section Layers

variable {bound : TensorArgs} {input : RealTensor} {wanted : List Int}
variable {weight bias : Option RealTensor} {eps : Float}

variable (hinput : bound.tensor "input" = .ok input)
  (hwanted : bound.ints "normalized_shape" = .ok wanted)
  (hweight : bound.optTensor "weight" = .ok weight) (hbias : bound.optTensor "bias" = .ok bias)
  (heps : bound.float "eps" = .ok eps) (hfits : bound.Fits (2 ^ 64))
include hinput hwanted hweight hbias hfits

/-- **The two sides accept the same operands of a layer**, and those that they accept have the
factors that are read. -/
theorem layerOperands_alike :
    Alike
      (fun axis norm => norm.HasFactors ∧ norm.axis = axis ∧ norm.input = input.toFloats ∧
        axis ≤ input.sizes.length)
      (Builtin.normalizedAxis (bound.map RealTensor.sizes)) (LayerNorm.ofArgs bound) := by
  refine alike_of_eq_ok (fun _ => normalizedAxis_eq_ok hinput hwanted hweight hbias)
    (fun _ => ofArgs_eq_ok hinput hwanted hweight hbias) fun h =>
      ⟨?_, rfl, rfl, Nat.sub_le _ _⟩
  refine LayerNorm.hasFactors h (hfits.tensor hinput) ?_ ?_
  · rintro tensor rfl
    exact hfits.optTensor hweight
  · rintro tensor rfl
    exact hfits.optTensor hbias

include heps

theorem layerNormOf_alike :
    Alike SingleOf (Builtin.layerNorm (bound.map RealTensor.sizes)) (layerNormOf bound) := by
  unfold Builtin.layerNorm layerNormOf
  apply (layerOperands_alike hinput hwanted hweight hbias hfits).bind
  rintro axis norm ⟨hfactors, -, hnorm, -⟩
  rw [tensor_sizes "input" hinput, singleArg_eq "eps" heps, lift_ok, ok_bind, ok_bind]
  rw [← input.sizes_toFloats, ← hnorm]
  refine Answers.alike ?_
  apply (norm.answers_statistics _).bind
  intro statistics hstatistics
  apply (LayerNorm.answers_output hfactors hstatistics).bind
  intro output houtput
  exact ⟨output, rfl, houtput⟩

/-- **A layer and its statistics follow their rule.** -/
theorem nativeLayerNormOf_alike :
    Alike ManyOf (Builtin.layerNormWithStats (bound.map RealTensor.sizes))
      (nativeLayerNormOf bound) := by
  unfold Builtin.layerNormWithStats nativeLayerNormOf
  apply (layerOperands_alike hinput hwanted hweight hbias hfits).bind
  rintro _ norm ⟨hfactors, rfl, hnorm, haxis⟩
  rw [tensor_sizes "input" hinput, singleArg_eq "eps" heps, lift_ok, ok_bind, ok_bind,
    Checked.slice_of_le (Nat.zero_le _) haxis, ok_bind, List.drop_zero]
  rw [← input.sizes_toFloats, ← hnorm]
  refine Answers.alike ?_
  apply (norm.answers_statistics _).bind
  intro statistics hstatistics
  apply (LayerNorm.answers_output hfactors hstatistics).bind
  intro output houtput
  have hcount : ∀ f : Float32 × Float32 → Float32,
      (statistics.map f).toArray.size = elementCount norm.statisticsSizes := by
    intro f
    rw [List.size_toArray, List.length_map, hstatistics, norm.elementCount_statisticsSizes]
  apply (answers_ofData (hcount Prod.fst)).bind
  intro centers hcenters
  apply (answers_ofData (hcount Prod.snd)).bind
  intro inverses hinverses
  show Returned.many [output.sizes, centers.sizes, inverses.sizes] = _
  rw [houtput, hcenters, hinverses]
  rfl

end Layers

/-! ## Operands of channels -/

/-- A factor of each channel, if there are factors, is checked alike. -/
theorem channelArg_alike (bound : TensorArgs) (channels : Nat) (name : String) :
    Alike
      (fun _ factors =>
        (bound.map RealTensor.sizes).optTensor name = .ok (factors.map Tensor.sizes) ∧
          ∀ tensor ∈ factors, elementCount tensor.sizes = channels)
      (Builtin.checkChannelParam (bound.map RealTensor.sizes) channels name)
      (channelArg bound channels name) := by
  unfold Builtin.checkChannelParam channelArg optFloatArg
  rw [BoundArgs.optTensor_map]
  cases bound.optTensor name with
  | error reason => exact alike_error_error
  | ok factors =>
    cases factors with
    | none =>
      refine ⟨rfl, ?_⟩
      rintro tensor ⟨⟩
    | some tensor =>
      show Alike _ (if elementCount tensor.sizes ≠ channels then _ else _)
        (if (elementCount tensor.toFloats.sizes != channels) = true then _ else _)
      rw [RealTensor.sizes_toFloats]
      by_cases hcount : elementCount tensor.sizes = channels
      · rw [if_neg (not_not_intro hcount), if_neg (by simp [hcount])]
        refine ⟨?_, ?_⟩
        · show Except.ok (some tensor.sizes) = Except.ok (some tensor.toFloats.sizes)
          rw [RealTensor.sizes_toFloats]
        · intro factors hfactors
          obtain rfl : tensor.toFloats = factors := Option.some.inj hfactors
          rw [RealTensor.sizes_toFloats, hcount]
      · rw [if_pos hcount, if_pos (by simp [hcount])]
        exact alike_error_error

/-- Is there an argument?  That is known once it has been looked at. -/
theorem isGiven_eq {args : Builtin.ShapeArgs} {name : String} {sizes : Option Sizes}
    (h : args.optTensor name = .ok sizes) : Builtin.isGiven args name = .ok sizes.isSome := by
  unfold Builtin.isGiven
  rw [h]
  rfl

namespace BatchNorm

/-- **The operands of channels fit each other**: the second dimension is that of the channels, and
each of the factors and the statistics has one element for each of them. -/
structure Fitting (norm : BatchNorm) : Prop where
  sizes : ∃ batch rest, norm.input.sizes = batch :: norm.channels :: rest
  weight : ∀ factors ∈ norm.weight, elementCount factors.sizes = norm.channels
  bias : ∀ factors ∈ norm.bias, elementCount factors.sizes = norm.channels
  mean : ∀ means ∈ norm.runningMean, elementCount means.sizes = norm.channels
  variance : ∀ variances ∈ norm.runningVariance, elementCount variances.sizes = norm.channels

/-- The dimensions that are not the channels leave the channels. -/
theorem remainingSizes_channels (batch channels : Nat) (rest : Sizes) :
    remainingSizes
      ((List.range (batch :: channels :: rest).length).filter fun axis => axis != 1)
      (batch :: channels :: rest) = [channels] := by
  unfold remainingSizes
  have hrest : (rest.zipIdx 2).filter (fun entry =>
      !((List.range (batch :: channels :: rest).length).filter fun axis => axis != 1).contains
        entry.2) = [] := by
    rw [List.filter_eq_nil_iff]
    rintro ⟨size, axis⟩ hmem
    have haxis := List.mem_zipIdx hmem
    simp
    omega
  rw [List.zipIdx_cons, List.zipIdx_cons, List.filter_cons_of_neg (by simp),
    List.filter_cons_of_pos (by simp), hrest]
  rfl

variable {norm : BatchNorm}

/-- There is a group of elements for each channel. -/
theorem length_channelElements (h : norm.Fitting) :
    norm.channelElements.length = norm.channels := by
  obtain ⟨batch, rest, hsizes⟩ := h.sizes
  unfold channelElements Tensor.groups
  rw [List.length_map, List.length_range, elementCount_keptSizes, hsizes,
    remainingSizes_channels, elementCount_cons, elementCount_nil, Nat.mul_one]

/-- **Each channel is measured in training, and else both statistics have to be given.** -/
theorem statistics_alike (h : norm.Fitting) (failure : Failure ShapeError) :
    Alike (fun channels statistics => channels = norm.channels ∧ statistics.length = channels)
      (if (!norm.training && !(norm.runningMean.isSome && norm.runningVariance.isSome)) = true then
        .error failure
      else .ok norm.channels)
      norm.statistics := by
  unfold statistics
  cases norm.training with
  | true =>
    refine ⟨rfl, ?_⟩
    rw [List.length_map, length_channelElements h]
  | false =>
    cases hmean : norm.runningMean with
    | none => exact alike_error_error
    | some means =>
      cases hvariance : norm.runningVariance with
      | none => exact alike_error_error
      | some variances =>
        refine ⟨rfl, ?_⟩
        rw [Array.length_toList, Array.size_zip, means.size_data, variances.size_data,
          h.mean means hmean, h.variance variances hvariance, Nat.min_self]

/-- **Every element finds the statistics and the factors of its channel.** -/
theorem answers_output (h : norm.Fitting) {statistics : List (Float32 × Float32)}
    (hstatistics : statistics.length = norm.channels) :
    Answers (HasSizes norm.input.sizes) (norm.output statistics) := by
  unfold output
  refine answers_ofOffsets fun offset hoffset => ?_
  have hdata : offset < norm.input.data.size := norm.input.size_data ▸ hoffset
  have hinside := inside_unravel_of_lt hoffset
  obtain ⟨batch, rest, hsizes⟩ := h.sizes
  have hone : 1 < (unravel offset norm.input.sizes).length := by
    rw [length_unravel, hsizes]
    simp
  have hchannel : (unravel offset norm.input.sizes)[1] < norm.channels := by
    have hlt := hinside.getElem_lt (List.getElem?_eq_getElem hone)
    unfold sizeAt at hlt
    simpa [hsizes] using hlt
  have hmeasured : (unravel offset norm.input.sizes)[1] < statistics.toArray.size := by
    rw [List.size_toArray, hstatistics]
    exact hchannel
  rw [Checked.get_of_lt hone, ok_bind, Checked.fetch_of_lt hdata, ok_bind,
    Checked.fetch_of_lt hmeasured, ok_bind]
  apply (answers_factorAt 1.0 h.weight hchannel).bind
  intro scale _
  apply (answers_factorAt 0.0 h.bias hchannel).bind
  intro shift _
  trivial

end BatchNorm

/-! ## Normalised channels -/

section Channels

variable {bound : TensorArgs} {input : RealTensor} {training : Bool} {eps : Float}

/-- The operands of channels with the statistics that they are normalised by. -/
def measuredChannels (args : TensorArgs) : OpResult (BatchNorm × List (Float32 × Float32)) := do
  let norm ← BatchNorm.ofArgs args
  .ok (norm, ← norm.statistics)

/-- Operands of channels that fit each other, with a statistic for each channel. -/
structure Measured (input : Tensor Float32) (training : Bool) (channels : Nat)
    (measured : BatchNorm × List (Float32 × Float32)) : Prop where
  fitting : measured.1.Fitting
  count : measured.1.channels = channels
  statistics : measured.2.length = channels
  input : measured.1.input = input
  training : measured.1.training = training

variable (hinput : bound.tensor "input" = .ok input)
  (htraining : bound.bool "training" = .ok training) (heps : bound.float "eps" = .ok eps)
include hinput htraining heps

/-- **The two sides accept the same operands of channels**, and those that they accept have the
statistics and the factors that are read. -/
theorem measuredChannels_alike :
    Alike (Measured input.toFloats training) (Builtin.batchChannels (bound.map RealTensor.sizes))
      (measuredChannels bound) := by
  unfold Builtin.batchChannels measuredChannels BatchNorm.ofArgs
  rw [tensor_sizes "input" hinput, floatArg_eq "input" hinput, lift_ok, ok_bind, ok_bind]
  generalize hsizes : input.toFloats.sizes = sizes
  rw [← input.sizes_toFloats, hsizes]
  match sizes, hsizes with
  | [], _ => exact alike_error_error
  | [_], _ => exact alike_error_error
  | batch :: channels :: rest, hsizes =>
    simp only [List.forM, bind_assoc, pure_bind]
    apply (channelArg_alike bound channels "weight").bind
    rintro ⟨⟩ weight ⟨-, hweight⟩
    apply (channelArg_alike bound channels "bias").bind
    rintro ⟨⟩ bias ⟨-, hbias⟩
    apply (channelArg_alike bound channels "running_mean").bind
    rintro ⟨⟩ mean ⟨hmeanGiven, hmean⟩
    apply (channelArg_alike bound channels "running_var").bind
    rintro ⟨⟩ variance ⟨hvarianceGiven, hvariance⟩
    rw [isGiven_eq hmeanGiven, isGiven_eq hvarianceGiven, BoundArgs.bool_map, htraining,
      singleArg_eq "eps" heps, lift_ok_operator, ok_bind]
    let norm : BatchNorm :=
      { input := input.toFloats, channels, weight, bias, runningMean := mean,
        runningVariance := variance, training, eps := eps.toFloat32 }
    have hfitting : norm.Fitting := ⟨⟨batch, rest, hsizes⟩, hweight, hbias, hmean, hvariance⟩
    have hmeasured := fun failure =>
      (BatchNorm.statistics_alike hfitting failure).bind_right
        fun _ statistics ⟨hchannels, hlength⟩ =>
          show Answers (Measured input.toFloats training _) (.ok (norm, statistics)) from
            ⟨hfitting, hchannels.symm, hlength, rfl, rfl⟩
    -- The rule asks for the second statistic only if the first one is there.
    cases mean with
    | none => exact hmeasured _
    | some means =>
      rw [if_pos (by rfl), Option.isSome_map]
      exact hmeasured _

theorem batchNormOf_alike :
    Alike SingleOf (Builtin.batchNorm (bound.map RealTensor.sizes)) (batchNormOf bound) := by
  have hmeasured : batchNormOf bound = (do
      let (norm, statistics) ← measuredChannels bound
      one (← norm.output statistics)) := by
    unfold batchNormOf measuredChannels
    simp only [bind_assoc, ok_bind]
  unfold Builtin.batchNorm
  rw [hmeasured]
  apply (measuredChannels_alike hinput htraining heps).bind
  rintro channels ⟨norm, statistics⟩ h
  rw [tensor_sizes "input" hinput, lift_ok, ok_bind, ← input.sizes_toFloats, ← h.input]
  have houtput := BatchNorm.answers_output h.fitting (h.statistics.trans h.count.symm)
  exact houtput.alike.single

/-- **Channels and their statistics follow their rule**: outside of training no statistics are
kept. -/
theorem nativeBatchNormOf_alike :
    Alike ManyOf (Builtin.batchNormWithStats (bound.map RealTensor.sizes))
      (nativeBatchNormOf bound) := by
  have hmeasured : nativeBatchNormOf bound = (do
      let (norm, statistics) ← measuredChannels bound
      let output ← norm.output statistics
      let saved := norm.saved statistics
      many [.float output, .float (.vector (saved.map Prod.fst)),
        .float (.vector (saved.map Prod.snd))]) := by
    unfold nativeBatchNormOf measuredChannels
    simp only [bind_assoc, ok_bind]
  unfold Builtin.batchNormWithStats
  rw [hmeasured]
  apply (measuredChannels_alike hinput htraining heps).bind
  rintro channels ⟨norm, statistics⟩ h
  rw [BoundArgs.bool_map, htraining, tensor_sizes "input" hinput, lift_ok, lift_ok, ok_bind,
    ok_bind, ← input.sizes_toFloats, ← h.input]
  refine Answers.alike ?_
  apply (BatchNorm.answers_output h.fitting (h.statistics.trans h.count.symm)).bind
  intro output houtput
  have hsaved : (norm.saved statistics).length = if training then channels else 0 := by
    unfold BatchNorm.saved
    rw [h.training]
    cases training with
    | true => simp [h.statistics]
    | false => rfl
  show Returned.many [output.sizes, [((norm.saved statistics).map Prod.fst).length],
    [((norm.saved statistics).map Prod.snd).length]] = _
  rw [List.length_map, List.length_map, hsaved, houtput]

end Channels

end OpShape.Operator

namespace OpShape

variable {draws : Draws}

/-! ## Agreement -/

/-- **Functions that normalise agree with the operators** on every well typed call, with sizes below
2⁶⁴. -/
theorem norm_agrees {function : ShapeFunction} {bound : TensorArgs}
    (hfunction : function ∈ Builtin.normFamily) (htyped : function.signature.WellTyped bound)
    (hfits : bound.Fits (2 ^ 64)) : AgreesOn draws function bound := by
  unfold Builtin.normFamily at hfunction
  simp only [List.mem_cons, List.not_mem_nil, or_false] at hfunction
  rcases hfunction with rfl | rfl | rfl | rfl
  · obtain ⟨input, hinput⟩ := htyped.tensor "input" rfl rfl
    obtain ⟨wanted, hwanted, -⟩ := htyped.ints "normalized_shape" rfl rfl
    obtain ⟨weight, hweight⟩ := htyped.optTensor "weight" rfl rfl
    obtain ⟨bias, hbias⟩ := htyped.optTensor "bias" rfl rfl
    obtain ⟨eps, heps⟩ := htyped.float "eps" rfl rfl
    exact agreesOn_entry rfl
      (Operator.layerNormOf_alike hinput hwanted hweight hbias heps hfits).oneOf
  · obtain ⟨input, hinput⟩ := htyped.tensor "input" rfl rfl
    obtain ⟨wanted, hwanted, -⟩ := htyped.ints "normalized_shape" rfl rfl
    obtain ⟨weight, hweight⟩ := htyped.optTensor "weight" rfl rfl
    obtain ⟨bias, hbias⟩ := htyped.optTensor "bias" rfl rfl
    obtain ⟨eps, heps⟩ := htyped.float "eps" rfl rfl
    exact agreesOn_entry_many rfl
      (Operator.nativeLayerNormOf_alike hinput hwanted hweight hbias heps hfits)
  · obtain ⟨input, hinput⟩ := htyped.tensor "input" rfl rfl
    obtain ⟨training, htraining⟩ := htyped.bool "training" rfl rfl
    obtain ⟨eps, heps⟩ := htyped.float "eps" rfl rfl
    exact agreesOn_entry rfl (Operator.batchNormOf_alike hinput htraining heps).oneOf
  · obtain ⟨input, hinput⟩ := htyped.tensor "input" rfl rfl
    obtain ⟨training, htraining⟩ := htyped.bool "training" rfl rfl
    obtain ⟨eps, heps⟩ := htyped.float "eps" rfl rfl
    exact agreesOn_entry_many rfl (Operator.nativeBatchNormOf_alike hinput htraining heps)

end OpShape

/-
# `OpShape.Proofs.Operator.Conv` — the convolutions agree with the operators.

Operands go together on both sides or on neither.  Where they do, both sides go through the same
checks, in an order of their own, and what is left to the operator are reads and writes that never
break down.  The rule takes the spatial sizes for signed words where the operator does not, so that
a convolution needs them below 2⁶³; a transposed one counts in signed words on both sides.
-/
import OpShape.Builtin.Conv
import OpShape.Proofs.Operator.Convolve

namespace OpShape.Operator

open Tensor (HasSizes answers_withSizes)

variable {α : Type}

attribute [local irreducible] signed

/-! ## Operands -/

/-- An input and a weight of the same rank, with at least one spatial dimension, taken apart. -/
structure Operands (input weight : Sizes) (batches channels : Nat) (spatial : Sizes)
    (outer inner : Nat) (kernel : Sizes) : Prop where
  input_eq : input = batches :: channels :: spatial
  weight_eq : weight = outer :: inner :: kernel
  kernel_length : kernel.length = spatial.length
  spatial_pos : 0 < spatial.length
  operator : requireRanks input weight = .ok ()

/-- **Operands go together on both sides**, or are refused on both. -/
theorem operands_cases (input weight : Sizes) :
    (∃ batches channels spatial outer inner kernel,
        Operands input weight batches channels spatial outer inner kernel) ∨
      ((∃ failure, Rule.spatialDims input weight = .error failure) ∧
        ∃ failure, requireRanks input weight = .error failure) := by
  rcases weight with _ | ⟨outer, _ | ⟨inner, _ | ⟨size, sizes⟩⟩⟩
  · exact .inr ⟨⟨_, rfl⟩, ⟨_, rfl⟩⟩
  · exact .inr ⟨⟨_, rfl⟩, ⟨_, rfl⟩⟩
  · exact .inr ⟨⟨_, rfl⟩, ⟨_, rfl⟩⟩
  · have hrank : ¬ (outer :: inner :: size :: sizes).length < 3 := by
      rw [List.length_cons, List.length_cons, List.length_cons]
      omega
    have hoperator : requireRanks input (outer :: inner :: size :: sizes) =
        if input.length ≠ (outer :: inner :: size :: sizes).length then
          incompatible "Input and weight must have the same number of dims"
        else .ok () := if_neg hrank
    rw [hoperator]
    rcases input with _ | ⟨batches, _ | ⟨channels, spatial⟩⟩
    · exact .inr ⟨⟨_, rfl⟩, ⟨_, if_pos (by simp)⟩⟩
    · exact .inr ⟨⟨_, rfl⟩, ⟨_, if_pos (by simp)⟩⟩
    · by_cases hspatial : spatial.length = sizes.length + 1
      · exact .inl ⟨batches, channels, spatial, outer, inner, size :: sizes, {
          input_eq := rfl
          weight_eq := rfl
          kernel_length := hspatial.symm
          spatial_pos := hspatial ▸ Nat.succ_pos _
          operator := hoperator.trans (if_neg (by simp [hspatial])) }⟩
      · have hranks : (batches :: channels :: spatial).length ≠
            (outer :: inner :: size :: sizes).length := by
          simpa using hspatial
        exact .inr ⟨⟨_, (if_neg hrank).trans (if_pos hranks)⟩, ⟨_, if_pos hranks⟩⟩

/-- **The spatial sizes of an input and of a weight are signed words**: the sizes of the kernel, and as
many at the end of the input. -/
structure SpatialFits (input weight : Sizes) : Prop where
  input : ∀ size ∈ input.drop (input.length - (weight.length - 2)), size < 2 ^ 63
  kernel : ∀ size ∈ weight.drop 2, size < 2 ^ 63

theorem Operands.spatial_lt {input weight : Sizes} {batches channels outer inner : Nat}
    {spatial kernel : Sizes}
    (h : Operands input weight batches channels spatial outer inner kernel)
    (hspatial : SpatialFits input weight) :
    (∀ size ∈ spatial, size < 2 ^ 63) ∧ ∀ size ∈ kernel, size < 2 ^ 63 := by
  obtain ⟨hinput, hkernel⟩ := hspatial
  have hfront : input.length - (weight.length - 2) = 2 := by
    rw [h.input_eq, h.weight_eq]
    simp only [List.length_cons, h.kernel_length]
    omega
  rw [hfront, h.input_eq] at hinput
  rw [h.weight_eq] at hkernel
  exact ⟨hinput, hkernel⟩

/-- A batch dimension in front of an input is no spatial one. -/
theorem SpatialFits.batched {input weight : Sizes} (h : SpatialFits input weight)
    (hrank : weight.length - 2 ≤ input.length) (batches : Nat) :
    SpatialFits (batches :: input) weight := by
  refine ⟨?_, h.kernel⟩
  rw [List.length_cons, Nat.succ_sub hrank, List.drop_succ_cons]
  exact h.input

/-! ## Convolution -/

section Conv

variable [Scalar α] {input weight : Tensor α} {stride padding dilation : List Int} (groups : Int)

/-- A convolution of operands that go together, with parameters that are accepted. -/
theorem convolve_alike (bias : Option (Tensor α)) {batches channels outer inner : Nat}
    {spatial kernel : Sizes}
    (hoperands : Operands input.sizes weight.sizes batches channels spatial outer inner kernel)
    (hfits : SpatialFits input.sizes weight.sizes) {params : Rule.ConvParams} {motion : ConvMotion}
    (hsame : SameMotions spatial.length groups params motion) :
    Alike (fun sizes tensor => HasSizes sizes tensor ∧ sizes.head? = input.sizes.head?)
      (do
        if (← Checked.mod outer groups.toNat) ≠ 0 then
          Rule.incompatible "out channels must be divisible by groups"
        else if channels ≠ inner * groups.toNat then
          Rule.incompatible "input channels must match weight channels multiplied by groups"
        else
          Rule.checkBias (bias.map Tensor.sizes) outer
          let axes := Rule.axes (kernel.map signed) params.padding params.stride params.dilation
          let output ← (spatial.zip axes).mapM fun entry =>
            Rule.poolOutputSize entry.1 entry.2 false
          .ok (batches :: outer :: output))
      (conv input weight bias motion) := by
  obtain ⟨hspatial, hkernels⟩ := hoperands.spatial_lt hfits
  obtain ⟨hinput, hweight, hkernel, -, hoperator⟩ := hoperands
  have hgroups : groups.toNat ≠ 0 := by
    rw [hsame.groups]
    exact Nat.ne_of_gt hsame.groups_pos
  unfold conv
  rw [hsame.axes, hoperator, ok_bind]
  simp only [hinput, hweight, ← hsame.groups, Checked.mod_of_ne_zero hgroups,
    Checked.div_of_ne_zero hgroups, ok_bind]
  generalize groups.toNat = count at hgroups
  apply alike_guard
  intro hrest
  apply alike_guard
  intro hchannels
  obtain rfl : channels = inner * count := not_not.mp hchannels
  obtain ⟨groupOut, rfl⟩ := Nat.dvd_of_mod_eq_zero (not_not.mp hrest)
  rw [Nat.mul_div_cancel_left groupOut (Nat.pos_of_ne_zero hgroups)]
  apply (checkBias_alike bias (count * groupOut)).bind
  intro _ _ hbias
  have hinputs := forall₂_right_iff.mpr ⟨hsame.length, hspatial⟩
  have hkernels := forall₂_right_iff.mpr ⟨hsame.length.trans hkernel.symm, hkernels⟩
  apply (convSizes_alike hsame.valid hinputs hkernels).bind
  rintro out _ ⟨rfl, hout⟩
  -- Checks end here on both sides; from here on the operator only computes.
  apply Answers.alike
  have hlength := hout.trans hsame.length
  refine (answers_convolve hinput hweight hsame.length hkernel hlength).bind
    fun output (houtput : output.sizes = _) => ?_
  apply (answers_addBias houtput hbias).imp
  intro tensor htensor
  exact ⟨htensor.trans houtput, rfl⟩

/-- **Convolution follows its rule**, once the lists of its parameters are known, and keeps the number
of batches. -/
theorem conv_alike (bias : Option (Tensor α)) (hfits : SpatialFits input.sizes weight.sizes)
    (hstride : ∀ value ∈ stride, value < 2 ^ 63) (hpadding : ∀ value ∈ padding, value < 2 ^ 63)
    (hdilation : ∀ value ∈ dilation, value < 2 ^ 63) :
    Alike (fun sizes tensor => HasSizes sizes tensor ∧ sizes.head? = input.sizes.head?)
      (Rule.convOutputSize input.sizes weight.sizes (bias.map Tensor.sizes)
        { stride, padding, dilation } groups)
      (do
        let motion ←
          ConvMotion.ofLists (weight.sizes.length - 2) stride padding dilation groups
        conv input weight bias motion) := by
  rcases operands_cases input.sizes weight.sizes with
    ⟨batches, channels, spatial, outer, inner, kernel, hoperands⟩ |
      ⟨⟨failure, hrule⟩, ⟨failure', hoperator⟩⟩
  · have hcount : weight.sizes.length - 2 = spatial.length := by
      rw [hoperands.weight_eq]
      exact hoperands.kernel_length
    rw [Rule.convOutputSize_of_operands hoperands.input_eq hoperands.weight_eq
      hoperands.kernel_length hoperands.spatial_pos, hcount]
    have hlists := ofLists_alike spatial.length groups hstride hpadding hdilation
    apply hlists.bind_checked
    intro params motion hsame
    exact convolve_alike groups bias hoperands hfits hsame
  · unfold Rule.convOutputSize
    rw [hrule, error_bind]
    apply alike_error_bind
    intro motion
    unfold conv
    rw [hoperator]
    exact alike_error_error

/-- A transposed convolution of operands that go together, with parameters that are accepted. -/
theorem spread_alike (bias : Option (Tensor α)) {batches channels outer inner : Nat}
    {spatial kernel : Sizes}
    (hoperands : Operands input.sizes weight.sizes batches channels spatial outer inner kernel)
    {params : Rule.ConvParams} {motion : ConvMotion} {added : List Int} {extras : List Nat}
    (hsame : SameMotions spatial.length groups params motion) (hadded : added = extras.map Nat.cast)
    (hlength : extras.length = spatial.length) (hextras : ∀ extra ∈ extras, extra < 2 ^ 63) :
    Alike HasSizes
      (do
        if channels ≠ outer then
          Rule.incompatible "input channels must match weight input channels"
        else if (← Checked.mod outer groups.toNat) ≠ 0 then
          Rule.incompatible "input channels must be divisible by groups"
        else
          let outChannels := inner * groups.toNat
          Rule.checkBias (bias.map Tensor.sizes) outChannels
          let axes := Rule.axes (kernel.map signed) params.padding params.stride params.dilation
          let output ← ((spatial.zip axes).zip added).mapM fun entry =>
            Rule.transposedSize entry.1.1 entry.1.2 entry.2
          .ok (batches :: outChannels :: output))
      (convTranspose input weight bias motion extras) := by
  obtain ⟨hinput, hweight, hkernel, -, hoperator⟩ := hoperands
  have hgroups : groups.toNat ≠ 0 := by
    rw [hsame.groups]
    exact Nat.ne_of_gt hsame.groups_pos
  subst hadded
  unfold convTranspose
  rw [hsame.axes, hoperator, ok_bind]
  simp only [hinput, hweight, ← hsame.groups, Checked.mod_of_ne_zero hgroups,
    Checked.div_of_ne_zero hgroups, ok_bind]
  generalize groups.toNat = count at hgroups
  apply alike_guard
  intro hchannels
  obtain rfl : channels = outer := not_not.mp hchannels
  apply alike_guard
  intro hrest
  obtain ⟨groupIn, rfl⟩ := Nat.dvd_of_mod_eq_zero (not_not.mp hrest)
  rw [Nat.mul_div_cancel_left groupIn (Nat.pos_of_ne_zero hgroups)]
  apply (checkBias_alike bias (inner * count)).bind
  intro _ _ hbias
  have hforall := forall₂_right_iff.mpr ⟨hsame.length.trans hlength.symm, hextras⟩
  refine (spreadSizes_alike hsame.valid hforall hsame.length.symm
    (hkernel.trans hsame.length.symm)).bind ?_
  rintro out _ ⟨rfl, hout⟩
  apply Answers.alike
  have hspread := answers_spread hinput hweight hsame.length hkernel (hout.trans hsame.length)
  have hbiased := hspread.bind fun output (houtput : output.sizes = _) =>
    (answers_addBias houtput hbias).imp fun _ htensor => htensor.trans houtput
  simp only [bind_assoc] at hbiased
  exact hbiased

/-- **Transposed convolution follows its rule**, once the lists of its parameters are known. -/
theorem convTranspose_alike (bias : Option (Tensor α)) {extra : List Int}
    (hranks : requireRanks input.sizes weight.sizes = .ok ())
    (hstride : ∀ value ∈ stride, value < 2 ^ 63) (hpadding : ∀ value ∈ padding, value < 2 ^ 63)
    (hdilation : ∀ value ∈ dilation, value < 2 ^ 63) (hextra : ∀ value ∈ extra, value < 2 ^ 63) :
    Alike HasSizes
      (Rule.convTransposeOutputSize input.sizes weight.sizes (bias.map Tensor.sizes)
        { stride, padding, dilation } extra groups)
      (do
        let motion ←
          ConvMotion.ofLists (weight.sizes.length - 2) stride padding dilation groups
        let extras ← spatialValues extra (weight.sizes.length - 2)
        if extras.any fun p => p < 0 then
          invalid "Output padding must be non-negative"
        else
          convTranspose input weight bias motion (extras.map Int.toNat)) := by
  rcases operands_cases input.sizes weight.sizes with
    ⟨batches, channels, spatial, outer, inner, kernel, hoperands⟩ | ⟨-, ⟨failure, hrefused⟩⟩
  · have hcount : weight.sizes.length - 2 = spatial.length := by
      rw [hoperands.weight_eq]
      exact hoperands.kernel_length
    have hlists := ofLists_extras_alike spatial.length groups hstride hpadding hdilation
      hextra "output_padding has the wrong length"
    have hafter := hlists.bind (S := HasSizes)
      (g := fun motion => convTranspose input weight bias motion.1 motion.2)
      fun _ _ ⟨hsame, hadded, hlength, hlt⟩ =>
        spread_alike groups bias hoperands hsame hadded hlength hlt
    rw [Rule.convTransposeOutputSize_of_operands hoperands.input_eq hoperands.weight_eq
      hoperands.kernel_length hoperands.spatial_pos, hcount]
    simpa only [bind_assoc, ok_bind, invalid, Checked.refuse, guarded_bind] using hafter
  · rw [hranks] at hrefused
    cases hrefused

end Conv

/-! ## Calls -/

/-- The spatial sizes of the operands of a call are signed words. -/
def ConvArgsFit (bound : TensorArgs) : Prop :=
  ∀ input weight, floatArg bound "input" = .ok input → floatArg bound "weight" = .ok weight →
    SpatialFits input.sizes weight.sizes

/-- The call is one of a transposed convolution. -/
def TransposedCall (op : String) (bound : TensorArgs) : Prop :=
  op = "aten::convolution" ∧ bound.bool "transposed" = .ok true

section Calls

variable {bound : TensorArgs}

/-- A convolution whose parameters are read from a call, and what either side makes of it. -/
theorem convCall_alike {input weight : Tensor Float32} (bias : Option (Tensor Float32))
    (hfits : bound.Fits (2 ^ 64)) (hrank : weight.sizes.length = 4)
    (hspatial : SpatialFits input.sizes weight.sizes)
    {f : Sizes → ShapeResult Sizes} {g : Tensor Float32 → OpResult (Returned RealTensor)}
    (hfg : ∀ sizes output, HasSizes sizes output → sizes.head? = input.sizes.head? →
      Alike SingleOf (f sizes) (g output)) :
    Alike SingleOf
      (do
        let params ← Builtin.convParams (bound.map RealTensor.sizes)
        let groups ← (liftM ((bound.map RealTensor.sizes).int "groups") : ShapeResult Int)
        let output ← Rule.convOutputSize input.sizes weight.sizes (bias.map Tensor.sizes) params
          groups
        f output)
      (do
        let stride ← (liftM (bound.ints "stride") : OpResult (List Int))
        let padding ← (liftM (bound.ints "padding") : OpResult (List Int))
        let dilation ← (liftM (bound.ints "dilation") : OpResult (List Int))
        let groups ← (liftM (bound.int "groups") : OpResult Int)
        let params ← ConvMotion.ofLists 2 stride padding dilation groups
        let output ← conv input weight bias params
        g output) := by
  have hcount : 2 = weight.sizes.length - 2 := by omega
  unfold Builtin.convParams
  simp only [bind_assoc, ok_bind]
  apply (alike_ints "stride" hfits).bind
  rintro stride _ ⟨rfl, hstride⟩
  apply (alike_ints "padding" hfits).bind
  rintro padding _ ⟨rfl, hpadding⟩
  apply (alike_ints "dilation" hfits).bind
  rintro dilation _ ⟨rfl, hdilation⟩
  apply (alike_int "groups" bound).bind
  rintro groups _ rfl
  rw [hcount, ← bind_assoc]
  apply (conv_alike groups bias hspatial hstride hpadding hdilation).bind
  rintro sizes output ⟨houtput, hbatches⟩
  exact hfg sizes output houtput hbatches

/-- The batch of one that was made of an input is taken away again on both sides. -/
theorem unbatched_alike {input sizes : Sizes} {output : Tensor Float32}
    (hsizes : HasSizes sizes output) (hbatches : sizes.head? = (1 :: input).head?) :
    Alike SingleOf (Checked.eraseIdx sizes 0 : ShapeResult Sizes)
      (do one (← output.withSizes (output.sizes.drop 1))) := by
  cases sizes with
  | nil => cases hbatches
  | cons batches out =>
    obtain rfl : batches = 1 := Option.some.inj hbatches
    have hdrop : output.sizes.drop 1 = out := congrArg (List.drop 1) hsizes
    rw [Checked.eraseIdx_of_lt (Nat.succ_pos _), List.eraseIdx_cons_zero, hdrop]
    apply Alike.single
    apply Answers.alike
    apply answers_withSizes
    rw [hsizes, elementCount_cons, Nat.one_mul]

theorem conv2dOf_alike (hfits : bound.Fits (2 ^ 64)) (hspatial : ConvArgsFit bound) :
    Alike SingleOf (Builtin.conv2d (bound.map RealTensor.sizes)) (conv2dOf bound) := by
  unfold conv2dOf Builtin.conv2d
  apply (alike_floats "input" bound).and_eq_ok.bind
  rintro _ input ⟨rfl, hinput⟩
  apply (alike_floats "weight" bound).and_eq_ok.bind
  rintro _ weight ⟨rfl, hweight⟩
  have hoperands := hspatial input weight hinput hweight
  by_cases hrank : weight.sizes.length ≠ 4
  · simp only [if_pos hrank]
    exact alike_error_bind fun _ => alike_error_error
  simp only [if_neg hrank]
  apply (alike_optFloatArg "bias" bound).bind
  rintro _ bias rfl
  by_cases halone : input.sizes.length = 3
  · have hadded : Answers (HasSizes (1 :: input.sizes))
        (input.withSizes (1 :: input.sizes) : OpResult (Tensor Float32)) := by
      apply answers_withSizes
      rw [elementCount_cons, Nat.one_mul]
    obtain ⟨batched, hbatched, hsizes⟩ := answers_iff.mp hadded
    have hbatches : SpatialFits batched.sizes weight.sizes := by
      rw [hsizes]
      exact hoperands.batched (by omega) 1
    simp only [if_pos halone, if_pos (beq_iff_eq.mpr halone), hbatched, ok_bind]
    rw [← hsizes]
    refine convCall_alike bias hfits (not_not.mp hrank) hbatches ?_
    intro sizes output houtput hhead
    rw [hsizes] at hhead
    exact unbatched_alike houtput hhead
  · simp only [if_neg halone, if_neg (mt beq_iff_eq.mp halone), ok_bind]
    refine convCall_alike bias hfits (not_not.mp hrank) hoperands ?_
    intro sizes output houtput _
    exact ⟨output, rfl, houtput⟩

theorem convolutionOf_alike (hfits : bound.Fits (2 ^ 64))
    (hspatial : bound.bool "transposed" ≠ .ok true → ConvArgsFit bound) :
    Alike SingleOf (Builtin.convolution (bound.map RealTensor.sizes)) (convolutionOf bound) := by
  unfold convolutionOf Builtin.convolution Builtin.convParams
  apply (alike_floats "input" bound).and_eq_ok.bind
  rintro _ input ⟨rfl, hinput⟩
  apply (alike_floats "weight" bound).and_eq_ok.bind
  rintro _ weight ⟨rfl, hweight⟩
  apply (alike_optFloatArg "bias" bound).bind
  rintro _ bias rfl
  simp only [bind_assoc, ok_bind]
  rcases operands_cases input.sizes weight.sizes with
    ⟨_, _, _, _, _, _, hoperands⟩ | ⟨⟨failure, hrule⟩, ⟨failure', hranks⟩⟩
  · rw [hoperands.operator]
    simp only [ok_bind]
    apply (alike_ints "stride" hfits).bind
    rintro stride _ ⟨rfl, hstride⟩
    apply (alike_ints "padding" hfits).bind
    rintro padding _ ⟨rfl, hpadding⟩
    apply (alike_ints "dilation" hfits).bind
    rintro dilation _ ⟨rfl, hdilation⟩
    apply (alike_int "groups" bound).bind
    rintro groups _ rfl
    -- The operator looks at its parameters before it asks whether they are to be transposed.
    refine alike_comm_right.mpr ((alike_bool "transposed" bound).and_eq_ok.bind ?_)
    rintro transposed _ ⟨rfl, htransposed⟩
    cases transposed with
    | false =>
      have hplain : bound.bool "transposed" ≠ .ok true := by
        rw [lift_eq_ok.mp htransposed]
        exact fun h => Bool.false_ne_true (Except.ok.inj h)
      have hfits := hspatial hplain input weight hinput hweight
      simp only [Bool.false_eq_true, if_false]
      rw [← bind_assoc]
      apply (conv_alike groups bias hfits hstride hpadding hdilation).bind_right
      rintro sizes output ⟨houtput, -⟩
      exact ⟨output, rfl, houtput⟩
    | true =>
      simp only [if_true]
      refine alike_comm_right.mpr ((alike_ints "output_padding" hfits).bind ?_)
      rintro extra _ ⟨rfl, hextra⟩
      have halike := (convTranspose_alike groups bias hoperands.operator hstride hpadding
        hdilation hextra).single
      simpa only [bind_assoc, invalid, Checked.refuse, guarded_bind] using halike
  · rw [hranks]
    refine alike_bind_error fun _ => alike_bind_error fun _ => alike_bind_error fun _ =>
      alike_bind_error fun _ => alike_bind_error fun transposed => ?_
    unfold Rule.convTransposeOutputSize Rule.convOutputSize
    rw [hrule]
    split
    · exact alike_bind_error fun _ => alike_error_error
    · exact alike_error_error

end Calls

end OpShape.Operator

namespace OpShape

variable {draws : Draws}

/-! ## Agreement -/

/-- **The convolutions agree with the operators**, transposed or not, on every call that can be
bound, with sizes below 2⁶⁴ and integers that are signed words: of any ranks and parameters, and of any
kinds.  The spatial sizes of the input and of the kernel have to be below 2⁶³, unless the convolution
is transposed. -/
theorem convolutions_agree {function : ShapeFunction} (hfunction : function ∈ Builtin.convFamily)
    {args : CallArgs RealTensor} {bound : TensorArgs}
    (hbind : function.signature.bind args = .ok bound) (hfits : bound.Fits (2 ^ 64))
    (hspatial : ¬ Operator.TransposedCall function.op.text bound → Operator.ConvArgsFit bound)
    (token : Nat) :
    ∃ operator, Operator.ofName? draws function.op.text = some operator ∧
      Agree (function.call token (args.map RealTensor.sizes)) (operator bound) := by
  rw [ShapeFunction.call_sizes hbind]
  unfold Builtin.convFamily at hfunction
  simp only [List.mem_cons, List.not_mem_nil, or_false] at hfunction
  rcases hfunction with rfl | rfl
  · have hplain := hspatial fun h => absurd h.1 (by decide)
    exact ⟨_, rfl, agree_of_singleOf token (Operator.conv2dOf_alike hfits hplain)⟩
  · have hplain := fun h => hspatial (mt And.right h)
    exact ⟨_, rfl, agree_of_singleOf token (Operator.convolutionOf_alike hfits hplain)⟩

/-- An image by itself, with two channels in groups of one, is convolved with kernels of three by
three in strides of two. -/
theorem convolutions_agree_image :
    let image : TensorArgs := { values := [
      ("input", .tensor (.float (Tensor.full [2, 5, 5] 1))),
      ("weight", .tensor (.float (Tensor.full [4, 1, 3, 3] 1))),
      ("bias", .none),
      ("stride", .list [.int 2]),
      ("padding", .list [.int 1]),
      ("dilation", .list [.int 1, .int 1]),
      ("groups", .int 2)] }
    ∃ operator, Operator.ofName? Single.spread "aten::conv2d" = some operator ∧
      Agree
        (Builtin.convFamily[0].call 0 {
          positional := [.tensor [2, 5, 5], .tensor [4, 1, 3, 3], .none, .list [.int 2],
            .list [.int 1], .list [.int 1, .int 1], .int 2],
          keywords := [] })
        (operator image) := by
  intro image
  refine @convolutions_agree Single.spread Builtin.convFamily[0] (List.getElem_mem _) {
    positional := [.tensor (.float (Tensor.full [2, 5, 5] 1)),
      .tensor (.float (Tensor.full [4, 1, 3, 3] 1)), .none, .list [.int 2], .list [.int 1],
      .list [.int 1, .int 1], .int 2],
    keywords := [] } image rfl ?_ ?_ 0
  · exact .cons (.ofSizes [2, 5, 5] rfl (by decide)) (.cons
      (.ofSizes [4, 1, 3, 3] rfl (by decide)) (.cons .none (.cons (.ints [2] (by decide)) (.cons
        (.ints [1] (by decide)) (.cons (.ints [1, 1] (by decide)) (.cons
          (.int (by decide) (by decide)) .nil))))))
  · intro _ input weight hinput hweight
    obtain rfl : (Tensor.full [2, 5, 5] 1 : Tensor Float32) = input := Except.ok.inj hinput
    obtain rfl : (Tensor.full [4, 1, 3, 3] 1 : Tensor Float32) = weight := Except.ok.inj hweight
    constructor
    · show ∀ size ∈ [5, 5], size < 2 ^ 63
      decide
    · show ∀ size ∈ [3, 3], size < 2 ^ 63
      decide

/-- **A signal of 2⁶³ positions is too short for the rule**, which takes it for one of a negative
length, and not for the operator. -/
theorem convolutions_disagree_on_oversized :
    let signal : Tensor Float32 := { sizes := [0, 1, 2 ^ 63], data := #[], size_data := rfl }
    let convolved : TensorArgs := { values := [
      ("input", .tensor (.float signal)),
      ("weight", .tensor (.float (Tensor.full [1, 1, 1] 1))),
      ("bias", .none),
      ("stride", .list [.int 1]),
      ("padding", .list [.int 1]),
      ("dilation", .list [.int 1]),
      ("transposed", .bool false),
      ("output_padding", .list [.int 0]),
      ("groups", .int 1)] }
    Builtin.convFamily[1].signature.WellTyped convolved ∧
      ¬ ∃ operator, Operator.ofName? Single.spread "aten::convolution" = some operator ∧
        Agree
          (Builtin.convFamily[1].call 0 {
            positional := [.tensor [0, 1, 2 ^ 63], .tensor [1, 1, 1], .none, .list [.int 1],
              .list [.int 1], .list [.int 1], .bool false, .list [.int 0], .int 1],
            keywords := [] })
          (operator convolved) := by
  intro signal convolved
  constructor
  · exact .cons ⟨rfl, _, rfl⟩ (.cons ⟨rfl, _, rfl⟩ (.cons ⟨rfl, .inl rfl⟩ (.cons ⟨rfl, [1], rfl⟩
      (.cons ⟨rfl, [1], rfl⟩ (.cons ⟨rfl, [1], rfl⟩ (.cons ⟨rfl, _, rfl⟩ (.cons ⟨rfl, [0], rfl⟩
        (.cons ⟨rfl, 1, rfl⟩ .nil))))))))
  · rintro ⟨operator, hoperator, hagree⟩
    obtain rfl : Operator.convolutionOf = operator := Option.some.inj hoperator
    let answer : Tensor Float32 := { sizes := [0, 1, 2 ^ 63 + 2], data := #[], size_data := rfl }
    have hanswer : Operator.convolutionOf convolved = .ok (.one (.float answer)) := by rfl
    obtain ⟨shape, hshape⟩ := (agree_iff.mp hagree).1.mpr ⟨_, hanswer⟩
    have hrefused : Builtin.convFamily[1].call 0 {
        positional := [.tensor [0, 1, 2 ^ 63], .tensor [1, 1, 1], .none, .list [.int 1],
          .list [.int 1], .list [.int 1], .bool false, .list [.int 0], .int 1],
        keywords := [] } = Rule.invalid "output size is too small" := by rfl
    rw [hrefused] at hshape
    cases hshape

end OpShape

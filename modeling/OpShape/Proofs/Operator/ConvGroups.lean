/-
# `OpShape.Proofs.Operator.ConvGroups` — a convolution is the concatenation of its groups.

The output channels of a group read the input channels of that group only, and the weight rows that
have their own numbers.  So a group is a convolution of its own, without groups, of a range of the
input channels with a range of the weight rows: each of its elements adds up the same products in
the same order.  Side by side along the channels these convolutions are the whole.
-/
import OpShape.Proofs.Operator.ConcatParts
import OpShape.Proofs.Operator.Conv
import OpShape.Proofs.Operator.Select
import OpShape.Proofs.Tensor.Part

namespace OpShape

/-! ## Coordinates that are left out -/

/-- Coordinates that are left out behind the others count as zeros. -/
theorem ravel_append_zeros (index : List Nat) (sizes : Sizes) (count : Nat) :
    ravel (index ++ List.replicate count 0) sizes = ravel index sizes := by
  have hzeros : ∀ (count : Nat) (sizes : Sizes), ravel (List.replicate count 0) sizes = 0 := by
    intro count
    induction count with
    | zero => exact fun sizes => by cases sizes <;> rfl
    | succ count ih =>
      intro sizes
      cases sizes with
      | nil => rfl
      | cons size sizes => rw [List.replicate_succ, ravel, ih, Nat.zero_mul]
  induction index generalizing sizes with
  | nil =>
    rw [List.nil_append, hzeros]
    cases sizes <;> rfl
  | cons i index ih =>
    cases sizes with
    | nil => rfl
    | cons size sizes => rw [List.cons_append, ravel, ravel, ih]

/-- With zeros in their place an index lies inside sizes that leave no dimension empty. -/
theorem inside_append_zeros {index : List Nat} {sizes : Sizes}
    (hindex : Inside index (sizes.take index.length)) (hsizes : 0 < elementCount sizes) :
    Inside (index ++ List.replicate (sizes.length - index.length) 0) sizes := by
  induction sizes generalizing index with
  | nil =>
    cases index with
    | nil => exact .nil
    | cons i index => cases hindex
  | cons size sizes ih =>
    have hsize : 0 < size := Nat.pos_of_mul_pos_right hsizes
    have hrest : 0 < elementCount sizes := Nat.pos_of_mul_pos_left hsizes
    cases index with
    | nil => exact .cons hsize (ih .nil hrest)
    | cons i index =>
      rw [List.length_cons, List.take_succ_cons] at hindex
      cases hindex with
      | cons hlt hindex =>
        rw [List.length_cons, List.length_cons, Nat.add_sub_add_right]
        exact .cons hlt (ih hindex hrest)

/-- Coordinates that are left out are read at zero. -/
theorem Tensor.at?_append_zeros {ε α : Type} (tensor : Tensor α) (index : List Nat) (count : Nat) :
    (tensor.at? (index ++ List.replicate count 0) : Checked ε α) = tensor.at? index := by
  unfold Tensor.at?
  rw [ravel_append_zeros]

namespace Operator

open Tensor (HasSizes)

variable {α : Type}

/-! ## Ranges of a dimension -/

/-- **What a range holds**: at each place the element whose coordinate along the axis lies as far
behind the start. -/
theorem exists_slice {input : Tensor α} {axis start count : Nat} (haxis : axis < input.sizes.length)
    (hrange : start + count ≤ sizeAt input.sizes axis) :
    ∃ part, slice input axis start count 1 = .ok part ∧ part.sizes = input.sizes.set axis count ∧
      ∀ place i, Inside place part.sizes → place[axis]? = some i →
        (part.at? place : OpResult α) = input.at? (place.set axis (start + i)) := by
  have hanswers : Answers (HasSizes (input.sizes.set axis count)) (slice input axis start count 1) :=
    answers_slice haxis fun i hi => by omega
  obtain ⟨part, hpart, hsizes⟩ := answers_iff.mp hanswers
  refine ⟨part, hpart, hsizes, fun place i hplace hi => ?_⟩
  unfold slice at hpart
  rw [Checked.set_of_lt haxis, ok_bind, Tensor.ofIndices_eq_ok] at hpart
  rw [← hpart.2 place (hsizes ▸ hplace), get_eq_ok.mpr hi, ok_bind, Nat.mul_one]

/-! ## Elements -/

/-- What is reached lies inside the dimensions that a kernel is moved along. -/
theorem inside_take_of_reachAll {motions : List Motion} {outers inners positions : List Nat}
    {sizes : Sizes} (h : reachAll? motions outers inners sizes = some positions) :
    Inside positions (sizes.take positions.length) := by
  induction motions, outers, inners, sizes using reachAll?.induct generalizing positions with
  | case1 motion motions outer outers inner inners size sizes ih =>
    rw [reachAll?] at h
    simp only [Option.bind_eq_bind, Option.bind_eq_some_iff, Option.some.injEq] at h
    obtain ⟨position, hposition, rest, hrest, rfl⟩ := h
    exact .cons (reach_lt hposition) (ih hrest)
  | case2 motions outers inners sizes hnone =>
    rw [reachAll?] at h
    · rw [← Option.some.inj h]
      exact .nil
    · exact hnone

variable [Scalar α]

/-- An element of a convolution: its products added up, and the bias of its channel. -/
def convElement (input weight : Tensor α) (bias : Option (Tensor α)) (motions : List Motion)
    (groupIn groupOut batch channel : Nat) (place : List Nat) : OpResult α := do
  let terms ← convTerms input weight motions batch channel (channel / groupOut * groupIn) groupIn
    (input.sizes.drop 2) (weight.sizes.drop 2) place
  match bias with
  | none => .ok (Scalar.accumulate terms)
  | some bias => do .ok (Scalar.accumulate terms + (← Checked.fetch bias.data channel))

/-- Operands and parameters that a convolution accepts, taken apart. -/
structure ConvOperands (input weight : Tensor α) (bias : Option (Tensor α)) (params : ConvMotion)
    (batches groupIn groupOut : Nat) (spatial kernel out : Sizes) : Prop where
  ranks : requireRanks input.sizes weight.sizes = .ok ()
  groups_pos : 0 < params.groups
  input_eq : input.sizes = batches :: (groupIn * params.groups) :: spatial
  weight_eq : weight.sizes = (params.groups * groupOut) :: groupIn :: kernel
  bias_eq : ∀ tensor, bias = some tensor → tensor.sizes = [params.groups * groupOut]
  out_eq : convSizes params.motions spatial kernel = .ok out

section Convolution

variable {input weight output : Tensor α} {bias : Option (Tensor α)} {params : ConvMotion}
  {batches groupIn groupOut : Nat} {spatial kernel out : Sizes}

/-- What is left of a convolution once its operands are accepted. -/
theorem conv_eq
    (h : ConvOperands input weight bias params batches groupIn groupOut spatial kernel out) :
    conv input weight bias params = (do
      let output ← convolve input weight params
        (batches :: (params.groups * groupOut) :: out) groupIn groupOut
      addBias bias output) := by
  have hgroups : params.groups ≠ 0 := Nat.ne_of_gt h.groups_pos
  have hbias : requireBias bias (params.groups * groupOut) = .ok () := by
    unfold requireBias
    cases hsome : bias with
    | none => rfl
    | some tensor => exact if_pos (h.bias_eq tensor hsome)
  unfold conv
  rw [h.ranks, ok_bind, h.input_eq, h.weight_eq]
  dsimp only
  rw [Checked.mod_of_ne_zero hgroups, ok_bind, Nat.mul_mod_right, if_neg (by simp),
    if_neg (by simp), hbias, ok_bind, h.out_eq, ok_bind, Checked.div_of_ne_zero hgroups, ok_bind,
    Nat.mul_div_cancel_left groupOut h.groups_pos]

/-- What is accepted can be taken apart. -/
theorem exists_operands (h : conv input weight bias params = .ok output) :
    ∃ batches groupIn groupOut spatial kernel out,
      ConvOperands input weight bias params batches groupIn groupOut spatial kernel out := by
  unfold conv incompatible Checked.refuse at h
  obtain ⟨⟨⟩, hranks, h⟩ := bind_eq_ok.mp h
  rcases operands_cases input.sizes weight.sizes with
    ⟨batches, channels, spatial, outer, groupIn, kernel, hoperands⟩ | ⟨-, failure, hrefused⟩
  case inr =>
    rw [hrefused] at hranks
    cases hranks
  rw [hoperands.input_eq, hoperands.weight_eq] at h
  dsimp only at h
  obtain ⟨rest, hrest, hchecks⟩ := bind_eq_ok.mp h
  have hgroups : params.groups ≠ 0 := by
    intro hzero
    rw [hzero] at hrest
    cases hrest
  rw [Checked.mod_of_ne_zero hgroups] at hrest
  obtain ⟨hdivides, hchecks⟩ := guarded_eq_ok.mp hchecks
  obtain ⟨hchannels, hchecks⟩ := guarded_eq_ok.mp hchecks
  obtain ⟨⟨⟩, hbias, hchecks⟩ := bind_eq_ok.mp hchecks
  obtain ⟨out, hout, -⟩ := bind_eq_ok.mp hchecks
  rw [not_not, ← Except.ok.inj hrest] at hdivides
  obtain ⟨groupOut, rfl⟩ := Nat.dvd_of_mod_eq_zero hdivides
  obtain rfl := not_not.mp hchannels
  refine ⟨batches, groupIn, groupOut, spatial, kernel, out, {
    ranks := hranks
    groups_pos := Nat.pos_of_ne_zero hgroups
    input_eq := hoperands.input_eq
    weight_eq := hoperands.weight_eq
    bias_eq := ?_
    out_eq := hout }⟩
  rintro tensor rfl
  unfold requireBias at hbias
  by_contra hsizes
  dsimp only at hbias
  rw [if_neg hsizes] at hbias
  cases hbias

/-- **A convolution holds its elements.** -/
theorem conv_elements
    (h : ConvOperands input weight bias params batches groupIn groupOut spatial kernel out)
    (hconv : conv input weight bias params = .ok output) :
    output.sizes = batches :: (params.groups * groupOut) :: out ∧
      ∀ batch channel place, Inside (batch :: channel :: place) output.sizes →
        convElement input weight bias params.motions groupIn groupOut batch channel place =
          output.at? (batch :: channel :: place) := by
  rw [conv_eq h] at hconv
  obtain ⟨plain, hplain, hbias⟩ := bind_eq_ok.mp hconv
  unfold convolve at hplain
  obtain ⟨hsizes, hentries⟩ := Tensor.ofIndices_eq_ok.mp hplain
  have hterms : ∀ batch channel place, Inside (batch :: channel :: place) plain.sizes →
      (do
        let terms ← convTerms input weight params.motions batch channel
          (channel / groupOut * groupIn) groupIn (input.sizes.drop 2) (weight.sizes.drop 2) place
        .ok (Scalar.accumulate terms) : OpResult α) = plain.at? (batch :: channel :: place) := by
    intro batch channel place hindex
    rw [hsizes] at hindex
    rw [← hentries _ hindex]
    cases hindex with
    | cons _ hindex =>
      cases hindex with
      | cons hchannel _ =>
        dsimp only
        rw [Checked.div_of_ne_zero (group_lt hchannel).1, ok_bind]
  unfold addBias at hbias
  unfold convElement
  cases bias with
  | none =>
    obtain rfl := Except.ok.inj hbias
    exact ⟨hsizes, hterms⟩
  | some tensor =>
    obtain ⟨hsame, hadded⟩ := Tensor.ofOffsets_eq_ok_ravel.mp hbias
    refine ⟨hsame.trans hsizes, fun batch channel place hindex => ?_⟩
    rw [hsame] at hindex
    have hsum := hadded _ hindex
    rw [unravel_ravel hindex, Checked.get_of_lt (by simp), ok_bind] at hsum
    rw [← hsum]
    show _ = (do
      let x ← plain.at? (batch :: channel :: place)
      let y ← Checked.fetch tensor.data channel
      .ok (x + y))
    rw [← hterms _ _ _ hindex, bind_assoc]
    rfl

/-- A convolution of accepted operands answers if its elements do. -/
theorem exists_conv
    (h : ConvOperands input weight bias params batches groupIn groupOut spatial kernel out)
    (helements : ∀ batch channel place,
      Inside (batch :: channel :: place) (batches :: (params.groups * groupOut) :: out) →
        ∃ x, convElement input weight bias params.motions groupIn groupOut batch channel place =
          .ok x) :
    ∃ output, conv input weight bias params = .ok output := by
  have hplain : Answers (HasSizes (batches :: (params.groups * groupOut) :: out))
      (convolve input weight params (batches :: (params.groups * groupOut) :: out) groupIn
        groupOut) := by
    unfold convolve
    refine Tensor.answers_ofIndices fun index hindex => ?_
    cases id hindex with
    | @cons batch _ _ _ _ hrest =>
      cases hrest with
      | @cons channel _ place _ hchannel _ =>
        obtain ⟨x, hx⟩ := helements batch channel place hindex
        unfold convElement at hx
        obtain ⟨terms, hterms, -⟩ := bind_eq_ok.mp hx
        dsimp only
        rw [Checked.div_of_ne_zero (group_lt hchannel).1, ok_bind, hterms]
        trivial
  rw [conv_eq h]
  have hanswers := hplain.bind fun plain
    (hsizes : plain.sizes = batches :: (params.groups * groupOut) :: out) =>
      (answers_addBias hsizes h.bias_eq).imp fun _ _ => trivial
  obtain ⟨output, houtput, -⟩ := answers_iff.mp hanswers
  exact ⟨output, houtput⟩

end Convolution

/-! ## Groups -/

/-- The convolution of one group: of its input channels with its weight rows, and with the bias of
those rows. -/
def convGroup (input weight : Tensor α) (bias : Option (Tensor α)) (params : ConvMotion)
    (group : Nat) : OpResult (Tensor α) := do
  let groupIn ← Checked.get weight.sizes 1
  let groupOut ← Checked.div (← Checked.get weight.sizes 0) params.groups
  let channels ← slice input 1 (group * groupIn) groupIn 1
  let rows ← slice weight 0 (group * groupOut) groupOut 1
  let part ← bias.mapM fun bias => slice bias 0 (group * groupOut) groupOut 1
  conv channels rows part { params with groups := 1 }

/-- The range of a bias that begins at a channel, if there is a bias at all. -/
def IsBiasRange (bias part : Option (Tensor α)) (start count : Nat) : Prop :=
  (bias = none ∧ part = none) ∨ ∃ whole own, bias = some whole ∧ part = some own ∧
    own.sizes = [count] ∧ ∀ row < count, (Checked.fetch own.data row : OpResult α) =
      Checked.fetch whole.data (start + row)

/-- The operands of a group hold the channels, rows and biases of that group. -/
structure GroupOperands (input weight : Tensor α) (bias : Option (Tensor α))
    (group batches groupIn groupOut : Nat) (spatial kernel : Sizes) (channels rows : Tensor α)
    (part : Option (Tensor α)) : Prop where
  channels_sizes : channels.sizes = batches :: groupIn :: spatial
  rows_sizes : rows.sizes = groupOut :: groupIn :: kernel
  channels_at : ∀ batch c place, Inside (batch :: c :: place) channels.sizes →
    (channels.at? (batch :: c :: place) : OpResult α) =
      input.at? (batch :: (group * groupIn + c) :: place)
  rows_at : ∀ row c place, Inside (row :: c :: place) rows.sizes →
    (rows.at? (row :: c :: place) : OpResult α) =
      weight.at? ((group * groupOut + row) :: c :: place)
  bias_range : IsBiasRange bias part (group * groupOut) groupOut

section Groups

variable {input weight output : Tensor α} {bias : Option (Tensor α)} {params : ConvMotion}
  {batches groupIn groupOut group : Nat} {spatial kernel out : Sizes} {channels rows : Tensor α}
  {part : Option (Tensor α)}

omit [Scalar α] in
/-- What is read of the input where a kernel reaches is read of the channels of the group. -/
theorem channels_at_reached {total batch c : Nat} {motions : List Motion}
    {place inner source : List Nat} {x : α} (hinput : input.sizes = batches :: total :: spatial)
    (h : GroupOperands input weight bias group batches groupIn groupOut spatial kernel channels rows
      part)
    (hbatch : batch < batches) (hc : c < groupIn)
    (hsource : reachAll? motions place inner spatial = some source)
    (hx : (input.at? (batch :: (group * groupIn + c) :: source) : OpResult α) = .ok x) :
    (channels.at? (batch :: c :: source) : OpResult α) = .ok x := by
  -- An element has been read, so that no dimension of the input is empty.
  have hspatial : 0 < elementCount spatial := by
    have hlt := Nat.zero_lt_of_lt (Tensor.fetch_answers.mp ⟨x, hx⟩)
    rw [input.size_data, hinput, elementCount_cons, elementCount_cons] at hlt
    exact Nat.pos_of_mul_pos_left (Nat.pos_of_mul_pos_left hlt)
  have hfull := inside_append_zeros (inside_take_of_reachAll hsource) hspatial
  have hread : (channels.at? ((batch :: c :: source) ++ List.replicate _ 0) : OpResult α) =
      input.at? ((batch :: (group * groupIn + c) :: source) ++ List.replicate _ 0) :=
    h.channels_at batch c _ (h.channels_sizes ▸ List.Forall₂.cons hbatch (.cons hc hfull))
  rw [Tensor.at?_append_zeros, Tensor.at?_append_zeros] at hread
  exact hread.trans hx

/-- **The products of an element are those of its group**: what is read from the input and the
weight is read from their parts at the places that it has there. -/
theorem convTerms_group {total batch row : Nat} {motions : List Motion} {place : List Nat}
    {terms : List α} (hinput : input.sizes = batches :: total :: spatial)
    (h : GroupOperands input weight bias group batches groupIn groupOut spatial kernel channels rows
      part)
    (hbatch : batch < batches) (hrow : row < groupOut)
    (hterms : convTerms input weight motions batch (group * groupOut + row) (group * groupIn)
      groupIn spatial kernel place = .ok terms) :
    convTerms channels rows motions batch row 0 groupIn spatial kernel place = .ok terms := by
  unfold convTerms at hterms ⊢
  obtain ⟨perChannel, hperChannel, hflat⟩ := bind_eq_ok.mp hterms
  refine bind_eq_ok.mpr ⟨perChannel, mapM_of_agrees ?_ hperChannel, hflat⟩
  intro c hc products
  refine mapM_of_agrees ?_
  intro entry hentry product hproduct
  have hc : c < groupIn := List.mem_range.mp hc
  obtain ⟨k, hk, hreached⟩ := List.mem_filterMap.mp hentry
  obtain ⟨source, hsource, rfl⟩ := Option.map_eq_some_iff.mp hreached
  have hinner : Inside (unravel k kernel) kernel := inside_unravel_of_lt (List.mem_range.mp hk)
  obtain ⟨x, hx, hproduct⟩ := bind_eq_ok.mp hproduct
  obtain ⟨w, hw, hproduct⟩ := bind_eq_ok.mp hproduct
  have hchannel := channels_at_reached hinput h hbatch hc hsource hx
  have hrows := h.rows_at row c _ (h.rows_sizes ▸ List.Forall₂.cons hrow (.cons hc hinner))
  rw [← Nat.zero_add c] at hchannel
  exact bind_eq_ok.mpr ⟨x, hchannel, bind_eq_ok.mpr ⟨w, hrows.trans hw, hproduct⟩⟩

/-- **An element of a group is the element of the whole** with its channel counted from the first one
of the group. -/
theorem convElement_group {total batch row : Nat} {motions : List Motion} {place : List Nat} {x : α}
    (hinput : input.sizes = batches :: total :: spatial) (hkernel : weight.sizes.drop 2 = kernel)
    (h : GroupOperands input weight bias group batches groupIn groupOut spatial kernel channels rows
      part)
    (hbatch : batch < batches) (hrow : row < groupOut)
    (hx : convElement input weight bias motions groupIn groupOut batch (group * groupOut + row)
      place = .ok x) :
    convElement channels rows part motions groupIn groupOut batch row place = .ok x := by
  have hpos := Nat.zero_lt_of_lt hrow
  have hwhole : (group * groupOut + row) / groupOut = group := by
    rw [Nat.add_comm, Nat.add_mul_div_right _ _ hpos, Nat.div_eq_of_lt hrow, Nat.zero_add]
  have hspatial : channels.sizes.drop 2 = spatial := by
    rw [h.channels_sizes]
    rfl
  have hkernel' : rows.sizes.drop 2 = kernel := by
    rw [h.rows_sizes]
    rfl
  unfold convElement at hx ⊢
  rw [hwhole, hkernel, show input.sizes.drop 2 = spatial by rw [hinput]; rfl] at hx
  obtain ⟨terms, hterms, hx⟩ := bind_eq_ok.mp hx
  rw [Nat.div_eq_of_lt hrow, Nat.zero_mul, hspatial, hkernel',
    convTerms_group hinput h hbatch hrow hterms, ok_bind]
  obtain ⟨rfl, rfl⟩ | ⟨whole, own, rfl, rfl, -, hread⟩ := h.bias_range
  · exact hx
  · dsimp only at hx ⊢
    rw [hread row hrow]
    exact hx

omit [Scalar α] in
/-- In a vector a place is an offset. -/
theorem at?_vector {vector : Tensor α} {count : Nat} (h : vector.sizes = [count]) (i : Nat) :
    (vector.at? [i] : OpResult α) = Checked.fetch vector.data i := by
  unfold Tensor.at?
  rw [h]
  simp [ravel]

omit [Scalar α] in
/-- A range of a bias can be cut out of it. -/
theorem exists_biasRange {start count total : Nat} (hrange : start + count ≤ total)
    (hbias : ∀ tensor, bias = some tensor → tensor.sizes = [total]) :
    ∃ part, (bias.mapM fun bias => slice bias 0 start count 1) = .ok part ∧
      IsBiasRange bias part start count := by
  cases bias with
  | none => exact ⟨none, rfl, .inl ⟨rfl, rfl⟩⟩
  | some whole =>
    have hwhole := hbias whole rfl
    have haxis : 0 < whole.sizes.length := by simp [hwhole]
    have hfits : start + count ≤ sizeAt whole.sizes 0 := by
      rw [hwhole]
      exact hrange
    obtain ⟨own, hown, hsizes, hreads⟩ := exists_slice haxis hfits
    rw [hwhole] at hsizes
    refine ⟨some own, ?_, .inr ⟨whole, own, rfl, rfl, hsizes, fun row hrow => ?_⟩⟩
    · rw [Option.mapM_some, hown]
      rfl
    · have hread := hreads [row] row (hsizes ▸ List.Forall₂.cons hrow .nil) rfl
      rw [at?_vector hsizes] at hread
      exact hread.trans (at?_vector hwhole _)

/-- The operands of a group can be cut out of those of a convolution. -/
theorem exists_groupOperands
    (h : ConvOperands input weight bias params batches groupIn groupOut spatial kernel out)
    (hgroup : group < params.groups) :
    ∃ channels rows part,
      convGroup input weight bias params group =
          conv channels rows part { params with groups := 1 } ∧
        GroupOperands input weight bias group batches groupIn groupOut spatial kernel channels rows
          part := by
  have hbehind : ∀ size, group * size + size ≤ params.groups * size := by
    intro size
    rw [← Nat.succ_mul]
    exact Nat.mul_le_mul_right size hgroup
  have hinputAxis : 1 < input.sizes.length := by simp [h.input_eq]
  have hweightAxis : 0 < weight.sizes.length := by simp [h.weight_eq]
  have hinputRange : group * groupIn + groupIn ≤ sizeAt input.sizes 1 := by
    rw [h.input_eq]
    show _ ≤ groupIn * params.groups
    rw [Nat.mul_comm groupIn]
    exact hbehind groupIn
  have hweightRange : group * groupOut + groupOut ≤ sizeAt weight.sizes 0 := by
    rw [h.weight_eq]
    exact hbehind groupOut
  obtain ⟨channels, hchannels, hchannelsSizes, hchannelsAt⟩ := exists_slice hinputAxis hinputRange
  obtain ⟨rows, hrows, hrowsSizes, hrowsAt⟩ := exists_slice hweightAxis hweightRange
  obtain ⟨part, hpart, hbiasRange⟩ := exists_biasRange (hbehind groupOut) h.bias_eq
  rw [h.input_eq] at hchannelsSizes
  rw [h.weight_eq] at hrowsSizes
  refine ⟨channels, rows, part, ?_, {
    channels_sizes := hchannelsSizes
    rows_sizes := hrowsSizes
    channels_at := fun batch c place hplace => hchannelsAt _ c hplace rfl
    rows_at := fun row c place hplace => hrowsAt _ row hplace rfl
    bias_range := hbiasRange }⟩
  have hgroupIn : (Checked.get weight.sizes 1 : OpResult Nat) = .ok groupIn := by
    rw [h.weight_eq]
    rfl
  have houtChannels : (Checked.get weight.sizes 0 : OpResult Nat) =
      .ok (params.groups * groupOut) := by
    rw [h.weight_eq]
    rfl
  unfold convGroup
  rw [hgroupIn, ok_bind, houtChannels, ok_bind,
    Checked.div_of_ne_zero (Nat.ne_of_gt h.groups_pos), ok_bind,
    Nat.mul_div_cancel_left groupOut h.groups_pos, hchannels, ok_bind, hrows, ok_bind, hpart,
    ok_bind]

omit [Scalar α] in
/-- The operands of a group are accepted as those of a convolution without groups. -/
theorem convOperands_group
    (h : ConvOperands input weight bias params batches groupIn groupOut spatial kernel out)
    (hgroup : GroupOperands input weight bias group batches groupIn groupOut spatial kernel channels
      rows part) :
    ConvOperands channels rows part { params with groups := 1 } batches groupIn groupOut spatial
      kernel out where
  ranks := by
    have hranks := h.ranks
    rw [h.input_eq, h.weight_eq] at hranks
    rw [hgroup.channels_sizes, hgroup.rows_sizes]
    exact hranks
  groups_pos := Nat.one_pos
  input_eq := by rw [hgroup.channels_sizes, Nat.mul_one]
  weight_eq := by rw [hgroup.rows_sizes, Nat.one_mul]
  bias_eq := by
    rintro tensor rfl
    obtain ⟨-, hnone⟩ | ⟨whole, own, -, hown, hsizes, -⟩ := hgroup.bias_range
    · cases hnone
    · rw [Option.some.inj hown, hsizes, Nat.one_mul]
  out_eq := h.out_eq

/-- **Each group is accepted, and holds the elements of the whole at its channels.** -/
theorem exists_convGroup
    (h : ConvOperands input weight bias params batches groupIn groupOut spatial kernel out)
    (hconv : conv input weight bias params = .ok output) (hgroup : group < params.groups) :
    ∃ own, convGroup input weight bias params group = .ok own ∧
      own.sizes = batches :: groupOut :: out ∧
        ∀ batch row place, Inside (batch :: row :: place) own.sizes →
          (output.at? (batch :: (group * groupOut + row) :: place) : OpResult α) =
            own.at? (batch :: row :: place) := by
  obtain ⟨channels, rows, part, hcall, hoperands⟩ := exists_groupOperands h hgroup
  obtain ⟨hsizes, helements⟩ := conv_elements h hconv
  have haccepted := convOperands_group h hoperands
  have hkernel : weight.sizes.drop 2 = kernel := by
    rw [h.weight_eq]
    rfl
  have helement : ∀ batch row place, Inside (batch :: row :: place) (batches :: groupOut :: out) →
      ∃ x, (output.at? (batch :: (group * groupOut + row) :: place) : OpResult α) = .ok x ∧
        convElement channels rows part params.motions groupIn groupOut batch row place = .ok x := by
    intro batch row place hplace
    obtain ⟨hbatch, hplace⟩ := List.forall₂_cons.mp hplace
    obtain ⟨hrow, hplace⟩ := List.forall₂_cons.mp hplace
    have hindex : Inside (batch :: (group * groupOut + row) :: place) output.sizes := by
      rw [hsizes]
      exact .cons hbatch (.cons (row_add_lt hgroup hrow) hplace)
    have hanswers : Tensor.AnswersAtAll (output.at? _ : OpResult α) := Tensor.answers_at? hindex
    obtain ⟨x, hx, -⟩ := answers_iff.mp hanswers
    refine ⟨x, hx, convElement_group h.input_eq hkernel hoperands hbatch hrow ?_⟩
    rw [helements _ _ _ hindex, hx]
  have hshape : batches :: (1 * groupOut) :: out = batches :: groupOut :: out := by
    rw [Nat.one_mul]
  obtain ⟨own, hown⟩ := exists_conv haccepted fun batch row place hplace => by
    obtain ⟨x, -, hx⟩ := helement batch row place (hshape ▸ hplace)
    exact ⟨x, hx⟩
  obtain ⟨hownSizes, hownElements⟩ := conv_elements haccepted hown
  have hownSizes : own.sizes = batches :: groupOut :: out := hownSizes.trans hshape
  refine ⟨own, hcall.trans hown, hownSizes, fun batch row place hplace => ?_⟩
  obtain ⟨x, houtput, hx⟩ := helement batch row place (hownSizes ▸ hplace)
  rw [← hownElements batch row place hplace, houtput]
  exact hx.symm

end Groups

/-! ## Side by side -/

omit [Scalar α] in
/-- Tensors of one size along an axis reach as far as there are of them. -/
theorem reach_of_sizeAt {tensors : List (Tensor α)} {axis size : Nat}
    (h : ∀ tensor ∈ tensors, sizeAt tensor.sizes axis = size) :
    reach tensors axis = tensors.length * size := by
  unfold reach
  rw [List.map_congr_left h, List.map_const', totalSize_replicate]

omit [Scalar α] in
/-- Tensors of the same sizes behind each other. -/
theorem joins_of_sizes {tensors : List (Tensor α)} {batches size : Nat} {out : Sizes}
    (h : ∀ tensor ∈ tensors, tensor.sizes = batches :: size :: out) :
    Rule.Joins 1 (tensors.map Tensor.sizes) (batches :: (tensors.length * size) :: out) := by
  have halong : ∀ tensor ∈ tensors, sizeAt tensor.sizes 1 = size := by
    intro tensor htensor
    rw [h tensor htensor]
    rfl
  refine ⟨by simp, ?_, ?_⟩
  · rw [List.forall_mem_map]
    intro tensor htensor
    rw [h tensor htensor]
    exact matches_set (batches :: (tensors.length * size) :: out) 1 size
  · rw [List.map_map]
    exact (reach_of_sizeAt halong).symm

/-- Sums and products of natural numbers. -/
instance : Scalar Nat where
  zero := 0
  emptySum := 0

end Operator

end OpShape

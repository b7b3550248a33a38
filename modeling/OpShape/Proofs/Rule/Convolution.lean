/-
# `OpShape.Proofs.Rule.Convolution` — a transposed convolution takes the sizes of a convolution back.

Along one dimension both rules speak of one division.  What a window has room for is divided by its
stride: the quotient counts the places behind the first one, and the remainder is what no place
reaches.  A convolution rounds that remainder away, and a transposed convolution asks for it as the
elements to add at the end.  Quotient and remainder are unique, so that either rule undoes the other
exactly if the added elements are the remainder.

The checks in front are the same two with the roles exchanged: the channels that a convolution makes
are those that the transposed one reads.
-/
import OpShape.Proofs.Operator.Conv

namespace OpShape.Rule

open Operator (Accepted accepted_append check_eq_ok operands_cases)

/-! ## One dimension -/

/-- What a window has room for beside its first place, along a dimension with padding. -/
def room (size : Nat) (axis : Axis) : Int :=
  size + 2 * axis.padding - axis.dilation * (axis.kernel - 1) - 1

/-- What is left at the end of a dimension behind the last place of a window. -/
def leftover (size : Nat) (axis : Axis) : Int :=
  room size axis % axis.stride

/-- A window that can be moved. -/
structure Axis.Movable (axis : Axis) : Prop where
  kernel_pos : 0 < axis.kernel
  padding_nonneg : 0 ≤ axis.padding
  stride_pos : 0 < axis.stride
  dilation_pos : 0 < axis.dilation

/-- The number of places as the rules compute it, which is negative for a window that is far too
long. -/
def placeCount (ceilMode : Bool) (size : Nat) (axis : Axis) : Int :=
  if ceilMode then
    let places := (room size axis + (axis.stride - 1)) / axis.stride + 1
    if size + axis.padding ≤ (places - 1) * axis.stride then places - 1 else places
  else
    room size axis / axis.stride + 1

theorem leftover_bounds {axis : Axis} (h : 0 < axis.stride) (size : Nat) :
    0 ≤ leftover size axis ∧ leftover size axis < axis.stride :=
  ⟨Int.emod_nonneg _ (Int.ne_of_gt h), Int.emod_lt_of_pos _ h⟩

section Axis

variable {size places : Nat} {axis : Axis} {extra : Int}

/-- A window that finds places can be moved. -/
theorem movable_of_poolOutputSize (h : poolOutputSize size axis false = .ok places) :
    axis.Movable := by
  unfold poolOutputSize invalid Checked.refuse at h
  simp only [guarded_eq_ok, Int.not_le, Int.not_lt] at h
  obtain ⟨hkernel, hstride, hdilation, hpadding, -⟩ := h
  exact ⟨hkernel, hpadding, hstride, hdilation⟩

/-- The rule once its checks are passed. -/
theorem poolOutputSize_eq (haxis : axis.Movable) (hsize : size < 2 ^ 63) (ceilMode : Bool) :
    poolOutputSize size axis ceilMode =
      if placeCount ceilMode size axis ≤ 0 then invalid "output size is too small"
      else .ok (placeCount ceilMode size axis).toNat := by
  obtain ⟨hkernel, hpadding, hstride, hdilation⟩ := haxis
  unfold poolOutputSize placeCount
  rw [if_neg (Int.not_le.mpr hkernel), if_neg (Int.not_le.mpr hstride),
    if_neg (Int.not_le.mpr hdilation), if_neg (Int.not_lt.mpr hpadding), signed_of_lt hsize]
  dsimp only
  rw [← room, Checked.ediv_of_ne_zero (Int.ne_of_gt hstride), ok_bind]
  cases ceilMode with
  | false => simp only [Bool.false_eq_true, false_and, if_false]
  | true => simp only [true_and, if_true]

/-- **The places of a window** are one more than the strides that it has room for. -/
theorem poolOutputSize_eq_ok (haxis : axis.Movable) (hsize : size < 2 ^ 63) :
    poolOutputSize size axis false = .ok places ↔
      0 < places ∧ room size axis / axis.stride = places - 1 := by
  have hcount : placeCount false size axis = room size axis / axis.stride + 1 := rfl
  rw [poolOutputSize_eq haxis hsize, hcount, invalid, Checked.refuse, guarded_eq_ok,
    Except.ok.injEq]
  omega

/-- **The size of a transposed dimension** is the one that leaves room for all strides and for the
elements that are added. -/
theorem transposedSize_eq_ok (hplaces : places < 2 ^ 63) (hextra : extra < axis.stride) :
    transposedSize places axis extra = .ok size ↔
      0 < size ∧ room size axis = axis.stride * (places - 1) + extra := by
  have hsmall : ¬ (axis.stride ≤ extra ∧ axis.dilation ≤ extra) :=
    fun h => Int.not_le.mpr hextra h.1
  unfold transposedSize room invalid Checked.refuse
  dsimp only
  rw [if_neg hsmall, guarded_eq_ok, Except.ok.injEq, signed_of_lt hplaces,
    Int.mul_comm axis.stride]
  omega

theorem pos_of_transposedSize (h : transposedSize places axis extra = .ok size) : 0 < size := by
  unfold transposedSize invalid Checked.refuse at h
  simp only [guarded_eq_ok, Int.not_le] at h
  obtain ⟨-, hsize, h⟩ := h
  rw [← Except.ok.inj h]
  exact Int.pos_iff_toNat_pos.mp hsize

/-- **A transposed dimension is a dimension with its remainder**: division with remainder has one
quotient and one remainder. -/
theorem transposedSize_eq_ok_iff (haxis : axis.Movable) (hsize : 0 < size ∧ size < 2 ^ 63)
    (hplaces : 0 < places ∧ places < 2 ^ 63) (hextra : 0 ≤ extra ∧ extra < axis.stride) :
    transposedSize places axis extra = .ok size ↔
      poolOutputSize size axis false = .ok places ∧ extra = leftover size axis := by
  have hdivision := @Int.ediv_emod_unique (room size axis) axis.stride extra (places - 1)
    haxis.stride_pos
  rw [transposedSize_eq_ok hplaces.2 hextra.2, poolOutputSize_eq_ok haxis hsize.2]
  unfold leftover
  constructor
  · rintro ⟨-, hroom⟩
    obtain ⟨hquotient, hremainder⟩ := hdivision.mpr ⟨by omega, hextra⟩
    exact ⟨⟨hplaces.1, hquotient⟩, hremainder.symm⟩
  · rintro ⟨⟨-, hquotient⟩, hremainder⟩
    obtain ⟨hroom, -⟩ := hdivision.mp ⟨hquotient, hremainder.symm⟩
    exact ⟨hsize.1, by omega⟩

end Axis

/-! ## All dimensions -/

/-- Elements that a transposed convolution may add along an axis. -/
def Axis.Takes (axis : Axis) (extra : Int) : Prop :=
  0 ≤ extra ∧ extra < axis.stride

section Axes

variable {sizes places : Sizes} {windows : List Axis} {extras : List Int}

/-- Windows that find places along all dimensions. -/
theorem of_poolOutputSizes (hlength : windows.length = sizes.length)
    (hsizes : ∀ size ∈ sizes, size < 2 ^ 63)
    (h : ((sizes.zip windows).mapM fun entry => poolOutputSize entry.1 entry.2 false) =
      .ok places) :
    windows.length = places.length ∧ (∀ axis ∈ windows, axis.Movable) ∧
      ∀ count ∈ places, 0 < count := by
  rw [mapM_eq_ok] at h
  have hentries : (sizes.zip windows).map Prod.snd = windows := List.map_snd_zip (by omega)
  refine ⟨?_, ?_, ?_⟩
  · rw [← h.length_eq, List.length_zip, hlength, Nat.min_self]
  · intro axis haxis
    rw [← hentries] at haxis
    obtain ⟨entry, hentry, rfl⟩ := List.mem_map.mp haxis
    obtain ⟨_, -, hcount⟩ := exists_of_forall₂_left h hentry
    exact movable_of_poolOutputSize hcount
  · intro count hmem
    obtain ⟨entry, hentry, hcount⟩ := exists_of_forall₂_right h hmem
    have hsize := hsizes entry.1 (List.of_mem_zip hentry).1
    exact ((poolOutputSize_eq_ok (movable_of_poolOutputSize hcount) hsize).mp hcount).1

/-- Sizes that transposed convolutions give to all dimensions. -/
theorem of_transposedSizes (hplaces : windows.length = places.length)
    (hextras : windows.length = extras.length)
    (h : (((places.zip windows).zip extras).mapM fun entry =>
      transposedSize entry.1.1 entry.1.2 entry.2) = .ok sizes) :
    windows.length = sizes.length ∧ ∀ size ∈ sizes, 0 < size := by
  rw [mapM_eq_ok] at h
  constructor
  · rw [← h.length_eq, List.length_zip, List.length_zip, ← hplaces, ← hextras, Nat.min_self,
      Nat.min_self]
  · intro size hmem
    obtain ⟨entry, -, hsize⟩ := exists_of_forall₂_right h hmem
    exact pos_of_transposedSize hsize

/-- What convolutions leave over can be added by transposed ones. -/
theorem takes_leftovers (hwindows : ∀ axis ∈ windows, axis.Movable)
    (hlength : windows.length = sizes.length) :
    List.Forall₂ Axis.Takes windows (List.zipWith leftover sizes windows) := by
  induction windows generalizing sizes with
  | nil =>
    rw [List.zipWith_nil_right]
    exact .nil
  | cons axis windows ih =>
    cases sizes with
    | nil => cases hlength
    | cons size sizes =>
      obtain ⟨haxis, hrest⟩ := List.forall_mem_cons.mp hwindows
      exact .cons (leftover_bounds haxis.stride_pos size) (ih hrest (Nat.succ.inj hlength))

theorem takes_of_lt (hnonneg : ∀ extra ∈ extras, 0 ≤ extra)
    (hlt : List.Forall₂ (· < ·) extras (windows.map Axis.stride)) :
    List.Forall₂ Axis.Takes windows extras := by
  rw [List.forall₂_map_right_iff] at hlt
  have hflip : List.Forall₂ (fun axis extra => extra < axis.stride) windows extras :=
    List.Forall₂.flip hlt
  rw [List.forall₂_iff_zip] at hflip ⊢
  exact ⟨hflip.1, fun hmem => ⟨hnonneg _ (List.of_mem_zip hmem).2, hflip.2 hmem⟩⟩

/-- **Transposed dimensions are dimensions with their remainders**, side by side. -/
theorem transposedSizes_eq_ok_iff (hwindows : ∀ axis ∈ windows, axis.Movable)
    (hsizes : List.Forall₂ (fun _ size => 0 < size ∧ size < 2 ^ 63) windows sizes)
    (hplaces : List.Forall₂ (fun _ count => 0 < count ∧ count < 2 ^ 63) windows places)
    (hextras : List.Forall₂ Axis.Takes windows extras) :
    (((places.zip windows).zip extras).mapM fun entry =>
        transposedSize entry.1.1 entry.1.2 entry.2) = .ok sizes ↔
      ((sizes.zip windows).mapM fun entry => poolOutputSize entry.1 entry.2 false) = .ok places ∧
        extras = List.zipWith leftover sizes windows := by
  induction hextras generalizing sizes places with
  | nil =>
    cases hsizes
    cases hplaces
    simp
  | cons hextra _ ih =>
    obtain ⟨haxis, hrest⟩ := List.forall_mem_cons.mp hwindows
    cases hsizes with
    | cons hsize hsizes =>
      cases hplaces with
      | cons hplace hplaces =>
        have hfirst := transposedSize_eq_ok_iff haxis hsize hplace hextra
        have hothers := ih hrest hsizes hplaces
        rw [mapM_eq_ok, mapM_eq_ok] at hothers ⊢
        simp only [List.zip_cons_cons, List.forall₂_cons, List.zipWith_cons_cons,
          List.cons.injEq, hfirst, hothers]
        tauto

end Axes

/-! ## Parameters -/

/-- The values of a parameter for each dimension; one value stands for all. -/
def perDim (count : Nat) (values : List Int) : List Int :=
  if values.length = 1 then List.replicate count (values.headD 0) else values

theorem eq_perDim {values spread : List Int} {count : Nat} {details : String}
    (h : spatialParam values count details = .ok spread) : spread = perDim count values := by
  unfold spatialParam at h
  unfold perDim
  split_ifs at h ⊢ with hsingle hcount
  · obtain ⟨value, rfl⟩ := List.length_eq_one_iff.mp hsingle
    exact (Except.ok.inj h).symm
  · exact (Except.ok.inj h).symm
  · cases h

/-- A list with one value for each dimension is read as it is. -/
theorem spatialParam_of_length {values : List Int} {count : Nat} (h : values.length = count)
    (details : String) : spatialParam values count details = .ok values := by
  unfold spatialParam
  by_cases hsingle : values.length = 1
  · obtain ⟨value, rfl⟩ := List.length_eq_one_iff.mp hsingle
    rw [if_pos hsingle, ← h]
    rfl
  · rw [if_neg hsingle, if_pos h]

/-- The parameters with a value for each dimension. -/
def ConvParams.perDims (params : ConvParams) (count : Nat) : ConvParams where
  stride := perDim count params.stride
  padding := perDim count params.padding
  dilation := perDim count params.dilation

theorem eq_perDims {params spread : ConvParams} {count : Nat}
    (h : params.spread count = .ok spread) : spread = params.perDims count := by
  obtain ⟨stride, hstride, h⟩ := bind_eq_ok.mp h
  obtain ⟨padding, hpadding, h⟩ := bind_eq_ok.mp h
  obtain ⟨dilation, hdilation, h⟩ := bind_eq_ok.mp h
  obtain rfl := Except.ok.inj h
  rw [eq_perDim hstride, eq_perDim hpadding, eq_perDim hdilation]
  rfl

/-- Parameters that convolutions accept for a number of dimensions. -/
structure ConvParams.Fit (params : ConvParams) (count : Nat) (groups : Int) : Prop where
  spread : params.spread count = .ok (params.perDims count)
  accepted : Accepted (params.perDims count).padding (params.perDims count).stride
    (params.perDims count).dilation groups

/-- The axes along which a weight moves. -/
def weightAxes (weight : Sizes) (params : ConvParams) : List Axis :=
  let params := params.perDims (weight.length - 2)
  axes ((weight.drop 2).map Nat.cast) params.padding params.stride params.dilation

/-- **What a convolution leaves over** at the end of each dimension. -/
def leftovers (input weight : Sizes) (params : ConvParams) : List Int :=
  List.zipWith leftover (input.drop 2) (weightAxes weight params)

theorem of_mem_axes {kernel padding stride dilation : List Int} {axis : Axis}
    (h : axis ∈ axes kernel padding stride dilation) :
    axis.kernel ∈ kernel ∧ axis.padding ∈ padding ∧ axis.stride ∈ stride ∧
      axis.dilation ∈ dilation := by
  obtain ⟨⟨⟨size, pad⟩, step, spacing⟩, hentry, rfl⟩ := List.mem_map.mp h
  obtain ⟨hleft, hright⟩ := List.of_mem_zip hentry
  exact ⟨(List.of_mem_zip hleft).1, (List.of_mem_zip hleft).2, (List.of_mem_zip hright).1,
    (List.of_mem_zip hright).2⟩

theorem map_stride_axes {kernel padding stride dilation : List Int} {count : Nat}
    (hkernel : kernel.length = count) (hpadding : padding.length = count)
    (hstride : stride.length = count) (hdilation : dilation.length = count) :
    (axes kernel padding stride dilation).map Axis.stride = stride := by
  have hright : ((kernel.zip padding).zip (stride.zip dilation)).map Prod.snd =
      stride.zip dilation :=
    List.map_snd_zip (by simp [hkernel, hpadding, hstride, hdilation])
  calc (axes kernel padding stride dilation).map Axis.stride
      = (((kernel.zip padding).zip (stride.zip dilation)).map Prod.snd).map Prod.fst := by
        unfold axes
        rw [List.map_map, List.map_map]
        rfl
    _ = (stride.zip dilation).map Prod.fst := by rw [hright]
    _ = stride := List.map_fst_zip (by omega)

namespace ConvParams.Fit

variable {params : ConvParams} {groups : Int} {kernel : Sizes}

theorem length_weightAxes (outer inner : Nat) (h : params.Fit kernel.length groups) :
    (weightAxes (outer :: inner :: kernel) params).length = kernel.length := by
  obtain ⟨hpadding, hstride, hdilation⟩ := length_spread h.spread
  exact length_axes (List.length_map _) hpadding hstride hdilation

theorem strides (outer inner : Nat) (h : params.Fit kernel.length groups) :
    (weightAxes (outer :: inner :: kernel) params).map Axis.stride =
      perDim kernel.length params.stride := by
  obtain ⟨hpadding, hstride, hdilation⟩ := length_spread h.spread
  exact map_stride_axes (List.length_map _) hpadding hstride hdilation

/-- A weight without empty dimensions is moved. -/
theorem movable (outer inner : Nat) (h : params.Fit kernel.length groups)
    (hkernel : ∀ size ∈ kernel, 0 < size) :
    ∀ axis ∈ weightAxes (outer :: inner :: kernel) params, axis.Movable := by
  intro axis haxis
  obtain ⟨hsize, hpadding, hstride, hdilation⟩ := of_mem_axes haxis
  obtain ⟨size, hmem, hcast⟩ := List.mem_map.mp hsize
  exact {
    kernel_pos := hcast ▸ Int.natCast_pos.mpr (hkernel size hmem)
    padding_nonneg := h.accepted.paddings _ hpadding
    stride_pos := h.accepted.strides _ hstride
    dilation_pos := h.accepted.dilations _ hdilation }

end ConvParams.Fit

/-! ## Both rules -/

section Operands

variable {batch channels outer inner : Nat} {spatial kernel : Sizes}
  (hkernel : kernel.length = spatial.length) (hspatial : 0 < spatial.length)
  (hwords : ∀ size ∈ kernel, size < 2 ^ 63)
  {params : ConvParams} {groups : Int} {out : Sizes}

include hwords in
/-- Sizes of a weight that are words are read as they are. -/
theorem axes_eq_weightAxes :
    axes (kernel.map signed) (params.perDims kernel.length).padding
        (params.perDims kernel.length).stride (params.perDims kernel.length).dilation =
      weightAxes (outer :: inner :: kernel) params := by
  have hsigned : kernel.map signed = kernel.map Nat.cast :=
    List.map_congr_left fun size hsize => signed_of_lt (hwords size hsize)
  rw [hsigned]
  rfl

include hkernel hspatial hwords

/-- **What a convolution asks for, and what it answers.** -/
theorem convOutputSize_eq_ok {bias : Option Sizes} :
    convOutputSize (batch :: channels :: spatial) (outer :: inner :: kernel) bias params groups =
        .ok out ↔
      params.Fit kernel.length groups ∧ outer % groups.toNat = 0 ∧
        channels = inner * groups.toNat ∧ checkBias bias outer = .ok () ∧
        ∃ places,
          ((spatial.zip (weightAxes (outer :: inner :: kernel) params)).mapM fun entry =>
            poolOutputSize entry.1 entry.2 false) = .ok places ∧
          out = batch :: outer :: places := by
  rw [convOutputSize_of_operands rfl rfl hkernel hspatial bias params groups, ← hkernel]
  constructor
  · intro h
    obtain ⟨spread, hspread, h⟩ := bind_eq_ok.mp h
    obtain rfl := eq_perDims hspread
    obtain ⟨⟨⟩, hcheck, h⟩ := bind_eq_ok.mp h
    have haccepted := check_eq_ok.mp hcheck
    have hgroups := haccepted.groups
    rw [Checked.mod_of_ne_zero (by omega), ok_bind] at h
    split_ifs at h with hrest hchannels
    · cases h
    · cases h
    · obtain ⟨⟨⟩, hbias, h⟩ := bind_eq_ok.mp h
      rw [axes_eq_weightAxes hwords] at h
      obtain ⟨places, hplaces, h⟩ := bind_eq_ok.mp h
      exact ⟨⟨hspread, haccepted⟩, not_not.mp hrest, not_not.mp hchannels, hbias, places, hplaces,
        (Except.ok.inj h).symm⟩
  · rintro ⟨⟨hspread, haccepted⟩, hrest, hchannels, hbias, places, hplaces, rfl⟩
    have hgroups := haccepted.groups
    rw [hspread, ok_bind, check_eq_ok.mpr haccepted, ok_bind,
      Checked.mod_of_ne_zero (by omega), ok_bind, if_neg (not_not.mpr hrest),
      if_neg (not_not.mpr hchannels), hbias, ok_bind, axes_eq_weightAxes hwords]
    dsimp only
    rw [hplaces]
    rfl

/-- **What a transposed convolution asks for, and what it answers.** -/
theorem convTransposeOutputSize_eq_ok {bias : Option Sizes} {outputPadding : List Int} :
    convTransposeOutputSize (batch :: channels :: spatial) (outer :: inner :: kernel) bias params
        outputPadding groups = .ok out ↔
      params.Fit kernel.length groups ∧ channels = outer ∧ outer % groups.toNat = 0 ∧
        checkBias bias (inner * groups.toNat) = .ok () ∧
        ∃ added sizes,
          spatialParam outputPadding kernel.length "output_padding has the wrong length" =
            .ok added ∧
          (∀ extra ∈ added, 0 ≤ extra) ∧
          (((spatial.zip (weightAxes (outer :: inner :: kernel) params)).zip added).mapM
            fun entry => transposedSize entry.1.1 entry.1.2 entry.2) = .ok sizes ∧
          out = batch :: (inner * groups.toNat) :: sizes := by
  rw [convTransposeOutputSize_of_operands rfl rfl hkernel hspatial bias params groups, ← hkernel]
  constructor
  · intro h
    obtain ⟨spread, hspread, h⟩ := bind_eq_ok.mp h
    obtain rfl := eq_perDims hspread
    obtain ⟨added, hadded, h⟩ := bind_eq_ok.mp h
    obtain ⟨⟨⟩, hcheck, h⟩ := bind_eq_ok.mp h
    obtain ⟨haccepted, hnonneg⟩ := accepted_append.mp (check_eq_ok.mp hcheck)
    have hgroups := haccepted.groups
    rw [Checked.mod_of_ne_zero (by omega), ok_bind] at h
    split_ifs at h with hchannels hrest
    · cases h
    · cases h
    · obtain ⟨⟨⟩, hbias, h⟩ := bind_eq_ok.mp h
      rw [axes_eq_weightAxes hwords] at h
      obtain ⟨sizes, hsizes, h⟩ := bind_eq_ok.mp h
      exact ⟨⟨hspread, haccepted⟩, not_not.mp hchannels, not_not.mp hrest, hbias, added, sizes,
        hadded, hnonneg, hsizes, (Except.ok.inj h).symm⟩
  · rintro ⟨⟨hspread, haccepted⟩, hchannels, hrest, hbias, added, sizes, hadded, hnonneg, hsizes,
      rfl⟩
    have hgroups := haccepted.groups
    rw [hspread, ok_bind, hadded, ok_bind,
      check_eq_ok.mpr (accepted_append.mpr ⟨haccepted, hnonneg⟩), ok_bind,
      Checked.mod_of_ne_zero (by omega), ok_bind, if_neg (not_not.mpr hchannels),
      if_neg (not_not.mpr hrest)]
    dsimp only
    rw [hbias, ok_bind, axes_eq_weightAxes hwords, hsizes]
    rfl

/-- **The output of a convolution goes back to its input**, with what was left over added. -/
theorem convTransposeOutputSize_of_conv (hpos : ∀ size ∈ spatial, 0 < size ∧ size < 2 ^ 63)
    (hout : ∀ size ∈ out.drop 2, size < 2 ^ 63)
    (h : convOutputSize (batch :: channels :: spatial) (outer :: inner :: kernel) none params
      groups = .ok out) :
    convTransposeOutputSize out (outer :: inner :: kernel) none params
        (leftovers (batch :: channels :: spatial) (outer :: inner :: kernel) params) groups =
      .ok (batch :: channels :: spatial) := by
  obtain ⟨hfit, hrest, hchannels, -, places, hplaces, rfl⟩ :=
    (convOutputSize_eq_ok hkernel hspatial hwords).mp h
  have hwindows := hfit.length_weightAxes outer inner
  have hlength := hwindows.trans hkernel
  obtain ⟨hcounts, hmovable, hcount⟩ :=
    of_poolOutputSizes hlength (fun size hsize => (hpos size hsize).2) hplaces
  have htakes := takes_leftovers hmovable hlength
  have hinputs := forall₂_right_iff.mpr ⟨hlength, hpos⟩
  have hplaced : List.Forall₂ (fun _ count => 0 < count ∧ count < 2 ^ 63)
      (weightAxes (outer :: inner :: kernel) params) places :=
    forall₂_right_iff.mpr ⟨hcounts, fun size hsize => ⟨hcount size hsize, hout size hsize⟩⟩
  have hsizes := (transposedSizes_eq_ok_iff hmovable hinputs hplaced htakes).mpr ⟨hplaces, rfl⟩
  have hadded := spatialParam_of_length (htakes.length_eq.symm.trans hwindows)
    "output_padding has the wrong length"
  have hnonneg : ∀ extra ∈ List.zipWith leftover spatial
      (weightAxes (outer :: inner :: kernel) params), 0 ≤ extra := by
    intro extra hextra
    obtain ⟨_, -, htake⟩ := exists_of_forall₂_right htakes hextra
    exact htake.1
  rw [convTransposeOutputSize_eq_ok (hwindows.symm.trans hcounts) (by omega) hwords]
  exact ⟨hfit, rfl, hrest, rfl, _, spatial, hadded, hnonneg, hsizes, by rw [hchannels]⟩

/-- **The output of a transposed convolution goes back to its input**, if along no dimension as much
as a stride has been added. -/
theorem convOutputSize_of_transposed {bias : Option Sizes} {outputPadding : List Int}
    (hpos : ∀ size ∈ spatial, 0 < size ∧ size < 2 ^ 63) (hkernels : ∀ size ∈ kernel, 0 < size)
    (hout : ∀ size ∈ out.drop 2, size < 2 ^ 63)
    (hpadding : List.Forall₂ (· < ·) (perDim kernel.length outputPadding)
      (perDim kernel.length params.stride))
    (h : convTransposeOutputSize (batch :: channels :: spatial) (outer :: inner :: kernel) bias
      params outputPadding groups = .ok out) :
    convOutputSize out (outer :: inner :: kernel) none params groups =
      .ok (batch :: channels :: spatial) := by
  obtain ⟨hfit, rfl, hrest, -, added, sizes, hadded, hnonneg, hsizes, rfl⟩ :=
    (convTransposeOutputSize_eq_ok hkernel hspatial hwords).mp h
  obtain rfl := eq_perDim hadded
  have hwindows := hfit.length_weightAxes channels inner
  have hlength := hwindows.trans hkernel
  have hmovable := hfit.movable channels inner hkernels
  have htakes : List.Forall₂ Axis.Takes (weightAxes (channels :: inner :: kernel) params)
      (perDim kernel.length outputPadding) := by
    rw [← hfit.strides channels inner] at hpadding
    exact takes_of_lt hnonneg hpadding
  obtain ⟨hcounts, hcount⟩ := of_transposedSizes hlength htakes.length_eq hsizes
  have hspread : List.Forall₂ (fun _ size => 0 < size ∧ size < 2 ^ 63)
      (weightAxes (channels :: inner :: kernel) params) sizes :=
    forall₂_right_iff.mpr ⟨hcounts, fun size hsize => ⟨hcount size hsize, hout size hsize⟩⟩
  have hinputs := forall₂_right_iff.mpr ⟨hlength, hpos⟩
  obtain ⟨hplaces, -⟩ :=
    (transposedSizes_eq_ok_iff hmovable hspread hinputs htakes).mp hsizes
  rw [convOutputSize_eq_ok (hwindows.symm.trans hcounts) (by omega) hwords]
  exact ⟨hfit, hrest, rfl, rfl, spatial, hplaces, rfl⟩

end Operands

/-- **Convolutions and transposed convolutions undo each other's sizes.**  Without empty spatial
dimensions, and where spatial sizes are words, the output of a convolution is taken back to its input
by the transposed convolution that adds what was left over along each dimension; and the output of any
transposed convolution that adds less than a stride is taken back to its input by the convolution. -/
theorem transposed_undoes_convolution {weight : Sizes} {params : ConvParams} {groups : Int}
    (hweight : ∀ size ∈ weight.drop 2, size < 2 ^ 63) :
    (∀ input out : Sizes, (∀ size ∈ input.drop 2, 0 < size ∧ size < 2 ^ 63) →
      (∀ size ∈ out.drop 2, size < 2 ^ 63) →
      convOutputSize input weight none params groups = .ok out →
        convTransposeOutputSize out weight none params (leftovers input weight params) groups =
          .ok input) ∧
    ∀ (input out : Sizes) (bias : Option Sizes) (outputPadding : List Int),
      (∀ size ∈ input.drop 2, 0 < size ∧ size < 2 ^ 63) →
      (∀ size ∈ weight.drop 2, 0 < size) → (∀ size ∈ out.drop 2, size < 2 ^ 63) →
      List.Forall₂ (· < ·) (perDim (input.length - 2) outputPadding)
        (perDim (input.length - 2) params.stride) →
      convTransposeOutputSize input weight bias params outputPadding groups = .ok out →
        convOutputSize out weight none params groups = .ok input := by
  constructor
  · intro input out hinput hout h
    rcases operands_cases input weight with
      ⟨batch, channels, spatial, outer, inner, kernel, hoperands⟩ | ⟨⟨failure, hrefused⟩, -⟩
    · obtain ⟨rfl, rfl, hkernel, hspatial, -⟩ := hoperands
      exact convTransposeOutputSize_of_conv hkernel hspatial hweight hinput hout h
    · rw [convOutputSize, hrefused] at h
      cases h
  · intro input out bias outputPadding hinput hkernels hout hpadding h
    rcases operands_cases input weight with
      ⟨batch, channels, spatial, outer, inner, kernel, hoperands⟩ | ⟨⟨failure, hrefused⟩, -⟩
    · obtain ⟨rfl, rfl, hkernel, hspatial, -⟩ := hoperands
      have hcount : (batch :: channels :: spatial).length - 2 = kernel.length := hkernel.symm
      rw [hcount] at hpadding
      exact convOutputSize_of_transposed hkernel hspatial hweight hinput hkernels hout
        hpadding h
    · rw [convTransposeOutputSize, hrefused] at h
      cases h

/-- Two groups of channels over an image of five by seven, whose last column is left over.  Adding one
more element to both dimensions than that does not change what the convolution makes of them. -/
theorem transposed_undoes_convolution_image :
    let params : ConvParams := { stride := [2, 3], padding := [1, 0], dilation := [1, 2] }
    convOutputSize [1, 2, 5, 7] [4, 1, 3, 2] none params 2 = .ok [1, 4, 3, 2] ∧
      leftovers [1, 2, 5, 7] [4, 1, 3, 2] params = [0, 1] ∧
      convTransposeOutputSize [1, 4, 3, 2] [4, 1, 3, 2] none params [0, 1] 2 = .ok [1, 2, 5, 7] ∧
      convTransposeOutputSize [1, 4, 3, 2] [4, 1, 3, 2] none params [1, 2] 2 = .ok [1, 2, 6, 8] ∧
      convOutputSize [1, 2, 6, 8] [4, 1, 3, 2] none params 2 = .ok [1, 4, 3, 2] := by
  intro params
  have hconv : convOutputSize [1, 2, 5, 7] [4, 1, 3, 2] none params 2 = .ok [1, 4, 3, 2] := by
    decide
  have hspread :
      convTransposeOutputSize [1, 4, 3, 2] [4, 1, 3, 2] none params [1, 2] 2 = .ok [1, 2, 6, 8] := by
    decide
  obtain ⟨hback, hforth⟩ := @transposed_undoes_convolution [4, 1, 3, 2] params 2 (by decide)
  exact ⟨hconv, by decide, hback _ _ (by decide) (by decide) hconv, hspread,
    hforth _ _ none [1, 2] (by decide) (by decide) (by decide) (by decide) hspread⟩

end OpShape.Rule

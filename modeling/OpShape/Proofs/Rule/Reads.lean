/-
# `OpShape.Proofs.Rule.Reads` — the rules once their reads are done.

A rule reads shapes and parameters by position, and each read is checked.  Most rules look at the
lengths first, so that all they read is there.  For those that go over several lists at once this
module says what they compute then: lists side by side, with no position left.
-/
import OpShape.Proofs.Outcome
import OpShape.Rule.Index
import OpShape.Rule.Pad
import OpShape.Rule.Window

namespace OpShape

section Sequence

variable {ε α β γ : Type}

/-- Entries that lead to the same computations make the same sequence of them. -/
theorem mapM_eq_mapM {f : α → Except ε γ} {g : β → Except ε γ} {xs : List α} {ys : List β}
    (h : List.Forall₂ (fun x y => f x = g y) xs ys) : xs.mapM f = ys.mapM g := by
  induction h with
  | nil => rfl
  | cons hxy _ ih => rw [List.mapM_cons, List.mapM_cons, hxy, ih]

/-- Going through the places of a list is going through the list. -/
theorem range_mapM {f : Nat → Except ε γ} {g : β → Except ε γ} {count : Nat} {ys : List β}
    (hcount : ys.length = count)
    (h : ∀ place (hplace : place < ys.length), f place = g ys[place]) :
    (List.range count).mapM f = ys.mapM g := by
  apply mapM_eq_mapM
  rw [List.forall₂_iff_get]
  refine ⟨by rw [List.length_range, hcount], fun place _ hplace => ?_⟩
  simpa using h place hplace

/-- What follows a computation need only be the same for the values that it has. -/
theorem bind_congr_ok {x : Except ε α} {f g : α → Except ε β} (h : ∀ a, x = .ok a → f a = g a) :
    x >>= f = x >>= g := by
  cases x with
  | error e => rfl
  | ok a => exact h a rfl

end Sequence

namespace Rule

/-! ## Shapes that stretch -/

/-- The shape with leading ones up to a rank that it does not exceed. -/
def padded (rank : Nat) (shape : Sizes) : Sizes :=
  List.replicate (rank - shape.length) 1 ++ shape

theorem padRank_of_le {rank : Nat} {shape : Sizes} (h : shape.length ≤ rank) :
    padRank rank shape = .ok (padded rank shape) := by
  unfold padRank
  rw [Checked.sub_of_le h, ok_bind]
  rfl

theorem length_padded {rank : Nat} {shape : Sizes} (h : shape.length ≤ rank) :
    (padded rank shape).length = rank := by
  simp [padded]
  omega

theorem broadcast_eq (a b : Sizes) :
    broadcast a b =
      ((padded (max a.length b.length) a).zip (padded (max a.length b.length) b)).mapM
        fun sizes => commonSize sizes.1 sizes.2 := by
  unfold broadcast
  dsimp only
  rw [padRank_of_le (Nat.le_max_left _ _), ok_bind, padRank_of_le (Nat.le_max_right _ _), ok_bind]

/-- Behind the new dimensions come those that the shape has. -/
theorem currentSize_eq {shape : Sizes} {offset place : Nat} {size : Option Nat}
    (h : (List.replicate offset none ++ shape.map some)[place]? = some size) :
    currentSize shape offset place = .ok size := by
  unfold currentSize
  by_cases hnew : place < offset
  · rw [List.getElem?_append_left (by simpa using hnew), List.getElem?_replicate_of_lt hnew] at h
    rw [if_pos hnew, Option.some.inj h]
  · rw [List.getElem?_append_right (by simpa using hnew), List.length_replicate,
      List.getElem?_map, Option.map_eq_some_iff] at h
    obtain ⟨current, hcurrent, rfl⟩ := h
    rw [if_neg hnew]
    unfold Checked.get
    rw [hcurrent]
    rfl

theorem expand_eq (shape : Sizes) (sizes : List Int) :
    expand shape sizes =
      if sizes.length < shape.length then
        wrongRank "number of sizes must be at least the input rank"
      else
        ((List.replicate (sizes.length - shape.length) none ++ shape.map some).zip sizes).mapM
          fun entry : Option Nat × Int => expandedSize entry.1 entry.2 := by
  unfold expand
  by_cases hrank : sizes.length < shape.length
  · rw [if_pos hrank, if_pos hrank]
  · rw [if_neg hrank, if_neg hrank, Checked.sub_of_le (Nat.not_lt.mp hrank), ok_bind]
    apply mapM_eq_mapM
    rw [List.forall₂_iff_get]
    constructor
    · simp
      omega
    · intro place _ _
      simp only [List.get_eq_getElem, List.getElem_zipIdx, List.getElem_zip, Nat.zero_add]
      rw [currentSize_eq (List.getElem?_eq_getElem _), ok_bind]

/-! ## Pads -/

/-- The pads before and after each dimension, the last dimension first. -/
def padPairs : List Int → List (Int × Int)
  | before :: after :: rest => (before, after) :: padPairs rest
  | _ => []

theorem length_padPairs (pads : List Int) : (padPairs pads).length = pads.length / 2 := by
  induction pads using padPairs.induct with
  | case1 before after rest ih =>
    unfold padPairs
    rw [List.length_cons, ih, List.length_cons, List.length_cons]
    omega
  | case2 pads hshort =>
    rcases pads with _ | ⟨before, _ | ⟨after, rest⟩⟩
    · rfl
    · simp [padPairs]
    · exact absurd rfl (hshort before after rest)

/-- An even number of pads makes pairs throughout. -/
theorem padChunks_of_even {pads : List Int} (h : pads.length % 2 = 0) :
    padChunks pads = (padPairs pads).map fun pair => [pair.1, pair.2] := by
  induction pads using padPairs.induct with
  | case1 before after rest ih =>
    rw [List.length_cons, List.length_cons] at h
    unfold padChunks padPairs
    rw [ih (by omega), List.map_cons]
  | case2 pads hshort =>
    rcases pads with _ | ⟨before, _ | ⟨after, rest⟩⟩
    · rfl
    · cases h
    · exact absurd rfl (hshort before after rest)

theorem zipIdx_padChunks {pads : List Int} (h : pads.length % 2 = 0) :
    (padChunks pads).zipIdx =
      (padPairs pads).zipIdx.map fun entry => ([entry.1.1, entry.1.2], entry.2) := by
  rw [padChunks_of_even h, List.zipIdx_map]
  rfl

/-- The shape with pads at its last dimensions, which are taken in pairs. -/
theorem pad_eq (shape : Sizes) (pads : List Int) :
    pad shape pads =
      if pads.length % 2 ≠ 0 then invalid "padding length must be divisible by 2"
      else if shape.length < pads.length / 2 then
        invalid "padding length too large for input rank"
      else
        (padPairs pads).zipIdx.foldlM padDim shape := by
  unfold pad
  by_cases hodd : pads.length % 2 ≠ 0
  · rw [if_pos hodd, if_pos hodd]
  · rw [if_neg hodd, if_neg hodd, zipIdx_padChunks (not_not.mp hodd), List.foldlM_map]
    rfl

/-- The pads are checked in pairs as well. -/
theorem forM_padChunks {pads : List Int} (h : pads.length % 2 = 0) (shape : Sizes)
    (mode : PadMode) :
    ((padChunks pads).zipIdx.forM fun entry => do
        checkPadFits shape mode (← padPair entry.1, entry.2)) =
      (padPairs pads).zipIdx.forM (checkPadFits shape mode) := by
  rw [zipIdx_padChunks h, forM_eq_mapM, forM_eq_mapM, List.mapM_map]
  rfl

/-! ## Windows -/

/-- Parameters that are read for a number of dimensions have that many values. -/
theorem length_spatialParam {values spread : List Int} {count : Nat} {details : String}
    (h : spatialParam values count details = .ok spread) : spread.length = count := by
  unfold spatialParam at h
  split_ifs at h with hsingle hcount
  · rw [Checked.get_of_lt (by omega), ok_bind] at h
    rw [← Except.ok.inj h, List.length_replicate]
  · rw [← Except.ok.inj h, hcount]
  · cases h

/-- The axes of parameters that are given one value per dimension. -/
def axes (kernel padding stride dilation : List Int) : List Axis :=
  ((kernel.zip padding).zip (stride.zip dilation)).map fun entry =>
    { kernel := entry.1.1, padding := entry.1.2, stride := entry.2.1, dilation := entry.2.2 }

theorem length_axes {kernel padding stride dilation : List Int} {count : Nat}
    (hkernel : kernel.length = count) (hpadding : padding.length = count)
    (hstride : stride.length = count) (hdilation : dilation.length = count) :
    (axes kernel padding stride dilation).length = count := by
  simp [axes, hkernel, hpadding, hstride, hdilation]

/-- The axis of a place has the parameters of that place. -/
theorem axisAt_eq {kernel padding stride dilation : List Int} {place : Nat} {size : Int}
    {axis : Axis} (hsize : kernel[place]? = some size)
    (haxis : (axes kernel padding stride dilation)[place]? = some axis) :
    axisAt size padding stride dilation place = .ok axis := by
  unfold axes at haxis
  rw [List.getElem?_map, Option.map_eq_some_iff] at haxis
  obtain ⟨entry, hentry, rfl⟩ := haxis
  obtain ⟨hleft, hright⟩ := List.getElem?_zip_eq_some.mp hentry
  obtain ⟨hkernel, hpadding⟩ := List.getElem?_zip_eq_some.mp hleft
  obtain ⟨hstride, hdilation⟩ := List.getElem?_zip_eq_some.mp hright
  obtain rfl := Option.some.inj (hsize.symm.trans hkernel)
  unfold axisAt Checked.get
  rw [hpadding, hstride, hdilation]
  rfl

/-- Pooling goes over the axes and the last two dimensions side by side. -/
theorem range_mapM_pooledSize {input : Sizes} {kernel padding stride dilation : List Int}
    (hkernel : kernel.length = 2) (hpadding : padding.length = 2) (hstride : stride.length = 2)
    (hdilation : dilation.length = 2) (hrank : 2 ≤ input.length) (ceilMode : Bool) :
    ((List.range 2).mapM fun place => do
        let axis ← axisAt (← Checked.get kernel place) padding stride dilation place
        pooledSize ceilMode (← Checked.get input (input.length - 2 + place), axis)) =
      ((input.drop (input.length - 2)).zip (axes kernel padding stride dilation)).mapM
        (pooledSize ceilMode) := by
  have haxes := length_axes hkernel hpadding hstride hdilation
  have hlength :
      ((input.drop (input.length - 2)).zip (axes kernel padding stride dilation)).length = 2 := by
    rw [List.length_zip, List.length_drop, haxes]
    omega
  apply range_mapM hlength
  intro place hplace
  rw [hlength] at hplace
  have hsize : place < kernel.length := by omega
  have haxis : place < (axes kernel padding stride dilation).length := by omega
  rw [Checked.get_of_lt hsize, ok_bind,
    axisAt_eq (List.getElem?_eq_getElem hsize) (List.getElem?_eq_getElem haxis), ok_bind,
    Checked.get_of_lt (by omega), ok_bind, List.getElem_zip, List.getElem_drop]

/-- The shape of pooling once there are numbers for each dimension. -/
def pooledOver (input : Sizes) (axes : List Axis) (ceilMode : Bool) : ShapeResult Sizes :=
  if input.length ≠ 3 ∧ input.length ≠ 4 then
    wrongRank "pooling input must be a 3D or 4D tensor"
  else if (input.drop (input.length - 3)).contains 0 then
    incompatible "pooling input has an empty non-batch dimension"
  else do
    let spatial := input.drop (input.length - 2)
    let pooled ← (spatial.zip axes).mapM (pooledSize ceilMode)
    .ok (input.take (input.length - 2) ++ pooled)

/-- Once there are numbers for each dimension, pooling reads nothing that is not there. -/
theorem reads_eq_pooledOver {input : Sizes} {kernel stride padding dilation : List Int}
    {ceilMode : Bool} (hkernel : kernel.length = 2) (hpadding : padding.length = 2)
    (hstride : stride.length = 2) (hdilation : dilation.length = 2) :
    (if input.length ≠ 3 ∧ input.length ≠ 4 then
        wrongRank "pooling input must be a 3D or 4D tensor"
      else do
        let batchDims ← Checked.sub input.length 3
        if (← Checked.slice input batchDims input.length).contains 0 then
          incompatible "pooling input has an empty non-batch dimension"
        else
          let stackDims ← Checked.sub input.length 2
          let stack ← Checked.slice input 0 stackDims
          let pooled ← (List.range 2).mapM fun place => do
            let axis ← axisAt (← Checked.get kernel place) padding stride dilation place
            pooledSize ceilMode (← Checked.get input (stackDims + place), axis)
          .ok (stack ++ pooled)) =
      pooledOver input (axes kernel padding stride dilation) ceilMode := by
  unfold pooledOver
  by_cases hrank : input.length ≠ 3 ∧ input.length ≠ 4
  · rw [if_pos hrank, if_pos hrank]
  · have hpooled := range_mapM_pooledSize hkernel hpadding hstride hdilation
      (show 2 ≤ input.length by omega) ceilMode
    rw [if_neg hrank, if_neg hrank, Checked.sub_of_le (by omega), ok_bind,
      Checked.slice_of_le (by omega) (Nat.le_refl _), ok_bind, List.take_length,
      Checked.sub_of_le (by omega), ok_bind, Checked.slice_of_le (by omega) (by omega), ok_bind,
      List.drop_zero, hpooled]

/-- The rule for pooling: first the numbers for each dimension, then what is checked. -/
theorem pool2d_eq (input : Sizes) (kernel stride padding dilation : List Int) (ceilMode : Bool) :
    pool2d input kernel stride padding dilation ceilMode = (do
      let kernel ← spatialParam kernel 2 "kernel_size must have 1 or 2 values"
      let stride ←
        (if stride.isEmpty then .ok kernel
        else spatialParam stride 2 "stride must be empty or have 1 or 2 values")
      let padding ← spatialParam padding 2 "padding must have 1 or 2 values"
      let dilation ← spatialParam dilation 2 "dilation must have 1 or 2 values"
      pooledOver input (axes kernel padding stride dilation) ceilMode) := by
  unfold pool2d
  apply bind_congr_ok
  intro kernel hkernel
  by_cases hempty : stride.isEmpty = true
  · simp only [if_pos hempty, pure_bind, ok_bind]
    apply bind_congr_ok
    intro padding hpadding
    apply bind_congr_ok
    intro dilation hdilation
    exact reads_eq_pooledOver (length_spatialParam hkernel) (length_spatialParam hpadding)
      (length_spatialParam hkernel) (length_spatialParam hdilation)
  · simp only [if_neg hempty]
    apply bind_congr_ok
    intro stride hstride
    apply bind_congr_ok
    intro padding hpadding
    apply bind_congr_ok
    intro dilation hdilation
    exact reads_eq_pooledOver (length_spatialParam hkernel) (length_spatialParam hpadding)
      (length_spatialParam hstride) (length_spatialParam hdilation)

/-- Pooling to sizes that are not negative. -/
theorem adaptivePool2d_of_nonneg {height width : Int} (h : ¬ (height < 0 ∨ width < 0))
    (input : Sizes) :
    adaptivePool2d input [height, width] =
      if input.length ≠ 3 ∧ input.length ≠ 4 then
        wrongRank "adaptive pooling input must be a 3D or 4D tensor"
      else if (input.drop (input.length - 2)).contains 0 then
        incompatible "adaptive pooling input has an empty spatial dimension"
      else .ok (input.take (input.length - 2) ++ [height.toNat, width.toNat]) := by
  unfold adaptivePool2d
  dsimp only
  rw [if_neg h]
  by_cases hrank : input.length ≠ 3 ∧ input.length ≠ 4
  · rw [if_pos hrank, if_pos hrank]
  · have hplane : input.length - 3 + 1 = input.length - 2 := by omega
    rw [if_neg hrank, if_neg hrank, Checked.sub_of_le (by omega), ok_bind, hplane,
      Checked.slice_of_le (by omega) (Nat.le_refl _), ok_bind, List.take_length,
      Checked.sub_of_le (by omega), ok_bind, Checked.slice_of_le (by omega) (by omega), ok_bind,
      List.drop_zero]

/-! ## Convolutions -/

section Convolution

variable {batch channels outer inner : Nat} {spatial kernel : Sizes}

/-- An input and a weight of equal rank have as many spatial dimensions as sizes behind the first
two. -/
theorem spatialDims_cons (hkernel : kernel.length = spatial.length)
    (hspatial : 0 < spatial.length) :
    spatialDims (batch :: channels :: spatial) (outer :: inner :: kernel) = .ok spatial.length := by
  unfold spatialDims
  rw [if_neg (by simp; omega), if_neg (by simp [hkernel]), Checked.sub_of_le (by simp)]
  rfl

theorem length_spread {params spread : ConvParams} {count : Nat}
    (h : params.spread count = .ok spread) :
    spread.padding.length = count ∧ spread.stride.length = count ∧
      spread.dilation.length = count := by
  obtain ⟨stride, hstride, h⟩ := bind_eq_ok.mp h
  obtain ⟨padding, hpadding, h⟩ := bind_eq_ok.mp h
  obtain ⟨dilation, hdilation, h⟩ := bind_eq_ok.mp h
  obtain rfl := Except.ok.inj h
  exact ⟨length_spatialParam hpadding, length_spatialParam hstride, length_spatialParam hdilation⟩

/-- The spatial sizes lie behind the first two. -/
theorem get_spatial {place : Nat} (first second : Nat) (h : place < spatial.length) :
    (Checked.get (first :: second :: spatial) (2 + place) : ShapeResult Nat) =
      .ok spatial[place] := by
  rw [Checked.get_of_lt (by simp; omega)]
  simp [Nat.add_comm 2 place]

section Spread

variable {params : ConvParams} (hkernel : kernel.length = spatial.length)
include hkernel

/-- The axis of a place has the size that the kernel has there, and the parameters of that place. -/
theorem convAxisAt_eq {place : Nat} {axis : Axis} (h : place < spatial.length)
    (haxis : (axes (kernel.map signed) params.padding params.stride params.dilation)[place]? =
      some axis) :
    params.axisAt (outer :: inner :: kernel) place = .ok axis := by
  have hplace : place < kernel.length := hkernel ▸ h
  have hsize : (kernel.map signed)[place]? = some (signed kernel[place]) := by
    rw [List.getElem?_map, List.getElem?_eq_getElem hplace]
    rfl
  unfold ConvParams.axisAt
  rw [get_spatial outer inner hplace, ok_bind, axisAt_eq hsize haxis]

variable (hparams : params.padding.length = spatial.length ∧
  params.stride.length = spatial.length ∧ params.dilation.length = spatial.length)
include hparams

theorem length_convAxes :
    (axes (kernel.map signed) params.padding params.stride params.dilation).length =
      spatial.length :=
  length_axes (by rw [List.length_map, hkernel]) hparams.1 hparams.2.1 hparams.2.2

/-- Input, kernel and parameters of a convolution lie side by side. -/
theorem range_mapM_poolOutputSize :
    ((List.range spatial.length).mapM fun place => do
        poolOutputSize (← Checked.get (batch :: channels :: spatial) (2 + place))
          (← params.axisAt (outer :: inner :: kernel) place) false) =
      (spatial.zip (axes (kernel.map signed) params.padding params.stride params.dilation)).mapM
        fun entry => poolOutputSize entry.1 entry.2 false := by
  have haxes := length_convAxes hkernel hparams
  apply range_mapM (by rw [List.length_zip, haxes, Nat.min_self])
  intro place hplace
  rw [List.length_zip, haxes, Nat.min_self] at hplace
  rw [get_spatial batch channels hplace, ok_bind,
    convAxisAt_eq hkernel hplace (List.getElem?_eq_getElem (haxes ▸ hplace)), ok_bind,
    List.getElem_zip]

/-- So do those of a transposed convolution, beside the elements that are added. -/
theorem range_mapM_transposedSize {added : List Int} (hadded : added.length = spatial.length) :
    ((List.range spatial.length).mapM fun place => do
        let axis ← params.axisAt (outer :: inner :: kernel) place
        transposedSize (← Checked.get (batch :: channels :: spatial) (2 + place)) axis
          (← Checked.get added place)) =
      ((spatial.zip (axes (kernel.map signed) params.padding params.stride params.dilation)).zip
        added).mapM fun entry => transposedSize entry.1.1 entry.1.2 entry.2 := by
  have haxes := length_convAxes hkernel hparams
  apply range_mapM (by rw [List.length_zip, List.length_zip, haxes, hadded, Nat.min_self,
    Nat.min_self])
  intro place hplace
  rw [List.length_zip, List.length_zip, haxes, hadded, Nat.min_self, Nat.min_self] at hplace
  rw [get_spatial batch channels hplace,
    convAxisAt_eq hkernel hplace (List.getElem?_eq_getElem (haxes ▸ hplace)), ok_bind, ok_bind,
    Checked.get_of_lt (by omega), ok_bind, List.getElem_zip, List.getElem_zip]

end Spread

variable {input weight : Sizes} (hinput : input = batch :: channels :: spatial)
  (hweight : weight = outer :: inner :: kernel) (hkernel : kernel.length = spatial.length)
  (hspatial : 0 < spatial.length) (bias : Option Sizes) (params : ConvParams) (groups : Int)
include hinput hweight hkernel hspatial

/-- A convolution once its operands are taken apart. -/
theorem convOutputSize_of_operands :
    convOutputSize input weight bias params groups =
      (do
        let params ← params.spread spatial.length
        params.check params.padding groups
        if (← Checked.mod outer groups.toNat) ≠ 0 then
          incompatible "out channels must be divisible by groups"
        else if channels ≠ inner * groups.toNat then
          incompatible "input channels must match weight channels multiplied by groups"
        else
          checkBias bias outer
          let axes := axes (kernel.map signed) params.padding params.stride params.dilation
          let output ← (spatial.zip axes).mapM fun entry => poolOutputSize entry.1 entry.2 false
          .ok (batch :: outer :: output)) := by
  subst hinput hweight
  unfold convOutputSize
  rw [spatialDims_cons hkernel hspatial, ok_bind]
  apply bind_congr_ok
  intro spread hspread
  rw [range_mapM_poolOutputSize hkernel (length_spread hspread)]
  rfl

/-- A transposed convolution once its operands are taken apart. -/
theorem convTransposeOutputSize_of_operands (outputPadding : List Int) :
    convTransposeOutputSize input weight bias params outputPadding groups =
      (do
        let params ← params.spread spatial.length
        let outputPadding ←
          spatialParam outputPadding spatial.length "output_padding has the wrong length"
        params.check (params.padding ++ outputPadding) groups
        if channels ≠ outer then
          incompatible "input channels must match weight input channels"
        else if (← Checked.mod outer groups.toNat) ≠ 0 then
          incompatible "input channels must be divisible by groups"
        else
          let outChannels := inner * groups.toNat
          checkBias bias outChannels
          let axes := axes (kernel.map signed) params.padding params.stride params.dilation
          let output ← ((spatial.zip axes).zip outputPadding).mapM fun entry =>
            transposedSize entry.1.1 entry.1.2 entry.2
          .ok (batch :: outChannels :: output)) := by
  subst hinput hweight
  unfold convTransposeOutputSize
  rw [spatialDims_cons hkernel hspatial, ok_bind]
  apply bind_congr_ok
  intro spread hspread
  apply bind_congr_ok
  intro added hadded
  rw [range_mapM_transposedSize hkernel (length_spread hspread) (length_spatialParam hadded)]
  rfl

end Convolution

end Rule

end OpShape

/-
# `OpShape.Proofs.Rule.Unbroken` — the rules do not break down.

One lemma for each rule, over all shapes and parameters.  A rule that works dimension by dimension
carries along how many dimensions there are: its steps change sizes or marks, but not their number,
which is all that the bounds of its reads rely on.  The one exception is a slice, for which exactly
those arguments are named on which it does break down.
-/
import OpShape.Proofs.Operator.AdvancedIndex
import OpShape.Proofs.Rule.Reads
import OpShape.Proofs.Unbroken
import OpShape.Rule.Matmul
import OpShape.Rule.Reduce

namespace OpShape.Rule

/-! ## Dimensions, indices and sizes -/

/-- A scalar has the dimension of a vector. -/
theorem resolveDim_lt {dim : Int} {rank axis : Nat} (h : resolveDim dim rank = .ok axis) :
    axis < max rank 1 := by
  unfold resolveDim at h
  dsimp only at h
  split_ifs at h with hrange hneg
  · cases h
  · obtain rfl := Except.ok.inj h
    omega
  · obtain rfl := Except.ok.inj h
    omega

/-- A number that names a dimension names a place in a list of that many entries, if not empty. -/
theorem resolveDim_lt_length {α : Type} {entries : List α} {dim : Int} {axis : Nat}
    (h : resolveDim dim entries.length = .ok axis) (hentries : entries ≠ []) :
    axis < entries.length := by
  have hlt := resolveDim_lt h
  have hpos := List.length_pos_iff.mpr hentries
  omega

@[simp] theorem unbroken_resolveDim (dim : Int) (rank : Nat) : Unbroken (resolveDim dim rank) := by
  unfold resolveDim
  simp

@[simp] theorem unbroken_resolveIndex (index : Int) (size : Nat) :
    Unbroken (resolveIndex index size) := by
  unfold resolveIndex
  simp

@[simp] theorem unbroken_sizesToShape (sizes : List Int) : Unbroken (sizesToShape sizes) :=
  Unbroken.mapM fun size _ => by simp

/-! ## Shapes that stretch -/

theorem unbroken_commonSize (a b : Nat) : Unbroken (commonSize a b) := by
  unfold commonSize
  simp

@[simp] theorem unbroken_broadcast (a b : Sizes) : Unbroken (broadcast a b) := by
  rw [broadcast_eq]
  exact Unbroken.mapM fun sizes _ => unbroken_commonSize sizes.1 sizes.2

@[simp] theorem unbroken_broadcast3 (a b c : Sizes) : Unbroken (broadcast3 a b c) := by
  unfold broadcast3
  simp

theorem unbroken_expandedSize (current : Option Nat) (target : Int) :
    Unbroken (expandedSize current target) := by
  unfold expandedSize
  cases current <;> simp

@[simp] theorem unbroken_expand (shape : Sizes) (sizes : List Int) :
    Unbroken (expand shape sizes) := by
  rw [expand_eq, unbroken_ite]
  refine ⟨fun _ => unbroken_wrongRank _, fun _ => ?_⟩
  exact Unbroken.mapM fun entry _ => unbroken_expandedSize entry.1 entry.2

/-! ## Views and orders of dimensions -/

theorem unbroken_addRequest (request : ViewRequest) (size : Int) : Unbroken (request.add size) := by
  unfold ViewRequest.add
  simp

/-- The size that is left open is a quotient by the others, unless their product is zero. -/
theorem unbroken_inferredSize (request : ViewRequest) (count : Nat) :
    Unbroken (request.inferredSize count) := by
  unfold ViewRequest.inferredSize
  simp +contextual

@[simp] theorem unbroken_view (shape : Sizes) (sizes : List Int) : Unbroken (view shape sizes) := by
  unfold view
  have hrequest : Unbroken (sizes.foldlM ViewRequest.add { inferred := false, known := 1 }) :=
    Unbroken.foldlM (P := fun _ => True) trivial
      (fun request _ size _ => unbroken_addRequest request size) fun _ _ _ _ _ _ => trivial
  simp [hrequest, unbroken_inferredSize]

@[simp] theorem unbroken_flatten (shape : Sizes) (startDim endDim : Int) :
    Unbroken (flatten shape startDim endDim) := by
  unfold flatten
  refine (unbroken_resolveDim startDim _).bind fun first hfirst => ?_
  refine (unbroken_resolveDim endDim _).bind fun last hlast => ?_
  by_cases hshape : shape = []
  · simp [hshape]
  · have hlt := resolveDim_lt_length hlast hshape
    by_cases horder : last < first
    · simp [horder]
    · have hfirst : first ≤ shape.length := by omega
      have hlast : first ≤ last + 1 := by omega
      simp [horder, hshape, hfirst, hlast, Nat.succ_le_of_lt hlt]

section Permutation

variable {shape : Sizes} {state : List Bool × Sizes} (hstate : state.1.length = shape.length)
  {dim : Int}
include hstate

/-- A step of a permutation marks a dimension that there is. -/
theorem unbroken_permuteStep (hshape : shape ≠ []) : Unbroken (permuteStep shape state dim) := by
  unfold permuteStep
  refine (unbroken_resolveDim dim _).bind fun axis haxis => ?_
  have hlt := resolveDim_lt_length haxis hshape
  simp [hstate, hlt]

theorem length_permuteStep {next : List Bool × Sizes} (h : permuteStep shape state dim = .ok next) :
    next.1.length = shape.length := by
  obtain ⟨axis, -, h⟩ := bind_eq_ok.mp h
  obtain ⟨seen, -, h⟩ := bind_eq_ok.mp h
  cases seen with
  | true => cases h
  | false =>
    obtain ⟨marks, hmarks, h⟩ := bind_eq_ok.mp h
    obtain ⟨size, -, h⟩ := bind_eq_ok.mp h
    obtain ⟨-, rfl⟩ := set_eq_ok.mp hmarks
    obtain rfl := Except.ok.inj h
    rw [List.length_set, hstate]

end Permutation

@[simp] theorem unbroken_permute (shape : Sizes) (dims : List Int) :
    Unbroken (permute shape dims) := by
  unfold permute
  by_cases hrank : dims.length ≠ shape.length
  · simp [hrank]
  · have hsteps : Unbroken (dims.foldlM (permuteStep shape)
        (List.replicate shape.length false, [])) := by
      refine Unbroken.foldlM (P := fun state => state.1.length = shape.length)
        List.length_replicate (fun state hstate dim hdim => ?_)
        fun state hstate dim _ next hnext => length_permuteStep hstate hnext
      apply unbroken_permuteStep hstate
      rintro rfl
      simp_all
    simp [hrank, hsteps]

@[simp] theorem unbroken_transpose (shape : Sizes) (dim0 dim1 : Int) :
    Unbroken (transpose shape dim0 dim1) := by
  unfold transpose
  refine (unbroken_resolveDim dim0 _).bind fun first hfirst => ?_
  refine (unbroken_resolveDim dim1 _).bind fun second hsecond => ?_
  by_cases hshape : shape = []
  · simp [hshape]
  · have hfirst := resolveDim_lt_length hfirst hshape
    have hsecond := resolveDim_lt_length hsecond hshape
    simp [hshape, hfirst, hsecond]

@[simp] theorem unbroken_transpose2d (shape : Sizes) : Unbroken (transpose2d shape) := by
  unfold transpose2d
  split <;> simp

@[simp] theorem unbroken_squeezeDim (shape : Sizes) (dim : Int) :
    Unbroken (squeezeDim shape dim) := by
  unfold squeezeDim
  simp

/-- A new dimension may come last as well, so that its place is counted in the longer shape. -/
@[simp] theorem unbroken_unsqueeze (shape : Sizes) (dim : Int) :
    Unbroken (unsqueeze shape dim) := by
  unfold unsqueeze
  refine (unbroken_resolveDim dim _).bind fun place hplace => ?_
  have hlt := resolveDim_lt hplace
  rw [unbroken_insertIdx]
  omega

/-! ## Concatenation -/

section Concatenation

variable {first output shape : Sizes} {axis : Nat} (haxis : axis < first.length)
  (houtput : output.length = first.length)
include haxis houtput

theorem unbroken_catStep : Unbroken (catStep first axis output shape) := by
  unfold catStep
  by_cases hrank : shape.length = first.length
  · simp [hrank, houtput, haxis]
  · simp [hrank]

omit haxis in
theorem length_catStep {next : Sizes} (h : catStep first axis output shape = .ok next) :
    next.length = first.length := by
  unfold catStep at h
  split_ifs at h with hrank hsizes
  · cases h
  · cases h
  · obtain ⟨size, -, h⟩ := bind_eq_ok.mp h
    obtain ⟨added, -, h⟩ := bind_eq_ok.mp h
    obtain ⟨-, rfl⟩ := set_eq_ok.mp h
    rw [List.length_set, houtput]

end Concatenation

/-- Scalars are refused, so that the dimension is one of the first shape. -/
@[simp] theorem unbroken_cat (shapes : List Sizes) (dim : Int) : Unbroken (cat shapes dim) := by
  unfold cat
  by_cases hempty : shapes.isEmpty
  · simp [hempty]
  by_cases hscalar : shapes.any List.isEmpty
  · simp [hempty, hscalar]
  rw [if_neg hempty, if_neg hscalar]
  split
  · exact unbroken_ok _
  · rename_i first others hkept
    have hfirst : first ≠ [] := by
      have hmem : first ∈ shapes := List.mem_of_mem_filter (hkept ▸ List.mem_cons_self)
      rintro rfl
      exact hscalar (List.any_eq_true.mpr ⟨[], hmem, rfl⟩)
    refine (unbroken_resolveDim dim _).bind fun axis haxis => ?_
    have hlt := resolveDim_lt_length haxis hfirst
    exact Unbroken.foldlM (P := fun output => output.length = first.length) rfl
      (fun _ houtput _ _ => unbroken_catStep hlt houtput)
      fun _ houtput _ _ _ hnext => length_catStep houtput hnext

/-! ## Matrix products -/

@[simp] theorem unbroken_mm (a b : Sizes) : Unbroken (mm a b) := by
  unfold mm
  split
  · split <;> simp
  · simp

@[simp] theorem unbroken_bmm (a b : Sizes) : Unbroken (bmm a b) := by
  unfold bmm
  split
  · split <;> simp
  · simp

/-- Shapes that do not stretch over each other are refused anew, with other words. -/
theorem unbroken_batchedMatmul (a b : Sizes) : Unbroken (batchedMatmul a b) := by
  have hleft : Unbroken (leftView a) := by
    unfold leftView
    split <;> simp
  have hright : Unbroken (rightView b) := by
    unfold rightView
    split <;> simp
  refine hleft.bind fun ⟨aBatch, rows, aCols⟩ _ => ?_
  refine hright.bind fun ⟨bBatch, bRows, cols⟩ _ => ?_
  dsimp only
  rw [unbroken_ite]
  refine ⟨fun _ => unbroken_incompatible _, fun _ => ?_⟩
  split
  · exact unbroken_ok _
  · exact unbroken_incompatible _
  · exact absurd ‹_› (unbroken_broadcast aBatch bBatch _)

@[simp] theorem unbroken_matmul (a b : Sizes) : Unbroken (matmul a b) := by
  unfold matmul
  split
  · simp
  · simp
  · simp
  · simp
  · exact unbroken_batchedMatmul a b

@[simp] theorem unbroken_addmm (input m1 m2 : Sizes) : Unbroken (addmm input m1 m2) := by
  unfold addmm
  simp

@[simp] theorem unbroken_linear (input weight : Sizes) (bias : Option Sizes) :
    Unbroken (linear input weight bias) := by
  unfold linear
  cases bias <;> simp

/-! ## Reductions -/

section Reduction

variable {rank : Nat} {marks : List Bool} (hmarks : marks.length = rank) {dim : Int}
include hmarks

theorem unbroken_markReduced : Unbroken (markReduced rank marks dim) := by
  unfold markReduced
  refine (unbroken_resolveDim dim rank).bind fun axis haxis => ?_
  by_cases hscalar : rank = 0
  · simp [hscalar]
  · have hlt := resolveDim_lt haxis
    have haxis : axis < rank := by omega
    simp [hscalar, hmarks, haxis]

theorem length_markReduced {next : List Bool} (h : markReduced rank marks dim = .ok next) :
    next.length = rank := by
  obtain ⟨axis, -, h⟩ := bind_eq_ok.mp h
  split_ifs at h with hscalar
  · rw [← Except.ok.inj h, hmarks]
  · obtain ⟨marked, -, h⟩ := bind_eq_ok.mp h
    cases marked with
    | true => cases h
    | false =>
      obtain ⟨-, rfl⟩ := set_eq_ok.mp h
      rw [List.length_set, hmarks]

end Reduction

@[simp] theorem unbroken_reduceDims (shape : Sizes) (dims : List Int) (keepdim : Bool) :
    Unbroken (reduceDims shape dims keepdim) := by
  have hmarks : Unbroken (dims.foldlM (markReduced shape.length)
      (List.replicate shape.length dims.isEmpty)) :=
    Unbroken.foldlM (P := fun marks => marks.length = shape.length) List.length_replicate
      (fun _ hmarks _ _ => unbroken_markReduced hmarks)
      fun _ hmarks _ _ _ hnext => length_markReduced hmarks hnext
  unfold reduceDims
  simp [hmarks]

@[simp] theorem unbroken_reduceDim (shape : Sizes) (dim : Int) (keepdim : Bool) :
    Unbroken (reduceDim shape dim keepdim) :=
  unbroken_reduceDims shape [dim] keepdim

/-! ## Positions -/

@[simp] theorem unbroken_select (shape : Sizes) (dim index : Int) :
    Unbroken (select shape dim index) := by
  unfold select
  by_cases hshape : shape = []
  · simp [hshape]
  · rw [if_neg (by simpa using hshape)]
    refine (unbroken_resolveDim dim _).bind fun axis haxis => ?_
    have hlt := resolveDim_lt_length haxis hshape
    simp [hlt]

@[simp] theorem unbroken_topk (shape : Sizes) (k dim : Int) : Unbroken (topk shape k dim) := by
  unfold topk
  refine (unbroken_resolveDim dim _).bind fun axis haxis => ?_
  by_cases hshape : shape = []
  · simp [hshape]
  · have hlt := resolveDim_lt_length haxis hshape
    simp [hshape, hlt]

@[simp] theorem unbroken_gather (shape : Sizes) (dim : Int) (index : Sizes) :
    Unbroken (gather shape dim index) := by
  unfold gather
  simp

@[simp] theorem unbroken_indexSelect (shape : Sizes) (dim : Int) (index : Sizes) :
    Unbroken (indexSelect shape dim index) := by
  unfold indexSelect
  by_cases hindex : 1 < index.length
  · simp [hindex]
  · rw [if_neg hindex]
    refine (unbroken_resolveDim dim _).bind fun axis haxis => ?_
    by_cases hshape : shape = []
    · simp [hshape]
    · have hlt := resolveDim_lt_length haxis hshape
      simp [hshape, hlt]

theorem unbroken_indexShape (indices : List (Option Sizes)) : Unbroken (indexShape indices) := by
  refine Unbroken.foldlM (P := fun _ => True) trivial (fun common _ index _ => ?_)
    fun _ _ _ _ _ _ => trivial
  split
  · exact unbroken_ok _
  · exact unbroken_incompatible _
  · exact absurd ‹_› (unbroken_broadcast common index _)

/-- Indexed dimensions are sorted, and all of them are dimensions of the shape. -/
@[simp] theorem unbroken_advancedIndex (shape : Sizes) (indices : List (Option Sizes)) :
    Unbroken (advancedIndex shape indices) := by
  by_cases hrank : shape.length < indices.length
  · unfold advancedIndex
    simp [hrank]
  · rw [Operator.advancedIndex_eq hrank]
    simp [unbroken_indexShape]

@[simp] theorem unbroken_embedding (weight indices : Sizes) :
    Unbroken (embedding weight indices) := by
  unfold embedding
  split <;> simp

/-! ## Slices -/

/-- A dimension that is to be cut has a size that is not one of a signed word, so that it is taken
for a negative number. -/
def CutsOversized (shape : Sizes) (dim step : Int) : Prop :=
  0 < step ∧ ∃ axis size, resolveDim dim shape.length = .ok axis ∧ shape[axis]? = some size ∧
    signed size < 0

/-- No dimension of a shape of signed words is oversized. -/
theorem not_cutsOversized {shape : Sizes} (hsizes : ∀ size ∈ shape, size < 2 ^ 63)
    (dim step : Int) : ¬ CutsOversized shape dim step := by
  rintro ⟨-, axis, size, -, hsize, hnegative⟩
  rw [signed_of_lt (hsizes size (List.mem_of_getElem? hsize))] at hnegative
  omega

theorem unbroken_clampBound {size : Int} (index : Int) :
    Unbroken (clampBound size index) ↔ 0 ≤ size := by
  unfold clampBound
  simp

/-- **A slice breaks down exactly if it cuts an oversized dimension**: its bounds are moved into a
range that ends before it starts. -/
theorem unbroken_slice_iff (shape : Sizes) (dim : Int) (start stop : Option Int) (step : Int) :
    Unbroken (slice shape dim start stop step) ↔ ¬ CutsOversized shape dim step := by
  unfold slice
  by_cases hshape : shape = []
  · simp [hshape, CutsOversized]
  by_cases hstep : step ≤ 0
  · have hnone : ¬ CutsOversized shape dim step := fun h => Int.not_le.mpr h.1 hstep
    simp [hshape, hstep, hnone]
  rw [if_neg (by simpa using hshape), if_neg hstep]
  have hpos : 0 < step := Int.not_le.mp hstep
  constructor
  · rintro h ⟨-, axis, size, haxis, hsize, hnegative⟩
    -- The first bound is moved into the range from zero to a negative size.
    have hread := (unbroken_bind.mp h).2 axis haxis
    have hclamp := (unbroken_bind.mp ((unbroken_bind.mp hread).2 size (get_eq_ok.mpr hsize))).1
    have hnonneg := (unbroken_clampBound _).mp hclamp
    omega
  · intro hsafe
    refine (unbroken_resolveDim dim _).bind fun axis haxis => ?_
    have hlt := resolveDim_lt_length haxis hshape
    have hsize : 0 ≤ signed shape[axis] := by
      by_contra hnegative
      exact hsafe ⟨hpos, axis, shape[axis], haxis, List.getElem?_eq_getElem hlt, by omega⟩
    have hne : step ≠ 0 := by omega
    rw [Checked.get_of_lt hlt, ok_bind]
    simp [unbroken_clampBound, hsize, hne, hlt]

/-! ## Pads -/

section Pads

variable {shape output : Sizes} {entry : (Int × Int) × Nat} (hentry : entry.2 < shape.length)
include hentry

theorem unbroken_padDim (houtput : output.length = shape.length) :
    Unbroken (padDim output entry) := by
  have hle : entry.2 + 1 ≤ output.length := by omega
  have hlt : output.length - (entry.2 + 1) < output.length := by omega
  unfold padDim
  simp [hle, hlt]

omit hentry in
theorem length_padDim (houtput : output.length = shape.length) {next : Sizes}
    (h : padDim output entry = .ok next) : next.length = shape.length := by
  obtain ⟨axis, -, h⟩ := bind_eq_ok.mp h
  obtain ⟨size, -, h⟩ := bind_eq_ok.mp h
  dsimp only at h
  split_ifs at h with hnegative
  · cases h
  · obtain ⟨-, rfl⟩ := set_eq_ok.mp h
    rw [List.length_set, houtput]

theorem unbroken_checkPadFits (mode : PadMode) : Unbroken (checkPadFits shape mode entry) := by
  have hle : entry.2 + 1 ≤ shape.length := by omega
  have hlt : shape.length - (entry.2 + 1) < shape.length := by omega
  unfold checkPadFits
  simp [hle, hlt]

end Pads

/-- The pairs of pads are numbered below their number. -/
theorem lt_of_mem_padPairs {pads : List Int} {rank : Nat} (hrank : pads.length / 2 ≤ rank)
    {entry : (Int × Int) × Nat} (hentry : entry ∈ (padPairs pads).zipIdx) : entry.2 < rank := by
  have hlt := List.snd_lt_of_mem_zipIdx hentry
  rw [length_padPairs] at hlt
  omega

@[simp] theorem unbroken_pad (shape : Sizes) (pads : List Int) : Unbroken (pad shape pads) := by
  rw [pad_eq]
  by_cases hodd : pads.length % 2 ≠ 0
  · simp [hodd]
  by_cases hrank : shape.length < pads.length / 2
  · simp [hrank]
  rw [if_neg hodd, if_neg hrank]
  exact Unbroken.foldlM (P := fun output => output.length = shape.length) rfl
    (fun _ houtput entry hentry =>
      unbroken_padDim (lt_of_mem_padPairs (Nat.not_lt.mp hrank) hentry) houtput)
    fun _ houtput _ _ _ hnext => length_padDim houtput hnext

/-- What could be padded at all has the dimensions whose pads are checked. -/
theorem even_of_pad_eq_ok {shape output : Sizes} {pads : List Int}
    (h : pad shape pads = .ok output) :
    pads.length % 2 = 0 ∧ pads.length / 2 ≤ shape.length := by
  rw [pad_eq] at h
  split_ifs at h with hodd hrank
  · cases h
  · cases h
  · exact ⟨not_not.mp hodd, Nat.not_lt.mp hrank⟩

@[simp] theorem unbroken_padMode (name : String) : Unbroken (padMode name) := by
  unfold padMode
  split <;> simp

@[simp] theorem unbroken_padWithMode (shape : Sizes) (pads : List Int) (mode : PadMode) :
    Unbroken (padWithMode shape pads mode) := by
  unfold padWithMode
  refine (unbroken_pad shape pads).bind fun output houtput => ?_
  obtain ⟨heven, hrank⟩ := even_of_pad_eq_ok houtput
  have hchecks : Unbroken (forM (padPairs pads).zipIdx (checkPadFits shape mode)) :=
    Unbroken.forM fun entry hentry => unbroken_checkPadFits (lt_of_mem_padPairs hrank hentry) mode
  simp [forM_padChunks heven, hchecks]

/-! ## Windows -/

@[simp] theorem unbroken_spatialParam (values : List Int) (count : Nat) (details : String) :
    Unbroken (spatialParam values count details) := by
  unfold spatialParam
  by_cases hsingle : values.length = 1
  · simp [hsingle]
  · simp [hsingle]

/-- The stride is not zero where it is divided by. -/
@[simp] theorem unbroken_poolOutputSize (size : Nat) (axis : Axis) (ceilMode : Bool) :
    Unbroken (poolOutputSize size axis ceilMode) := by
  unfold poolOutputSize
  by_cases hstride : axis.stride ≤ 0
  · simp [hstride]
  · have hne : axis.stride ≠ 0 := by omega
    simp [hne]

theorem unbroken_pooledSize (ceilMode : Bool) (entry : Nat × Axis) :
    Unbroken (pooledSize ceilMode entry) := by
  unfold pooledSize
  simp

@[simp] theorem unbroken_pool2d (input : Sizes) (kernel stride padding dilation : List Int)
    (ceilMode : Bool) : Unbroken (pool2d input kernel stride padding dilation ceilMode) := by
  have hpooled : ∀ kernel padding stride dilation,
      Unbroken (pooledOver input (axes kernel padding stride dilation) ceilMode) := by
    intro kernel padding stride dilation
    unfold pooledOver
    have hplaces : Unbroken (((input.drop (input.length - 2)).zip
        (axes kernel padding stride dilation)).mapM (pooledSize ceilMode)) :=
      Unbroken.mapM fun entry _ => unbroken_pooledSize ceilMode entry
    simp [hplaces]
  rw [pool2d_eq]
  simp [hpooled]

@[simp] theorem unbroken_adaptivePool2d (input : Sizes) (outputSize : List Int) :
    Unbroken (adaptivePool2d input outputSize) := by
  unfold adaptivePool2d
  split
  · rename_i height width
    by_cases hnegative : height < 0 ∨ width < 0
    · simp [hnegative]
    · have hread := adaptivePool2d_of_nonneg hnegative input
      unfold adaptivePool2d at hread
      dsimp only at hread
      rw [hread]
      simp
  · exact unbroken_invalid _

/-! ## Convolutions -/

theorem unbroken_spread (params : ConvParams) (count : Nat) : Unbroken (params.spread count) := by
  unfold ConvParams.spread
  simp

theorem unbroken_check (params : ConvParams) (paddings : List Int) (groups : Int) :
    Unbroken (params.check paddings groups) := by
  unfold ConvParams.check
  simp

/-- Parameters that are accepted are those of at least one group. -/
theorem groups_ne_zero {params : ConvParams} {paddings : List Int} {groups : Int}
    (h : params.check paddings groups = .ok ()) : groups.toNat ≠ 0 := by
  unfold ConvParams.check at h
  split_ifs at h with hpadding hstride hdilation hgroups
  · cases h
  · cases h
  · cases h
  · cases h
  · omega

theorem unbroken_checkBias (bias : Option Sizes) (channels : Nat) :
    Unbroken (checkBias bias channels) := by
  unfold checkBias
  cases bias <;> simp

/-- Operands are of ranks that go together, or are refused before anything is read from them. -/
theorem spatialDims_cases (input weight : Sizes) :
    (∃ batch channels spatial outer inner kernel, input = batch :: channels :: spatial ∧
        weight = outer :: inner :: kernel ∧ kernel.length = spatial.length ∧ 0 < spatial.length) ∨
      ∃ reason, spatialDims input weight = Checked.refuse reason := by
  unfold spatialDims
  by_cases hweight : weight.length < 3
  · exact .inr ⟨_, if_pos hweight⟩
  by_cases hinput : input.length ≠ weight.length
  · exact .inr ⟨_, (if_neg hweight).trans (if_pos hinput)⟩
  · rw [not_not] at hinput
    match input, weight with
    | batch :: channels :: spatial, outer :: inner :: kernel =>
      rw [List.length_cons, List.length_cons] at hinput hweight
      rw [List.length_cons, List.length_cons] at hinput
      exact .inl ⟨batch, channels, spatial, outer, inner, kernel, rfl, rfl, by omega, by omega⟩
    | _, [] => exact absurd (Nat.succ_pos 2) hweight
    | _, [_] => exact absurd (by simp) hweight
    | [], _ :: _ :: _ => cases hinput
    | [_], _ :: _ :: _ => cases hinput

@[simp] theorem unbroken_convOutputSize (input weight : Sizes) (bias : Option Sizes)
    (params : ConvParams) (groups : Int) :
    Unbroken (convOutputSize input weight bias params groups) := by
  rcases spatialDims_cases input weight with
    ⟨batch, channels, spatial, outer, inner, kernel, hinput, hweight, hkernel, hspatial⟩ |
      ⟨reason, hrefused⟩
  · rw [convOutputSize_of_operands hinput hweight hkernel hspatial]
    refine (unbroken_spread params _).bind fun spread _ => ?_
    refine (unbroken_check spread _ groups).bind fun _ hcheck => ?_
    have hplaces (axes : List Axis) : Unbroken ((spatial.zip axes).mapM fun entry =>
        poolOutputSize entry.1 entry.2 false) :=
      Unbroken.mapM fun entry _ => unbroken_poolOutputSize entry.1 entry.2 false
    simp [groups_ne_zero hcheck, unbroken_checkBias, hplaces]
  · unfold convOutputSize
    rw [hrefused]
    exact unbroken_refuse reason

/-- What a convolution gives has batches as its first dimension. -/
theorem length_convOutputSize_pos {input weight output : Sizes} {bias : Option Sizes}
    {params : ConvParams} {groups : Int}
    (h : convOutputSize input weight bias params groups = .ok output) : 0 < output.length := by
  obtain ⟨count, -, h⟩ := bind_eq_ok.mp h
  obtain ⟨spread, -, h⟩ := bind_eq_ok.mp h
  obtain ⟨⟨⟩, -, h⟩ := bind_eq_ok.mp h
  obtain ⟨outChannels, -, h⟩ := bind_eq_ok.mp h
  obtain ⟨rest, -, h⟩ := bind_eq_ok.mp h
  split_ifs at h with hrest
  · cases h
  obtain ⟨channels, -, h⟩ := bind_eq_ok.mp h
  obtain ⟨groupChannels, -, h⟩ := bind_eq_ok.mp h
  split_ifs at h with hchannels
  · cases h
  obtain ⟨⟨⟩, -, h⟩ := bind_eq_ok.mp h
  obtain ⟨batch, -, h⟩ := bind_eq_ok.mp h
  obtain ⟨sizes, -, h⟩ := bind_eq_ok.mp h
  obtain rfl := Except.ok.inj h
  exact Nat.succ_pos _

@[simp] theorem unbroken_transposedSize (size : Nat) (axis : Axis) (outputPadding : Int) :
    Unbroken (transposedSize size axis outputPadding) := by
  unfold transposedSize
  simp

@[simp] theorem unbroken_convTransposeOutputSize (input weight : Sizes) (bias : Option Sizes)
    (params : ConvParams) (outputPadding : List Int) (groups : Int) :
    Unbroken (convTransposeOutputSize input weight bias params outputPadding groups) := by
  rcases spatialDims_cases input weight with
    ⟨batch, channels, spatial, outer, inner, kernel, hinput, hweight, hkernel, hspatial⟩ |
      ⟨reason, hrefused⟩
  · rw [convTransposeOutputSize_of_operands hinput hweight hkernel hspatial]
    refine (unbroken_spread params _).bind fun spread _ => ?_
    refine (unbroken_spatialParam outputPadding _ _).bind fun added _ => ?_
    refine (unbroken_check spread _ groups).bind fun _ hcheck => ?_
    have hspreads (axes : List Axis) : Unbroken (((spatial.zip axes).zip added).mapM fun entry =>
        transposedSize entry.1.1 entry.1.2 entry.2) :=
      Unbroken.mapM fun entry _ => unbroken_transposedSize entry.1.1 entry.1.2 entry.2
    simp [groups_ne_zero hcheck, unbroken_checkBias, hspreads]
  · unfold convTransposeOutputSize
    rw [hrefused]
    exact unbroken_refuse reason

end OpShape.Rule

/-
# `OpShape.Proofs.Operator.SingleIndex` — index tensors for one dimension only.

Of the dimensions of a tensor one carries an index, and those in front of it none.  Then the general
way of picking comes down to what it says of one dimension: the index tensor is not stretched, its
sizes stand where the dimension stood, and a picked element has the coordinates of its place but for
that dimension, where the index tensor names one.
-/
import OpShape.Proofs.Operator.AdvancedIndex
import OpShape.Proofs.Tensor.Entry

namespace OpShape.Operator

variable {α : Type}

attribute [local irreducible] signed

/-! ## The dimension that is indexed -/

/-- An index tensor for one dimension, and none for those in front of it. -/
def onlyAt (axis : Nat) (index : Tensor Int) : List (Option (Tensor Int)) :=
  List.replicate axis none ++ [some index]

theorem onlyAt_succ (axis : Nat) (index : Tensor Int) :
    onlyAt (axis + 1) index = none :: onlyAt axis index := rfl

theorem length_onlyAt (axis : Nat) (index : Tensor Int) :
    (onlyAt axis index).length = axis + 1 := by
  unfold onlyAt
  rw [List.length_append, List.length_replicate, List.length_singleton]

theorem markedDims_onlyAt (axis : Nat) (index : Tensor Int) :
    markedDims ((onlyAt axis index).map Option.isSome) = [axis] := by
  induction axis with
  | zero => rfl
  | succ axis ih =>
    rw [onlyAt_succ, List.map_cons, markedDims_cons, ih]
    rfl

/-- The sizes of the other dimensions, with some in the place of the one that is indexed. -/
def replacedSizes (sizes : Sizes) (axis : Nat) (common : Sizes) : Sizes :=
  sizes.take axis ++ common ++ sizes.drop (axis + 1)

theorem unmarkedSizes_onlyAt {sizes : Sizes} {axis : Nat} (haxis : axis < sizes.length)
    (index : Tensor Int) :
    unmarkedSizes sizes ((onlyAt axis index).map Option.isSome) =
      sizes.take axis ++ sizes.drop (axis + 1) :=
  unmarkedSizes_of_adjacent sizes (markedDims_onlyAt axis index) haxis

theorem stretches_nil (sizes : Sizes) : Stretches [] sizes := by
  refine ⟨Nat.zero_le _, ?_⟩
  rw [List.length_nil, Nat.sub_zero, List.drop_length]
  exact .nil

/-- The common shape is that of the only index tensor. -/
theorem indexShape_onlyAt (axis : Nat) (index : Tensor Int) :
    indexShape (onlyAt axis index) = .ok index.sizes := by
  rw [indexShape_eq]
  induction axis with
  | zero =>
    have hcommon : commonShape? [] index.sizes = some index.sizes :=
      commonShape_eq_right.mpr (stretches_nil index.sizes)
    show (do let common ← widen [] (some index); [].foldlM widen common) = _
    unfold widen
    dsimp only
    rw [hcommon]
    rfl
  | succ axis ih => exact ih

theorem widened_onlyAt (axis : Nat) (index : Tensor Int) :
    ((onlyAt axis index).mapM fun entry =>
      match entry with
      | none => .ok none
      | some entry => do .ok (some (← broadcastTo entry index.sizes))) =
        (.ok (onlyAt axis index) : OpResult (List (Option (Tensor Int)))) := by
  rw [mapM_eq_ok, List.forall₂_same]
  intro entry hentry
  rcases List.mem_append.mp hentry with hnone | hsome
  · rw [List.eq_of_mem_replicate hnone]
  · rw [List.mem_singleton.mp hsome]
    dsimp only
    rw [broadcastTo_self]
    rfl

/-! ## Coordinates -/

/-- Without an index the coordinates are those that are kept. -/
theorem sourceCoordinates_nil {entry : Nat} {sizes : Sizes} {kept : List Nat}
    (h : kept.length = sizes.length) : sourceCoordinates entry sizes [] kept = .ok kept := by
  induction sizes generalizing kept with
  | nil =>
    rw [List.eq_nil_of_length_eq_zero h]
    rfl
  | cons size sizes ih =>
    cases kept with
    | nil => cases h
    | cons coordinate kept =>
      show (do
        let rest ← sourceCoordinates entry sizes [] kept
        .ok (coordinate :: rest)) = _
      rw [ih (Nat.succ.inj h), ok_bind]

/-- **The named position stands between the coordinates that are kept.** -/
theorem sourceCoordinates_onlyAt {entry axis position : Nat} {sizes : Sizes} {index : Tensor Int}
    {kept : List Nat} (haxis : axis < sizes.length) (hkept : kept.length + 1 = sizes.length)
    (hposition : (do resolveIndex (← Checked.fetch index.data entry) (sizeAt sizes axis)) =
      .ok position) :
    sourceCoordinates entry sizes (onlyAt axis index) kept =
      .ok (kept.take axis ++ position :: kept.drop axis) := by
  induction axis generalizing sizes kept with
  | zero =>
    cases sizes with
    | nil => cases haxis
    | cons size sizes =>
      obtain ⟨named, hnamed, hresolved⟩ := bind_eq_ok.mp hposition
      have hsize : sizeAt (size :: sizes) 0 = size := rfl
      rw [hsize] at hresolved
      show (do
        let position ← resolveIndex (← Checked.fetch index.data entry) size
        let rest ← sourceCoordinates entry sizes [] kept
        .ok (position :: rest)) = _
      rw [hnamed, ok_bind, hresolved, ok_bind, sourceCoordinates_nil (Nat.succ.inj hkept)]
      rfl
  | succ axis ih =>
    cases sizes with
    | nil => cases haxis
    | cons size sizes =>
      cases kept with
      | nil =>
        rw [List.length_cons] at haxis hkept
        rw [List.length_nil] at hkept
        omega
      | cons coordinate kept =>
        show (do
          let rest ← sourceCoordinates entry sizes (onlyAt axis index) kept
          .ok (coordinate :: rest)) = _
        rw [ih (Nat.lt_of_succ_lt_succ haxis) (Nat.succ.inj hkept) hposition]
        rfl

/-! ## Picked elements -/

/-- The offset of the element that is picked for a place in the answer: it has the coordinates of
that place, but for the indexed dimension, where the index tensor names one. -/
def sourceOffset (sizes : Sizes) (axis : Nat) (index : Tensor Int) (place : List Nat) :
    OpResult Nat := do
  let entry := ravel ((place.drop axis).take index.sizes.length) index.sizes
  let position ← resolveIndex (← Checked.fetch index.data entry) (sizeAt sizes axis)
  .ok (ravel (place.take axis ++ position :: place.drop (axis + index.sizes.length)) sizes)

/-- The general way finds the same offset, from an entry of the index tensor and what is kept. -/
theorem sourceCoordinates_of_sourceOffset {sizes : Sizes} {axis source : Nat} {index : Tensor Int}
    {place : List Nat} (haxis : axis < sizes.length)
    (hplace : place.length = (replacedSizes sizes axis index.sizes).length)
    (h : sourceOffset sizes axis index place = .ok source) :
    (do
      let coordinates ← sourceCoordinates
        (ravel ((place.drop axis).take index.sizes.length) index.sizes) sizes (onlyAt axis index)
        (place.take axis ++ place.drop (axis + index.sizes.length))
      .ok (ravel coordinates sizes)) = (.ok source : OpResult Nat) := by
  unfold sourceOffset at h
  obtain ⟨named, hnamed, h⟩ := bind_eq_ok.mp h
  obtain ⟨position, hposition, hsource⟩ := bind_eq_ok.mp h
  have hlength : place.length = axis + index.sizes.length + (sizes.length - (axis + 1)) := by
    unfold replacedSizes at hplace
    rw [List.length_append, List.length_append, List.length_drop,
      List.length_take_of_le (Nat.le_of_lt haxis)] at hplace
    exact hplace
  have hfront : (place.take axis).length = axis := List.length_take_of_le (by omega)
  have hkept : (place.take axis ++ place.drop (axis + index.sizes.length)).length + 1 =
      sizes.length := by
    rw [List.length_append, hfront, List.length_drop]
    omega
  have hresolved : (do
      let named ← Checked.fetch index.data
        (ravel ((place.drop axis).take index.sizes.length) index.sizes)
      resolveIndex named (sizeAt sizes axis)) = .ok position :=
    bind_eq_ok.mpr ⟨named, hnamed, hposition⟩
  rw [sourceCoordinates_onlyAt haxis hkept hresolved, ok_bind, List.take_left' hfront,
    List.drop_left' hfront]
  exact hsource

/-- **One index tensor picks place by place**, with its sizes where the dimension stood. -/
theorem pickedElements_onlyAt {sizes : Sizes} {axis : Nat} {index : Tensor Int}
    {offsets : List Nat} (haxis : axis < sizes.length)
    (hoffsets : (List.range (elementCount (replacedSizes sizes axis index.sizes))).mapM (fun offset =>
      sourceOffset sizes axis index (unravel offset (replacedSizes sizes axis index.sizes))) =
        .ok offsets) :
    pickedElements sizes (onlyAt axis index) =
      .ok { sizes := replacedSizes sizes axis index.sizes, offsets } := by
  have hfront : (sizes.take axis).length = axis := List.length_take_of_le (Nat.le_of_lt haxis)
  have hkept := unmarkedSizes_onlyAt haxis index
  rw [← unmarkedSizes_eq_not_contains, markedDims_onlyAt] at hkept
  have hle : axis ≤ (sizes.take axis ++ sizes.drop (axis + 1)).length := by
    rw [List.length_append, hfront]
    exact Nat.le_add_right _ _
  unfold pickedElements
  rw [length_onlyAt, if_neg (Nat.not_lt.mpr haxis), indexShape_onlyAt, ok_bind]
  refine bind_eq_ok.mpr ⟨onlyAt axis index, widened_onlyAt axis index, ?_⟩
  rw [indexedDims_eq, markedDims_onlyAt]
  dsimp only
  have hplace : indexPlace [axis] = axis := rfl
  rw [hkept, hplace, Checked.slice_of_le (Nat.zero_le _) hle, ok_bind,
    Checked.slice_of_le hle (Nat.le_refl _), ok_bind, List.take_length, List.drop_zero,
    List.take_left' hfront, List.drop_left' hfront]
  refine bind_eq_ok.mpr ⟨offsets, ?_, rfl⟩
  refine mapM_eq_ok.mpr ((mapM_eq_ok.mp hoffsets).imp ?_)
  intro offset source hsource
  exact sourceCoordinates_of_sourceOffset haxis (length_unravel offset _) hsource

/-- **Picking by an index tensor for one dimension** builds the answer place by place. -/
theorem index_onlyAt {input output : Tensor α} {axis : Nat} {tensor : Tensor Int}
    (haxis : axis < input.sizes.length)
    (h : Tensor.ofIndices (replacedSizes input.sizes axis tensor.sizes) (fun place => do
      Checked.fetch input.data (← sourceOffset input.sizes axis tensor place)) = .ok output) :
    index input (onlyAt axis tensor) = .ok output := by
  unfold Tensor.ofIndices Tensor.ofOffsets at h
  obtain ⟨data, hdata, houtput⟩ := bind_eq_ok.mp h
  obtain ⟨offsets, hoffsets, hfetched⟩ := mapM_bind_eq_ok.mp hdata
  unfold index
  rw [pickedElements_onlyAt haxis hoffsets, ok_bind]
  exact bind_eq_ok.mpr ⟨data, hfetched, houtput⟩

end OpShape.Operator

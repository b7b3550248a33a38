/-
# `OpShape.Proofs.Operator.SamePicks` — several ways to pick the same elements.

A position, a range of positions, a list of them, a tensor of them and the rows of a table are
picked by operators that were written one by one.  Where two of them can say the same thing they
answer with the same tensor: at every place of the answer they read one and the same element.
-/
import OpShape.Proofs.Operator.IndexSelect
import OpShape.Proofs.Operator.SingleIndex
import OpShape.Proofs.Tensor.Lane
import OpShape.Proofs.Unbroken

namespace OpShape.Operator

open Tensor (fetch_eq_ok)

variable {α : Type} {input output : Tensor α} {axis : Nat}

attribute [local irreducible] signed

/-! ## A list of positions -/

/-- What picks at each place the element that a list of positions names picks what the list does. -/
theorem ofIndices_of_pick {positions : List Nat} (haxis : axis < input.sizes.length)
    (h : pick input axis positions = .ok output) {entry : List Nat → OpResult α}
    (hagrees : ∀ (place : List Nat) (i position : Nat), place[axis]? = some i →
      positions[i]? = some position → place.length = input.sizes.length →
        ∀ x, (input.at? (place.set axis position) : OpResult α) = .ok x → entry place = .ok x) :
    Tensor.ofIndices (input.sizes.set axis positions.length) entry = .ok output := by
  unfold pick at h
  rw [Checked.set_of_lt haxis, ok_bind] at h
  refine Tensor.ofIndices_of_agrees ?_ h
  intro place hinside x hx
  have hlength : place.length = input.sizes.length := hinside.length.trans List.length_set
  obtain ⟨i, hi, hx⟩ := bind_eq_ok.mp hx
  obtain ⟨position, hposition, hx⟩ := bind_eq_ok.mp hx
  exact hagrees place i position (get_eq_ok.mp hi) (get_eq_ok.mp hposition) hlength x hx

/-- **A range picks what the list of its positions picks.** -/
theorem slice_of_pick {start count step : Nat} (haxis : axis < input.sizes.length)
    (h : pick input axis ((List.range count).map fun i => start + i * step) = .ok output) :
    slice input axis start count step = .ok output := by
  have hbuilt : Tensor.ofIndices (input.sizes.set axis
      ((List.range count).map fun i => start + i * step).length) (fun index => do
        let position ← Checked.get index axis
        input.at? (index.set axis (start + position * step))) =
          (.ok output : OpResult (Tensor α)) := by
    refine ofIndices_of_pick haxis h ?_
    intro place i position hi hposition _ x hx
    rw [List.getElem?_map] at hposition
    obtain ⟨j, hj, rfl⟩ := Option.map_eq_some_iff.mp hposition
    have hsame : i = j := by simpa using (List.getElem?_eq_some_iff.mp hj).2
    rw [← hsame] at hx
    rw [get_eq_ok.mpr hi, ok_bind]
    exact hx
  rw [List.length_map, List.length_range] at hbuilt
  unfold slice
  rw [Checked.set_of_lt haxis, ok_bind]
  exact hbuilt

/-! ## Index tensors -/

/-- With an index tensor of one dimension, the coordinate along the axis says which of its entries
is meant. -/
theorem sourceOffset_vector {sizes : Sizes} {index : Tensor Int} {place : List Nat}
    {count i position : Nat} {named : Int} (hindex : index.sizes = [count])
    (hplace : place[axis]? = some i) (hnamed : index.data[i]? = some named)
    (hposition : resolveIndex named (sizeAt sizes axis) = .ok position) :
    sourceOffset sizes axis index place = .ok (ravel (place.set axis position) sizes) := by
  obtain ⟨hlt, hget⟩ := List.getElem?_eq_some_iff.mp hplace
  have hentry : ravel ((place.drop axis).take 1) [count] = i := by
    rw [List.drop_eq_getElem_cons hlt, hget]
    show i * 1 + 0 = i
    omega
  unfold sourceOffset
  dsimp only
  rw [hindex, List.length_singleton, hentry, fetch_eq_ok.mpr hnamed, ok_bind, hposition, ok_bind,
    List.set_eq_take_append_cons_drop, if_pos hlt]

/-- A coordinate is put in between those in front of its place and the others. -/
theorem insertIdx_eq_take_drop {place : List Nat} (hplace : axis ≤ place.length) (position : Nat) :
    place.insertIdx axis position = place.take axis ++ position :: place.drop axis := by
  induction axis generalizing place with
  | zero => rfl
  | succ axis ih =>
    cases place with
    | nil => cases hplace
    | cons i place =>
      rw [List.insertIdx_succ_cons, ih (Nat.le_of_succ_le_succ hplace)]
      rfl

/-- An index tensor without dimensions has one entry, and its position is put in. -/
theorem sourceOffset_scalar {sizes : Sizes} {place : List Nat} {named : Int} {position : Nat}
    (hplace : axis ≤ place.length)
    (hposition : resolveIndex named (sizeAt sizes axis) = .ok position) :
    sourceOffset sizes axis (Tensor.scalar named) place =
      .ok (ravel (place.insertIdx axis position) sizes) := by
  have hfetch : (Checked.fetch (Tensor.scalar named).data 0 : OpResult Int) = .ok named := rfl
  show (do
    let named ← Checked.fetch (Tensor.scalar named).data 0
    let position ← resolveIndex named (sizeAt sizes axis)
    .ok (ravel (place.take axis ++ position :: place.drop axis) sizes)) = _
  rw [hfetch, ok_bind, hposition, ok_bind, insertIdx_eq_take_drop hplace]

/-- **One position is picked as by an index tensor without dimensions.** -/
theorem index_of_select {named : Int} {position : Nat} (haxis : axis < input.sizes.length)
    (hposition : resolveIndex named (sizeAt input.sizes axis) = .ok position)
    (h : select input axis position = .ok output) :
    index input (onlyAt axis (Tensor.scalar named)) = .ok output := by
  unfold select at h
  rw [Checked.eraseIdx_of_lt haxis, ok_bind] at h
  have hsizes : replacedSizes input.sizes axis (Tensor.scalar named).sizes =
      input.sizes.eraseIdx axis := by
    rw [List.eraseIdx_eq_take_drop_succ]
    show input.sizes.take axis ++ [] ++ input.sizes.drop (axis + 1) = _
    rw [List.append_nil]
  apply index_onlyAt haxis
  rw [hsizes]
  refine Tensor.ofIndices_of_agrees ?_ h
  intro place hinside x hx
  have hplace : axis ≤ place.length := by
    rw [hinside.length, List.length_eraseIdx_of_lt haxis]
    omega
  rw [Checked.insertIdx_of_le hplace, ok_bind] at hx
  rw [sourceOffset_scalar hplace hposition, ok_bind]
  exact hx

/-- **A list of positions is picked as by an index tensor of one dimension.** -/
theorem index_of_pick {tensor : Tensor Int} {count : Nat} {positions : List Nat}
    (haxis : axis < input.sizes.length) (htensor : tensor.sizes = [count])
    (hpositions : tensor.data.toList.mapM (fun i => resolveIndex i (sizeAt input.sizes axis)) =
      .ok positions)
    (h : pick input axis positions = .ok output) :
    index input (onlyAt axis tensor) = .ok output := by
  have hresolved := mapM_eq_ok.mp hpositions
  have hcount : positions.length = count := by
    rw [← hresolved.length_eq, Array.length_toList, tensor.size_data, htensor, elementCount_cons,
      elementCount_nil, Nat.mul_one]
  have hsizes : replacedSizes input.sizes axis tensor.sizes =
      input.sizes.set axis positions.length := by
    unfold replacedSizes
    rw [htensor, hcount, List.set_eq_take_append_cons_drop, if_pos haxis, List.append_assoc]
    rfl
  apply index_onlyAt haxis
  rw [hsizes]
  refine ofIndices_of_pick haxis h ?_
  intro place i position hi hposition _ x hx
  obtain ⟨named, hnamed, hresolves⟩ := getElem?_of_forall₂ hresolved hposition
  rw [Array.getElem?_toList] at hnamed
  rw [sourceOffset_vector htensor hi hnamed hresolves, ok_bind]
  exact hx

/-! ## Gathering -/

/-- The positions of a vector, repeated along every dimension but that of the axis. -/
def repeatAlong (index : Tensor Int) (sizes : Sizes) (axis : Nat) : OpResult (Tensor Int) :=
  Tensor.ofIndices (sizes.set axis index.data.size) fun place => do
    Checked.fetch index.data (← Checked.get place axis)

theorem answers_repeatAlong (index : Tensor Int) {sizes : Sizes} (haxis : axis < sizes.length) :
    Answers (Tensor.HasSizes (sizes.set axis index.data.size)) (repeatAlong index sizes axis) := by
  refine Tensor.answers_ofIndices fun place hinside => ?_
  obtain ⟨hplace, hlt⟩ := hinside.coordinate_set haxis
  rw [Checked.get_of_lt hplace, ok_bind]
  exact Tensor.answers_fetch hlt

/-- What a position is resolved to is there. -/
theorem lt_of_resolveIndex {named : Int} {size position : Nat}
    (h : resolveIndex named size = .ok position) : position < size := by
  rcases resolveIndex_cases named size with ⟨found, -, hfound, hlt⟩ | ⟨_, _, -, hrefused⟩
  · rw [Except.ok.inj (h.symm.trans hfound)]
    exact hlt
  · rw [h] at hrefused
    cases hrefused

/-- A position that is not counted from the end is resolved to itself. -/
theorem resolveIndex_of_nonneg {named : Int} {size position : Nat} (hnonneg : 0 ≤ named)
    (h : resolveIndex named size = .ok position) : position = named.toNat ∧ named < size := by
  have hspan := signed_le size
  unfold resolveIndex at h
  dsimp only at h
  generalize signed size = span at h hspan
  by_cases hout : named < -span ∨ span ≤ named
  · rw [if_pos hout] at h
    cases h
  · rw [if_neg hout, if_neg (Int.not_lt.mpr hnonneg)] at h
    exact ⟨(Except.ok.inj h).symm, by omega⟩

theorem paddedSizes_of_ne_nil {sizes : Sizes} (h : sizes ≠ []) (rank : Nat) :
    paddedSizes rank sizes = sizes := by
  unfold paddedSizes
  rw [if_neg (mt List.isEmpty_iff.mp h)]

/-- **A list of positions is picked as by gathering them**, repeated along the other dimensions and
none of them counted from the end. -/
theorem gather_of_pick {tensor repeated : Tensor Int} {positions : List Nat}
    (haxis : axis < input.sizes.length)
    (hpositions : tensor.data.toList.mapM (fun i => resolveIndex i (sizeAt input.sizes axis)) =
      .ok positions)
    (hnonneg : ∀ position ∈ tensor.data, 0 ≤ position)
    (hrepeated : repeatAlong tensor input.sizes axis = .ok repeated)
    (h : pick input axis positions = .ok output) : gather input axis repeated = .ok output := by
  have hresolved := mapM_eq_ok.mp hpositions
  have hcount : tensor.data.size = positions.length := by
    rw [← hresolved.length_eq, Array.length_toList]
  unfold pick at h
  rw [Checked.set_of_lt haxis, ok_bind] at h
  obtain ⟨hsizes, hentries⟩ := Tensor.ofOffsets_eq_ok.mp h
  obtain ⟨hown, hnames⟩ := Tensor.ofOffsets_eq_ok.mp hrepeated
  rw [hcount] at hown hnames
  have hsame : output.sizes = repeated.sizes := hsizes.trans hown.symm
  have hsource : input.sizes ≠ [] := List.ne_nil_of_length_pos (Nat.zero_lt_of_lt haxis)
  have hindex : repeated.sizes ≠ [] := by
    apply List.ne_nil_of_length_pos
    rw [hown, List.length_set]
    exact Nat.zero_lt_of_lt haxis
  have hspan : input.sizes[axis]?.getD 1 = sizeAt input.sizes axis := laneLength_eq_sizeAt haxis
  unfold gather
  dsimp only
  rw [paddedSizes_of_ne_nil hsource, paddedSizes_of_ne_nil hindex, hspan]
  refine Tensor.ofOffsets_eq_ok.mpr ⟨hsame, ?_⟩
  intro offset hoffset
  have hoffset' : offset < repeated.data.size := by
    rw [repeated.size_data, ← hsame, ← output.size_data]
    exact hoffset
  obtain ⟨i, hi, hx⟩ := bind_eq_ok.mp (hentries offset hoffset)
  obtain ⟨position, hposition, hx⟩ := bind_eq_ok.mp hx
  obtain ⟨i', hi', hname⟩ := bind_eq_ok.mp (hnames offset hoffset')
  obtain rfl : i = i' := Except.ok.inj (hi.symm.trans hi')
  obtain ⟨named, hnamed, hresolves⟩ := getElem?_of_forall₂ hresolved (get_eq_ok.mp hposition)
  rw [Array.getElem?_toList] at hnamed
  have hentry : named = repeated.data[offset] := by
    rw [fetch_eq_ok, hnamed] at hname
    exact Option.some.inj hname
  have hpos : 0 ≤ named := hnonneg named (Array.mem_of_getElem? hnamed)
  obtain ⟨rfl, hlt⟩ := resolveIndex_of_nonneg hpos hresolves
  have hin : ¬ (named < 0 ∨ (sizeAt input.sizes axis : Int) ≤ named) := by omega
  rw [Checked.fetch_of_lt hoffset', ok_bind, ← hentry, if_neg hin, hown]
  exact hx

/-! ## Rows of a table -/

/-- The entries of a row are those of the table from the start of the row on. -/
theorem row_reads {data window : Array α} {row width : Nat}
    (h : (Checked.window data (row * width) ((row + 1) * width) : OpResult (Array α)) =
      .ok window) :
    window.toList.length = width ∧
      ∀ column < width, window.toList[column]? = data[row * width + column]? := by
  have hstop : (row + 1) * width = row * width + width := Nat.succ_mul row width
  unfold Checked.window at h
  rw [hstop] at h
  split at h
  · next hbounds =>
    rw [← Except.ok.inj h]
    have hsize : (data.extract (row * width) (row * width + width)).size = width := by
      rw [Array.size_extract]
      omega
    refine ⟨by rw [Array.length_toList, hsize], ?_⟩
    intro column hcolumn
    rw [Array.getElem?_toList, Array.getElem?_extract, if_pos (by omega)]
  · cases h

/-- With an index tensor for the rows of a table, the coordinates in front of the last one say which
of its entries is meant. -/
theorem sourceOffset_row {rows width row offset : Nat} {index : Tensor Int} {named : Int}
    (hoffset : offset / width < elementCount index.sizes)
    (hnamed : index.data[offset / width]? = some named)
    (hrow : resolveIndex named rows = .ok row) :
    sourceOffset [rows, width] 0 index (unravel offset (index.sizes ++ [width])) =
      .ok (row * width + offset % width) := by
  have hlength := length_unravel (offset / width) index.sizes
  have hsize : sizeAt [rows, width] 0 = rows := rfl
  rw [unravel_concat]
  unfold sourceOffset
  dsimp only
  rw [List.drop_zero, List.take_left' hlength, ravel_unravel_of_lt hoffset,
    fetch_eq_ok.mpr hnamed, ok_bind, hsize, hrow, ok_bind, Nat.zero_add, List.drop_left' hlength]
  show Except.ok (row * (width * 1) + (offset % width * 1 + 0)) = _
  rw [Nat.mul_one, Nat.mul_one, Nat.add_zero]

/-- **The rows of a table are picked as by an index tensor for its rows.** -/
theorem index_of_embedding {rows width : Nat} {indices : Tensor Int}
    (hinput : input.sizes = [rows, width]) (h : embedding input indices = .ok output) :
    index input (onlyAt 0 indices) = .ok output := by
  unfold embedding at h
  rw [hinput] at h
  obtain ⟨picked, hpicked, h⟩ := bind_eq_ok.mp h
  obtain ⟨hsizes, hdata⟩ := Tensor.ofData_eq_ok.mp h
  have hrows := mapM_eq_ok.mp hpicked
  have hwidth : ∀ row ∈ picked, row.length = width := by
    intro row hrow
    obtain ⟨named, -, hread⟩ := exists_of_forall₂_right hrows hrow
    obtain ⟨_, -, hread⟩ := bind_eq_ok.mp hread
    obtain ⟨window, hwindow, hread⟩ := bind_eq_ok.mp hread
    rw [← Except.ok.inj hread]
    exact (row_reads hwindow).1
  have haxis : 0 < input.sizes.length := by
    rw [hinput]
    exact Nat.succ_pos _
  apply index_onlyAt haxis
  rw [hinput]
  refine Tensor.ofOffsets_eq_ok.mpr ⟨hsizes, ?_⟩
  intro offset hoffset
  have hlt : offset < elementCount indices.sizes * width := by
    rw [output.size_data, hsizes, elementCount_append, elementCount_cons, elementCount_nil,
      Nat.mul_one] at hoffset
    exact hoffset
  have hpos : 0 < width := Nat.pos_of_mul_pos_left (Nat.zero_lt_of_lt hlt)
  have hrow : offset / width < elementCount indices.sizes := (Nat.div_lt_iff_lt_mul hpos).mpr hlt
  -- What stands at the offset stands in its row, at the last coordinate.
  have hread : picked.flatten[offset]? = some output.data[offset] := by
    rw [← List.getElem?_toArray, ← hdata]
    exact Array.getElem?_eq_getElem hoffset
  rw [getElem?_flatten_of_width hwidth hpos] at hread
  obtain ⟨chunk, hchunk, hread⟩ := Option.bind_eq_some_iff.mp hread
  obtain ⟨named, hnamed, hstep⟩ := getElem?_of_forall₂ hrows hchunk
  rw [Array.getElem?_toList] at hnamed
  obtain ⟨row, hresolves, hstep⟩ := bind_eq_ok.mp hstep
  obtain ⟨window, hwindow, hstep⟩ := bind_eq_ok.mp hstep
  rw [← Except.ok.inj hstep, (row_reads hwindow).2 _ (Nat.mod_lt _ hpos)] at hread
  show (do
    Checked.fetch input.data (← sourceOffset [rows, width] 0 indices
      (unravel offset (indices.sizes ++ [width])))) = _
  rw [sourceOffset_row hrow hnamed hresolves, ok_bind, fetch_eq_ok]
  exact hread

end OpShape.Operator

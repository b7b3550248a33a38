/-
# `OpShape.Proofs.Tensor.Offset` — positions stay inside their tensor.

An index is *inside* sizes if it has one coordinate per dimension and each lies below its size.
Offsets and such indices correspond to each other, so that a tensor that is built index by index
from another one breaks down nowhere if the other one is read at indices inside its sizes.
-/
import OpShape.Tensor.Permute
import OpShape.Proofs.Outcome

namespace OpShape

/-- The size of a dimension, or zero. -/
def sizeAt (sizes : Sizes) (dim : Nat) : Nat :=
  sizes[dim]?.getD 0

theorem get_eq_sizeAt {ε : Type} {sizes : Sizes} {dim : Nat} (h : dim < sizes.length) :
    (Checked.get sizes dim : Checked ε Nat) = .ok (sizeAt sizes dim) := by
  rw [Checked.get_of_lt h]
  unfold sizeAt
  rw [List.getElem?_eq_getElem h]
  rfl

theorem sizeAt_set {sizes : Sizes} {axis : Nat} (h : axis < sizes.length) (size : Nat) :
    sizeAt (sizes.set axis size) axis = size := by
  unfold sizeAt
  rw [List.getElem?_set_self h]
  rfl

theorem set_sizeAt {sizes : Sizes} {axis : Nat} (h : axis < sizes.length) :
    sizes.set axis (sizeAt sizes axis) = sizes := by
  unfold sizeAt
  rw [List.getElem?_eq_getElem h]
  exact List.set_getElem_self h

theorem mapM_get_eq {ε : Type} {sizes : Sizes} {order : List Nat}
    (h : ∀ dim ∈ order, dim < sizes.length) :
    (order.mapM (Checked.get sizes) : Checked ε (List Nat)) = .ok (order.map (sizeAt sizes)) := by
  rw [mapM_eq_ok, List.forall₂_map_right_iff, List.forall₂_same]
  intro dim hdim
  exact get_eq_sizeAt (h dim hdim)

/-! ## Indices inside sizes -/

/-- The index has one coordinate per dimension, and each of them lies below its size. -/
abbrev Inside (index : List Nat) (sizes : Sizes) : Prop :=
  List.Forall₂ (· < ·) index sizes

theorem Inside.length {index : List Nat} {sizes : Sizes} (h : Inside index sizes) :
    index.length = sizes.length :=
  List.Forall₂.length_eq h

theorem inside_iff {index : List Nat} {sizes : Sizes} :
    Inside index sizes ↔ index.length = sizes.length ∧
      ∀ dim i size : Nat, index[dim]? = some i → sizes[dim]? = some size → i < size := by
  constructor
  · intro h
    refine ⟨h.length, ?_⟩
    induction h with
    | nil =>
      intro dim i size hi
      simp at hi
    | cons hlt _ ih =>
      intro dim i size hi hsize
      cases dim with
      | zero =>
        simp only [List.getElem?_cons_zero, Option.some.injEq] at hi hsize
        omega
      | succ dim =>
        rw [List.getElem?_cons_succ] at hi hsize
        exact ih dim i size hi hsize
  · rintro ⟨hlength, hlt⟩
    induction index generalizing sizes with
    | nil =>
      rw [List.eq_nil_of_length_eq_zero hlength.symm]
      exact .nil
    | cons i index ih =>
      cases sizes with
      | nil => cases hlength
      | cons size sizes =>
        refine .cons (hlt 0 i size rfl rfl) (ih (Nat.succ.inj hlength) ?_)
        intro dim j other hj hother
        exact hlt (dim + 1) j other hj hother

theorem Inside.getElem_lt {index : List Nat} {sizes : Sizes} (h : Inside index sizes) {dim i : Nat}
    (hi : index[dim]? = some i) : i < sizeAt sizes dim := by
  obtain ⟨hlength, hlt⟩ := inside_iff.mp h
  obtain ⟨hdim, -⟩ := List.getElem?_eq_some_iff.mp hi
  have hsize := List.getElem?_eq_getElem (hlength ▸ hdim)
  unfold sizeAt
  rw [hsize]
  exact hlt dim i _ hi hsize

/-- A coordinate is added along a dimension that the other sizes leave out. -/
theorem inside_insertIdx {index : List Nat} {sizes : Sizes} {axis position : Nat}
    (h : Inside index (sizes.eraseIdx axis)) (haxis : axis < sizes.length)
    (hposition : position < sizeAt sizes axis) : Inside (index.insertIdx axis position) sizes := by
  induction sizes generalizing index axis with
  | nil => cases haxis
  | cons size sizes ih =>
    cases axis with
    | zero => exact .cons hposition h
    | succ axis =>
      rw [List.eraseIdx_cons_succ] at h
      cases h with
      | cons hlt hrest =>
        rw [List.insertIdx_succ_cons]
        exact .cons hlt (ih hrest (Nat.lt_of_succ_lt_succ haxis) hposition)

/-- A coordinate is replaced along a dimension of another size. -/
theorem inside_set {index : List Nat} {sizes : Sizes} {axis position count : Nat}
    (h : Inside index (sizes.set axis count)) (hposition : position < sizeAt sizes axis) :
    Inside (index.set axis position) sizes := by
  induction sizes generalizing index axis with
  | nil =>
    cases h
    exact .nil
  | cons size sizes ih =>
    cases axis with
    | zero =>
      rw [List.set_cons_zero] at h
      cases h with
      | cons _ hrest => exact .cons hposition hrest
    | succ axis =>
      rw [List.set_cons_succ] at h
      cases h with
      | cons hlt hrest =>
        rw [List.set_cons_succ]
        exact .cons hlt (ih hrest hposition)

/-- The coordinate along a dimension that was given another size lies below that. -/
theorem Inside.coordinate_set {index : List Nat} {sizes : Sizes} {axis count : Nat}
    (h : Inside index (sizes.set axis count)) (haxis : axis < sizes.length) :
    ∃ hlt : axis < index.length, index[axis] < count := by
  have hlt : axis < index.length := by
    rw [h.length, List.length_set]
    exact haxis
  have hcount := h.getElem_lt (List.getElem?_eq_getElem hlt)
  rw [sizeAt_set haxis] at hcount
  exact ⟨hlt, hcount⟩

/-! ## Offsets of indices -/

/-- Sizes of one count for nothing. -/
theorem elementCount_ones (rank : Nat) : elementCount (List.replicate rank 1) = 1 := by
  induction rank with
  | zero => rfl
  | succ rank ih => rw [List.replicate_succ, elementCount_cons, ih, Nat.one_mul]

/-- As many elements as there are in a plane, for each plane of a stack. -/
theorem elementCount_planes (stack : Sizes) (rows columns : Nat) :
    elementCount (stack ++ [rows, columns]) = elementCount stack * (rows * columns) := by
  rw [elementCount_append, elementCount_cons, elementCount_cons, elementCount_nil, Nat.mul_one]

/-- A place in a row that is there lies in front of the end of all rows. -/
theorem row_add_lt {rows row width column : Nat} (hrow : row < rows) (hcolumn : column < width) :
    row * width + column < rows * width := by
  have hstep : (row + 1) * width ≤ rows * width := Nat.mul_le_mul_right width hrow
  rw [Nat.succ_mul] at hstep
  omega

theorem ravel_lt {index : List Nat} {sizes : Sizes} (h : Inside index sizes) :
    ravel index sizes < elementCount sizes := by
  induction h with
  | nil => exact Nat.zero_lt_one
  | @cons i size index sizes hlt _ ih =>
    show i * elementCount sizes + ravel index sizes < size * elementCount sizes
    -- Whole rows lie in front of the offset, and the rest of it lies inside the next row.
    exact row_add_lt hlt ih

/-- **The index of an offset lies inside the sizes**, where there are elements at all. -/
theorem inside_unravel {sizes : Sizes} (h : 0 < elementCount sizes) (offset : Nat) :
    Inside (unravel offset sizes) sizes := by
  induction sizes with
  | nil => exact .nil
  | cons size sizes ih =>
    have hsize : 0 < size := Nat.pos_of_mul_pos_right h
    have hrest : 0 < elementCount sizes := Nat.pos_of_mul_pos_left h
    exact .cons (Nat.mod_lt _ hsize) (ih hrest)

theorem inside_unravel_of_lt {sizes : Sizes} {offset : Nat} (h : offset < elementCount sizes) :
    Inside (unravel offset sizes) sizes :=
  inside_unravel (Nat.zero_lt_of_lt h) offset

theorem Inside.elementCount_pos {index : List Nat} {sizes : Sizes} (h : Inside index sizes) :
    0 < elementCount sizes :=
  Nat.zero_lt_of_lt (ravel_lt h)

/-! ## Tensors that are built -/

namespace Tensor

variable {ε α β : Type}

/-- A value of which nothing else is known. -/
abbrev AnswersAtAll (x : Checked ε α) : Prop :=
  Answers (fun _ => True) x

/-- The tensor has these sizes. -/
def HasSizes (sizes : Sizes) (tensor : Tensor α) : Prop :=
  tensor.sizes = sizes

theorem answers_ofData {sizes : Sizes} {data : Array α} (h : data.size = elementCount sizes) :
    Answers (HasSizes sizes) (ofData sizes data : Checked ε (Tensor α)) := by
  rw [ofData_of_eq h]
  rfl

/-- **Data make a tensor exactly if there are as many of them as the sizes ask for.** -/
theorem ofData_eq_ok {sizes : Sizes} {data : Array α} {tensor : Tensor α} :
    (ofData sizes data : Checked ε (Tensor α)) = .ok tensor ↔
      tensor.sizes = sizes ∧ tensor.data = data := by
  constructor
  · intro h
    unfold ofData at h
    split at h
    · rw [← Except.ok.inj h]
      exact ⟨rfl, rfl⟩
    · cases h
  · rintro ⟨rfl, rfl⟩
    exact ofData_of_eq tensor.size_data

theorem answers_withSizes {tensor : Tensor α} {sizes : Sizes}
    (h : elementCount tensor.sizes = elementCount sizes) :
    Answers (HasSizes sizes) (tensor.withSizes sizes : Checked ε (Tensor α)) :=
  answers_ofData (tensor.size_data.trans h)

theorem answers_fetch {data : Array α} {position : Nat} (h : position < data.size) :
    AnswersAtAll (Checked.fetch data position : Checked ε α) := by
  rw [Checked.fetch_of_lt h]
  trivial

/-- What is fetched is there exactly if its position is. -/
theorem fetch_answers {data : Array α} {position : Nat} :
    (∃ x, (Checked.fetch data position : Checked ε α) = .ok x) ↔ position < data.size := by
  constructor
  · rintro ⟨x, hx⟩
    by_contra hbeyond
    rw [Checked.fetch, dif_neg hbeyond] at hx
    cases hx
  · intro h
    exact ⟨_, Checked.fetch_of_lt h⟩

/-- A row of a table is there, and is as wide as all rows are. -/
theorem answers_row {data : Array α} {rows width row : Nat} (hdata : data.size = rows * width)
    (hrow : row < rows) :
    Answers (fun window => window.toList.length = width)
      (Checked.window data (row * width) ((row + 1) * width) : Checked ε (Array α)) := by
  have hstart : row * width ≤ (row + 1) * width := Nat.mul_le_mul_right width (Nat.le_succ row)
  have hstop : (row + 1) * width ≤ data.size := by
    rw [hdata]
    exact Nat.mul_le_mul_right width hrow
  rw [Checked.window_of_le hstart hstop]
  show (data.extract (row * width) ((row + 1) * width)).toList.length = width
  rw [Array.length_toList, Array.size_extract, Nat.min_eq_left hstop, Nat.succ_mul,
    Nat.add_sub_cancel_left]

theorem answers_at? {tensor : Tensor α} {index : List Nat} (h : Inside index tensor.sizes) :
    AnswersAtAll (tensor.at? index : Checked ε α) :=
  answers_fetch (Nat.lt_of_lt_of_eq (ravel_lt h) tensor.size_data.symm)

/-- **A tensor that is built offset by offset** has the sizes that were asked for, and its elements
are what its entries answer. -/
theorem answersIf_ofOffsets {p : Prop} {P : α → Prop} {sizes : Sizes} {entry : Nat → Checked ε α}
    (h : ∀ offset < elementCount sizes, AnswersIf p P (entry offset)) :
    AnswersIf p (fun tensor => HasSizes sizes tensor ∧ ∀ x ∈ tensor.data, P x)
      (ofOffsets sizes entry) := by
  unfold ofOffsets
  have hdata : AnswersIf p (List.Forall₂ (fun _ => P) (List.range (elementCount sizes)))
      ((List.range (elementCount sizes)).mapM entry) :=
    AnswersIf.mapM fun offset hoffset => h offset (List.mem_range.mp hoffset)
  apply hdata.bind
  intro data hdata
  have hsize : data.toArray.size = elementCount sizes := by
    rw [List.size_toArray, ← hdata.length_eq, List.length_range]
  rw [ofData_of_eq hsize]
  refine ⟨rfl, ?_⟩
  intro x hx
  exact (forall₂_right_iff.mp hdata).2 x (List.mem_toArray.mp hx)

/-- A tensor that is built offset by offset answers if every entry of it does. -/
theorem answers_ofOffsets {sizes : Sizes} {entry : Nat → Checked ε α}
    (h : ∀ offset < elementCount sizes, AnswersAtAll (entry offset)) :
    Answers (HasSizes sizes) (ofOffsets sizes entry) := by
  have hif := answersIf_ofOffsets (p := True) fun offset hoffset => (h offset hoffset).answersIf True
  exact (hif.answers trivial).imp fun tensor htensor => htensor.1

/-- **What a tensor that is built offset by offset holds**: at each offset what its entry answers. -/
theorem ofOffsets_eq_ok {sizes : Sizes} {entry : Nat → Checked ε α} {tensor : Tensor α} :
    ofOffsets sizes entry = .ok tensor ↔
      tensor.sizes = sizes ∧
        ∀ offset (h : offset < tensor.data.size), entry offset = .ok tensor.data[offset] := by
  unfold ofOffsets
  simp only [bind_eq_ok, mapM_eq_ok, ofData_eq_ok, List.forall₂_iff_get, List.get_eq_getElem,
    List.length_range, List.getElem_range]
  constructor
  · rintro ⟨data, ⟨hlength, hentries⟩, hsizes, hdata⟩
    obtain rfl : data = tensor.data.toList := by rw [hdata]
    exact ⟨hsizes, fun offset h => hentries offset (hlength ▸ h) h⟩
  · rintro ⟨rfl, hentries⟩
    exact ⟨tensor.data.toList, ⟨tensor.size_data.symm, fun offset _ h => hentries offset h⟩, rfl, rfl⟩

/-- A tensor that is built index by index has the sizes that were asked for, if every entry of it
answers. -/
theorem answers_ofIndices {sizes : Sizes} {entry : List Nat → Checked ε α}
    (h : ∀ index, Inside index sizes → AnswersAtAll (entry index)) :
    Answers (HasSizes sizes) (ofIndices sizes entry) :=
  answers_ofOffsets fun _ hoffset => h _ (inside_unravel_of_lt hoffset)

end Tensor

end OpShape

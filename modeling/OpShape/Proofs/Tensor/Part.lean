/-
# `OpShape.Proofs.Tensor.Part` — the parts of a tensor at leading coordinates.

A tensor is a stack of parts, one for each choice of its leading coordinates: the elements of a part
are those whose indices begin with them.  In row-major order the parts follow each other, so that
what is computed at an offset of the whole is computed in the part with the number that the leading
coordinates have, at an offset there.
-/
import OpShape.Proofs.Tensor.Entry

namespace OpShape

/-! ## Leading coordinates -/

/-- **The offset of an index is that of its place in a part, behind all parts in front of it.** -/
theorem ravel_append {leading place : List Nat} {sizes rest : Sizes}
    (h : leading.length = sizes.length) :
    ravel (leading ++ place) (sizes ++ rest) =
      ravel leading sizes * elementCount rest + ravel place rest := by
  induction sizes generalizing leading with
  | nil =>
    rw [List.eq_nil_of_length_eq_zero h]
    simp [ravel]
  | cons size sizes ih =>
    obtain ⟨i, leading, rfl⟩ := List.exists_cons_of_length_eq_add_one h
    rw [List.cons_append, List.cons_append, ravel, ravel, ih (Nat.succ.inj h), elementCount_append,
      Nat.add_mul, Nat.mul_assoc, Nat.add_assoc]

theorem inside_append {leading place : List Nat} {sizes rest : Sizes} (hleading : Inside leading sizes)
    (hplace : Inside place rest) : Inside (leading ++ place) (sizes ++ rest) :=
  List.rel_append hleading hplace

/-- An index has leading coordinates and a place in a part. -/
theorem inside_append_iff {index : List Nat} {sizes rest : Sizes} :
    Inside index (sizes ++ rest) ↔
      ∃ leading place, index = leading ++ place ∧ Inside leading sizes ∧ Inside place rest := by
  constructor
  · intro h
    refine ⟨index.take sizes.length, index.drop sizes.length, (List.take_append_drop _ _).symm, ?_, ?_⟩
    · exact List.forall₂_take_append index sizes rest h
    · exact List.forall₂_drop_append index sizes rest h
  · rintro ⟨leading, place, rfl, hleading, hplace⟩
    exact inside_append hleading hplace

/-- The place of an element in a table has a row and a column. -/
theorem inside_plane_iff {place : List Nat} {rows columns : Nat} :
    Inside place [rows, columns] ↔ ∃ row < rows, ∃ column < columns, place = [row, column] := by
  constructor
  · intro h
    cases h with
    | @cons row _ _ _ hrow h =>
      cases h with
      | @cons column _ _ _ hcolumn h =>
        cases h
        exact ⟨row, hrow, column, hcolumn, rfl⟩
  · rintro ⟨row, hrow, column, hcolumn, rfl⟩
    exact .cons hrow (.cons hcolumn .nil)

namespace Tensor

variable {ε α : Type}

/-! ## Parts -/

/-- The part of a tensor at some leading coordinates. -/
def partAt (tensor : Tensor α) (leading : List Nat) : Checked ε (Tensor α) :=
  ofIndices (tensor.sizes.drop leading.length) fun place => tensor.at? (leading ++ place)

variable {tensor : Tensor α} {leading : List Nat} {sizes rest : Sizes}

/-- **What a part holds**: at each place the element of the whole at the index that continues the
leading coordinates with it. -/
theorem exists_partAt (hsizes : tensor.sizes = sizes ++ rest) (hleading : Inside leading sizes) :
    ∃ part, (tensor.partAt leading : Checked ε (Tensor α)) = .ok part ∧ part.sizes = rest ∧
      ∀ place, Inside place rest →
        (part.at? place : Checked ε α) = tensor.at? (leading ++ place) := by
  have hrest : tensor.sizes.drop leading.length = rest := by
    rw [hsizes, hleading.length, List.drop_left]
  have hanswers : Answers (HasSizes rest) (tensor.partAt leading : Checked ε (Tensor α)) := by
    rw [partAt, hrest]
    refine answers_ofIndices fun place hplace => answers_at? ?_
    rw [hsizes]
    exact inside_append hleading hplace
  obtain ⟨part, hpart, hpartSizes⟩ := answers_iff.mp hanswers
  refine ⟨part, hpart, hpartSizes, fun place hplace => ?_⟩
  rw [partAt, hrest, ofIndices_eq_ok] at hpart
  exact (hpart.2 place hplace).symm

/-! ## Tensors that are built or given other sizes -/

/-- A tensor that is built offset by offset, seen index by index. -/
theorem ofOffsets_eq_ok_ravel {entry : Nat → Checked ε α} :
    ofOffsets sizes entry = .ok tensor ↔
      tensor.sizes = sizes ∧ ∀ index, Inside index sizes → entry (ravel index sizes) = tensor.at? index := by
  have hentries : ofOffsets sizes entry = ofIndices sizes fun index => entry (ravel index sizes) := by
    unfold ofIndices ofOffsets
    refine congrArg (· >>= _) (mapM_congr fun offset hoffset => ?_)
    dsimp only
    rw [ravel_unravel_of_lt (List.mem_range.mp hoffset)]
  rw [hentries, ofIndices_eq_ok]

/-- The same elements with the same sizes are the same tensor. -/
theorem withSizes_self (tensor : Tensor α) :
    (tensor.withSizes tensor.sizes : Checked ε (Tensor α)) = .ok tensor :=
  ofData_eq_ok.mpr ⟨rfl, rfl⟩

/-- A dimension of size one may be added and be removed again. -/
theorem withSizes_removed (tensor : Tensor α) (before after : Sizes) (remove : Sizes → Sizes)
    (h : remove (before ++ 1 :: after) = before ++ after) :
    (tensor.withSizes (before ++ after) : Checked ε (Tensor α)) = (do
      let added ← tensor.withSizes (before ++ 1 :: after)
      added.withSizes (remove added.sizes)) := by
  have hcount : elementCount (before ++ 1 :: after) = elementCount (before ++ after) := by
    rw [elementCount_append, elementCount_append, elementCount_cons, Nat.one_mul]
  unfold withSizes ofData
  by_cases hsize : tensor.data.size = elementCount (before ++ after)
  · rw [dif_pos hsize, dif_pos (hsize.trans hcount.symm), ok_bind]
    dsimp only
    rw [h, dif_pos hsize]
  · rw [dif_neg hsize, dif_neg (hcount ▸ hsize), hcount]
    rfl

end Tensor

end OpShape

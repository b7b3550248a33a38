/-
# `OpShape.Proofs.Tensor.Entry` — elements by their offsets and by their indices.

The index of an offset leads back to the offset.  So a tensor that is built index by index is known
once its entries are known at the indices inside its sizes, however they are computed.
-/
import OpShape.Proofs.Tensor.Offset

namespace OpShape

/-! ## From an offset to its index and back -/

/-- **An offset is found again from its index**, up to whole turns around the tensor. -/
theorem ravel_unravel (offset : Nat) (sizes : Sizes) :
    ravel (unravel offset sizes) sizes = offset % elementCount sizes := by
  induction sizes with
  | nil => exact (Nat.mod_one offset).symm
  | cons size rest ih =>
    show offset / elementCount rest % size * elementCount rest + ravel (unravel offset rest) rest =
      offset % (size * elementCount rest)
    rw [ih, Nat.mul_comm size, Nat.mod_mul, Nat.mul_comm (elementCount rest), Nat.add_comm]

theorem ravel_unravel_of_lt {sizes : Sizes} {offset : Nat} (h : offset < elementCount sizes) :
    ravel (unravel offset sizes) sizes = offset := by
  rw [ravel_unravel, Nat.mod_eq_of_lt h]

/-- Whole turns around the tensor lead back to the same index. -/
theorem unravel_add_mul (offset turns : Nat) (sizes : Sizes) :
    unravel (offset + turns * elementCount sizes) sizes = unravel offset sizes := by
  induction sizes generalizing turns with
  | nil => rfl
  | cons size rest ih =>
    show (offset + turns * (size * elementCount rest)) / elementCount rest % size ::
        unravel (offset + turns * (size * elementCount rest)) rest =
      offset / elementCount rest % size :: unravel offset rest
    rw [← Nat.mul_assoc, ih]
    congr 1
    obtain hnone | hsome := Nat.eq_zero_or_pos (elementCount rest)
    · rw [hnone, Nat.mul_zero, Nat.add_zero]
    · rw [Nat.add_mul_div_right _ _ hsome, Nat.add_mul_mod_self_right]

/-- **An index is found again from its offset.** -/
theorem unravel_ravel {index : List Nat} {sizes : Sizes} (h : Inside index sizes) :
    unravel (ravel index sizes) sizes = index := by
  induction h with
  | nil => rfl
  | @cons i size index rest hlt hrest ih =>
    have hplace : ravel index rest < elementCount rest := ravel_lt hrest
    show (i * elementCount rest + ravel index rest) / elementCount rest % size ::
        unravel (i * elementCount rest + ravel index rest) rest = i :: index
    rw [Nat.add_comm, unravel_add_mul, ih, Nat.add_mul_div_right _ _ (Nat.zero_lt_of_lt hplace),
      Nat.div_eq_of_lt hplace, Nat.zero_add, Nat.mod_eq_of_lt hlt]

/-- In rows of one width, the last coordinate is the place in a row, and the others are those of the
row. -/
theorem unravel_concat (offset : Nat) (sizes : Sizes) (width : Nat) :
    unravel offset (sizes ++ [width]) = unravel (offset / width) sizes ++ [offset % width] := by
  induction sizes with
  | nil =>
    show [offset / 1 % width] = [offset % width]
    rw [Nat.div_one]
  | cons size rest ih =>
    show offset / elementCount (rest ++ [width]) % size :: unravel offset (rest ++ [width]) =
      offset / width / elementCount rest % size :: (unravel (offset / width) rest ++ [offset % width])
    rw [ih, elementCount_append, elementCount_cons, elementCount_nil, Nat.mul_one,
      Nat.mul_comm (elementCount rest), Nat.div_div_eq_div_mul]

/-- An entry of rows of one width that follow each other is found in its row. -/
theorem getElem?_flatten_of_width {α : Type} {rows : List (List α)} {width : Nat}
    (h : ∀ row ∈ rows, row.length = width) (hwidth : 0 < width) (offset : Nat) :
    rows.flatten[offset]? = rows[offset / width]?.bind fun row => row[offset % width]? := by
  induction rows generalizing offset with
  | nil => rfl
  | cons first rows ih =>
    have hfirst : first.length = width := h first List.mem_cons_self
    rw [List.flatten_cons]
    by_cases hlt : offset < width
    · rw [List.getElem?_append_left (hfirst ▸ hlt), Nat.div_eq_of_lt hlt, Nat.mod_eq_of_lt hlt]
      rfl
    · have hle : width ≤ offset := Nat.not_lt.mp hlt
      rw [List.getElem?_append_right (hfirst ▸ hle), hfirst,
        ih (fun row hrow => h row (List.mem_cons_of_mem _ hrow)), Nat.div_eq_sub_div hwidth hle,
        List.getElem?_cons_succ, Nat.mod_eq_sub_mod hle]

namespace Tensor

variable {ε α : Type}

/-- What is fetched is the element that stands there. -/
theorem fetch_eq_ok {data : Array α} {position : Nat} {x : α} :
    (Checked.fetch data position : Checked ε α) = .ok x ↔ data[position]? = some x := by
  by_cases h : position < data.size
  · rw [Checked.fetch_of_lt h, Array.getElem?_eq_getElem h, Except.ok.injEq, Option.some.injEq]
  · rw [Checked.fetch, dif_neg h, Array.getElem?_eq_none (Nat.not_lt.mp h)]
    simp [Checked.breakDown]

/-- The element at an index is the one at its offset. -/
theorem at?_unravel {tensor : Tensor α} {offset : Nat} (h : offset < tensor.data.size) :
    (tensor.at? (unravel offset tensor.sizes) : Checked ε α) = .ok tensor.data[offset] := by
  unfold at?
  rw [ravel_unravel_of_lt (tensor.size_data ▸ h), Checked.fetch_of_lt h]

/-- **What a tensor that is built index by index holds**: at each index what its entry answers. -/
theorem ofIndices_eq_ok {sizes : Sizes} {entry : List Nat → Checked ε α} {tensor : Tensor α} :
    ofIndices sizes entry = .ok tensor ↔
      tensor.sizes = sizes ∧ ∀ index, Inside index sizes → entry index = tensor.at? index := by
  unfold ofIndices
  rw [ofOffsets_eq_ok]
  constructor
  · rintro ⟨rfl, hentries⟩
    refine ⟨rfl, fun index hinside => ?_⟩
    have hoffset : ravel index tensor.sizes < tensor.data.size := tensor.size_data ▸ ravel_lt hinside
    have hentry := hentries _ hoffset
    rw [unravel_ravel hinside] at hentry
    rw [hentry, at?, Checked.fetch_of_lt hoffset]
  · rintro ⟨rfl, hentries⟩
    refine ⟨rfl, fun offset hoffset => ?_⟩
    rw [hentries _ (inside_unravel_of_lt (tensor.size_data ▸ hoffset)), at?_unravel hoffset]

/-- Tensors of the same sizes are the same if they have the same elements at all indices. -/
theorem eq_of_at? {a b : Tensor α} (hsizes : a.sizes = b.sizes)
    (h : ∀ index, Inside index b.sizes → (a.at? index : Checked ε α) = b.at? index) : a = b := by
  have ha : (ofIndices b.sizes b.at? : Checked ε (Tensor α)) = .ok a :=
    ofIndices_eq_ok.mpr ⟨hsizes, fun index hindex => (h index hindex).symm⟩
  have hb : (ofIndices b.sizes b.at? : Checked ε (Tensor α)) = .ok b :=
    ofIndices_eq_ok.mpr ⟨rfl, fun _ _ => rfl⟩
  exact Except.ok.inj (ha.symm.trans hb)

/-- **A tensor that is built entry by entry stays the same** if its entries are computed in another
way that answers what the first one answers. -/
theorem ofIndices_of_agrees {sizes : Sizes} {entry entry' : List Nat → Checked ε α}
    {tensor : Tensor α}
    (hagrees : ∀ index, Inside index sizes → ∀ x, entry index = .ok x → entry' index = .ok x)
    (h : ofIndices sizes entry = .ok tensor) : ofIndices sizes entry' = .ok tensor := by
  unfold ofIndices at h ⊢
  obtain ⟨hsizes, hentries⟩ := ofOffsets_eq_ok.mp h
  refine ofOffsets_eq_ok.mpr ⟨hsizes, ?_⟩
  intro offset hoffset
  have hlt : offset < elementCount sizes := by
    rw [← hsizes, ← tensor.size_data]
    exact hoffset
  exact hagrees _ (inside_unravel_of_lt hlt) _ (hentries offset hoffset)

end Tensor

end OpShape

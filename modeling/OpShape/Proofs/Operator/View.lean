/-
# `OpShape.Proofs.Operator.View` — the same elements with other sizes.

An operator of this kind keeps the elements as they are, so that it breaks down unless the sizes
that it computes ask for as many elements as there are.  What carries each proof is therefore a
product: of the sizes that are requested, merged, inserted or left out.
-/
import Mathlib.Tactic.Ring
import OpShape.Builtin.Layout
import OpShape.Operator.Layout
import OpShape.Proofs.Operator.Agreement

namespace OpShape

/-! ## Products of sizes -/

theorem elementCount_perm {a b : Sizes} (h : a.Perm b) : elementCount a = elementCount b := by
  induction h with
  | nil => rfl
  | cons size _ ih => rw [elementCount_cons, elementCount_cons, ih]
  | swap x y sizes =>
    simp only [elementCount_cons]
    rw [Nat.mul_left_comm]
  | trans _ _ ih ih' => exact ih.trans ih'

theorem elementCount_insertIdx {sizes : Sizes} {dim : Nat} (h : dim ≤ sizes.length) (size : Nat) :
    elementCount (sizes.insertIdx dim size) = size * elementCount sizes :=
  elementCount_perm (List.perm_insertIdx size sizes h)

theorem elementCount_filter_ne_one (sizes : Sizes) :
    elementCount (sizes.filter fun size => size != 1) = elementCount sizes := by
  induction sizes with
  | nil => rfl
  | cons size sizes ih =>
    by_cases hone : size = 1
    · subst hone
      rw [List.filter_cons_of_neg (by simp), ih, elementCount_cons, Nat.one_mul]
    · rw [List.filter_cons_of_pos (by simpa using hone), elementCount_cons, elementCount_cons, ih]

theorem elementCount_eraseIdx_one {sizes : Sizes} {dim : Nat} (h : sizes[dim]? = some 1) :
    elementCount (sizes.eraseIdx dim) = elementCount sizes := by
  induction sizes generalizing dim with
  | nil => rfl
  | cons size sizes ih =>
    cases dim with
    | zero =>
      obtain rfl : size = 1 := Option.some.inj h
      rw [List.eraseIdx_cons_zero, elementCount_cons, Nat.one_mul]
    | succ dim =>
      rw [List.getElem?_cons_succ] at h
      rw [List.eraseIdx_cons_succ, elementCount_cons, elementCount_cons, ih h]

/-- A product may be cut at two places. -/
theorem elementCount_cut (sizes : Sizes) {first last : Nat} (h : first ≤ last) :
    elementCount sizes = elementCount (sizes.take first) *
      (elementCount ((sizes.take last).drop first) * elementCount (sizes.drop last)) := by
  have hfront : sizes.take first = (sizes.take last).take first := by
    rw [List.take_take, Nat.min_eq_left h]
  rw [hfront, ← Nat.mul_assoc, ← elementCount_append, List.take_append_drop,
    ← elementCount_append, List.take_append_drop]

namespace Operator

open Tensor (HasSizes answers_withSizes answers_ofOffsets)

/-! ## Requested sizes -/

/-- **Requested sizes are counted alike**, by a fold over a record or by a recursion. -/
theorem countKnown_alike (sizes : List Int) (request : Rule.ViewRequest) :
    Alike (fun request counted => counted = (request.known, request.inferred))
      (sizes.foldlM Rule.ViewRequest.add request)
      (countKnown request.known request.inferred sizes) := by
  induction sizes generalizing request with
  | nil => rfl
  | cons size sizes ih =>
    rw [List.foldlM_cons]
    unfold Rule.ViewRequest.add countKnown
    by_cases hopen : size = -1
    · rw [if_pos hopen, if_pos hopen]
      by_cases htwice : request.inferred = true
      · rw [if_pos htwice, if_pos htwice]
        exact alike_error_error
      · rw [if_neg htwice, if_neg htwice, ok_bind]
        exact ih { request with inferred := true }
    · rw [if_neg hopen, if_neg hopen]
      by_cases hneg : size < 0
      · rw [if_pos hneg, if_pos hneg]
        exact alike_error_error
      · rw [if_neg hneg, if_neg hneg]
        dsimp only
        -- A product that is no word any more is refused on both sides.
        by_cases hover : Nat.pow 2 64 ≤ request.known * size.toNat
        · rw [if_neg (Nat.not_lt.mpr hover), if_pos hover]
          exact alike_error_error
        · rw [if_pos (Nat.not_le.mp hover), if_neg hover, ok_bind]
          exact ih { request with known := request.known * size.toNat }

/-- The sizes that are requested, with a number in the place of the open one. -/
def sizesWith (fill : Nat) (sizes : List Int) : Sizes :=
  sizes.map fun size => if size = -1 then fill else size.toNat

theorem sizesWith_cons (fill : Nat) (size : Int) (sizes : List Int) :
    sizesWith fill (size :: sizes) =
      (if size = -1 then fill else size.toNat) :: sizesWith fill sizes := rfl

/-- After a size has been left open no other one is, and the rest is a plain product. -/
theorem countKnown_open {sizes : List Int} {known total : Nat} {found : Bool}
    (h : countKnown known true sizes = .ok (total, found)) :
    found = true ∧ ∀ fill, elementCount (sizesWith fill sizes) * known = total := by
  induction sizes generalizing known with
  | nil =>
    obtain ⟨rfl, rfl⟩ := Prod.mk.inj (Except.ok.inj h)
    exact ⟨rfl, fun _ => Nat.one_mul known⟩
  | cons size sizes ih =>
    unfold countKnown at h
    by_cases hopen : size = -1
    · rw [if_pos hopen] at h
      cases h
    · rw [if_neg hopen] at h
      split at h
      · cases h
      · split at h
        · cases h
        · obtain ⟨hfound, hproduct⟩ := ih h
          refine ⟨hfound, ?_⟩
          intro fill
          rw [sizesWith_cons, if_neg hopen, elementCount_cons, ← hproduct fill]
          ring

/-- **What is counted is the product of the requested sizes** without the open one. -/
theorem countKnown_product {sizes : List Int} {known total : Nat} {found : Bool}
    (h : countKnown known false sizes = .ok (total, found)) (fill : Nat) :
    elementCount (sizesWith fill sizes) * known = total * if found then fill else 1 := by
  induction sizes generalizing known with
  | nil =>
    obtain ⟨rfl, rfl⟩ := Prod.mk.inj (Except.ok.inj h)
    exact Nat.mul_comm 1 known
  | cons size sizes ih =>
    unfold countKnown at h
    by_cases hopen : size = -1
    · rw [if_pos hopen] at h
      -- The open size itself is not counted, and from here on no other one may be open.
      obtain ⟨rfl, hproduct⟩ := countKnown_open h
      rw [sizesWith_cons, if_pos hopen, elementCount_cons, ← hproduct fill, if_pos rfl]
      ring
    · rw [if_neg hopen] at h
      split at h
      · cases h
      · split at h
        · cases h
        · rw [sizesWith_cons, if_neg hopen, elementCount_cons, ← ih h]
          ring

/-- **A view gets the same sizes on both sides**, and they ask for the elements that are there. -/
theorem reshapeSizes_alike (shape : Sizes) (sizes : List Int) :
    Alike (fun out out' => out = out' ∧ elementCount out = elementCount shape)
      (Rule.view shape sizes) (reshapeSizes (elementCount shape) sizes) := by
  generalize hcount : elementCount shape = count
  unfold Rule.view reshapeSizes
  rw [hcount]
  refine (countKnown_alike sizes { inferred := false, known := 1 }).and_eq_ok.bind ?_
  rintro ⟨inferred, known⟩ _ ⟨rfl, hok⟩
  have hproduct := countKnown_product hok
  simp only [Nat.mul_one] at hproduct
  dsimp only
  unfold Rule.ViewRequest.inferredSize
  dsimp only
  cases inferred with
  | true =>
    by_cases hzero : known = 0
    · simp only [if_true, if_pos hzero, if_pos (Or.inl hzero : known = 0 ∨ count % known ≠ 0)]
      exact alike_error_error
    · simp only [if_true, if_neg hzero, Checked.mod_of_ne_zero hzero, ok_bind]
      -- What is inferred fills the count exactly, or is refused.
      by_cases hrest : count % known = 0
      · have hfine : ¬ (known = 0 ∨ count % known ≠ 0) := by
          rintro (h | h)
          · exact hzero h
          · exact h hrest
        rw [if_pos hrest, if_neg hfine, Checked.div_of_ne_zero hzero, ok_bind]
        refine ⟨rfl, ?_⟩
        show elementCount (sizesWith (count / known) sizes) = count
        rw [hproduct, if_pos rfl]
        exact Nat.mul_div_cancel' (Nat.dvd_of_mod_eq_zero hrest)
      · rw [if_neg hrest, if_pos (Or.inr hrest)]
        exact alike_error_error
  | false =>
    simp only [Bool.false_eq_true, if_false]
    by_cases hsame : known = count
    · rw [if_pos hsame, if_neg (not_not.mpr hsame), ok_bind]
      -- Zero stands in for an open size in the rule, and it is what a negative number rounds to.
      have hfill : sizesWith 0 sizes = sizes.map Int.toNat := by
        apply List.map_congr_left
        intro size _
        by_cases hopen : size = -1
        · rw [if_pos hopen, hopen]
          rfl
        · rw [if_neg hopen]
      refine ⟨hfill, ?_⟩
      show elementCount (sizesWith 0 sizes) = count
      rw [hproduct, if_neg Bool.false_ne_true, Nat.mul_one, hsame]
    · rw [if_neg hsame, if_pos hsame]
      exact alike_error_error

theorem reshapeOf_follows (limit : Nat) (name : String) :
    Follows limit (reshapeOf name) (Builtin.withInts Rule.view name) := by
  intro bound hfits
  unfold reshapeOf Builtin.withInts
  apply (alike_floatArg "self" hfits).bind
  rintro _ input ⟨rfl, -⟩
  apply (alike_ints name hfits).bind
  rintro sizes _ ⟨rfl, -⟩
  rw [← bind_pure (Rule.view input.sizes sizes)]
  apply (reshapeSizes_alike input.sizes sizes).bind
  rintro out _ ⟨rfl, hcount⟩
  exact Alike.single (Answers.alike (answers_withSizes hcount.symm))

/-! ## Other numbers of elements -/

theorem toSizes_alike (sizes : List Int) :
    Alike Eq (Rule.sizesToShape sizes) (toSizes sizes) := by
  apply Alike.mapM_eq
  intro size _
  unfold toSize
  apply alike_guard
  intro _
  rfl

/-- A tensor may be resized to anything.  The operator reads it, unlike the rule, so that it has to
be there. -/
theorem resizeOf_alike {bound : TensorArgs} {limit : Nat} (hfits : bound.Fits limit)
    (hself : ∃ tensor, bound.tensor "self" = .ok tensor) :
    Alike SingleOf (Builtin.resized (bound.map RealTensor.sizes)) (resizeOf bound) := by
  obtain ⟨tensor, htensor⟩ := hself
  unfold resizeOf Builtin.resized
  rw [floatArg_eq "self" htensor, ok_bind]
  apply (alike_ints "size" hfits).bind
  rintro sizes _ ⟨rfl, -⟩
  rw [← bind_pure (Rule.sizesToShape sizes)]
  apply (toSizes_alike sizes).bind
  rintro out _ rfl
  exact Alike.single (Answers.alike (answers_ofOffsets fun _ _ => trivial))

/-! ## Merged, inserted and removed dimensions -/

theorem flattenOf_follows (limit : Nat) :
    Follows limit flattenOf (Builtin.withDims Rule.flatten "start_dim" "end_dim") := by
  intro bound hfits
  unfold flattenOf Builtin.withDims Rule.flatten
  apply (alike_floatArg "self" hfits).bind
  rintro _ input ⟨rfl, -⟩
  apply (alike_int "start_dim" bound).bind
  rintro startDim _ rfl
  refine alike_comm_right.mpr ((alike_int "end_dim" bound).bind ?_)
  rintro endDim _ rfl
  apply (alike_axis startDim input.sizes.length).bind
  rintro first _ ⟨rfl, hfirst⟩
  apply (alike_axis endDim input.sizes.length).bind
  rintro last _ ⟨rfl, hlast⟩
  apply alike_guard
  intro horder
  by_cases hscalar : input.sizes = []
  · have hlength : input.sizes.length = 0 := List.length_eq_zero_iff.mpr hscalar
    have hempty : input.sizes.isEmpty = true := List.isEmpty_iff.mpr hscalar
    rw [if_pos hempty, if_pos hlength]
    apply Alike.single
    apply Answers.alike
    apply answers_withSizes
    rw [hscalar]
    rfl
  · have hlength : ¬ input.sizes.length = 0 := mt List.length_eq_zero_iff.mp hscalar
    have hempty : ¬ input.sizes.isEmpty = true := mt List.isEmpty_iff.mp hscalar
    rw [if_neg hempty, if_neg hlength, Checked.slice_of_le (Nat.zero_le first) (by omega),
      ok_bind, Checked.slice_of_le (by omega) (by omega), ok_bind,
      Checked.slice_of_le (by omega) (Nat.le_refl _), ok_bind, List.drop_zero, List.take_length]
    apply Alike.single
    apply Answers.alike
    apply answers_withSizes
    rw [elementCount_append, elementCount_cons]
    exact elementCount_cut input.sizes (by omega)

theorem unsqueezeOf_follows (limit : Nat) :
    Follows limit unsqueezeOf (Builtin.withDim Rule.unsqueeze) := by
  intro bound hfits
  unfold unsqueezeOf Builtin.withDim Rule.unsqueeze
  apply (alike_floatArg "self" hfits).bind
  rintro _ input ⟨rfl, -⟩
  apply (alike_int "dim" bound).bind
  rintro dim _ rfl
  apply (alike_axis dim (input.sizes.length + 1)).bind
  rintro axis _ ⟨rfl, haxis⟩
  have hle : axis ≤ input.sizes.length := by omega
  rw [Checked.insertIdx_of_le hle, Checked.insertIdx_of_le hle, ok_bind]
  apply Alike.single
  apply Answers.alike
  apply answers_withSizes
  rw [elementCount_insertIdx hle, Nat.one_mul]

theorem squeezeOf_follows (limit : Nat) : Follows limit squeezeOf Builtin.squeezed := by
  intro bound hfits
  unfold squeezeOf Builtin.squeezed Rule.squeeze
  apply (alike_floatArg "self" hfits).bind
  rintro _ input ⟨rfl, -⟩
  have hfilter : (input.sizes.filter fun size => size ≠ 1) =
      input.sizes.filter fun size => size != 1 := by
    apply List.filter_congr
    intro size _
    by_cases hone : size = 1 <;> simp [hone]
  rw [hfilter]
  apply Alike.single
  apply Answers.alike
  apply answers_withSizes
  exact (elementCount_filter_ne_one input.sizes).symm

/-- Leaving out a dimension of size one by its number is erasing it. -/
theorem squeezeDim_sizes (sizes : Sizes) (dim : Nat) :
    ((sizes.zipIdx.filter fun entry => entry.2 ≠ dim || entry.1 ≠ 1).map Prod.fst) =
      if sizes[dim]? = some 1 then sizes.eraseIdx dim else sizes := by
  have hfrom : ∀ start, (((sizes.zipIdx start).filter fun entry =>
      entry.2 ≠ start + dim || entry.1 ≠ 1).map Prod.fst) =
        if sizes[dim]? = some 1 then sizes.eraseIdx dim else sizes := by
    induction sizes generalizing dim with
    | nil =>
      intro start
      simp
    | cons size sizes ih =>
      intro start
      rw [List.zipIdx_cons]
      cases dim with
      | zero =>
        -- Behind the dimension itself nothing is left out.
        have hrest : (((sizes.zipIdx (start + 1)).filter fun entry =>
            entry.2 ≠ start + 0 || entry.1 ≠ 1).map Prod.fst) = sizes := by
          rw [List.filter_eq_self.mpr]
          · exact List.zipIdx_map_fst (start + 1) sizes
          · intro entry hentry
            have hle := List.le_snd_of_mem_zipIdx hentry
            have hne : entry.2 ≠ start := by omega
            simp [hne]
        by_cases hone : size = 1
        · rw [List.filter_cons_of_neg (by simp [hone]), hrest, hone]
          rfl
        · have hhead : ¬ (size :: sizes)[0]? = some 1 := fun h => hone (Option.some.inj h)
          rw [List.filter_cons_of_pos (by simp [hone]), List.map_cons, hrest, if_neg hhead]
      | succ dim =>
        have hshift : start + (dim + 1) = start + 1 + dim := by omega
        have hne : start ≠ start + 1 + dim := by omega
        rw [hshift, List.filter_cons_of_pos (by simp [hne]), List.map_cons, ih dim (start + 1),
          List.getElem?_cons_succ]
        split
        · rw [List.eraseIdx_cons_succ]
        · rfl
  have h := hfrom 0
  rwa [Nat.zero_add] at h

theorem squeezeDimOf_follows (limit : Nat) :
    Follows limit squeezeDimOf (Builtin.withDim Rule.squeezeDim) := by
  intro bound hfits
  unfold squeezeDimOf Builtin.withDim Rule.squeezeDim
  apply (alike_floatArg "self" hfits).bind
  rintro _ input ⟨rfl, -⟩
  apply (alike_int "dim" bound).bind
  rintro dim _ rfl
  apply (alike_axis dim input.sizes.length).bind
  rintro axis _ ⟨rfl, -⟩
  rw [squeezeDim_sizes]
  by_cases hone : input.sizes[axis]? = some 1
  · rw [if_pos hone, if_pos hone]
    apply Alike.single
    apply Answers.alike
    apply answers_withSizes
    exact (elementCount_eraseIdx_one hone).symm
  · rw [if_neg hone, if_neg hone]
    exact ⟨input, rfl, rfl⟩

end Operator

end OpShape

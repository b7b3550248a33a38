/-
# `OpShape.Proofs.Operator.ConcatParts` — the tensors that a concatenation is made of.

A concatenation holds its tensors one behind the other: a place of one of them is found again if its
coordinate along the axis is moved behind all tensors in front of it.  So the range of the axis that
begins there and is as long as the tensor picks exactly that tensor, shape and elements, as long as
the size of the whole is a signed word: that of a larger one is taken for a negative number.
-/
import OpShape.Proofs.Operator.SameCalls
import OpShape.Proofs.Rule.Concat

namespace OpShape

/-! ## Offsets around an axis -/

/-- **An offset around an axis**: the row that the coordinates in front of the axis name, then the
coordinate along it, then the place that the others name. -/
theorem ravel_around {index : List Nat} {sizes : Sizes} {axis i : Nat}
    (hlength : index.length = sizes.length) (hi : index[axis]? = some i) :
    ravel index sizes =
      ravel (index.take axis) (sizes.take axis) *
          (sizeAt sizes axis * elementCount (sizes.drop (axis + 1))) +
        (i * elementCount (sizes.drop (axis + 1)) +
          ravel (index.drop (axis + 1)) (sizes.drop (axis + 1))) := by
  induction sizes generalizing index axis with
  | nil =>
    rw [List.eq_nil_of_length_eq_zero hlength] at hi
    cases hi
  | cons size sizes ih =>
    cases index with
    | nil => cases hi
    | cons first index =>
      cases axis with
      | zero =>
        obtain rfl : first = i := Option.some.inj hi
        show first * elementCount sizes + ravel index sizes =
          0 * (size * elementCount sizes) + (first * elementCount sizes + ravel index sizes)
        rw [Nat.zero_mul, Nat.zero_add]
      | succ axis =>
        have hlength' : index.length = sizes.length := Nat.succ.inj hlength
        have haxis : axis < sizes.length := by
          obtain ⟨hlt, -⟩ := List.getElem?_eq_some_iff.mp hi
          exact hlength' ▸ Nat.lt_of_succ_lt_succ hlt
        have hsize : sizeAt (size :: sizes) (axis + 1) = sizeAt sizes axis := rfl
        rw [List.take_succ_cons, List.take_succ_cons, List.drop_succ_cons, List.drop_succ_cons, hsize]
        show first * elementCount sizes + ravel index sizes =
          (first * elementCount (sizes.take axis) + ravel (index.take axis) (sizes.take axis)) * _ + _
        rw [ih hlength' hi, elementCount_around haxis, Nat.add_mul, Nat.mul_assoc, Nat.add_assoc]

/-- An entry of a list is found behind the lists in front of it. -/
theorem getElem?_flatten_behind {α β : Type} {R : α → List β → Prop} {span : α → Nat}
    (hspan : ∀ x chunk, R x chunk → chunk.length = span x) {before after : List α} {x : α}
    {chunks : List (List β)} (h : List.Forall₂ R (before ++ x :: after) chunks) {place : Nat}
    (hplace : place < span x) :
    ∃ chunk, R x chunk ∧ chunks.flatten[totalSize (before.map span) + place]? = chunk[place]? := by
  induction before generalizing chunks with
  | nil =>
    cases h with
    | @cons _ chunk _ chunks hchunk hrest =>
      refine ⟨chunk, hchunk, ?_⟩
      rw [List.flatten_cons, List.map_nil, totalSize_nil, Nat.zero_add,
        List.getElem?_append_left (hspan x chunk hchunk ▸ hplace)]
  | cons y before ih =>
    cases h with
    | @cons _ first _ chunks hfirst hrest =>
      obtain ⟨chunk, hchunk, hread⟩ := ih hrest
      refine ⟨chunk, hchunk, ?_⟩
      rw [List.flatten_cons, List.map_cons, totalSize_cons, ← hspan y first hfirst, Nat.add_assoc,
        List.getElem?_append_right (Nat.le_add_right _ _), Nat.add_sub_cancel_left, hread]

namespace Operator

open Rule (Joins)
open Tensor (fetch_eq_ok)

variable {α : Type} {axis : Nat}

/-! ## The rows of a concatenation -/

/-- How far tensors reach along an axis, one behind the other. -/
def reach (tensors : List (Tensor α)) (axis : Nat) : Nat :=
  totalSize (tensors.map fun tensor => sizeAt tensor.sizes axis)

/-- The tensors that are put behind each other. -/
abbrev keptTensors (tensors : List (Tensor α)) : List (Tensor α) :=
  tensors.filter fun tensor => !isEmptyVector tensor

/-- The elements of one row of a tensor, which reaches over an axis and all dimensions behind it. -/
structure IsRow (tensor : Tensor α) (axis inner row : Nat) (elements : List α) : Prop where
  length : elements.length = sizeAt tensor.sizes axis * inner
  get : ∀ column < sizeAt tensor.sizes axis * inner,
    elements[column]? = tensor.data[row * (sizeAt tensor.sizes axis * inner) + column]?

theorem isRow_of_chunk {tensor : Tensor α} {inner row : Nat} {elements : List α}
    (haxis : axis < tensor.sizes.length) (h : chunk tensor axis inner row = .ok elements) :
    IsRow tensor axis inner row elements := by
  unfold chunk at h
  rw [get_eq_sizeAt haxis, ok_bind] at h
  obtain ⟨window, hwindow, h⟩ := bind_eq_ok.mp h
  rw [← Except.ok.inj h]
  exact ⟨(row_reads hwindow).1, (row_reads hwindow).2⟩

/-- **`Consists axis tensors output`** — each row of the output consists of a row of each of the
tensors, one behind the other. -/
structure Consists (axis : Nat) (tensors : List (Tensor α)) (output : Tensor α) : Prop where
  joins : Joins axis (tensors.map Tensor.sizes) output.sizes
  rows : ∃ rows : List (List (List α)),
    List.Forall₂
      (fun row chunks => List.Forall₂
        (fun tensor => IsRow tensor axis (elementCount (output.sizes.drop (axis + 1))) row)
        tensors chunks)
      (List.range (elementCount (output.sizes.take axis))) rows ∧
    output.data = (rows.map List.flatten).flatten.toArray

/-- The sizes of tensors along an axis that all of them have. -/
theorem mapM_get_axis {tensors : List (Tensor α)}
    (haxis : ∀ tensor ∈ tensors, axis < tensor.sizes.length) :
    (tensors.mapM fun tensor => Checked.get tensor.sizes axis : OpResult (List Nat)) =
      .ok (tensors.map fun tensor => sizeAt tensor.sizes axis) := by
  rw [mapM_eq_ok, List.forall₂_map_right_iff, List.forall₂_same]
  intro tensor htensor
  exact get_eq_sizeAt (haxis tensor htensor)

/-- **A concatenation consists of the tensors that are not passed over**; if all of them are, it is
an empty vector itself. -/
theorem consists_of_concat {tensors : List (Tensor α)} {dim : Int} {output : Tensor α}
    (h : concat tensors dim = .ok output) :
    (keptTensors tensors = [] ∧ output.sizes = [0]) ∨
      ∃ axis, resolveAxis output.sizes.length dim = .ok axis ∧
        Consists axis (keptTensors tensors) output := by
  unfold concat invalid Checked.refuse at h
  rw [guarded_eq_ok, guarded_eq_ok] at h
  obtain ⟨-, hscalar, h⟩ := h
  unfold keptTensors
  cases hkept : tensors.filter fun tensor => !isEmptyVector tensor with
  | nil =>
    rw [hkept] at h
    exact .inl ⟨rfl, (Tensor.ofData_eq_ok.mp h).1⟩
  | cons first others =>
    rw [hkept] at h
    obtain ⟨axis, haxis, h⟩ := bind_eq_ok.mp h
    obtain ⟨_, hmatch, h⟩ := bind_eq_ok.mp h
    have hfirst : first ∈ tensors := by
      have hmem : first ∈ tensors.filter fun tensor => !isEmptyVector tensor := by
        rw [hkept]
        exact List.mem_cons_self
      exact (List.mem_filter.mp hmem).1
    have hrank : first.sizes ≠ [] := by
      intro hnil
      refine hscalar (List.any_eq_true.mpr ⟨first, hfirst, ?_⟩)
      rw [hnil]
      rfl
    have hlt := axis_lt hrank haxis
    have hmatches : ∀ tensor ∈ first :: others, Matches first.sizes axis tensor.sizes :=
      fun tensor htensor => Rule.requireMatch_eq_ok.mp (forM_eq_ok.mp hmatch tensor htensor)
    rw [mapM_get_axis fun tensor htensor => (hmatches tensor htensor).length ▸ hlt, ok_bind,
      Checked.set_of_lt hlt, ok_bind] at h
    obtain ⟨rows, hrows, h⟩ := bind_eq_ok.mp h
    obtain ⟨hsizes, hdata⟩ := Tensor.ofData_eq_ok.mp h
    have hset := matches_set first.sizes axis (reach (first :: others) axis)
    have hlength : output.sizes.length = first.sizes.length := by rw [hsizes, List.length_set]
    refine .inr ⟨axis, hlength ▸ haxis, ⟨hlength ▸ hlt, ?_, ?_⟩, rows, ?_, hdata⟩
    · rw [hsizes, List.forall_mem_map]
      exact fun tensor htensor => hset.symm.trans (hmatches tensor htensor)
    · rw [hsizes, sizeAt_set hlt, List.map_map]
      rfl
    · rw [hsizes]
      apply (mapM_eq_ok.mp hrows).imp
      intro row chunks hchunks
      have hboth := (List.forall₂_and_left _ _).mpr
        ⟨fun _ htensor => htensor, mapM_eq_ok.mp hchunks⟩
      exact hboth.imp fun tensor elements ⟨htensor, helements⟩ =>
        isRow_of_chunk ((hmatches tensor htensor).length ▸ hlt) helements

/-! ## Places of a concatenation -/

variable {before after : List (Tensor α)} {tensor output : Tensor α}

/-- A tensor ends where the concatenation does, or in front of that. -/
theorem Consists.reach_le (h : Consists axis (before ++ tensor :: after) output) :
    reach before axis + sizeAt tensor.sizes axis ≤ sizeAt output.sizes axis := by
  rw [h.joins.total, List.map_map, List.map_append, List.map_cons, totalSize_eq_sum, List.sum_append,
    List.sum_cons, ← totalSize_eq_sum]
  unfold reach
  simp only [Function.comp_def]
  omega

theorem Consists.same (h : Consists axis (before ++ tensor :: after) output) :
    Matches output.sizes axis tensor.sizes :=
  h.joins.same _ (List.mem_map_of_mem (by simp))

/-- **A row of the output holds the row of a tensor** behind those of the tensors in front of it. -/
theorem Consists.row_reads (h : Consists axis (before ++ tensor :: after) output) {row column : Nat}
    (hrow : row < elementCount (output.sizes.take axis))
    (hcolumn : column < sizeAt tensor.sizes axis * elementCount (output.sizes.drop (axis + 1))) :
    output.data[row * (sizeAt output.sizes axis * elementCount (output.sizes.drop (axis + 1))) +
        (reach before axis * elementCount (output.sizes.drop (axis + 1)) + column)]? =
      tensor.data[row * (sizeAt tensor.sizes axis * elementCount (output.sizes.drop (axis + 1))) +
        column]? := by
  obtain ⟨rows, hrows, hdata⟩ := h.rows
  have hend := Nat.mul_le_mul_right (elementCount (output.sizes.drop (axis + 1))) h.reach_le
  rw [Nat.add_mul] at hend
  have htotal : reach (before ++ tensor :: after) axis = sizeAt output.sizes axis := by
    rw [h.joins.total, List.map_map]
    rfl
  generalize elementCount (output.sizes.drop (axis + 1)) = inner at hrows hcolumn hend ⊢
  have hwidth : ∀ entries ∈ rows.map List.flatten,
      entries.length = sizeAt output.sizes axis * inner := by
    intro entries hentries
    obtain ⟨chunks, hchunks, rfl⟩ := List.mem_map.mp hentries
    obtain ⟨other, -, hchunks⟩ := exists_of_forall₂_right hrows hchunks
    rw [length_flatten_of_forall₂ (hchunks.imp fun _ _ hchunk => hchunk.length), totalSize_map_mul,
      ← htotal]
    rfl
  have hrow' : row < rows.length := by rwa [← hrows.length_eq, List.length_range]
  obtain ⟨number, hnumber, hchunks⟩ := getElem?_of_forall₂ hrows (List.getElem?_eq_getElem hrow')
  obtain rfl : row = number := by simpa using (List.getElem?_eq_some_iff.mp hnumber).2
  obtain ⟨elements, helements, hread⟩ :=
    getElem?_flatten_behind (fun _ _ hchunk => hchunk.length) hchunks hcolumn
  rw [totalSize_map_mul] at hread
  have hpos : 0 < sizeAt output.sizes axis * inner := by omega
  have hplace : reach before axis * inner + column < sizeAt output.sizes axis * inner := by omega
  rw [hdata, List.getElem?_toArray, getElem?_flatten_of_width hwidth hpos,
    Nat.add_comm (row * _), Nat.add_mul_div_right _ _ hpos, Nat.div_eq_of_lt hplace, Nat.zero_add,
    Nat.add_mul_mod_self_right, Nat.mod_eq_of_lt hplace, List.getElem?_map,
    List.getElem?_eq_getElem hrow', ← helements.get column hcolumn]
  exact hread

/-- **A place of a tensor is found again in the concatenation**, moved along the axis behind the
tensors in front of it. -/
theorem Consists.at?_eq (h : Consists axis (before ++ tensor :: after) output) {place : List Nat}
    {i : Nat} (hinside : Inside place tensor.sizes) (hi : place[axis]? = some i) :
    (output.at? (place.set axis (reach before axis + i)) : OpResult α) = tensor.at? place := by
  have hsame := h.same
  have hi' : (place.set axis (reach before axis + i))[axis]? = some (reach before axis + i) :=
    List.getElem?_set_self (List.getElem?_eq_some_iff.mp hi).1
  have hlength : (place.set axis (reach before axis + i)).length = output.sizes.length := by
    rw [List.length_set, hinside.length, hsame.length]
  have hrow := ravel_lt (List.forall₂_take axis hinside)
  have hcolumn := row_add_lt (hinside.getElem_lt hi) (ravel_lt (List.forall₂_drop (axis + 1) hinside))
  rw [hsame.take] at hrow
  rw [hsame.drop] at hcolumn
  have hread := h.row_reads hrow hcolumn
  have hanswers : Tensor.AnswersAtAll (tensor.at? place : OpResult α) := Tensor.answers_at? hinside
  obtain ⟨x, hx, -⟩ := answers_iff.mp hanswers
  rw [hx]
  unfold Tensor.at? at hx ⊢
  rw [fetch_eq_ok] at hx ⊢
  rw [ravel_around hinside.length hi, hsame.take, hsame.drop] at hx
  rw [ravel_around hlength hi', List.take_set_of_le (Nat.le_refl axis),
    List.drop_set_of_lt (Nat.lt_succ_self axis), Nat.add_mul, Nat.add_assoc, hread]
  exact hx

/-- **The range of a tensor is the tensor.** -/
theorem Consists.slice_eq (h : Consists axis (before ++ tensor :: after) output) :
    slice output axis (reach before axis) (sizeAt tensor.sizes axis) 1 = .ok tensor := by
  have haxis := h.joins.axis_lt
  have hsizes : tensor.sizes = output.sizes.set axis (sizeAt tensor.sizes axis) :=
    ((matches_set output.sizes axis _).symm.trans h.same).eq
      (by rw [List.length_set]; exact haxis) (sizeAt_set haxis _).symm
  unfold slice
  rw [Checked.set_of_lt haxis, ok_bind, ← hsizes]
  refine Tensor.ofIndices_eq_ok.mpr ⟨rfl, fun place hinside => ?_⟩
  have hplace : axis < place.length := by
    rw [hinside.length, h.same.length]
    exact haxis
  rw [Checked.get_of_lt hplace, ok_bind, Nat.mul_one]
  exact h.at?_eq hinside (List.getElem?_eq_getElem hplace)

/-! ## A tensor that has parts at their places -/

theorem reach_cons (first : Tensor α) (tensors : List (Tensor α)) :
    reach (first :: tensors) axis = sizeAt first.sizes axis + reach tensors axis := rfl

/-- A position along the axis lies in one of the tensors. -/
theorem exists_part {tensors : List (Tensor α)} {position : Nat} (h : position < reach tensors axis) :
    ∃ before tensor after i, tensors = before ++ tensor :: after ∧ i < sizeAt tensor.sizes axis ∧
      position = reach before axis + i := by
  induction tensors generalizing position with
  | nil => cases h
  | cons first tensors ih =>
    rw [reach_cons] at h
    by_cases hfirst : position < sizeAt first.sizes axis
    · exact ⟨[], first, tensors, position, rfl, hfirst, (Nat.zero_add position).symm⟩
    · have hrest : position - sizeAt first.sizes axis < reach tensors axis := by omega
      obtain ⟨before, tensor, after, i, rfl, hi, hposition⟩ := ih hrest
      refine ⟨first :: before, tensor, after, i, rfl, hi, ?_⟩
      rw [reach_cons]
      omega

theorem resolveAxis_natCast {rank : Nat} (h : axis < rank) : resolveAxis rank axis = .ok axis := by
  unfold resolveAxis
  dsimp only
  rw [if_neg (Nat.ne_of_gt (Nat.zero_lt_of_lt h)), if_neg (by omega), if_neg (by omega),
    Int.toNat_natCast]

/-- Tensors that join are concatenated, if none of them is passed over. -/
theorem exists_concat {parts : List (Tensor α)} {sizes : Sizes} (hsome : parts ≠ [])
    (hkept : ∀ part ∈ parts, isEmptyVector part = false)
    (hjoins : Joins axis (parts.map Tensor.sizes) sizes) :
    ∃ output, concat parts axis = .ok output ∧ output.sizes = sizes := by
  have haxis := hjoins.axis_lt
  have hshapes : Rule.keptShapes (parts.map Tensor.sizes) = parts.map Tensor.sizes := by
    rw [List.filter_eq_self, List.forall_mem_map]
    exact fun part hpart => congrArg (!·) (hkept part hpart)
  have hscalar : [] ∉ parts.map Tensor.sizes := by
    intro hmem
    have hlength := (hjoins.same [] hmem).length
    rw [← hlength] at haxis
    cases haxis
  have hdim : Rule.resolveDim axis sizes.length = .ok axis := by
    unfold Rule.resolveDim
    dsimp only
    rw [if_neg (by omega), if_neg (by omega), Int.toNat_natCast]
  have hrule : Rule.cat (parts.map Tensor.sizes) axis = .ok sizes := by
    refine Rule.cat_eq_ok.mpr ⟨by simpa using hsome, hscalar, ?_⟩
    rw [hshapes]
    exact .some (by simpa using hsome) hdim hjoins
  have halike := concat_alike parts axis
  rw [hrule] at halike
  exact halike.ok

/-- An index of what the parts join to is one of the part in which its coordinate along the axis
lies, behind the parts in front of it. -/
theorem exists_place {parts : List (Tensor α)} {sizes : Sizes} {index : List Nat}
    (hjoins : Joins axis (parts.map Tensor.sizes) sizes) (hindex : Inside index sizes) :
    ∃ before part after place i, parts = before ++ part :: after ∧ Inside place part.sizes ∧
      place[axis]? = some i ∧ index = place.set axis (reach before axis + i) := by
  have hlt : axis < index.length := hindex.length ▸ hjoins.axis_lt
  have hposition := hindex.getElem_lt (List.getElem?_eq_getElem hlt)
  rw [hjoins.total, List.map_map] at hposition
  obtain ⟨before, part, after, i, rfl, hi, hcoordinate⟩ := exists_part hposition
  have hmatch : Matches part.sizes axis sizes := (hjoins.same _ (by simp)).symm
  have hpart : axis < part.sizes.length := hmatch.length ▸ hjoins.axis_lt
  have hwhole : sizes = part.sizes.set axis (sizeAt sizes axis) :=
    ((matches_set part.sizes axis _).symm.trans hmatch).eq
      (by rw [List.length_set]; exact hpart) (sizeAt_set hpart _).symm
  refine ⟨before, part, after, index.set axis i, i, rfl, inside_set (hwhole ▸ hindex) hi,
    List.getElem?_set_self hlt, ?_⟩
  rw [List.set_set, ← hcoordinate, List.set_getElem_self]

/-- **A tensor that has parts at their places is their concatenation**, if none of them is passed
over. -/
theorem concat_of_places {parts : List (Tensor α)} {whole : Tensor α} (hsome : parts ≠ [])
    (hkept : ∀ part ∈ parts, isEmptyVector part = false)
    (hjoins : Joins axis (parts.map Tensor.sizes) whole.sizes)
    (hplaces : ∀ before part after, parts = before ++ part :: after → ∀ place i,
      Inside place part.sizes → place[axis]? = some i →
        (whole.at? (place.set axis (reach before axis + i)) : OpResult α) = part.at? place) :
    concat parts axis = .ok whole := by
  obtain ⟨output, houtput, hsizes⟩ := exists_concat hsome hkept hjoins
  have hall : keptTensors parts = parts :=
    List.filter_eq_self.mpr fun part hpart => by rw [hkept part hpart]; rfl
  rw [houtput]
  obtain ⟨hnone, -⟩ | ⟨axis', haxis, hconsists⟩ := consists_of_concat houtput
  · exact absurd (hall ▸ hnone) hsome
  rw [hall] at hconsists
  obtain rfl : axis = axis' := by
    rw [hsizes, resolveAxis_natCast hjoins.axis_lt] at haxis
    exact Except.ok.inj haxis
  -- At every index both have the element of the part in which the coordinate along the axis lies.
  refine congrArg Except.ok (Tensor.eq_of_at? (ε := OpError) hsizes fun index hindex => ?_)
  obtain ⟨before, part, after, place, i, rfl, hplace, hi, rfl⟩ := exists_place hjoins hindex
  rw [hconsists.at?_eq hplace hi, hplaces before part after rfl place i hplace hi]

/-! ## Nothing is lost, doubled or reordered -/

section Parts

attribute [local irreducible] signed

variable {tensors : List (Tensor Float32)} {part whole : Tensor Float32} {dim : Int}

/-- A range that lies inside a dimension is taken as it is. -/
theorem sliceRange_inside {size start count : Nat} (hsize : size < 2 ^ 63)
    (hinside : start + count ≤ size) :
    sliceRange size (some start) (some (start + count : Nat)) 1 = .ok (start, count) := by
  have hstart : clampedBound size start = start := by
    unfold clampedBound
    omega
  have hstop : clampedBound size (start + count : Nat) = (start + count : Nat) := by
    unfold clampedBound
    omega
  have hcount : rangeCount start (start + count : Nat) 1 = count := by
    unfold rangeCount
    split <;> omega
  obtain ⟨length, hrange, hlength⟩ :=
    sliceRange_eq hsize (some start) (some (start + count : Nat)) Int.zero_lt_one (by decide)
  simp only [Option.getD_some, hstart, hstop] at hrange hlength
  have hfits : RangeFits start (start + count : Nat) 1 := by
    intro _
    omega
  rw [hrange, hlength.mpr hfits, hcount, Int.toNat_natCast, Int.toNat_natCast]

/-- **A concatenation loses, doubles and reorders nothing.**  Along the axis it is as long as its
tensors together, those that are passed over left out, and if that is a signed word, the range behind
the tensors in front of one and as long as that one gives it back, shape and elements. -/
theorem concat_parts (h : concat tensors dim = .ok whole) :
    (∀ axis, resolveAxis whole.sizes.length dim = .ok axis →
      sizeAt whole.sizes axis = reach (keptTensors tensors) axis) ∧
    ∀ before part after, tensors = before ++ part :: after → isEmptyVector part = false →
      ∃ axis, resolveAxis whole.sizes.length dim = .ok axis ∧
        (sizeAt whole.sizes axis < 2 ^ 63 →
          sliceOf (sliceArgs whole dim (some (reach (keptTensors before) axis : Nat))
            (some (reach (keptTensors before) axis + sizeAt part.sizes axis : Nat)) 1) =
              .ok (.one (.float part))) := by
  obtain ⟨hnone, hempty⟩ | ⟨axis, haxis, hconsists⟩ := consists_of_concat h
  · constructor
    · intro axis haxis
      have hlt := axis_lt (hempty ▸ List.cons_ne_nil 0 []) haxis
      rw [hempty] at hlt ⊢
      rw [hnone, Nat.lt_one_iff.mp hlt]
      rfl
    · rintro before part after rfl hpart
      have hmem : part ∈ keptTensors (before ++ part :: after) :=
        List.mem_filter.mpr ⟨by simp, by simp [hpart]⟩
      rw [hnone] at hmem
      cases hmem
  · constructor
    · intro axis' haxis'
      obtain rfl : axis' = axis := Except.ok.inj (haxis'.symm.trans haxis)
      rw [hconsists.joins.total, List.map_map]
      rfl
    · rintro before part after rfl hpart
      refine ⟨axis, haxis, fun hsize => ?_⟩
      have hkept : keptTensors (before ++ part :: after) =
          keptTensors before ++ part :: keptTensors after := by
        unfold keptTensors
        rw [List.filter_append, List.filter_cons_of_pos (by simp [hpart])]
      rw [hkept] at hconsists
      have hrank := List.ne_nil_of_length_pos (Nat.zero_lt_of_lt hconsists.joins.axis_lt)
      rw [sliceOf_eq hrank haxis, sliceRange_inside hsize hconsists.reach_le, ok_bind]
      dsimp only
      rw [show (1 : Int).toNat = 1 from rfl, hconsists.slice_eq]
      rfl

/-- The columns of a table are taken apart again, and an empty vector between them plays no part. -/
theorem concat_parts_columns :
    let first : Tensor Float32 := { sizes := [2, 1], data := #[1, 4], size_data := rfl }
    let others : Tensor Float32 := { sizes := [2, 2], data := #[2, 3, 5, 6], size_data := rfl }
    let table : Tensor Float32 :=
      { sizes := [2, 3], data := #[1, 2, 3, 4, 5, 6], size_data := rfl }
    concat [first, Tensor.vector [], others] (-1) = .ok table ∧
      sliceOf (sliceArgs table (-1) (some 0) (some 1) 1) = .ok (.one (.float first)) ∧
      sliceOf (sliceArgs table (-1) (some 1) (some 3) 1) = .ok (.one (.float others)) := by
  intro first others table
  have hkept : [first, Tensor.vector [], others].filter (fun tensor => !isEmptyVector tensor) =
      [first, others] := rfl
  have haxis : (resolveAxis first.sizes.length (-1) : OpResult Nat) = .ok 1 := rfl
  have hmatch : [first, others].forM (requireMatch first.sizes 1) = .ok () := rfl
  have hconcat : concat [first, Tensor.vector [], others] (-1) = .ok table := by
    unfold concat
    rw [if_neg (by decide), if_neg (by decide), hkept]
    dsimp only
    rw [haxis, ok_bind, hmatch, ok_bind]
    rfl
  have hsize : 3 < 2 ^ 63 := by decide
  obtain ⟨-, hparts⟩ := concat_parts hconcat
  obtain ⟨axis, hfirstAxis, hfirst⟩ := hparts [] first [Tensor.vector [], others] rfl rfl
  obtain ⟨axis', hothersAxis, hothers⟩ := hparts [first, Tensor.vector []] others [] rfl rfl
  obtain rfl : 1 = axis := Except.ok.inj hfirstAxis
  obtain rfl : 1 = axis' := Except.ok.inj hothersAxis
  exact ⟨hconcat, hfirst hsize, hothers hsize⟩

/-- Two halves of 2⁶² rows each, without columns, are concatenated, but no range of the whole gives
one of them back: it breaks down. -/
theorem concat_parts_lost :
    ¬ ∀ (tensors : List (Tensor Float32)) (dim : Int) (whole : Tensor Float32),
      concat tensors dim = .ok whole →
        ∀ before part after, tensors = before ++ part :: after → isEmptyVector part = false →
          ∃ axis, resolveAxis whole.sizes.length dim = .ok axis ∧
            sliceOf (sliceArgs whole dim (some (reach (keptTensors before) axis : Nat))
              (some (reach (keptTensors before) axis + sizeAt part.sizes axis : Nat)) 1) =
                .ok (.one (.float part)) := by
  intro h
  -- Written as a successor, the number of rows is known to be positive without being evaluated.
  obtain ⟨last, hlast⟩ : ∃ last : Nat, last + 1 = 2 ^ 62 := ⟨2 ^ 62 - 1, by decide⟩
  let half : Tensor Float32 := { sizes := [last + 1, 0], data := #[], size_data := rfl }
  let whole : Tensor Float32 :=
    { sizes := [last + 1 + (last + 1 + 0), 0], data := #[], size_data := rfl }
  have hlow : 2 ^ 63 ≤ sizeAt whole.sizes 0 := by
    show 2 ^ 63 ≤ last + 1 + (last + 1 + 0)
    omega
  have hhigh : sizeAt whole.sizes 0 < 2 ^ 64 := by
    show last + 1 + (last + 1 + 0) < 2 ^ 64
    omega
  have hconcat : concat [half, half] 0 = .ok whole := rfl
  obtain ⟨axis, haxis, hslice⟩ := h [half, half] 0 whole hconcat [] half [half] rfl rfl
  obtain rfl : 0 = axis := Except.ok.inj haxis
  rw [sliceOf_oversized (List.cons_ne_nil _ _) haxis hlow hhigh _ _ Int.zero_lt_one] at hslice
  cases hslice

end Parts

end Operator

end OpShape

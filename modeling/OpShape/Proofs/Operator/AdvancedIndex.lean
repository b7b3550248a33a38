/-
# `OpShape.Proofs.Operator.AdvancedIndex` — positions for several dimensions at once.

The index tensors are stretched over each other; their common shape stands where the indexed
dimensions stood if these are neighbours, and else in front.  Both sides find the same sizes.  Every
offset that the operators compute lies inside the source, wherever the index tensors point: a
position that is out of range is refused before it is used.
-/
import OpShape.Proofs.Operator.Broadcast
import OpShape.Proofs.Operator.Gather
import OpShape.Proofs.Operator.Marks

namespace OpShape.Operator

open Tensor (HasSizes answers_fetch answers_ofData)

variable {α : Type}

attribute [local irreducible] signed

/-! ## The common shape of the index tensors -/

/-- The common shape of what was found so far and of one more index tensor, if there is one. -/
def widen (common : Sizes) : Option (Tensor Int) → OpResult Sizes
  | none => .ok common
  | some index =>
    match commonShape? common index.sizes with
    | some common => .ok common
    | none => incompatible "Index tensors could not be broadcast together"

theorem indexShape_eq (indices : List (Option (Tensor Int))) :
    indexShape indices = indices.foldlM widen [] := rfl

/-- The sizes of the index tensors that are there. -/
abbrev indexSizes (indices : List (Option (Tensor Int))) : List (Option Sizes) :=
  indices.map (Option.map Tensor.sizes)

/-- **Both sides find the same common shape** of the index tensors, or neither finds one. -/
theorem indexShape_alike (indices : List (Option (Tensor Int))) :
    Alike Eq (Rule.indexShape (indexSizes indices)) (indexShape indices) := by
  rw [indexShape_eq]
  unfold Rule.indexShape indexSizes
  rw [List.foldlM_filterMap, List.foldlM_map]
  refine Alike.foldlM rfl ?_
  rintro common _ rfl index -
  cases index with
  | none => rfl
  | some index =>
    have hcommon := @broadcast_eq_ok common index.sizes
    unfold widen
    dsimp only [Option.map_some, id]
    cases hshape : commonShape? common index.sizes with
    | some shape =>
      rw [hcommon.mpr hshape]
      rfl
    | none =>
      cases hrule : Rule.broadcast common index.sizes with
      | ok shape =>
        rw [hcommon.mp hrule] at hshape
        cases hshape
      | error failure => cases failure <;> exact alike_error_error

/-- One step after the other, all shapes stretch over what is found in the end. -/
theorem foldlM_widen_stretches {indices : List (Option (Tensor Int))} {start common : Sizes}
    (h : indices.foldlM widen start = .ok common) :
    Stretches start common ∧ ∀ index, some index ∈ indices → Stretches index.sizes common := by
  induction indices generalizing start with
  | nil =>
    obtain rfl : start = common := Except.ok.inj h
    exact ⟨stretches_refl start, fun _ hindex => by cases hindex⟩
  | cons index indices ih =>
    rw [List.foldlM_cons] at h
    obtain ⟨next, hnext, hrest⟩ := bind_eq_ok.mp h
    obtain ⟨hstretches, hothers⟩ := ih hrest
    cases index with
    | none =>
      obtain rfl : start = next := Except.ok.inj hnext
      refine ⟨hstretches, ?_⟩
      intro other hother
      exact hothers other ((List.mem_cons.mp hother).resolve_left (by simp))
    | some index =>
      unfold widen at hnext
      dsimp only at hnext
      split at hnext
      · next shape hshape =>
        obtain rfl : shape = next := Except.ok.inj hnext
        obtain ⟨hstart, hindex⟩ := commonShape_stretches hshape
        refine ⟨hstart.trans hstretches, ?_⟩
        intro other hother
        rcases List.mem_cons.mp hother with heq | hother
        · rw [Option.some.inj heq]
          exact hindex.trans hstretches
        · exact hothers other hother
      · cases hnext

/-! ## Index tensors that are stretched -/

/-- An index tensor that was repeated to fill the common shape, with no positions but its own. -/
inductive Widened (common : Sizes) : Option (Tensor Int) → Option (Tensor Int) → Prop
  | none : Widened common none none
  | some {index wide : Tensor Int} :
      wide.sizes = common → (∀ position ∈ wide.data, position ∈ index.data) →
        Widened common (some index) (some wide)

theorem answers_widened {indices : List (Option (Tensor Int))} {common : Sizes}
    (h : ∀ index, some index ∈ indices → Stretches index.sizes common) :
    Answers (List.Forall₂ (Widened common) indices)
      (indices.mapM fun index =>
        match index with
        | none => .ok none
        | some index => do .ok (some (← broadcastTo index common))) := by
  apply Answers.mapM
  intro index hindex
  cases index with
  | none => exact .none
  | some index =>
    apply (answers_broadcastTo_mem (h index hindex)).bind
    rintro wide ⟨hsizes, hmem⟩
    exact .some hsizes hmem

theorem isSome_of_widened {indices wides : List (Option (Tensor Int))} {common : Sizes}
    (h : List.Forall₂ (Widened common) indices wides) :
    wides.map Option.isSome = indices.map Option.isSome := by
  induction h with
  | nil => rfl
  | cons hwide _ ih =>
    rw [List.map_cons, List.map_cons, ih]
    cases hwide <;> rfl

theorem sizes_of_widened {indices wides : List (Option (Tensor Int))} {common : Sizes}
    (h : List.Forall₂ (Widened common) indices wides) {wide : Tensor Int} (hwide : some wide ∈ wides) :
    wide.sizes = common := by
  obtain ⟨_, -, hwidened⟩ := exists_of_forall₂_right h hwide
  cases hwidened with
  | some hsizes _ => exact hsizes

/-! ## Positions in range -/

/-- Every index tensor holds positions of the dimension that it indexes, where negative ones count
from the end. -/
def IndicesInRange (sizes : Sizes) (indices : List (Option (Tensor Int))) : Prop :=
  ∀ (dim size : Nat) (index : Tensor Int), sizes[dim]? = some size →
    indices[dim]? = some (some index) → InRange size index

/-- Every size of a dimension with an index tensor is a word. -/
def IndexedSizesFit (sizes : Sizes) (indices : List (Option (Tensor Int))) : Prop :=
  ∀ (dim size : Nat) (index : Tensor Int), sizes[dim]? = some size →
    indices[dim]? = some (some index) → size < 2 ^ 63

/-- Every index tensor holds positions that are resolved in the dimension that it indexes. -/
def IndicesResolved (sizes : Sizes) (indices : List (Option (Tensor Int))) : Prop :=
  ∀ (dim size : Nat) (index : Tensor Int), sizes[dim]? = some size →
    indices[dim]? = some (some index) → Resolved size index

theorem IndicesResolved.head {size : Nat} {sizes : Sizes} {index : Tensor Int}
    {indices : List (Option (Tensor Int))}
    (h : IndicesResolved (size :: sizes) (some index :: indices)) : Resolved size index :=
  h 0 size index rfl rfl

theorem IndicesResolved.tail {size : Nat} {sizes : Sizes} {indices : List (Option (Tensor Int))}
    (h : IndicesResolved (size :: sizes) indices) : IndicesResolved sizes (indices.drop 1) := by
  intro dim other index hother hindex
  rw [List.getElem?_drop, Nat.add_comm] at hindex
  exact h (dim + 1) other index hother hindex

/-- To stretch index tensors brings no new position. -/
theorem IndicesResolved.widened {sizes common : Sizes} {indices wides : List (Option (Tensor Int))}
    (h : IndicesResolved sizes indices) (hwide : List.Forall₂ (Widened common) indices wides) :
    IndicesResolved sizes wides := by
  intro dim size wide hsize hdim
  obtain ⟨hlt, hget⟩ := List.getElem?_eq_some_iff.mp hdim
  have hlt' : dim < indices.length := Nat.lt_of_lt_of_eq hlt hwide.length_eq.symm
  have hwidened := hwide.get hlt' hlt
  rw [List.get_eq_getElem, List.get_eq_getElem] at hwidened
  change Widened common indices[dim] wides[dim] at hwidened
  rw [hget] at hwidened
  cases hindex : indices[dim] with
  | none =>
    rw [hindex] at hwidened
    cases hwidened
  | some index =>
    rw [hindex] at hwidened
    cases hwidened with
    | some _ hmem =>
      have hresolved : Resolved size index :=
        h dim size index hsize (by rw [List.getElem?_eq_getElem hlt', hindex])
      exact ⟨hresolved.size_lt, fun position hposition =>
        hresolved.inRange position (hmem position hposition)⟩

/-! ## Coordinates of source elements -/

/-- **The coordinates of a picked element lie inside the source**, where a position that is resolved
is never refused.  Along the list of sizes, an indexed dimension takes its position from an index
tensor, and another one takes the next of the coordinates that are kept. -/
theorem answersIf_sourceCoordinates {entry : Nat} {sizes : Sizes}
    {indices : List (Option (Tensor Int))} {kept : List Nat}
    (hentry : ∀ index, some index ∈ indices → entry < index.data.size)
    (hkept : Inside kept (unmarkedSizes sizes (indices.map Option.isSome))) :
    AnswersIf (IndicesResolved sizes indices) (fun coordinates => Inside coordinates sizes)
      (sourceCoordinates entry sizes indices kept) := by
  induction sizes generalizing indices kept with
  | nil => exact List.Forall₂.nil
  | cons size sizes ih =>
    have hentries : ∀ index, some index ∈ indices.drop 1 → entry < index.data.size :=
      fun index hindex => hentry index (List.mem_of_mem_drop hindex)
    have hmarks : (indices.map Option.isSome).drop 1 = (indices.drop 1).map Option.isSome :=
      List.map_drop.symm
    rw [unmarkedSizes_cons, hmarks] at hkept
    -- The three equations of the recursion are two cases: an index that is there, and none.
    by_cases hindexed : ∃ index rest, indices = some index :: rest
    · obtain ⟨index, indices, rfl⟩ := hindexed
      have hlt : entry < index.data.size := hentry index List.mem_cons_self
      rw [sourceCoordinates, Checked.fetch_of_lt hlt, ok_bind]
      have hposition := (answersIf_resolveIndex size index.data[entry]).of_imp
        fun h : IndicesResolved (size :: sizes) (some index :: indices) =>
          ⟨h.head.size_lt, h.head.inRange _ (Array.getElem_mem hlt)⟩
      apply hposition.bind
      intro position hlt
      apply ((ih hentries hkept).of_imp IndicesResolved.tail).bind
      intro rest hinside
      exact List.Forall₂.cons hlt hinside
    · have hunmarked : (indices.map Option.isSome).head?.getD false = false := by
        rcases indices with _ | ⟨_ | index, indices⟩
        · rfl
        · rfl
        · exact (hindexed ⟨index, indices, rfl⟩).elim
      rw [hunmarked] at hkept
      obtain ⟨coordinate, others, hlt, hothers, rfl⟩ := List.forall₂_cons_right_iff.mp hkept
      rw [sourceCoordinates]
      · rw [Checked.get_of_lt (Nat.zero_lt_succ _), ok_bind]
        apply ((ih hentries hothers).of_imp IndicesResolved.tail).bind
        intro rest hinside
        exact List.Forall₂.cons hlt hinside
      · intro index rest heq
        exact hindexed ⟨index, rest, heq⟩

/-! ## Sizes of picked elements -/

/-- The common shape of the index tensors at its place among the kept sizes. -/
def pickedSizes (sizes common : Sizes) (marks : List Bool) : Sizes :=
  let front := indexPlace (markedDims marks)
  let kept := unmarkedSizes sizes marks
  kept.take front ++ common ++ kept.drop front

theorem lt_of_mem_markedDims {sizes : Sizes} {marks : List Bool} {dim : Nat}
    (hrank : marks.length ≤ sizes.length) (hdim : dim ∈ markedDims marks) : dim < sizes.length := by
  obtain ⟨hlt, -⟩ := List.getElem?_eq_some_iff.mp (mem_markedDims.mp hdim)
  exact Nat.lt_of_lt_of_le hlt hrank

/-- Around neighbours the common shape stands where they stood. -/
theorem pickedSizes_of_adjacent (sizes : Sizes) {marks : List Bool} {first last : Nat}
    (hrank : marks.length ≤ sizes.length) (hfirst : (markedDims marks).head? = some first)
    (hlast : (markedDims marks).getLast? = some last)
    (hadjacent : areAdjacent (markedDims marks) = true) :
    indexPlace (markedDims marks) = first ∧
      (unmarkedSizes sizes marks).take first = sizes.take first ∧
      (unmarkedSizes sizes marks).drop first = sizes.drop (last + 1) ∧
      first ≤ (unmarkedSizes sizes marks).length := by
  have hlt := lt_of_mem_markedDims hrank (List.mem_of_getLast? hlast)
  have hsorted := markedDims_sorted marks
  have hcount := (adjacent_iff_last hsorted hfirst hlast).mpr hadjacent
  have hplace : indexPlace (markedDims marks) = first := by
    unfold indexPlace
    rw [if_pos hadjacent, hfirst]
    rfl
  cases hdims : markedDims marks with
  | nil =>
    rw [hdims] at hfirst
    cases hfirst
  | cons head rest =>
    rw [hdims] at hfirst hlast hsorted hadjacent hcount
    obtain rfl : head = first := Option.some.inj hfirst
    obtain ⟨hle, -⟩ := last_of_sorted hsorted hlast
    rw [areAdjacent_iff] at hadjacent
    rw [List.length_cons] at hcount
    have hend : head + (rest.length + 1) = last + 1 := by omega
    have hkept := unmarkedSizes_of_adjacent sizes (hdims.trans hadjacent) (by omega)
    have htake : (sizes.take head).length = head := by
      rw [List.length_take]
      omega
    rw [← hdims, hkept, hend]
    refine ⟨hplace, List.take_left' htake, List.drop_left' htake, ?_⟩
    rw [List.length_append, htake]
    exact Nat.le_add_right _ _

/-- The front part of what is kept is there. -/
theorem indexPlace_le {sizes : Sizes} {marks : List Bool} (hrank : marks.length ≤ sizes.length) :
    indexPlace (markedDims marks) ≤ (unmarkedSizes sizes marks).length := by
  -- Apart from neighbours the index dimensions stand in front, where there is always a place.
  by_cases hadjacent : areAdjacent (markedDims marks) = true
  · cases hfirst : (markedDims marks).head? with
    | none =>
      unfold indexPlace
      rw [if_pos hadjacent, hfirst]
      exact Nat.zero_le _
    | some first =>
      obtain ⟨last, hlast⟩ : ∃ last, (markedDims marks).getLast? = some last := by
        cases hdims : markedDims marks with
        | nil =>
          rw [hdims] at hfirst
          cases hfirst
        | cons head rest => exact ⟨_, List.getLast?_eq_some_getLast (List.cons_ne_nil head rest)⟩
      obtain ⟨hplace, -, -, hle⟩ :=
        pickedSizes_of_adjacent sizes hrank hfirst hlast hadjacent
      rw [hplace]
      exact hle
  · unfold indexPlace
    rw [if_neg hadjacent]
    exact Nat.zero_le _

/-- Without an index there is no common shape to find, and all sizes are kept. -/
theorem pickedSizes_of_no_index (shape : Sizes) {indices : List (Option Sizes)}
    (hdims : markedDims (indices.map Option.isSome) = []) :
    Rule.indexShape indices = .ok [] ∧ pickedSizes shape [] (indices.map Option.isSome) = shape := by
  have hnone : indices.filterMap id = [] := by
    rw [List.filterMap_eq_nil_iff]
    intro index hindex
    cases index with
    | none => rfl
    | some sizes =>
      obtain ⟨dim, hdim⟩ := List.mem_iff_getElem?.mp hindex
      have hmark : dim ∈ markedDims (indices.map Option.isSome) := by
        rw [mem_markedDims, List.getElem?_map, hdim]
        rfl
      rw [hdims] at hmark
      cases hmark
  have hkept : unmarkedSizes shape (indices.map Option.isSome) = shape := by
    rw [← unmarkedSizes_eq_not_contains, hdims, List.filter_eq_self.mpr, List.zipIdx_map_fst]
    exact fun _ _ => rfl
  constructor
  · unfold Rule.indexShape
    rw [hnone]
    rfl
  · unfold pickedSizes indexPlace
    rw [hkept, hdims]
    rfl

/-- **The rule finds the sizes of the picked elements.** -/
theorem advancedIndex_eq {shape : Sizes} {indices : List (Option Sizes)}
    (hrank : ¬ shape.length < indices.length) :
    Rule.advancedIndex shape indices = (do
      let common ← Rule.indexShape indices
      .ok (pickedSizes shape common (indices.map Option.isSome))) := by
  unfold Rule.advancedIndex
  rw [if_neg hrank, Rule.indexedDims_eq, Rule.keptSizes_eq]
  have hnone := @pickedSizes_of_no_index shape indices
  generalize hmarks : indices.map Option.isSome = marks at hnone ⊢
  have hrank' : marks.length ≤ shape.length := by
    rw [← hmarks, List.length_map]
    exact Nat.not_lt.mp hrank
  dsimp only
  cases hfirst : (markedDims marks).head? with
  | none =>
    obtain ⟨hcommon, hsizes⟩ := hnone (List.head?_eq_none_iff.mp hfirst)
    rw [hcommon, ok_bind, hsizes]
  | some first =>
    cases hlast : (markedDims marks).getLast? with
    | none =>
      rw [List.getLast?_eq_none_iff.mp hlast] at hfirst
      cases hfirst
    | some last =>
      dsimp only
      apply bind_congr
      intro common
      rw [Checked.sub_of_le (first_le_last hfirst hlast), ok_bind]
      have hadjacent := adjacent_iff_last (markedDims_sorted marks) hfirst hlast
      by_cases hcount : last - first + 1 = (markedDims marks).length
      · obtain ⟨hplace, htake, hdrop, -⟩ :=
          pickedSizes_of_adjacent shape hrank' hfirst hlast (hadjacent.mp hcount)
        have hlt := lt_of_mem_markedDims hrank' (List.mem_of_head? hfirst)
        have hlt' := lt_of_mem_markedDims hrank' (List.mem_of_getLast? hlast)
        rw [if_pos hcount, Checked.slice_of_le (Nat.zero_le _) (Nat.le_of_lt hlt), ok_bind,
          Checked.slice_of_le hlt' (Nat.le_refl _), ok_bind]
        unfold pickedSizes
        dsimp only
        rw [hplace, htake, hdrop, List.take_length]
        rfl
      · rw [if_neg hcount]
        unfold pickedSizes indexPlace
        rw [if_neg (mt hadjacent.mpr hcount)]
        rfl

/-! ## Picked elements -/

/-- As many elements are picked as their sizes ask for, and all of them are elements of a source. -/
structure PicksFrom (source wanted : Sizes) (picked : Picked) : Prop where
  sizes : picked.sizes = wanted
  count : picked.offsets.length = elementCount wanted
  offsets : ∀ offset ∈ picked.offsets, offset < elementCount source

/-- The coordinates of a picked element apart from those of the index tensors are kept ones. -/
theorem inside_kept {index kept common : Sizes} {front : Nat}
    (h : Inside index (kept.take front ++ common ++ kept.drop front)) (hfront : front ≤ kept.length) :
    Inside ((index.drop front).take common.length) common ∧
      Inside (index.take front ++ index.drop (front + common.length)) kept := by
  have htake : (kept.take front).length = front := List.length_take_of_le hfront
  rw [List.append_assoc] at h
  have hleading := List.forall₂_take front h
  have hmiddle := List.forall₂_take common.length (List.forall₂_drop front h)
  have htrailing := List.forall₂_drop common.length (List.forall₂_drop front h)
  rw [List.take_left' htake] at hleading
  rw [List.drop_left' htake, List.take_left] at hmiddle
  rw [List.drop_left' htake, List.drop_left, List.drop_drop] at htrailing
  refine ⟨hmiddle, ?_⟩
  have hboth : Inside (index.take front ++ index.drop (front + common.length))
      (kept.take front ++ kept.drop front) := List.rel_append hleading htrailing
  rwa [List.take_append_drop] at hboth

/-- **The offset of one picked element lies inside the source.** -/
theorem answersIf_pickedOffset {sizes common : Sizes} {indices wides : List (Option (Tensor Int))}
    (hwides : List.Forall₂ (Widened common) indices wides)
    (hrank : indices.length ≤ sizes.length) {offset : Nat}
    (hoffset : offset <
      elementCount (pickedSizes sizes common (indices.map Option.isSome))) :
    AnswersIf (IndicesResolved sizes indices) (fun offset => offset < elementCount sizes)
      (do
        let index := unravel offset (pickedSizes sizes common (indices.map Option.isSome))
        let front := indexPlace (markedDims (indices.map Option.isSome))
        let entry := ravel ((index.drop front).take common.length) common
        let rest := index.take front ++ index.drop (front + common.length)
        .ok (ravel (← sourceCoordinates entry sizes wides rest) sizes)) := by
  have hmarks := isSome_of_widened hwides
  generalize hall : indices.map Option.isSome = marks at hmarks hoffset ⊢
  have hrank' : marks.length ≤ sizes.length := by
    rw [← hall, List.length_map]
    exact hrank
  have hindex := inside_unravel_of_lt hoffset
  obtain ⟨hentry, hkept⟩ := inside_kept hindex (indexPlace_le hrank')
  have hentries : ∀ wide, some wide ∈ wides →
      ravel (((unravel offset (pickedSizes sizes common marks)).drop
        (indexPlace (markedDims marks))).take common.length) common < wide.data.size := by
    intro wide hwide
    have hlt := ravel_lt hentry
    rw [wide.size_data, sizes_of_widened hwides hwide]
    exact hlt
  have hcoordinates := (answersIf_sourceCoordinates hentries
    (by rw [hmarks]; exact hkept)).of_imp fun h : IndicesResolved sizes indices => h.widened hwides
  apply hcoordinates.bind
  intro coordinates hinside
  exact ravel_lt hinside

/-- **The elements that index tensors pick follow the rule**, wherever the tensors point. -/
theorem pickedElements_alike (sizes : Sizes) (indices : List (Option (Tensor Int))) :
    AlikeIf (IndicesResolved sizes indices) (PicksFrom sizes)
      (Rule.advancedIndex sizes (indexSizes indices)) (pickedElements sizes indices) := by
  unfold pickedElements
  by_cases hrank : sizes.length < indices.length
  · unfold Rule.advancedIndex
    rw [if_pos hrank, if_pos (by rwa [List.length_map])]
    trivial
  · have hmarks : (indexSizes indices).map Option.isSome = indices.map Option.isSome := by
      unfold indexSizes
      rw [List.map_map]
      exact List.map_congr_left fun index _ => by cases index <;> rfl
    rw [if_neg hrank, advancedIndex_eq (by rwa [List.length_map]), hmarks]
    refine (indexShape_alike indices).and_eq_ok.bind_if ?_
    rintro common _ ⟨rfl, hfound⟩
    rw [indexShape_eq] at hfound
    apply AnswersIf.alikeIf
    have hwiden := answers_widened (foldlM_widen_stretches hfound).2
    apply (hwiden.answersIf _).bind
    intro wides hwides
    rw [indexedDims_eq, isSome_of_widened hwides]
    dsimp only
    rw [unmarkedSizes_eq_not_contains]
    have hrank' : (indices.map Option.isSome).length ≤ sizes.length := by
      rw [List.length_map]
      exact Nat.not_lt.mp hrank
    have hfront := indexPlace_le hrank'
    rw [Checked.slice_of_le (Nat.zero_le _) hfront, ok_bind,
      Checked.slice_of_le hfront (Nat.le_refl _), ok_bind, List.take_length, List.drop_zero]
    have hentry : ∀ offset ∈ List.range
        (elementCount (pickedSizes sizes common (indices.map Option.isSome))), AnswersIf _ _ _ :=
      fun offset hoffset =>
        answersIf_pickedOffset hwides (Nat.not_lt.mp hrank) (List.mem_range.mp hoffset)
    apply (AnswersIf.mapM hentry).bind
    intro offsets hoffsets
    refine ⟨rfl, ?_, ?_⟩
    · rw [← hoffsets.length_eq, List.length_range]
    · exact (forall₂_right_iff.mp hoffsets).2

end OpShape.Operator

/-
# `OpShape.Proofs.Operator.Gather` — positions that are given by a tensor, along one dimension.

A rule does not see the positions that an index tensor holds, so that it may answer where the
operator refuses.  Where they are all in range the operator answers too, with the sizes of the rule.
A scalar counts as a vector of one element on either side of a gathering.  Positions that may count
from the end are resolved by the size as a word, so that none of them is found where the size is
taken for a negative number.
-/
import OpShape.Builtin.Index
import OpShape.Operator.Index
import OpShape.Proofs.Operator.Agreement
import OpShape.Proofs.Operator.Concat

namespace OpShape.Operator

open Tensor (HasSizes answers_fetch answers_ofData answers_row answersIf_ofOffsets)

variable {α : Type}

attribute [local irreducible] signed

/-! ## Gathering -/

/-- An index of these sizes exceeds the source in no dimension but that of the axis. -/
def FitsOutside (axis : Nat) (index source : Sizes) : Prop :=
  ∀ dim size limit : Nat, dim ≠ axis → index[dim]? = some size → source[dim]? = some limit →
    size ≤ limit

/-- What the rule checks. -/
theorem fitsOutside_iff_rule {axis : Nat} {index source : Sizes} :
    ((source.zip index).zipIdx.all fun entry => entry.2 == axis || entry.1.2 ≤ entry.1.1) = true ↔
      FitsOutside axis index source := by
  rw [List.all_eq_true]
  constructor
  · intro hall dim size limit hdim hsize hlimit
    have hmem : ((limit, size), dim) ∈ (source.zip index).zipIdx := by
      rw [List.mem_zipIdx_iff_getElem?, List.getElem?_zip_eq_some]
      exact ⟨hlimit, hsize⟩
    have hle := hall _ hmem
    simpa [hdim] using hle
  · rintro hfits ⟨⟨limit, size⟩, dim⟩ hmem
    rw [List.mem_zipIdx_iff_getElem?, List.getElem?_zip_eq_some] at hmem
    obtain ⟨hlimit, hsize⟩ := hmem
    by_cases hdim : dim = axis
    · simp [hdim]
    · have hle := hfits dim size limit hdim hsize hlimit
      simp [hle]

/-- Two shapes of the same number of dimensions, where a scalar counts as a vector. -/
structure SameRank (axis : Nat) (index source : Sizes) : Prop where
  rank : max index.length 1 = max source.length 1
  axis : axis < max source.length 1

/-- A dimension of the index that the source does not have is that of the axis. -/
theorem SameRank.eq_axis {axis dim : Nat} {index source : Sizes} (h : SameRank axis index source)
    (hindex : dim < index.length) (hsource : source.length ≤ dim) : dim = axis := by
  have hrank := h.rank
  have haxis := h.axis
  omega

/-- What the operator checks. -/
theorem fitsOutside_iff_operator {axis : Nat} {index source : Sizes}
    (h : SameRank axis index source) :
    indexFits index source axis = true ↔ FitsOutside axis index source := by
  unfold indexFits
  rw [List.all_eq_true]
  constructor
  · intro hall dim size limit hdim hsize hlimit
    have hle := hall (size, dim) (List.mem_zipIdx_iff_getElem?.mpr hsize)
    simpa [hdim, hlimit] using hle
  · rintro hfits ⟨size, dim⟩ hmem
    have hsize : index[dim]? = some size := List.mem_zipIdx_iff_getElem?.mp hmem
    by_cases hdim : dim = axis
    · simp [hdim]
    -- The ranks can differ only where a scalar meets a vector, and there the axis is all there is.
    · have hlt : dim < source.length := by
        by_contra hge
        obtain ⟨hindex, -⟩ := List.getElem?_eq_some_iff.mp hsize
        exact hdim (h.eq_axis hindex (Nat.not_lt.mp hge))
      have hle := hfits dim size _ hdim hsize (List.getElem?_eq_getElem hlt)
      simp [List.getElem?_eq_getElem hlt, hle]

theorem elementCount_paddedSizes (rank : Nat) (sizes : Sizes) :
    elementCount (paddedSizes rank sizes) = elementCount sizes := by
  unfold paddedSizes
  split
  · next hempty =>
    rw [List.isEmpty_iff.mp hempty]
    exact elementCount_ones rank
  · rfl

/-- Padding changes nothing but a scalar, which becomes a vector of one element. -/
theorem paddedSizes_getElem? (rank : Nat) (sizes : Sizes) (dim : Nat) :
    (paddedSizes rank sizes)[dim]?.getD 1 = sizes[dim]?.getD 1 := by
  unfold paddedSizes
  split
  · next hempty =>
    rw [List.isEmpty_iff.mp hempty, List.getElem?_replicate]
    split <;> rfl
  · rfl

theorem length_paddedSizes {rank : Nat} {sizes : Sizes} (h : sizes ≠ [] → sizes.length = rank) :
    (paddedSizes rank sizes).length = rank := by
  unfold paddedSizes
  split
  · exact List.length_replicate
  · next hempty => exact h fun e => hempty (List.isEmpty_iff.mpr e)

/-- **The position that is gathered lies inside the source**, with a position in range in the place
of the coordinate along the axis. -/
theorem inside_gather {axis position : Nat} {index source coords : Sizes} {rank : Nat}
    (h : SameRank axis index source) (hrank : rank = max source.length index.length)
    (hfits : FitsOutside axis index source) (hcoords : Inside coords (paddedSizes rank index))
    (hposition : position < source[axis]?.getD 1) :
    Inside (coords.set axis position) (paddedSizes rank source) := by
  have hindex : (paddedSizes rank index).length = rank :=
    length_paddedSizes fun hne => by
      have hpos := List.length_pos_of_ne_nil hne
      have hsame := h.rank
      omega
  have hsource : (paddedSizes rank source).length = rank :=
    length_paddedSizes fun hne => by
      have hpos := List.length_pos_of_ne_nil hne
      have hsame := h.rank
      omega
  rw [inside_iff] at hcoords ⊢
  obtain ⟨hlength, hlt⟩ := hcoords
  refine ⟨by rw [List.length_set, hlength, hindex, hsource], ?_⟩
  intro dim i size hi hsize
  have hpadded := paddedSizes_getElem? rank source dim
  rw [hsize, Option.getD_some] at hpadded
  by_cases hdim : dim = axis
  · subst hdim
    rw [List.getElem?_set_self'] at hi
    obtain ⟨_, -, rfl⟩ := Option.map_eq_some_iff.mp hi
    rw [hpadded]
    exact hposition
  · rw [List.getElem?_set_ne fun e => hdim e.symm] at hi
    have hdim' : dim < (paddedSizes rank index).length := by
      rw [← hlength]
      exact (List.getElem?_eq_some_iff.mp hi).1
    have hown := List.getElem?_eq_getElem hdim'
    have hlt' := hlt dim i _ hi hown
    have hpadded' := paddedSizes_getElem? rank index dim
    rw [hown, Option.getD_some] at hpadded'
    -- A dimension other than the axis is there in both shapes.
    have hthere : dim < index.length ∧ dim < source.length := by
      have hsame := h.rank
      have haxis := h.axis
      omega
    have hle := hfits dim _ _ hdim (List.getElem?_eq_getElem hthere.1)
      (List.getElem?_eq_getElem hthere.2)
    rw [List.getElem?_eq_getElem hthere.1, Option.getD_some] at hpadded'
    rw [List.getElem?_eq_getElem hthere.2, Option.getD_some] at hpadded
    omega

/-- Every position along the axis is in range, where a scalar has one. -/
def GatherInRange (axis : Nat) (source : Sizes) (index : Tensor Int) : Prop :=
  ∀ position ∈ index.data, 0 ≤ position ∧ position < (source[axis]?.getD 1 : Nat)

/-- **Gathering answers with the sizes of the index**, if its positions are in range. -/
theorem answersIf_gather {input : Tensor α} {index : Tensor Int} {axis : Nat}
    (h : SameRank axis index.sizes input.sizes)
    (hfits : FitsOutside axis index.sizes input.sizes) :
    AnswersIf (GatherInRange axis input.sizes index) (HasSizes index.sizes)
      (gather input axis index) := by
  unfold gather
  dsimp only
  generalize hrank : max input.sizes.length index.sizes.length = rank
  refine (answersIf_ofOffsets (P := fun _ => True) fun offset hoffset => ?_).imp fun _ h => h.1
  have hoffset' : offset < index.data.size := Nat.lt_of_lt_of_eq hoffset index.size_data.symm
  rw [Checked.fetch_of_lt hoffset', ok_bind, paddedSizes_getElem?]
  by_cases hout : index.data[offset] < 0 ∨ ((input.sizes[axis]?.getD 1 : Nat) : Int) ≤
      index.data[offset]
  · rw [if_pos hout]
    intro hrange
    obtain ⟨hnonneg, hlt⟩ := hrange _ (Array.getElem_mem hoffset')
    omega
  · rw [if_neg hout]
    have hoffset'' : offset < elementCount (paddedSizes rank index.sizes) := by
      rw [elementCount_paddedSizes]
      exact hoffset
    have hposition : index.data[offset].toNat < input.sizes[axis]?.getD 1 := by omega
    have hinside := inside_gather h hrank.symm hfits (inside_unravel_of_lt hoffset'') hposition
    have hbelow := ravel_lt hinside
    rw [elementCount_paddedSizes] at hbelow
    exact (answers_fetch (Nat.lt_of_lt_of_eq hbelow input.size_data.symm)).answersIf _

/-- **Gathering follows its rule**, and answers if all positions are in range. -/
theorem gather_alike {input : Tensor Float32} {index : Tensor Int} {dim : Int} :
    AlikeIf
      (∀ axis, resolveAxis input.sizes.length dim = .ok axis →
        GatherInRange axis input.sizes index)
      SingleOf (Rule.gather input.sizes dim index.sizes)
      (do
        let axis ← resolveAxis input.sizes.length dim
        if max index.sizes.length 1 ≠ max input.sizes.length 1 then
          incompatible "Index must have the same number of dims as input"
        else if !indexFits index.sizes input.sizes axis then
          incompatible "Index size must not exceed input size outside of the gathered dim"
        else do one (← gather input axis index)) := by
  unfold Rule.gather
  by_cases hrank : max index.sizes.length 1 ≠ max input.sizes.length 1
  · simp only [if_pos hrank]
    exact (alike_error_bind fun _ => alike_error_error).alikeIf _
  · simp only [if_neg hrank]
    refine (alike_axis dim input.sizes.length).and_eq_ok.bind_if ?_
    rintro axis _ ⟨⟨rfl, haxis⟩, hresolved⟩
    have hsame : SameRank axis index.sizes input.sizes := ⟨not_not.mp hrank, haxis⟩
    by_cases hfits : FitsOutside axis index.sizes input.sizes
    · rw [if_pos (fitsOutside_iff_rule.mpr hfits), (fitsOutside_iff_operator hsame).mpr hfits,
        if_neg (by simp)]
      refine AlikeIf.single ((answersIf_gather hsame hfits).alikeIf.of_imp ?_)
      intro hrange
      exact hrange axis hresolved
    · have hoperator := mt (fitsOutside_iff_operator hsame).mp hfits
      rw [if_neg (mt fitsOutside_iff_rule.mp hfits), if_pos (by simpa using hoperator)]
      trivial

/-- The positions of a call are in range of the dimension that it names. -/
def GatherArgsInRange (bound : TensorArgs) : Prop :=
  ∀ input index dim axis, floatArg bound "self" = .ok input → intArg bound "index" = .ok index →
    bound.int "dim" = .ok dim → resolveAxis input.sizes.length dim = .ok axis →
      GatherInRange axis input.sizes index

theorem gatherOf_alike (bound : TensorArgs) :
    AlikeIf (GatherArgsInRange bound) SingleOf
      (Builtin.withIndex Rule.gather (bound.map RealTensor.sizes)) (gatherOf bound) := by
  unfold gatherOf Builtin.withIndex
  refine (alike_floats "self" bound).and_eq_ok.bind_if ?_
  rintro _ input ⟨rfl, hinput⟩
  refine alikeIf_comm_right.mpr ((alike_int "dim" bound).and_eq_ok.bind_if ?_)
  rintro dim _ ⟨rfl, hdim⟩
  refine (alike_wholeInts "index" bound).and_eq_ok.bind_if ?_
  rintro _ index ⟨rfl, hindex⟩
  apply gather_alike.of_imp
  intro hrange axis haxis
  exact hrange input index dim axis hinput hindex (lift_eq_ok.mp hdim) haxis

/-! ## Rows of a table -/

/-- All positions are those of rows, where negative ones count from the end. -/
def InRange (size : Nat) (positions : Tensor Int) : Prop :=
  ∀ position ∈ positions.data, -(size : Int) ≤ position ∧ position < size

/-- All positions are resolved: they are in range of a size that is a word. -/
structure Resolved (size : Nat) (positions : Tensor Int) : Prop where
  size_lt : size < 2 ^ 63
  inRange : InRange size positions

/-- **A position is resolved** to one below the size, if it is in range. -/
theorem answersIf_resolveIndex (size : Nat) (position : Int) :
    AnswersIf (size < 2 ^ 63 ∧ -(size : Int) ≤ position ∧ position < size) (· < size)
      (resolveIndex position size) := by
  rcases resolveIndex_cases position size with ⟨row, -, hrow, hlt⟩ | ⟨_, _, hrule, hrow⟩
  · rw [hrow]
    exact hlt
  · rw [hrow]
    -- The rule refuses what the operator refuses, and refuses nothing that is in range.
    rintro ⟨hsize, hrange⟩
    unfold Rule.resolveIndex at hrule
    dsimp only at hrule
    rw [signed_of_lt hsize, if_neg (by omega)] at hrule
    cases hrule

/-- **A table answers with one row for each position**, if all of them are resolved. -/
theorem answersIf_embedding {weight : Tensor α} {indices : Tensor Int} {rows width : Nat}
    (hweight : weight.sizes = [rows, width]) :
    AnswersIf (Resolved rows indices) (HasSizes (indices.sizes ++ [width]))
      (embedding weight indices) := by
  unfold embedding
  rw [hweight]
  have hpicked : AnswersIf (Resolved rows indices)
      (List.Forall₂ (fun _ (row : List α) => row.length = width) indices.data.toList)
      (indices.data.toList.mapM fun i => do
        let row ← resolveIndex i rows
        .ok (← Checked.window weight.data (row * width) ((row + 1) * width)).toList :
        OpResult (List (List α))) := by
    apply AnswersIf.mapM
    intro i hi
    have hrange : Resolved rows indices → rows < 2 ^ 63 ∧ -(rows : Int) ≤ i ∧ i < rows :=
      fun h => ⟨h.size_lt, h.inRange i (Array.mem_toList_iff.mp hi)⟩
    apply ((answersIf_resolveIndex rows i).of_imp hrange).bind
    intro row hrow
    have hdata : weight.data.size = rows * width := by
      rw [weight.size_data, hweight, elementCount_cons, elementCount_cons, elementCount_nil,
        Nat.mul_one]
    exact ((answers_row hdata hrow).answersIf _).bind fun window hwindow => hwindow
  refine hpicked.bind fun picked hpicked => (answers_ofData ?_).answersIf _
  rw [List.size_toArray, length_flatten_of_forall₂ hpicked, List.map_const',
    totalSize_replicate, Array.length_toList, indices.size_data, elementCount_append,
    elementCount_cons, elementCount_nil, Nat.mul_one]

/-- The positions of a call are those of rows of the table that is looked up. -/
def EmbeddingArgsInRange (bound : TensorArgs) : Prop :=
  ∀ weight indices rows width, floatArg bound "weight" = .ok weight →
    intArg bound "indices" = .ok indices → weight.sizes = [rows, width] → InRange rows indices

/-- The number of rows of the table that is looked up is a word. -/
def EmbeddingRowsFit (bound : TensorArgs) : Prop :=
  ∀ weight rows width, floatArg bound "weight" = .ok weight → weight.sizes = [rows, width] →
    rows < 2 ^ 63

theorem embeddingOf_alike (bound : TensorArgs) :
    AlikeIf (EmbeddingArgsInRange bound ∧ EmbeddingRowsFit bound) SingleOf
      (Builtin.lookedUp (bound.map RealTensor.sizes)) (embeddingOf bound) := by
  unfold embeddingOf Builtin.lookedUp
  refine (alike_floats "weight" bound).and_eq_ok.bind_if ?_
  rintro _ weight ⟨rfl, hweight⟩
  refine (alike_wholeInts "indices" bound).and_eq_ok.bind_if ?_
  rintro _ indices ⟨rfl, hindices⟩
  apply AlikeIf.single
  unfold Rule.embedding
  split
  · next rows width hshape =>
    refine (answersIf_embedding hshape).alikeIf.of_imp ?_
    rintro ⟨hrange, hrows⟩
    exact ⟨hrows weight rows width hweight hshape,
      hrange weight indices rows width hweight hindices hshape⟩
  · next hshape =>
    unfold embedding
    split
    · next rows width hrows => exact (hshape rows width hrows).elim
    · trivial

end OpShape.Operator

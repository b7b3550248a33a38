/-
# `OpShape.Proofs.Tensor.Partition` — a reduction partitions its tensor.

A place of the answer stands for the indices that have its coordinates along the dimensions that are
kept.  The reduction numbers its groups by offsets: those of indices with zeros along the reduced
dimensions, and those of the answer, where these dimensions may be gone.  Both are offsets of the
kept coordinates among the kept sizes, so that the group at a place holds exactly the elements at
the indices that the place stands for, in row-major order, and every index belongs to one place.
-/
import Mathlib.Algebra.Ring.Nat
import OpShape.Proofs.Tensor.Group
import OpShape.Proofs.Tensor.RowMajor

namespace OpShape

/-! ## Coordinates that are kept -/

/-- What is left of a list whose first entry has the given number if the entries of some numbers are
taken out. -/
def keptFrom (axes : List Nat) (start : Nat) (entries : List Nat) : List Nat :=
  ((entries.zipIdx start).filter fun entry => !axes.contains entry.2).map Prod.fst

/-- The coordinates of an index along the dimensions that are not reduced. -/
def keptCoordinates (axes index : List Nat) : List Nat :=
  keptFrom axes 0 index

/-- **The index agrees with a place of the answer on every dimension that is kept.**  The place has
a coordinate along the reduced dimensions too if these are kept with size one. -/
def Agrees (keepDims : Bool) (axes place index : List Nat) : Prop :=
  keptCoordinates axes index = if keepDims then keptCoordinates axes place else place

instance (keepDims : Bool) (axes place index : List Nat) :
    Decidable (Agrees keepDims axes place index) :=
  inferInstanceAs (Decidable (_ = _))

section Kept

variable {axes : List Nat} {sizes : Sizes} {start : Nat}

theorem keptFrom_cons_of_mem (h : start ∈ axes) (i : Nat) (rest : List Nat) :
    keptFrom axes start (i :: rest) = keptFrom axes (start + 1) rest := by
  unfold keptFrom
  rw [List.zipIdx_cons, List.filter_cons_of_neg (by simp [h])]

theorem keptFrom_cons_of_not_mem (h : start ∉ axes) (i : Nat) (rest : List Nat) :
    keptFrom axes start (i :: rest) = i :: keptFrom axes (start + 1) rest := by
  unfold keptFrom
  rw [List.zipIdx_cons, List.filter_cons_of_pos (by simp [h]), List.map_cons]

/-- Zeros along the reduced dimensions do not show among the kept coordinates. -/
theorem keptCoordinates_groupIndex (axes index : List Nat) :
    keptCoordinates axes (groupIndex axes index) = keptCoordinates axes index := by
  -- Both lists are numbered from zero on; what is said of them has to be said of any start.
  have hfrom : ∀ start, keptFrom axes start ((index.zipIdx start).map fun entry =>
      if axes.contains entry.2 then 0 else entry.1) = keptFrom axes start index := by
    induction index with
    | nil => exact fun _ => rfl
    | cons i index ih =>
      intro start
      rw [List.zipIdx_cons, List.map_cons]
      by_cases haxis : start ∈ axes
      · rw [keptFrom_cons_of_mem haxis, keptFrom_cons_of_mem haxis, ih]
      · rw [keptFrom_cons_of_not_mem haxis, keptFrom_cons_of_not_mem haxis, ih,
          if_neg (by simp [haxis])]
  exact hfrom 0

/-- **The offset of a place among the sizes with ones** is that of its kept coordinates among the
kept sizes. -/
theorem ravel_keptSizes {place : List Nat} (h : Inside place (keptSizes axes sizes)) :
    Inside (keptCoordinates axes place) (remainingSizes axes sizes) ∧
      ravel place (keptSizes axes sizes) =
        ravel (keptCoordinates axes place) (remainingSizes axes sizes) := by
  have hfrom : ∀ start place,
      Inside place ((sizes.zipIdx start).map fun entry =>
        if axes.contains entry.2 then 1 else entry.1) →
      Inside (keptFrom axes start place) (keptFrom axes start sizes) ∧
        ravel place ((sizes.zipIdx start).map fun entry =>
            if axes.contains entry.2 then 1 else entry.1) =
          ravel (keptFrom axes start place) (keptFrom axes start sizes) := by
    clear h place
    induction sizes with
    | nil =>
      intro start place hplace
      cases hplace
      exact ⟨.nil, rfl⟩
    | cons size sizes ih =>
      intro start place hplace
      rw [List.zipIdx_cons, List.map_cons] at hplace ⊢
      cases hplace with
      | @cons i _ place _ hlt hplace =>
        obtain ⟨hinside, hravel⟩ := ih (start + 1) place hplace
        by_cases haxis : start ∈ axes
        · have hzero : i = 0 := by simpa [haxis] using hlt
          rw [keptFrom_cons_of_mem haxis, keptFrom_cons_of_mem haxis, ravel, hzero, Nat.zero_mul,
            Nat.zero_add]
          exact ⟨hinside, hravel⟩
        · have hlt : i < size := by simpa [haxis] using hlt
          rw [keptFrom_cons_of_not_mem haxis, keptFrom_cons_of_not_mem haxis, ravel, ravel, hravel,
            elementCount_kept axes.contains (sizes.zipIdx (start + 1))]
          exact ⟨.cons hlt hinside, rfl⟩
  exact hfrom 0 place h

/-- The coordinates that a place of the answer fixes. -/
abbrev fixedCoordinates (keepDims : Bool) (axes place : List Nat) : List Nat :=
  if keepDims then keptCoordinates axes place else place

/-- **The offset of a place of the answer** is that of the coordinates it fixes among the kept
sizes. -/
theorem ravel_reducedSizes {keepDims : Bool} {place : List Nat}
    (h : Inside place (reducedSizes keepDims axes sizes)) :
    Inside (fixedCoordinates keepDims axes place) (remainingSizes axes sizes) ∧
      ravel place (reducedSizes keepDims axes sizes) =
        ravel (fixedCoordinates keepDims axes place) (remainingSizes axes sizes) := by
  cases keepDims with
  | true => exact ravel_keptSizes h
  | false => exact ⟨h, rfl⟩

/-- **The number of the group of an index is the offset of the place it agrees with.** -/
theorem group_eq_iff_agrees {keepDims : Bool} {place index : List Nat}
    (hplace : Inside place (reducedSizes keepDims axes sizes)) (hindex : Inside index sizes) :
    ravel (groupIndex axes index) (keptSizes axes sizes) =
        ravel place (reducedSizes keepDims axes sizes) ↔ Agrees keepDims axes place index := by
  obtain ⟨hgroup, hnumber⟩ := ravel_keptSizes (inside_groupIndex hindex axes)
  obtain ⟨hfixed, hoffset⟩ := ravel_reducedSizes hplace
  rw [hnumber, hoffset, ravel_inj hgroup hfixed, keptCoordinates_groupIndex]
  rfl

/-- **Every index agrees with exactly one place of the answer.** -/
theorem existsUnique_place {index : List Nat} (keepDims : Bool) (axes : List Nat)
    (hindex : Inside index sizes) :
    ∃! place, Inside place (reducedSizes keepDims axes sizes) ∧ Agrees keepDims axes place index := by
  have hgroup := inside_groupIndex hindex axes
  refine existsUnique_of_exists_of_unique ?_ ?_
  · cases keepDims with
    | true => exact ⟨_, hgroup, (keptCoordinates_groupIndex axes index).symm⟩
    | false =>
      have hkept := (ravel_keptSizes hgroup).1
      rw [keptCoordinates_groupIndex] at hkept
      exact ⟨_, hkept, rfl⟩
  · rintro place other ⟨hplace, hagrees⟩ ⟨hother, hagrees'⟩
    rw [← ravel_inj hplace hother, ← (group_eq_iff_agrees hplace hindex).mpr hagrees,
      ← (group_eq_iff_agrees hother hindex).mpr hagrees']

end Kept

/-! ## Groups -/

theorem elementCount_reducedSizes (keepDims : Bool) (axes : List Nat) (sizes : Sizes) :
    elementCount (reducedSizes keepDims axes sizes) = elementCount (keptSizes axes sizes) := by
  cases keepDims with
  | true => rfl
  | false => exact (elementCount_keptSizes axes sizes).symm

/-- The sizes of a reduction, dimension by dimension. -/
theorem reducedSizes_eq (keepDims : Bool) (axes : List Nat) (sizes : Sizes) :
    reducedSizes keepDims axes sizes =
      if keepDims then sizes.mapIdx fun dim size => if dim ∈ axes then 1 else size
      else keptCoordinates axes sizes := by
  cases keepDims with
  | true =>
    show keptSizes axes sizes = sizes.mapIdx fun dim size => if dim ∈ axes then 1 else size
    rw [keptSizes, List.mapIdx_eq_zipIdx_map]
    simp only [List.contains_iff_mem]
  | false => rfl

/-- The indices that agree with a place of the answer, in row-major order. -/
def groupIndices (keepDims : Bool) (axes : List Nat) (sizes : Sizes) (place : List Nat) :
    List (List Nat) :=
  (indices sizes).filter fun index => decide (Agrees keepDims axes place index)

/-- Where a reduced dimension is empty, no index agrees with any place. -/
theorem groupIndices_of_empty {keepDims : Bool} {axes : List Nat} {sizes : Sizes} {axis : Nat}
    (h : sizes[axis]? = some 0) (place : List Nat) : groupIndices keepDims axes sizes place = [] := by
  have hnone : (indices sizes).length = 0 := by
    rw [length_indices, elementCount_eq_zero]
    exact List.mem_of_getElem? h
  rw [groupIndices, List.eq_nil_of_length_eq_zero hnone, List.filter_nil]

namespace Tensor

variable {ε α β : Type} {tensor : Tensor α} {axes : List Nat} {keepDims : Bool}

/-- **The group at a place holds the elements at the indices that agree with it**, in row-major
order. -/
theorem exists_group {place : List Nat}
    (hplace : Inside place (reducedSizes keepDims axes tensor.sizes)) :
    ∃ elements, (tensor.groups axes)[ravel place (reducedSizes keepDims axes tensor.sizes)]? =
        some elements ∧
      ((groupIndices keepDims axes tensor.sizes place).mapM tensor.at? : Checked ε (List α)) =
        .ok elements := by
  have hnumber := ravel_lt hplace
  rw [elementCount_reducedSizes] at hnumber
  refine ⟨_, ?_, mapM_at?_filter tensor _⟩
  unfold groups numbered
  rw [List.getElem?_map, List.getElem?_range hnumber]
  dsimp only [Option.map_some]
  rw [List.filter_map, List.map_map]
  refine congrArg some (congrArg (List.map Prod.fst) (List.filter_congr ?_))
  rintro ⟨x, offset⟩ hentry
  have hoffset : offset < elementCount tensor.sizes := by
    rw [← tensor.size_data]
    exact (List.mem_zipIdx' hentry).1
  rw [Bool.eq_iff_iff, decide_eq_true_eq,
    ← group_eq_iff_agrees hplace (inside_unravel_of_lt hoffset)]
  exact beq_iff_eq

/-- **The groups at all places are as large as the tensor together.** -/
theorem sum_length_groupIndices (tensor : Tensor α) (keepDims : Bool) (axes : List Nat) :
    ((indices (reducedSizes keepDims axes tensor.sizes)).map fun place =>
      (groupIndices keepDims axes tensor.sizes place).length).sum = tensor.data.size := by
  have hlengths : ((indices (reducedSizes keepDims axes tensor.sizes)).map fun place =>
      (groupIndices keepDims axes tensor.sizes place).length) =
        (tensor.groups axes).map List.length := by
    apply List.ext_getElem?
    intro offset
    rw [indices_eq_map, List.map_map, List.getElem?_map, List.getElem?_map]
    by_cases hoffset : offset < elementCount (reducedSizes keepDims axes tensor.sizes)
    · have hplace := inside_unravel_of_lt hoffset
      obtain ⟨elements, hgroup, helements⟩ :
          ∃ elements, _ = some elements ∧ (_ : Checked Unit (List α)) = .ok elements :=
        exists_group hplace
      rw [ravel_unravel_of_lt hoffset] at hgroup
      rw [hgroup, List.getElem?_range hoffset]
      exact congrArg some (mapM_eq_ok.mp helements).length_eq
    · have hcount : (tensor.groups axes).length =
          elementCount (reducedSizes keepDims axes tensor.sizes) := by
        rw [groups, List.length_map, List.length_range, elementCount_reducedSizes]
      rw [List.getElem?_eq_none (by rw [List.length_range]; exact Nat.not_lt.mp hoffset),
        List.getElem?_eq_none (by rw [hcount]; exact Nat.not_lt.mp hoffset)]
      rfl
  rw [hlengths, ← List.length_flatten, (tensor.groups_perm axes).length_eq, Array.length_toList]

/-- What a reduction answers. -/
theorem reduce_eq_ok {f : List α → β} {output : Tensor β} :
    (tensor.reduce axes keepDims f : Checked ε (Tensor β)) = .ok output ↔
      output.sizes = reducedSizes keepDims axes tensor.sizes ∧
        output.data = ((tensor.groups axes).map f).toArray :=
  ofData_eq_ok

/-- The element of a reduction at a place is the value of the group there. -/
theorem at?_reduce {f : List α → β} {output : Tensor β} {place : List Nat} {elements : List α}
    (h : (tensor.reduce axes keepDims f : Checked ε (Tensor β)) = .ok output)
    (hgroup : (tensor.groups axes)[ravel place (reducedSizes keepDims axes tensor.sizes)]? =
      some elements) : (output.at? place : Checked ε β) = .ok (f elements) := by
  obtain ⟨hsizes, hdata⟩ := reduce_eq_ok.mp h
  rw [at?, fetch_eq_ok, hsizes, hdata, List.getElem?_toArray, List.getElem?_map, hgroup]
  rfl

end Tensor

end OpShape

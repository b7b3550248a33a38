/-
# `OpShape.Proofs.Tensor.Group` — the groups of a reduction.

There are as many groups as the kept sizes ask for, whether a reduced dimension stays with size one
or goes, so that a reduction always fills its answer.  Every element falls into one of the groups,
and the groups together hold each element once.
-/
import OpShape.Tensor.Group
import OpShape.Proofs.Tensor.Offset

namespace OpShape

/-! ## Sizes -/

/-- The sizes of a reduction along some axes. -/
def reducedSizes (keepDims : Bool) (axes : List Nat) (sizes : Sizes) : Sizes :=
  if keepDims then keptSizes axes sizes else remainingSizes axes sizes

/-- A size of one counts as little as a size that is left out. -/
theorem elementCount_kept (p : Nat → Bool) (entries : List (Nat × Nat)) :
    elementCount (entries.map fun entry => if p entry.2 then 1 else entry.1) =
      elementCount ((entries.filter fun entry => !p entry.2).map Prod.fst) := by
  induction entries with
  | nil => rfl
  | cons entry entries ih =>
    rw [List.map_cons, elementCount_cons, ih]
    cases hp : p entry.2 with
    | true => rw [if_pos rfl, Nat.one_mul, List.filter_cons_of_neg (by simp [hp])]
    | false =>
      rw [if_neg Bool.false_ne_true, List.filter_cons_of_pos (by simp [hp]), List.map_cons,
        elementCount_cons]

theorem elementCount_keptSizes (axes : List Nat) (sizes : Sizes) :
    elementCount (keptSizes axes sizes) = elementCount (remainingSizes axes sizes) :=
  elementCount_kept axes.contains sizes.zipIdx

/-- A reduction of all dimensions leaves a scalar, or ones only. -/
theorem keptSizes_range (sizes : Sizes) :
    keptSizes (List.range sizes.length) sizes = List.replicate sizes.length 1 := by
  unfold keptSizes
  rw [List.eq_replicate_iff, List.length_map, List.length_zipIdx]
  refine ⟨rfl, ?_⟩
  intro size hsize
  obtain ⟨⟨_, axis⟩, hmem, rfl⟩ := List.mem_map.mp hsize
  have haxis : axis < sizes.length := (List.mem_zipIdx' hmem).1
  simp [haxis]

theorem remainingSizes_range (sizes : Sizes) :
    remainingSizes (List.range sizes.length) sizes = [] := by
  unfold remainingSizes
  rw [List.map_eq_nil_iff, List.filter_eq_nil_iff]
  rintro ⟨size, axis⟩ hmem
  have haxis : axis < sizes.length := (List.mem_zipIdx' hmem).1
  simp [haxis]

/-! ## Groups -/

/-- The index of a group lies inside the kept sizes. -/
theorem inside_groupIndex {index : List Nat} {sizes : Sizes} (h : Inside index sizes)
    (axes : List Nat) : Inside (groupIndex axes index) (keptSizes axes sizes) := by
  -- Both lists are numbered from zero on; what is said of them has to be said of any start.
  have hfrom : ∀ start, List.Forall₂ (· < ·)
      ((index.zipIdx start).map fun entry => if axes.contains entry.2 then 0 else entry.1)
      ((sizes.zipIdx start).map fun entry => if axes.contains entry.2 then 1 else entry.1) := by
    induction h with
    | nil => exact fun _ => .nil
    | @cons i size index sizes hlt _ ih =>
      intro start
      rw [List.zipIdx_cons, List.zipIdx_cons, List.map_cons, List.map_cons]
      refine .cons ?_ (ih (start + 1))
      dsimp only
      split
      · exact Nat.zero_lt_one
      · exact hlt
  exact hfrom 0

/-- The entries of all groups together are the entries that have a number of a group. -/
theorem flatten_filter_perm {α : Type} (count : Nat) (entries : List (Nat × α))
    (h : ∀ entry ∈ entries, entry.1 < count) :
    (((List.range count).map fun group =>
      (entries.filter fun entry => entry.1 == group).map Prod.snd).flatten).Perm
        (entries.map Prod.snd) := by
  induction count generalizing entries with
  | zero =>
    rw [List.eq_nil_iff_forall_not_mem.mpr fun entry hmem => Nat.not_lt_zero _ (h entry hmem)]
    exact List.Perm.nil
  | succ count ih =>
    -- The last group is what is left of the entries when those of the other groups are taken away.
    have hothers : ((List.range count).map fun group =>
          (entries.filter fun entry => entry.1 == group).map Prod.snd) =
        (List.range count).map fun group =>
          ((entries.filter fun entry => entry.1 < count).filter fun entry =>
            entry.1 == group).map Prod.snd := by
      apply List.map_congr_left
      intro group hgroup
      rw [List.filter_filter]
      congr 1
      apply List.filter_congr
      intro entry _
      have hlt : group < count := List.mem_range.mp hgroup
      by_cases hsame : entry.1 = group
      · simp [hsame, hlt]
      · simp [hsame]
    have hlast : (entries.filter fun entry => entry.1 == count) =
        entries.filter fun entry => !decide (entry.1 < count) := by
      apply List.filter_congr
      intro entry hentry
      have hlt := h entry hentry
      by_cases hsame : entry.1 = count
      · simp [hsame]
      · have hbefore : entry.1 < count := by omega
        simp [hsame, hbefore]
    have hfirst := ih (entries.filter fun entry => entry.1 < count) fun entry hentry => by
      simpa using (List.mem_filter.mp hentry).2
    rw [List.range_succ, List.map_append, List.flatten_append, hothers, List.map_singleton,
      List.flatten_singleton, hlast]
    refine (hfirst.append_right _).trans ?_
    rw [← List.map_append]
    exact (List.filter_append_perm _ entries).map Prod.snd

namespace Tensor

variable {ε α β : Type}

/-- **Every element belongs to a group.** -/
theorem numbered_lt (tensor : Tensor α) (axes : List Nat) :
    ∀ entry ∈ tensor.numbered axes, entry.1 < elementCount (keptSizes axes tensor.sizes) := by
  intro entry hentry
  unfold numbered at hentry
  obtain ⟨⟨element, offset⟩, hmem, rfl⟩ := List.mem_map.mp hentry
  have hoffset : offset < tensor.data.toList.length := (List.mem_zipIdx' hmem).1
  rw [Array.length_toList, tensor.size_data] at hoffset
  exact ravel_lt (inside_groupIndex (inside_unravel_of_lt hoffset) axes)

/-- **The groups hold each element once.** -/
theorem groups_perm (tensor : Tensor α) (axes : List Nat) :
    (tensor.groups axes).flatten.Perm tensor.data.toList := by
  have hperm := flatten_filter_perm (elementCount (keptSizes axes tensor.sizes))
    (tensor.numbered axes) (tensor.numbered_lt axes)
  have hdata : (tensor.numbered axes).map Prod.snd = tensor.data.toList := by
    unfold numbered
    rw [List.map_map]
    exact List.zipIdx_map_fst 0 tensor.data.toList
  rw [hdata] at hperm
  exact hperm

/-- **A reduction fills its answer**, along whatever axes. -/
theorem answers_reduce (tensor : Tensor α) (axes : List Nat) (keepDims : Bool) (f : List α → β) :
    Answers (HasSizes (reducedSizes keepDims axes tensor.sizes))
      (tensor.reduce axes keepDims f : Checked ε (Tensor β)) := by
  unfold reduce
  apply answers_ofData
  rw [List.size_toArray, List.length_map]
  unfold groups
  rw [List.length_map, List.length_range]
  cases keepDims with
  | true => rfl
  | false => exact elementCount_keptSizes axes tensor.sizes

end Tensor

end OpShape

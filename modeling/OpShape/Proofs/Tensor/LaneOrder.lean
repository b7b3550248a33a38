/-
# `OpShape.Proofs.Tensor.LaneOrder` — which lane comes when.

The coordinates that the elements of a lane share are those along the other dimensions.  Lanes are
listed in row-major order of these shared coordinates, and the elements of a lane in the order of
their coordinate along the axis.
-/
import OpShape.Proofs.Tensor.Correspondence
import OpShape.Proofs.Tensor.Lane

namespace OpShape

variable {sizes : Sizes} {axis : Nat}

/-- **`RunsAlong sizes axis others lane`** — the lane is as long as the axis.  Each of its offsets is
there, and its index has the number of the offset as coordinate along the axis and `others` as
coordinates along all other dimensions. -/
structure RunsAlong (sizes : Sizes) (axis : Nat) (others lane : List Nat) : Prop where
  length : lane.length = sizeAt sizes axis
  places : ∀ i offset, lane[i]? = some offset → offset < elementCount sizes ∧
    (unravel offset sizes)[axis]? = some i ∧ (unravel offset sizes).eraseIdx axis = others

/-- The indices of the other dimensions are those of the places of lanes, in the same order. -/
theorem indices_eraseIdx (haxis : axis < sizes.length) :
    indices (sizes.eraseIdx axis) = (indices (laneSizes sizes axis)).map (·.eraseIdx axis) := by
  unfold laneSizes
  induction sizes generalizing axis with
  | nil => simp at haxis
  | cons size sizes ih =>
    rcases axis with _ | axis
    · -- The one coordinate of the axis itself is zero.
      show indices sizes = ((List.range 1).flatMap fun i => (indices sizes).map (i :: ·)).map
        (·.eraseIdx 0)
      simp [Function.comp_def]
    · have hrest := ih (Nat.lt_of_succ_lt_succ haxis)
      rw [List.eraseIdx_cons_succ, List.set_cons_succ, indices, indices, hrest, List.map_flatMap]
      simp [Function.comp_def]

/-- The lanes are those through their places. -/
theorem lanes_eq_map (sizes : Sizes) (axis : Nat) :
    lanes sizes axis = (indices (laneSizes sizes axis)).map (laneThrough sizes axis) := by
  rw [indices_eq_map, List.map_map]
  rfl

section Axis

variable (haxis : axis < sizes.length)
include haxis

theorem runsAlong_laneThrough {place : List Nat} (hplace : Inside place (laneSizes sizes axis)) :
    RunsAlong sizes axis (place.eraseIdx axis) (laneThrough sizes axis place) where
  length := by rw [laneThrough_eq haxis, List.length_map, List.length_range]
  places i offset hoffset := by
    have hlt : axis < place.length := by
      rw [hplace.length, laneSizes, List.length_set]
      exact haxis
    rw [laneThrough_eq haxis, List.getElem?_map, Option.map_eq_some_iff] at hoffset
    obtain ⟨j, hj, rfl⟩ := hoffset
    obtain ⟨hi, hji⟩ := List.getElem?_eq_some_iff.mp hj
    rw [List.getElem_range] at hji
    subst hji
    have hinside : Inside (place.set axis i) sizes :=
      inside_set hplace (by rwa [List.length_range] at hi)
    rw [unravel_ravel hinside, List.getElem?_set_self hlt, List.eraseIdx_set_eq]
    exact ⟨ravel_lt hinside, rfl, rfl⟩

/-- **The lanes run along the axis, one for each index of the other dimensions**, in row-major
order. -/
theorem lanes_runAlong :
    List.Forall₂ (RunsAlong sizes axis) (indices (sizes.eraseIdx axis)) (lanes sizes axis) := by
  rw [indices_eraseIdx haxis, lanes_eq_map, List.forall₂_map_left_iff, List.forall₂_map_right_iff,
    List.forall₂_same]
  intro place hplace
  exact runsAlong_laneThrough haxis (mem_indices.mp hplace)

end Axis

namespace Tensor

variable {ε α : Type} {tensor : Tensor α} {place : List Nat} {lane : List α}

/-- The elements of a lane are read at its offsets. -/
theorem isLane_iff_mapM (haxis : axis < tensor.sizes.length) :
    IsLane tensor axis place lane ↔
      ((laneThrough tensor.sizes axis place).mapM (Checked.fetch tensor.data) : Checked ε (List α)) =
        .ok lane := by
  rw [laneThrough_eq haxis, mapM_eq_ok, List.forall₂_map_left_iff, List.forall₂_iff_get]
  simp only [List.length_range, List.get_eq_getElem, List.getElem_range, fetch_eq_ok]
  constructor
  · intro h
    refine ⟨h.length.symm, fun i _ hi => ?_⟩
    rw [h.get i hi, List.getElem?_eq_getElem hi]
  · rintro ⟨hlength, hread⟩
    refine ⟨hlength.symm, fun i hi => ?_⟩
    rw [hread i (hlength ▸ hi) hi, List.getElem?_eq_getElem hi]

end Tensor

end OpShape

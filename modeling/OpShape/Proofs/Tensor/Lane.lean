/-
# `OpShape.Proofs.Tensor.Lane` — the lanes of a tensor.

The lanes along an axis are as many as the other sizes ask for, each is as long as the axis, and all
their offsets are there, each of them in one lane and once.  A tensor is put together again from as
many lanes of that length: every index finds its lane, and its coordinate along the axis finds its
place there.
-/
import OpShape.Tensor.Lane
import OpShape.Proofs.Tensor.Entry
import OpShape.Proofs.Tensor.Permute

namespace OpShape

variable {sizes : Sizes} {axis : Nat}

/-- The number of elements of a lane.  That of a scalar has one. -/
def laneLength (sizes : Sizes) (axis : Nat) : Nat :=
  sizes[axis]?.getD 1

theorem laneLength_eq_sizeAt (haxis : axis < sizes.length) :
    laneLength sizes axis = sizeAt sizes axis := by
  unfold laneLength sizeAt
  rw [List.getElem?_eq_getElem haxis]
  rfl

/-! ## Offsets of a lane -/

theorem length_laneThrough (haxis : axis < max sizes.length 1) (index : List Nat) :
    (laneThrough sizes axis index).length = laneLength sizes axis := by
  unfold laneThrough
  cases sizes with
  | nil => rfl
  | cons size sizes =>
    have hlt : axis < (size :: sizes).length := by
      rw [List.length_cons] at haxis ⊢
      omega
    rw [List.length_map, List.length_range, laneLength_eq_sizeAt hlt]
    rfl

/-- **The offsets of a lane are there.** -/
theorem laneThrough_lt {index : List Nat} (hinside : Inside index (laneSizes sizes axis)) :
    ∀ offset ∈ laneThrough sizes axis index, offset < elementCount sizes := by
  intro offset hoffset
  unfold laneThrough at hoffset
  cases sizes with
  | nil =>
    rw [List.mem_singleton.mp hoffset]
    exact Nat.zero_lt_one
  | cons size sizes =>
    obtain ⟨position, hposition, rfl⟩ := List.mem_map.mp hoffset
    exact ravel_lt (inside_set hinside (List.mem_range.mp hposition))

/-- Every lane has the length of the axis, and its offsets are there. -/
theorem mem_lanes (haxis : axis < max sizes.length 1) {lane : List Nat} (h : lane ∈ lanes sizes axis) :
    lane.length = laneLength sizes axis ∧ ∀ offset ∈ lane, offset < elementCount sizes := by
  obtain ⟨number, hnumber, rfl⟩ := List.mem_map.mp h
  have hinside := inside_unravel_of_lt (List.mem_range.mp hnumber)
  exact ⟨length_laneThrough haxis _, laneThrough_lt hinside⟩

/-! ## The lane of an index -/

/-- A coordinate of zero along the axis leads to the lane itself. -/
theorem inside_laneSizes {index : List Nat} (hinside : Inside index sizes) :
    Inside (index.set axis 0) (laneSizes sizes axis) := by
  unfold laneSizes
  by_cases haxis : axis < sizes.length
  · -- The sizes are those of the lanes with the length of the axis put back.
    have hback : (sizes.set axis 1).set axis (sizeAt sizes axis) = sizes := by
      rw [List.set_set, set_sizeAt haxis]
    rw [← hback] at hinside
    refine inside_set hinside ?_
    rw [sizeAt_set haxis]
    exact Nat.zero_lt_one
  · have hbeyond : index.length ≤ axis := hinside.length ▸ Nat.not_lt.mp haxis
    rw [List.set_eq_of_length_le (Nat.not_lt.mp haxis), List.set_eq_of_length_le hbeyond]
    exact hinside

/-- Every index has a lane. -/
theorem laneNumber_lt {index : List Nat} (hinside : Inside index sizes) :
    laneNumber sizes axis index < elementCount (laneSizes sizes axis) :=
  ravel_lt (inside_laneSizes hinside)

/-- The coordinate of an index along the axis is a place in its lane. -/
theorem coordinate_lt (haxis : axis < max sizes.length 1) {index : List Nat}
    (hinside : Inside index sizes) : index[axis]?.getD 0 < laneLength sizes axis := by
  cases hinside with
  | nil => exact Nat.zero_lt_one
  | @cons i size index sizes hlt hrest =>
    have hsome : axis < (i :: index).length := by
      rw [List.length_cons, hrest.length_eq]
      rw [List.length_cons] at haxis
      omega
    have hinside : Inside (i :: index) (size :: sizes) := .cons hlt hrest
    rw [laneLength_eq_sizeAt (hinside.length ▸ hsome), List.getElem?_eq_getElem hsome]
    exact hinside.getElem_lt (List.getElem?_eq_getElem hsome)

/-! ## Every offset in one lane -/

section Axis

variable (haxis : axis < sizes.length)
include haxis

theorem laneThrough_eq (index : List Nat) :
    laneThrough sizes axis index =
      (List.range (sizeAt sizes axis)).map fun i => ravel (index.set axis i) sizes := by
  unfold laneThrough
  cases sizes with
  | nil => cases haxis
  | cons size sizes => rfl

/-- The place of a lane has no coordinate along the axis but zero. -/
theorem set_zero_of_inside {place : List Nat} (hplace : Inside place (laneSizes sizes axis)) :
    place.set axis 0 = place := by
  obtain ⟨hlt, hone⟩ := hplace.coordinate_set haxis
  have hzero : place[axis] = 0 := Nat.lt_one_iff.mp hone
  conv_rhs => rw [← List.set_getElem_self hlt, hzero]

/-- The lanes and the elements of one make up the tensor. -/
theorem elementCount_laneSizes :
    elementCount (laneSizes sizes axis) * sizeAt sizes axis = elementCount sizes := by
  unfold laneSizes
  induction sizes generalizing axis with
  | nil => cases haxis
  | cons size sizes ih =>
    cases axis with
    | zero =>
      show 1 * elementCount sizes * size = size * elementCount sizes
      rw [Nat.one_mul, Nat.mul_comm]
    | succ axis =>
      show size * elementCount (sizes.set axis 1) * sizeAt sizes axis = size * elementCount sizes
      rw [Nat.mul_assoc, ih (Nat.lt_of_succ_lt_succ haxis)]

/-- Every offset lies in a lane. -/
theorem exists_lane {offset : Nat} (h : offset < elementCount sizes) :
    ∃ lane ∈ lanes sizes axis, offset ∈ lane := by
  have hinside := inside_unravel_of_lt h
  have hplace : Inside ((unravel offset sizes).set axis 0) (laneSizes sizes axis) :=
    inside_laneSizes hinside
  have hlt : axis < (unravel offset sizes).length := by rwa [hinside.length]
  refine ⟨_, List.mem_map_of_mem (List.mem_range.mpr (ravel_lt hplace)), ?_⟩
  rw [laneThrough_eq haxis, unravel_ravel hplace, List.mem_map]
  refine ⟨(unravel offset sizes)[axis], ?_, ?_⟩
  · exact List.mem_range.mpr (hinside.getElem_lt (List.getElem?_eq_getElem hlt))
  · rw [List.set_set, List.set_getElem_self, ravel_unravel_of_lt h]

/-- **The lanes hold every offset once.** -/
theorem lanes_perm : (lanes sizes axis).flatten.Perm (List.range (elementCount sizes)) := by
  have hlength : ((lanes sizes axis).flatten).length = elementCount sizes := by
    have hlanes : ∀ lane ∈ lanes sizes axis, lane.length = sizeAt sizes axis := by
      intro lane hlane
      rw [(mem_lanes (Nat.lt_of_lt_of_le haxis (Nat.le_max_left _ _)) hlane).1,
        laneLength_eq_sizeAt haxis]
    have hsum : (lanes sizes axis).map List.length =
        List.replicate (elementCount (laneSizes sizes axis)) (sizeAt sizes axis) := by
      refine List.eq_replicate_iff.mpr ⟨?_, ?_⟩
      · rw [List.length_map, lanes, List.length_map, List.length_range]
      · rw [List.forall_mem_map]
        exact hlanes
    rw [List.length_flatten, hsum, List.sum_replicate_nat, elementCount_laneSizes haxis]
  have hsubset : List.range (elementCount sizes) ⊆ (lanes sizes axis).flatten := by
    intro offset hoffset
    exact List.mem_flatten.mpr (exists_lane haxis (List.mem_range.mp hoffset))
  -- As many offsets as there are, and none of them missing.
  refine ((List.nodup_range.subperm hsubset).perm_of_length_le (Nat.le_of_eq ?_)).symm
  rw [hlength, List.length_range]

end Axis

/-! ## Tensors and their lanes -/

namespace Tensor

variable {ε α β : Type}

/-- There is a lane for each element of the tensor of lanes, and each has the length of the axis. -/
structure FillLanes (sizes : Sizes) (axis : Nat) (lanes : List (List α)) : Prop where
  count : lanes.length = elementCount (laneSizes sizes axis)
  length : ∀ lane ∈ lanes, lane.length = laneLength sizes axis

/-- **The lanes of a tensor can be read.** -/
theorem answers_laneElements {tensor : Tensor α} (haxis : axis < max tensor.sizes.length 1) :
    Answers (FillLanes tensor.sizes axis) (tensor.laneElements axis : Checked ε (List (List α))) := by
  have hread : Answers
      (List.Forall₂ (fun offsets lane => lane.length = offsets.length) (lanes tensor.sizes axis))
      (tensor.laneElements axis : Checked ε (List (List α))) := by
    refine Answers.mapM fun offsets hoffsets => ?_
    have hfetch : ∀ offset ∈ offsets, AnswersAtAll (Checked.fetch tensor.data offset : Checked ε α) :=
      fun offset hoffset => answers_fetch
        (Nat.lt_of_lt_of_eq ((mem_lanes haxis hoffsets).2 offset hoffset) tensor.size_data.symm)
    exact (Answers.mapM hfetch).imp fun lane hlane => hlane.length_eq.symm
  refine hread.imp fun found hfound => ⟨?_, ?_⟩
  · rw [← hfound.length_eq]
    unfold lanes
    rw [List.length_map, List.length_range]
  · intro lane hlane
    obtain ⟨offsets, hoffsets, hlength⟩ := exists_of_forall₂_right hfound hlane
    exact hlength.trans (mem_lanes haxis hoffsets).1

/-- **A tensor is put together from its lanes.** -/
theorem answers_ofLanes {lanes : List (List α)} (haxis : axis < max sizes.length 1)
    (h : FillLanes sizes axis lanes) :
    Answers (HasSizes sizes) (ofLanes sizes axis lanes : Checked ε (Tensor α)) := by
  unfold ofLanes
  refine answers_ofIndices fun index hinside => ?_
  have hnumber : laneNumber sizes axis index < (lanes.toArray.map List.toArray).size := by
    rw [Array.size_map, List.size_toArray, h.count]
    exact laneNumber_lt hinside
  rw [Checked.fetch_of_lt hnumber, ok_bind]
  refine answers_fetch ?_
  rw [Array.getElem_map, List.size_toArray, List.getElem_toArray, h.length _ (List.getElem_mem _)]
  exact coordinate_lt haxis hinside

/-- Lanes that are replaced by others of their length still fill a tensor. -/
theorem FillLanes.map {lanes : List (List α)} {f : List α → List β} (h : FillLanes sizes axis lanes)
    (hf : ∀ lane, (f lane).length = lane.length) : FillLanes sizes axis (lanes.map f) where
  count := by rw [List.length_map, h.count]
  length lane hlane := by
    obtain ⟨lane, hmem, rfl⟩ := List.mem_map.mp hlane
    rw [hf, h.length lane hmem]

/-- **Lanes are replaced by others of their length** along any axis, and the sizes stay. -/
theorem answers_mapLanes {tensor : Tensor α} {f : List α → List β}
    (haxis : axis < max tensor.sizes.length 1) (hf : ∀ lane, (f lane).length = lane.length) :
    Answers (HasSizes tensor.sizes) (tensor.mapLanes axis f : Checked ε (Tensor β)) :=
  (answers_laneElements haxis).bind fun _ hlanes => answers_ofLanes haxis (hlanes.map hf)

/-! ## What lanes hold -/

/-- **`IsLane tensor axis place lane`** — the elements of a tensor along an axis, through a place. -/
structure IsLane (tensor : Tensor α) (axis : Nat) (place : List Nat) (lane : List α) : Prop where
  length : lane.length = sizeAt tensor.sizes axis
  get : ∀ i < lane.length, tensor.data[ravel (place.set axis i) tensor.sizes]? = lane[i]?

/-- There is one lane through a place. -/
theorem IsLane.unique {tensor : Tensor α} {place : List Nat} {lane other : List α}
    (h : tensor.IsLane axis place lane) (h' : tensor.IsLane axis place other) : lane = other := by
  have hlength : lane.length = other.length := h.length.trans h'.length.symm
  apply List.ext_getElem?
  intro i
  by_cases hi : i < lane.length
  · rw [← h.get i hi, h'.get i (hlength ▸ hi)]
  · rw [List.getElem?_eq_none (Nat.not_lt.mp hi),
      List.getElem?_eq_none (hlength ▸ Nat.not_lt.mp hi)]

/-- **The lanes that are read are those of the tensor**, in the order of their places. -/
theorem isLane_of_laneElements {tensor : Tensor α} {found : List (List α)} {place : List Nat}
    (haxis : axis < tensor.sizes.length)
    (h : (tensor.laneElements axis : Checked ε (List (List α))) = .ok found)
    (hplace : Inside place (laneSizes tensor.sizes axis)) :
    ∃ lane, found[ravel place (laneSizes tensor.sizes axis)]? = some lane ∧
      IsLane tensor axis place lane := by
  have hlanes := mapM_eq_ok.mp h
  have hnumber : ravel place (laneSizes tensor.sizes axis) < found.length := by
    rw [← hlanes.length_eq, lanes, List.length_map, List.length_range]
    exact ravel_lt hplace
  refine ⟨_, List.getElem?_eq_getElem hnumber, ?_⟩
  obtain ⟨offsets, hoffsets, hread⟩ := getElem?_of_forall₂ hlanes (List.getElem?_eq_getElem hnumber)
  rw [lanes, List.getElem?_map, List.getElem?_range (ravel_lt hplace)] at hoffsets
  have hsame : laneThrough tensor.sizes axis (unravel (ravel place (laneSizes tensor.sizes axis))
      (laneSizes tensor.sizes axis)) = offsets := Option.some.inj hoffsets
  rw [unravel_ravel hplace, laneThrough_eq haxis] at hsame
  subst hsame
  have helements := mapM_eq_ok.mp hread
  have hlength : found[ravel place (laneSizes tensor.sizes axis)].length =
      sizeAt tensor.sizes axis := by
    rw [← helements.length_eq, List.length_map, List.length_range]
  refine ⟨hlength, fun i hi => ?_⟩
  obtain ⟨offset, hoffset, hfetch⟩ :=
    getElem?_of_forall₂ helements (List.getElem?_eq_getElem hi)
  rw [List.getElem?_map, List.getElem?_range (hlength ▸ hi)] at hoffset
  rw [List.getElem?_eq_getElem hi, ← fetch_eq_ok.mp hfetch]
  exact congrArg _ (Option.some.inj hoffset)

/-- **A tensor that is put together from lanes has them.** -/
theorem isLane_of_ofLanes {tensor : Tensor α} {given : List (List α)} {place : List Nat}
    {lane : List α} (haxis : axis < sizes.length)
    (h : (ofLanes sizes axis given : Checked ε (Tensor α)) = .ok tensor)
    (hplace : Inside place (laneSizes sizes axis))
    (hlane : given[ravel place (laneSizes sizes axis)]? = some lane)
    (hlength : lane.length = sizeAt sizes axis) : IsLane tensor axis place lane := by
  unfold ofLanes at h
  obtain ⟨rfl, hentries⟩ := ofIndices_eq_ok.mp h
  refine ⟨hlength, fun i hi => ?_⟩
  have hlt : axis < place.length := by
    rw [hplace.length, laneSizes, List.length_set]
    exact haxis
  have hinside : Inside (place.set axis i) tensor.sizes := inside_set hplace (hlength ▸ hi)
  have hnumber : laneNumber tensor.sizes axis (place.set axis i) =
      ravel place (laneSizes tensor.sizes axis) := by
    unfold laneNumber
    rw [List.set_set, set_zero_of_inside haxis hplace]
  have hentry := hentries _ hinside
  have hfound : (given.toArray.map List.toArray)[ravel place (laneSizes tensor.sizes axis)]? =
      some lane.toArray := by
    rw [Array.getElem?_map, List.getElem?_toArray, hlane]
    rfl
  have hcoordinate : (place.set axis i)[axis]?.getD 0 = i := by
    rw [List.getElem?_set_self hlt]
    rfl
  rw [hnumber, fetch_eq_ok.mpr hfound, ok_bind, hcoordinate] at hentry
  have hread : (Checked.fetch lane.toArray i : Checked ε α) = .ok lane[i] :=
    fetch_eq_ok.mpr (by rw [List.getElem?_toArray, List.getElem?_eq_getElem hi])
  rw [hread] at hentry
  rw [List.getElem?_eq_getElem hi]
  exact fetch_eq_ok.mp hentry.symm

end Tensor

end OpShape

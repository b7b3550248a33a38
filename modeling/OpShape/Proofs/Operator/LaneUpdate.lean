/-
# `OpShape.Proofs.Operator.LaneUpdate` — lanes partition a tensor, so they may be updated in place.

Putting other elements in the place of each lane can be done in the data themselves: one lane after
the other is read and written back.  Since no offset belongs to two lanes, a lane still holds its
first elements when its turn comes, and what is written then is never written again.  So the loop
over the lanes leaves what is put together from the new lanes all at once.
-/
import OpShape.Proofs.Operator.Write
import OpShape.Proofs.Rule.Reduce
import OpShape.Proofs.Tensor.LaneOrder

namespace OpShape.Operator

variable {α β : Type}

/-! ## The elements of a lane -/

/-- The elements at the offsets of a lane. -/
def readLane (data : Array α) (lane : List Nat) : OpResult (List α) :=
  lane.mapM (Checked.fetch data)

/-- **`Replaced f old new lane`** — the lane holds in `new` what `f` makes of its elements in
`old`. -/
def Replaced (f : List α → List β) (old : Array α) (new : Array β) (lane : List Nat) : Prop :=
  ∃ elements, readLane old lane = .ok elements ∧ readLane new lane = .ok (f elements)

theorem readLane_eq_ok {data : Array α} {lane : List Nat} {elements : List α} :
    readLane data lane = .ok elements ↔
      List.Forall₂ (fun offset x => data[offset]? = some x) lane elements := by
  unfold readLane
  simp only [mapM_eq_ok, Tensor.fetch_eq_ok]

/-- A lane whose offsets are there can be read. -/
theorem exists_readLane {data : Array α} {lane : List Nat} (h : ∀ offset ∈ lane, offset < data.size) :
    ∃ elements, readLane data lane = .ok elements :=
  mapM_answers.mpr fun offset hoffset => Tensor.fetch_answers.mpr (h offset hoffset)

/-- A lane that is left alone reads the same. -/
theorem readLane_of_frame {old new : Array α} {lane : List Nat} {elements : List α}
    (hframe : ∀ offset ∈ lane, new[offset]? = old[offset]?)
    (h : readLane old lane = .ok elements) : readLane new lane = .ok elements := by
  refine mapM_of_agrees (fun offset hoffset x hx => ?_) h
  rw [Tensor.fetch_eq_ok] at hx ⊢
  rw [hframe offset hoffset, hx]

/-- Data that read the same in all lanes are the same. -/
theorem eq_of_readLane {sizes : Sizes} {axis : Nat} (haxis : axis < sizes.length)
    {data other : Array α} (hdata : data.size = elementCount sizes)
    (hother : other.size = elementCount sizes)
    (h : ∀ lane ∈ lanes sizes axis, ∃ elements,
      readLane data lane = .ok elements ∧ readLane other lane = .ok elements) : data = other := by
  refine Array.ext (hdata.trans hother.symm) fun offset hoffset hoffset' => ?_
  obtain ⟨lane, hlane, hmem⟩ := exists_lane haxis (hdata ▸ hoffset)
  obtain ⟨elements, hread, hread'⟩ := h lane hlane
  obtain ⟨i, hi, rfl⟩ := List.getElem_of_mem hmem
  rw [readLane_eq_ok, List.forall₂_iff_get] at hread hread'
  have hlength : i < elements.length := hread.1 ▸ hi
  have hx := hread.2 i hi hlength
  have hx' := hread'.2 i hi hlength
  simp only [List.get_eq_getElem] at hx hx'
  rw [Array.getElem?_eq_getElem hoffset] at hx
  rw [Array.getElem?_eq_getElem hoffset'] at hx'
  exact Option.some.inj (hx.trans hx'.symm)

/-! ## All lanes at once -/

/-- **Each lane of the answer is what is made of that lane of the tensor**, and of no other one. -/
theorem mapLanes_replaces {tensor : Tensor α} {axis : Nat} {f : List α → List β}
    (haxis : axis < tensor.sizes.length) (hf : ∀ lane, (f lane).length = lane.length) :
    ∃ output : Tensor β, (tensor.mapLanes axis f : OpResult (Tensor β)) = .ok output ∧
      output.sizes = tensor.sizes ∧
        ∀ lane ∈ lanes tensor.sizes axis, Replaced f tensor.data output.data lane := by
  have hbound : axis < max tensor.sizes.length 1 := Nat.lt_of_lt_of_le haxis (Nat.le_max_left _ _)
  obtain ⟨output, houtput, hsizes⟩ :=
    answers_iff.mp (Tensor.answers_mapLanes (ε := OpError) hbound hf)
  have hsizes : output.sizes = tensor.sizes := hsizes
  refine ⟨output, houtput, hsizes, fun lane hlane => ?_⟩
  unfold Tensor.mapLanes at houtput
  obtain ⟨found, hfound, houtput⟩ := bind_eq_ok.mp houtput
  rw [lanes_eq_map, List.mem_map] at hlane
  obtain ⟨place, hplace, rfl⟩ := hlane
  rw [mem_indices] at hplace
  obtain ⟨elements, hget, hold⟩ := Tensor.isLane_of_laneElements haxis hfound hplace
  have hnew : output.IsLane axis place (f elements) := by
    refine Tensor.isLane_of_ofLanes haxis houtput hplace ?_ ?_
    · rw [List.getElem?_map, hget, Option.map_some]
    · rw [hf, hold.length]
  rw [← hsizes] at haxis
  rw [Tensor.isLane_iff_mapM haxis, hsizes] at hnew
  exact ⟨elements, (Tensor.isLane_iff_mapM (hsizes ▸ haxis)).mp hold, hnew⟩

/-! ## One lane after the other -/

/-- Put what `f` makes of the elements of a lane in their place. -/
def updateLane (f : List α → List α) (data : Array α) (lane : List Nat) : OpResult (Array α) := do
  let elements ← readLane data lane
  writeAll (fun _ new => new) data (lane.zip (f elements))

/-- Update some lanes, one after the other. -/
def updateLanes (f : List α → List α) (data : Array α) (lanes : List (List Nat)) :
    OpResult (Array α) :=
  lanes.foldlM (updateLane f) data

/-- Where no offset is written twice, each holds its own value. -/
theorem readLane_of_writeAll {data written : Array α} {lane : List Nat} {values : List α}
    (hnodup : lane.Nodup) (hlength : lane.length = values.length)
    (h : writeAll (fun _ new => new) data (lane.zip values) = .ok written) :
    readLane written lane = .ok values := by
  rw [readLane_eq_ok, List.forall₂_iff_get]
  refine ⟨hlength, fun i hi hi' => ?_⟩
  have hvalue : values[i]? = some values[i] := List.getElem?_eq_getElem hi'
  have hpick : LastPick lane lane[i] i := by
    refine ⟨List.getElem?_eq_getElem hi, fun later hlater hsame => ?_⟩
    rw [← List.getElem?_eq_getElem hi, eq_comm, List.getElem?_inj hi hnodup] at hsame
    omega
  have hentry : (lane[i], values[i]) ∈ lane.zip values :=
    List.mem_of_getElem? (List.getElem?_zip_eq_some.mpr ⟨hpick.1, hvalue⟩)
  have hlt : lane[i] < data.size := writeAll_answers.mp ⟨_, h⟩ _ hentry
  obtain ⟨before, hbefore⟩ := writtenTo_zip_lastPick hpick hvalue
  show written[lane[i]]? = some values[i]
  rw [writeAll_reads h, hbefore, Array.getElem?_eq_getElem hlt, Option.map_some, List.foldl_append]
  rfl

section Update

variable {f : List α → List α} (hf : ∀ lane, (f lane).length = lane.length)
include hf

/-- **Updating a lane replaces its elements**, and leaves all other ones alone. -/
theorem exists_updateLane {data : Array α} {lane : List Nat} (hnodup : lane.Nodup)
    (hlt : ∀ offset ∈ lane, offset < data.size) :
    ∃ next, updateLane f data lane = .ok next ∧ next.size = data.size ∧
      Replaced f data next lane ∧ ∀ offset, offset ∉ lane → next[offset]? = data[offset]? := by
  obtain ⟨elements, hread⟩ := exists_readLane hlt
  have hlength : lane.length = (f elements).length := by
    rw [hf, (mapM_eq_ok.mp hread).length_eq]
  have hentries : ∀ entry ∈ lane.zip (f elements), entry.1 < data.size :=
    fun entry hentry => hlt entry.1 (List.of_mem_zip hentry).1
  obtain ⟨next, hnext, hsize⟩ := answers_iff.mp (answers_writeAll hentries)
  refine ⟨next, ?_, hsize, ⟨elements, hread, readLane_of_writeAll hnodup hlength hnext⟩, ?_⟩
  · unfold updateLane
    rw [hread, ok_bind, hnext]
  · intro offset hother
    rw [writeAll_reads hnext, writtenTo_zip_of_not_mem hother]
    exact Option.map_id'

/-- **Updating lanes that share no offset replaces each of them once**: what one of them held in the
beginning is what is read when its turn comes, and what is written then stays. -/
theorem exists_updateLanes {data : Array α} {lanes : List (List Nat)}
    (hnodup : lanes.flatten.Nodup) (hlt : ∀ offset ∈ lanes.flatten, offset < data.size) :
    ∃ next, updateLanes f data lanes = .ok next ∧ next.size = data.size ∧
      (∀ lane ∈ lanes, Replaced f data next lane) ∧
        ∀ offset, offset ∉ lanes.flatten → next[offset]? = data[offset]? := by
  induction lanes generalizing data with
  | nil => exact ⟨data, rfl, rfl, by simp, fun _ _ => rfl⟩
  | cons lane lanes ih =>
    rw [List.flatten_cons, List.nodup_append] at hnodup
    obtain ⟨hfirst, hlater, hdisjoint⟩ := hnodup
    rw [List.flatten_cons, List.forall_mem_append] at hlt
    obtain ⟨middle, hmiddle, hsize, ⟨elements, hold, hnew⟩, hframe⟩ :=
      exists_updateLane hf hfirst hlt.1
    obtain ⟨next, hnext, hsize', hreplaced, hframe'⟩ := ih hlater (hsize ▸ hlt.2)
    refine ⟨next, ?_, hsize'.trans hsize, ?_, ?_⟩
    · unfold updateLanes at hnext ⊢
      rw [List.foldlM_cons, hmiddle, ok_bind, hnext]
    · rw [List.forall_mem_cons]
      constructor
      · -- The later lanes do not write to this one any more.
        refine ⟨elements, hold, readLane_of_frame (fun offset hoffset => hframe' offset ?_) hnew⟩
        exact fun hmem => hdisjoint offset hoffset offset hmem rfl
      · -- The first lane has not written to the later ones.
        intro other hother
        obtain ⟨elements, hold, hnew⟩ := hreplaced other hother
        refine ⟨elements, readLane_of_frame (fun offset hoffset => ?_) hold, hnew⟩
        refine (hframe offset fun hmem => ?_).symm
        exact hdisjoint offset hmem offset (List.mem_flatten_of_mem hother hoffset) rfl
    · intro offset hother
      rw [List.flatten_cons, List.mem_append, not_or] at hother
      rw [hframe' offset hother.2, hframe offset hother.1]

end Update

/-! ## Lanes of a tensor -/

/-- The lanes of a tensor hold no offset twice, and all that they hold are there. -/
theorem nodup_flatten_lanes {sizes : Sizes} {axis : Nat} (haxis : axis < sizes.length) :
    (lanes sizes axis).flatten.Nodup ∧
      ∀ offset ∈ (lanes sizes axis).flatten, offset < elementCount sizes := by
  have hperm := lanes_perm haxis
  refine ⟨hperm.nodup_iff.mpr List.nodup_range, fun offset hoffset => ?_⟩
  exact List.mem_range.mp (hperm.mem_iff.mp hoffset)

/-- **In the middle of the loop** the lanes that have had their turn are replaced, and those that have
not are as they were. -/
theorem exists_updateLanes_front {tensor : Tensor α} {axis : Nat} {f : List α → List α}
    (haxis : axis < tensor.sizes.length) (hf : ∀ lane, (f lane).length = lane.length)
    {front back : List (List Nat)} (hsplit : front ++ back = lanes tensor.sizes axis) :
    ∃ data, updateLanes f tensor.data front = .ok data ∧ data.size = tensor.data.size ∧
      (∀ lane ∈ front, Replaced f tensor.data data lane) ∧
        ∀ lane ∈ back, Replaced id tensor.data data lane := by
  obtain ⟨hnodup, hlt⟩ := nodup_flatten_lanes haxis
  rw [← hsplit, List.flatten_append, ← tensor.size_data] at hlt
  rw [← hsplit, List.flatten_append, List.nodup_append] at hnodup
  obtain ⟨hfront, -, hdisjoint⟩ := hnodup
  rw [List.forall_mem_append] at hlt
  obtain ⟨data, hdata, hsize, hreplaced, hframe⟩ := exists_updateLanes hf hfront hlt.1
  refine ⟨data, hdata, hsize, hreplaced, fun lane hlane => ?_⟩
  have hmem : ∀ offset ∈ lane, offset ∈ back.flatten :=
    fun offset hoffset => List.mem_flatten_of_mem hlane hoffset
  obtain ⟨elements, hread⟩ := exists_readLane fun offset hoffset => hlt.2 offset (hmem offset hoffset)
  refine ⟨elements, hread, readLane_of_frame (fun offset hoffset => hframe offset ?_) hread⟩
  exact fun hdone => hdisjoint offset hdone offset (hmem offset hoffset) rfl

/-- **The loop over all lanes leaves what is put together from the new lanes.** -/
theorem updateLanes_eq {tensor output : Tensor α} {axis : Nat} {f : List α → List α}
    (haxis : axis < tensor.sizes.length) (hf : ∀ lane, (f lane).length = lane.length)
    (hsizes : output.sizes = tensor.sizes)
    (h : ∀ lane ∈ lanes tensor.sizes axis, Replaced f tensor.data output.data lane) :
    updateLanes f tensor.data (lanes tensor.sizes axis) = .ok output.data := by
  obtain ⟨data, hdata, hsize, hreplaced, -⟩ :=
    exists_updateLanes_front haxis hf (List.append_nil (lanes tensor.sizes axis))
  have hsame : data = output.data := by
    refine eq_of_readLane haxis (hsize.trans tensor.size_data) (hsizes ▸ output.size_data) ?_
    intro lane hlane
    obtain ⟨elements, hold, hnew⟩ := hreplaced lane hlane
    obtain ⟨elements', hold', hnew'⟩ := h lane hlane
    obtain rfl : elements = elements' := Except.ok.inj (hold.symm.trans hold')
    exact ⟨f elements, hnew, hnew'⟩
  rw [hdata, hsame]

end OpShape.Operator

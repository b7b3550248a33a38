/-
# `OpShape.Proofs.Operator.PadPlaces` — the places that padded elements come from.

With a plan that is accepted, an element of the answer is read from a place of the input that is found
coordinate by coordinate, or it is the fill value.  Pads one after the other are therefore told from
single coordinates: where a coordinate comes from twice in a row, and which ones come from the same.
-/
import OpShape.Proofs.Operator.Pad
import OpShape.Proofs.Tensor.Entry

namespace OpShape.Operator

variable {α : Type} {padding : Padding}

attribute [local irreducible] signed

/-! ## Coordinates -/

/-- The position of a dimension that a position of the padded one is read from, if it is not
filled. -/
def Padding.place (padding : Padding) (dim : PaddedDim) (i : Nat) : Option Nat :=
  let position := (i : Int) - dim.before
  if 0 ≤ position ∧ position < dim.size then some position.toNat
  else
    match padding with
    | constant => none
    | reflect => some (if position < 0 then -position else 2 * (dim.size - 1) - position).toNat
    | replicate => some (max 0 (min ((dim.size : Int) - 1) position)).toNat
    | circular => some (position % dim.size).toNat

/-- **The operator reads each position from its place.** -/
theorem source_eq_place {dim : PaddedDim} {i : Nat} (hsize : dim.size < 2 ^ 63)
    (hreads : ReadsInside padding dim) (hi : (i : Int) < dim.padded) :
    padding.source (i - dim.before) (signed dim.size) =
      .ok ((padding.place dim i).map fun place : Nat => (place : Int)) := by
  have hread := hreads i hi
  rw [signed_of_lt hsize] at hread ⊢
  unfold Padding.source at hread ⊢
  unfold Padding.place
  dsimp only
  by_cases hinside : 0 ≤ (i : Int) - dim.before ∧ (i : Int) - dim.before < dim.size
  · rw [if_pos hinside, if_pos hinside, Option.map_some, Int.toNat_of_nonneg hinside.1]
  rw [if_neg hinside] at hread
  rw [if_neg hinside, if_neg hinside]
  cases padding with
  | constant => rfl
  | reflect =>
    obtain ⟨h, -⟩ | ⟨place, hplace, hnonneg, -⟩ := hread
    · cases h
    · rw [← Option.some.inj hplace] at hnonneg
      dsimp only
      rw [Option.map_some, Int.toNat_of_nonneg hnonneg]
  | replicate =>
    dsimp only at hread ⊢
    have hpos : 0 ≤ (dim.size : Int) - 1 := by
      by_contra hneg
      unfold Checked.clamp at hread
      rw [if_neg hneg] at hread
      exact hread
    rw [Checked.clamp_of_le hpos, ok_bind, Option.map_some, Int.toNat_of_nonneg (by omega)]
  | circular =>
    dsimp only at hread ⊢
    by_cases hzero : (dim.size : Int) = 0
    · rw [if_pos hzero] at hread
      exact hread.elim
    · rw [if_neg hzero, Option.map_some, Int.toNat_of_nonneg (Int.emod_nonneg _ hzero)]

/-! ## Indices -/

/-- The index of the input that an index of the answer is read from, if none of its coordinates is
filled. -/
def places (padding : Padding) : List PaddedDim → List Nat → Option (List Nat)
  | dim :: dims, i :: index => do
    let place ← padding.place dim i
    let rest ← places padding dims index
    some (place :: rest)
  | _, _ => some []

section Plan

variable {plan : List PaddedDim} {index : List Nat}

/-- **The operator reads each index from its place.** -/
theorem padSource_eq_places (hsizes : ∀ dim ∈ plan, dim.size < 2 ^ 63)
    (hreads : ∀ dim ∈ plan, ReadsInside padding dim)
    (hindex : Inside index (plan.map fun dim => dim.padded.toNat)) :
    padSource padding plan index = .ok (places padding plan index) := by
  induction plan generalizing index with
  | nil =>
    cases hindex
    rfl
  | cons dim plan ih =>
    rw [List.map_cons] at hindex
    cases hindex with
    | @cons i _ index _ hi hrest =>
    rw [List.forall_mem_cons] at hsizes hreads
    unfold padSource places
    rw [source_eq_place hsizes.1 hreads.1 (by omega), ok_bind, ih hsizes.2 hreads.2 hrest]
    cases padding.place dim i with
    | none => rfl
    | some place =>
      cases places padding plan index with
      | none => rfl
      | some rest => rfl

theorem inside_places (hsizes : ∀ dim ∈ plan, dim.size < 2 ^ 63)
    (hreads : ∀ dim ∈ plan, ReadsInside padding dim)
    (hindex : Inside index (plan.map fun dim => dim.padded.toNat)) {source : List Nat}
    (hsource : places padding plan index = some source) :
    Inside source (plan.map PaddedDim.size) := by
  have hanswers := answers_padSource hreads hindex
  rw [padSource_eq_places hsizes hreads hindex, hsource] at hanswers
  obtain ⟨h, -⟩ | ⟨_, hfound, hinside⟩ := hanswers
  · cases h
  · rw [Option.some.inj hfound]
    exact hinside

/-- Coordinates that come from the same positions come from the same place. -/
theorem places_congr {other : List Nat} (hlength : index.length = other.length)
    (h : ∀ (axis : Nat) (dim : PaddedDim) (i j : Nat), plan[axis]? = some dim →
      index[axis]? = some i → other[axis]? = some j →
        padding.place dim i = padding.place dim j) :
    places padding plan index = places padding plan other := by
  induction plan generalizing index other with
  | nil => rfl
  | cons dim plan ih =>
    cases index with
    | nil => rw [List.eq_nil_of_length_eq_zero hlength.symm]
    | cons i index =>
      cases other with
      | nil => cases hlength
      | cons j other =>
        unfold places
        rw [h 0 dim i j rfl rfl rfl, ih (Nat.succ.inj hlength) fun axis => h (axis + 1)]

end Plan

/-- **Places one after the other**, of plans for the same dimensions, if each coordinate comes from
where it comes from at once. -/
theorem places_bind {ι : Type} {entries : List ι} {near far whole : ι → PaddedDim}
    {first second both : Padding} {index : List Nat}
    (h : ∀ entry ∈ entries, ∀ i : Nat, (i : Int) < (whole entry).padded →
      both.place (whole entry) i = (second.place (far entry) i).bind (first.place (near entry)))
    (hindex : Inside index (entries.map fun entry => (whole entry).padded.toNat)) :
    places both (entries.map whole) index =
      (places second (entries.map far) index).bind (places first (entries.map near)) := by
  induction entries generalizing index with
  | nil => rfl
  | cons entry entries ih =>
    rw [List.map_cons] at hindex
    cases hindex with
    | @cons i _ index _ hi hrest =>
    rw [List.forall_mem_cons] at h
    simp only [List.map_cons, places]
    rw [h.1 i (by omega), ih h.2 hrest]
    cases second.place (far entry) i with
    | none => rfl
    | some place =>
      cases hfar : places second (entries.map far) index with
      | none => cases hnear : first.place (near entry) place <;> simp [hnear]
      | some source => rfl

/-! ## What a padded tensor holds -/

/-- The element that is found at a place, or the fill value. -/
def readAt (fill : α) (input : Tensor α) : Option (List Nat) → OpResult α
  | some source => input.at? source
  | none => .ok fill

/-- What is read at a place that was found in another tensor is what that one holds there. -/
theorem readAt_bind {fill : α} {input middle : Tensor α} {near : List PaddedDim}
    (hreads : ∀ index, Inside index middle.sizes →
      readAt fill input (places padding near index) = middle.at? index)
    {found : Option (List Nat)} (hfound : ∀ source, found = some source → Inside source middle.sizes) :
    readAt fill input (found.bind (places padding near)) = readAt fill middle found := by
  cases found with
  | none => rfl
  | some source => exact hreads source (hfound source rfl)

/-- The dimensions of a tensor with the pads of a list. -/
abbrev plannedDims (sizes : Sizes) (pads : List Int) : List PaddedDim :=
  planOf sizes (Rule.padPairs pads)

theorem size_plannedDims_lt {pads : List Int} {sizes : Sizes}
    (hsizes : ∀ size ∈ sizes, size < 2 ^ 63) :
    ∀ dim ∈ plannedDims sizes pads, dim.size < 2 ^ 63 := by
  intro dim hdim
  apply hsizes
  rw [← map_size_planOf sizes (Rule.padPairs pads)]
  exact List.mem_map_of_mem hdim

/-- An index of a padded tensor comes from an index of the input, if from any. -/
theorem Accepts.inside_places {pads : List Int} {sizes : Sizes}
    (haccepts : Accepts padding sizes pads) (hsizes : ∀ size ∈ sizes, size < 2 ^ 63)
    {index source : List Nat}
    (hindex : Inside index ((plannedDims sizes pads).map fun dim => dim.padded.toNat))
    (hsource : places padding (plannedDims sizes pads) index = some source) :
    Inside source sizes := by
  have hinside := Operator.inside_places (size_plannedDims_lt hsizes) (haccepts.readsInside hsizes)
    hindex hsource
  rw [map_size_planOf] at hinside
  exact hinside

/-- What is accepted is padded. -/
theorem exists_padTensor {fill : α} {input : Tensor α} {pads : List Int}
    (haccepts : Accepts padding input.sizes pads) (hsizes : ∀ size ∈ input.sizes, size < 2 ^ 63) :
    ∃ output, padTensor padding fill input pads = .ok output := by
  obtain ⟨output, houtput, -⟩ := answers_iff.mp (answers_padded fill haccepts hsizes)
  refine ⟨output, ?_⟩
  unfold padTensor
  rw [(padPlan_eq_ok hsizes pads _).mpr ⟨haccepts, rfl⟩, ok_bind]
  exact houtput

/-- **What a padded tensor holds**: at each index what is found at its place, or the fill value. -/
theorem padTensor_eq_ok {fill : α} {input output : Tensor α} {pads : List Int}
    (hsizes : ∀ size ∈ input.sizes, size < 2 ^ 63) :
    padTensor padding fill input pads = .ok output ↔
      Accepts padding input.sizes pads ∧
      output.sizes = (plannedDims input.sizes pads).map (fun dim => dim.padded.toNat) ∧
        ∀ index, Inside index output.sizes →
          readAt fill input (places padding (plannedDims input.sizes pads) index) =
            output.at? index := by
  unfold padTensor
  simp only [bind_eq_ok, padPlan_eq_ok hsizes, Tensor.ofIndices_eq_ok]
  have hentry : Accepts padding input.sizes pads → ∀ index,
      Inside index ((plannedDims input.sizes pads).map fun dim => dim.padded.toNat) →
        (do
          match ← padSource padding (plannedDims input.sizes pads) index with
          | some source => input.at? source
          | none => .ok fill) =
          readAt fill input (places padding (plannedDims input.sizes pads) index) := by
    intro haccepts index hindex
    rw [padSource_eq_places (size_plannedDims_lt hsizes) (haccepts.readsInside hsizes) hindex,
      ok_bind]
    cases places padding (plannedDims input.sizes pads) index <;> rfl
  constructor
  · rintro ⟨plan, ⟨haccepts, rfl⟩, houtput, hentries⟩
    refine ⟨haccepts, houtput, fun index hindex => ?_⟩
    rw [houtput] at hindex
    rw [← hentry haccepts index hindex]
    exact hentries index hindex
  · rintro ⟨haccepts, houtput, hentries⟩
    refine ⟨_, ⟨haccepts, rfl⟩, houtput, fun index hindex => ?_⟩
    refine (hentry haccepts index hindex).trans (hentries index ?_)
    rw [houtput]
    exact hindex

end OpShape.Operator

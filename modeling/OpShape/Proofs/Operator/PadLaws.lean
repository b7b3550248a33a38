/-
# `OpShape.Proofs.Operator.PadLaws` — padding keeps what it pads, and pads add up.

Pads that add elements can be taken away again, whatever was added.  With one value, or with border
elements, two lists of pads one after the other are their sum.  What is added from the other end
repeats with the size of the dimension, and what is added in reverse mirrors both border elements.
All of this is told from single coordinates, as long as the sizes are signed words: a larger size is
taken for a negative number, and pads can turn that into an accepted one.
-/
import OpShape.Proofs.Operator.PadPlaces

namespace OpShape.Operator

variable {α : Type} {padding : Padding} {sizes : Sizes}

attribute [local irreducible] signed

/-! ## Pads of a dimension -/

section Pairs

variable {pads more : List Int}

/-- Pads that add elements come in pairs that do. -/
theorem padPair_nonneg (hpads : ∀ pad ∈ pads, 0 ≤ pad) {k : Nat} {before after : Int}
    (h : (Rule.padPairs pads)[k]? = some (before, after)) : 0 ≤ before ∧ 0 ≤ after := by
  obtain ⟨-, first, second, hpair, hfirst, hsecond⟩ | ⟨-, hnone⟩ := getElem?_padPairs pads k
  · rw [hpair] at h
    cases h
    exact ⟨hpads _ (List.mem_of_getElem? hfirst), hpads _ (List.mem_of_getElem? hsecond)⟩
  · rw [hnone] at h
    cases h

/-- The pads that take away what others add. -/
theorem getElem?_padPairs_neg (pads : List Int) (k : Nat) :
    (Rule.padPairs (pads.map fun pad => -pad))[k]? =
      (Rule.padPairs pads)[k]?.map fun pair => (-pair.1, -pair.2) := by
  obtain ⟨hk, before, after, hpair, hbefore, hafter⟩ | ⟨hk, hnone⟩ := getElem?_padPairs pads k
  · rw [hpair]
    obtain ⟨-, first, second, hpair', hfirst, hsecond⟩ | ⟨hk', -⟩ :=
      getElem?_padPairs (pads.map fun pad => -pad) k
    · rw [List.getElem?_map, hbefore] at hfirst
      rw [List.getElem?_map, hafter] at hsecond
      rw [hpair', ← Option.some.inj hfirst, ← Option.some.inj hsecond]
      rfl
    · rw [List.length_map] at hk'
      omega
  · rw [hnone]
    obtain ⟨hk', -⟩ | ⟨-, hnone'⟩ := getElem?_padPairs (pads.map fun pad => -pad) k
    · rw [List.length_map] at hk'
      omega
    · rw [hnone']
      rfl

/-- The sum of two lists of pads, pair by pair. -/
theorem getElem?_padPairs_add (hlength : more.length = pads.length) (k : Nat) :
    (∃ before after before' after', (Rule.padPairs pads)[k]? = some (before, after) ∧
        (Rule.padPairs more)[k]? = some (before', after') ∧
        (Rule.padPairs (List.zipWith (· + ·) pads more))[k]? =
          some (before + before', after + after')) ∨
      (Rule.padPairs pads)[k]? = none ∧ (Rule.padPairs more)[k]? = none ∧
        (Rule.padPairs (List.zipWith (· + ·) pads more))[k]? = none := by
  have hsum : (List.zipWith (· + ·) pads more).length = pads.length := by
    rw [List.length_zipWith, hlength, Nat.min_self]
  obtain ⟨hk, before, after, hpair, hbefore, hafter⟩ | ⟨hk, hnone⟩ := getElem?_padPairs pads k
  · obtain ⟨-, before', after', hpair', hbefore', hafter'⟩ | ⟨hk', -⟩ := getElem?_padPairs more k
    · obtain ⟨-, first, second, hpair'', hfirst, hsecond⟩ | ⟨hk', -⟩ :=
        getElem?_padPairs (List.zipWith (· + ·) pads more) k
      · rw [List.getElem?_zipWith, hbefore, hbefore'] at hfirst
        rw [List.getElem?_zipWith, hafter, hafter'] at hsecond
        refine .inl ⟨before, after, before', after', hpair, hpair', ?_⟩
        rw [hpair'', ← Option.some.inj hfirst, ← Option.some.inj hsecond]
      · omega
    · omega
  · obtain ⟨hk', -⟩ | ⟨-, hnone'⟩ := getElem?_padPairs more k
    · omega
    · obtain ⟨hk', -⟩ | ⟨-, hnone''⟩ := getElem?_padPairs (List.zipWith (· + ·) pads more) k
      · omega
      · exact .inr ⟨hnone, hnone', hnone''⟩

end Pairs

/-! ## Plans one after the other -/

/-- A dimension, given by its size and its axis, with its pads. -/
def entryDim (pads : List Int) (rank : Nat) (entry : Nat × Nat) : PaddedDim :=
  dimWith entry.1 (Rule.padPairs pads)[rank - 1 - entry.2]?

/-- The dimension that it becomes. -/
def grown (pads : List Int) (rank : Nat) (entry : Nat × Nat) : Nat × Nat :=
  ((entryDim pads rank entry).padded.toNat, entry.2)

theorem size_entryDim (pads : List Int) (rank : Nat) (entry : Nat × Nat) :
    (entryDim pads rank entry).size = entry.1 :=
  size_dimWith _ _

theorem plannedDims_eq (sizes : Sizes) (pads : List Int) :
    plannedDims sizes pads = sizes.zipIdx.map (entryDim pads sizes.length) := rfl

/-- The dimensions of a padded tensor with further pads. -/
theorem plannedDims_padded (sizes : Sizes) (pads more : List Int) :
    plannedDims ((plannedDims sizes pads).map fun dim => dim.padded.toNat) more =
      sizes.zipIdx.map fun entry => entryDim more sizes.length (grown pads sizes.length entry) := by
  unfold plannedDims planOf
  apply List.ext_getElem
  · simp only [List.length_map, List.length_zipIdx]
  · intro axis hfirst hsecond
    simp only [List.getElem_map, List.getElem_zipIdx, List.length_map, List.length_zipIdx,
      Nat.zero_add]
    rfl

theorem length_plannedDims (sizes : Sizes) (pads : List Int) :
    (plannedDims sizes pads).length = sizes.length := by
  rw [plannedDims_eq, List.length_map, List.length_zipIdx]

/-- What a dimension becomes is as large as the padded tensor has it. -/
theorem grown_lt {pads : List Int} {output : Sizes} (houtput : ∀ size ∈ output, size < 2 ^ 63)
    (hsizes : output = (plannedDims sizes pads).map fun dim => dim.padded.toNat) :
    ∀ entry ∈ sizes.zipIdx, (grown pads sizes.length entry).1 < 2 ^ 63 := by
  intro entry hentry
  apply houtput
  rw [hsizes, plannedDims_eq]
  exact List.mem_map_of_mem (List.mem_map_of_mem hentry)

theorem padded_dimWith_some {size : Nat} (h : size < 2 ^ 63) (before after : Int) :
    (dimWith size (some (before, after))).padded = size + before + after := by
  unfold dimWith PaddedDim.padded
  dsimp only
  rw [signed_of_lt h]

/-! ## Taken away again -/

theorem place_unpadded (padding : Padding) {size i : Nat} (hi : i < size) :
    padding.place (dimWith size none) i = some i := by
  unfold Padding.place dimWith
  dsimp only
  rw [if_pos (by omega), Int.sub_zero, Int.toNat_natCast]

/-- What stands where nothing was added or taken away. -/
theorem places_unpadded (padding : Padding) {index : List Nat} (hindex : Inside index sizes) :
    places padding (planOf sizes []) index = some index := by
  rw [planOf_nil]
  induction hindex with
  | nil => rfl
  | cons hi _ ih =>
    rw [List.map_cons]
    unfold places
    rw [place_unpadded padding hi, ih]
    rfl

/-- **`Undoes near far`** — a padded dimension loses what was added to it. -/
structure Undoes (near far : PaddedDim) : Prop where
  before_nonneg : 0 ≤ near.before
  after_nonneg : 0 ≤ near.after
  size : (far.size : Int) = near.size + near.before + near.after
  before : far.before = -near.before
  padded : far.padded = near.size

/-- A position that is left was there before, at the same place. -/
theorem Undoes.place_bind {near far : PaddedDim} (h : Undoes near far) {i : Nat}
    (hi : i < near.size) :
    (Padding.constant.place far i).bind (padding.place near) = some i := by
  obtain ⟨hbefore, hafter, hsize, hfar, -⟩ := h
  have hcropped : Padding.constant.place far i = some (i + near.before).toNat := by
    unfold Padding.place
    rw [hfar, hsize]
    dsimp only
    rw [if_pos (by omega)]
    congr 1
    omega
  rw [hcropped, Option.bind_some]
  unfold Padding.place
  dsimp only
  rw [if_pos (by omega)]
  congr 1
  omega

theorem undoes_of_neg {pads : List Int} (hpads : ∀ pad ∈ pads, 0 ≤ pad) {rank : Nat}
    {entry : Nat × Nat} (hsize : entry.1 < 2 ^ 63) (hgrown : (grown pads rank entry).1 < 2 ^ 63) :
    Undoes (entryDim pads rank entry)
      (entryDim (pads.map fun pad => -pad) rank (grown pads rank entry)) := by
  unfold grown entryDim at *
  rw [getElem?_padPairs_neg]
  dsimp only at hgrown ⊢
  cases hpair : (Rule.padPairs pads)[rank - 1 - entry.2]? with
  | none =>
    rw [padded_dimWith_none hsize, Option.map_none, Int.toNat_natCast]
    refine ⟨Int.le_refl 0, Int.le_refl 0, ?_, rfl, padded_dimWith_none hsize⟩
    show (entry.1 : Int) = entry.1 + 0 + 0
    omega
  | some pair =>
    obtain ⟨before, after⟩ := pair
    obtain ⟨hbefore, hafter⟩ := padPair_nonneg hpads hpair
    rw [hpair] at hgrown
    rw [padded_dimWith_some hsize] at hgrown ⊢
    refine ⟨hbefore, hafter, ?_, rfl, ?_⟩
    · show (((entry.1 : Int) + before + after).toNat : Int) = entry.1 + before + after
      omega
    · rw [Option.map_some, padded_dimWith_some hgrown]
      show (((entry.1 : Int) + before + after).toNat : Int) + -before + -after = entry.1
      omega

section Crop

variable {become : Sizes} {pads : List Int} (hpads : ∀ pad ∈ pads, 0 ≤ pad)
  (hsizes : ∀ size ∈ sizes, size < 2 ^ 63) (hlarge : ∀ size ∈ become, size < 2 ^ 63)
  (hbecome : become = (plannedDims sizes pads).map fun dim => dim.padded.toNat)
include hpads hsizes hlarge hbecome

theorem undoes_planned : ∀ entry ∈ sizes.zipIdx, Undoes (entryDim pads sizes.length entry)
    (entryDim (pads.map fun pad => -pad) sizes.length (grown pads sizes.length entry)) := by
  intro entry hentry
  have hsmall := hsizes _ (List.fst_mem_of_mem_zipIdx hentry)
  exact undoes_of_neg hpads hsmall (grown_lt hlarge hbecome entry hentry)

/-- What was added may be taken away. -/
theorem Accepts.undone (h : Accepts padding sizes pads) :
    Accepts .constant become (pads.map fun pad => -pad) := by
  have hundoes := undoes_planned hpads hsizes hlarge hbecome
  have hfar := plannedDims_padded sizes pads (pads.map fun pad => -pad)
  rw [← hbecome] at hfar
  refine ⟨?_, ?_, fun hmode => absurd rfl hmode, ?_⟩
  · rw [List.length_map]
    exact h.even
  · rw [List.length_map, hbecome, List.length_map, length_plannedDims]
    exact h.rank
  · show ∀ dim ∈ plannedDims become (pads.map fun pad => -pad), Paddable .constant dim
    rw [hfar, List.forall_mem_map]
    intro entry hentry
    refine ⟨?_, fun _ => rfl⟩
    rw [(hundoes entry hentry).padded]
    exact Int.natCast_nonneg _

/-- The sizes are those that there were. -/
theorem sizes_undone :
    sizes = (plannedDims become (pads.map fun pad => -pad)).map fun dim => dim.padded.toNat := by
  have hundoes := undoes_planned hpads hsizes hlarge hbecome
  have hfar := plannedDims_padded sizes pads (pads.map fun pad => -pad)
  rw [← hbecome] at hfar
  rw [hfar, List.map_map]
  refine (List.zipIdx_map_fst 0 sizes).symm.trans (List.map_congr_left ?_)
  intro entry hentry
  rw [Function.comp_apply, (hundoes entry hentry).padded, Int.toNat_natCast]
  exact (size_entryDim _ _ _).symm

/-- Every index is found again, since nothing is added or taken away in the end. -/
theorem places_undone {index : List Nat} (hindex : Inside index sizes) :
    (places .constant (plannedDims become (pads.map fun pad => -pad)) index).bind
      (places padding (plannedDims sizes pads)) = some index := by
  have hundoes := undoes_planned hpads hsizes hlarge hbecome
  have hfar := plannedDims_padded sizes pads (pads.map fun pad => -pad)
  rw [← hbecome] at hfar
  have hsame := map_padded_planOf_nil hsizes
  rw [planOf, List.map_map] at hsame
  rw [hfar, ← places_unpadded .constant hindex]
  refine (places_bind ?_ (hsame.symm ▸ hindex)).symm
  intro entry hentry i hi
  have hsmall := hsizes _ (List.fst_mem_of_mem_zipIdx hentry)
  rw [List.getElem?_nil, padded_dimWith_none hsmall] at hi
  have hlt : i < entry.1 := Int.ofNat_lt.mp hi
  have hlt' : i < (entryDim pads sizes.length entry).size := by rwa [size_entryDim]
  exact (place_unpadded .constant hlt).trans ((hundoes entry hentry).place_bind hlt').symm

omit hsizes hlarge hbecome in
/-- **Pads that add elements are undone by their negatives**, whatever was added and whatever the
fill value is now. -/
theorem crop_padded {fill : α} {input output : Tensor α} (value : α)
    (hinput : ∀ size ∈ input.sizes, size < 2 ^ 63) (houtput : ∀ size ∈ output.sizes, size < 2 ^ 63)
    (h : padTensor padding fill input pads = .ok output) :
    padTensor .constant value output (pads.map fun pad => -pad) = .ok input := by
  obtain ⟨haccepts, hgrown, hreads⟩ := (padTensor_eq_ok hinput).mp h
  have hundone := haccepts.undone hpads hinput houtput hgrown
  have hback := sizes_undone hpads hinput houtput hgrown
  refine (padTensor_eq_ok houtput).mpr ⟨hundone, hback, fun index hindex => ?_⟩
  obtain ⟨source, hsource, hfound⟩ :=
    Option.bind_eq_some_iff.mp (places_undone hpads hinput houtput hgrown hindex)
  have hinside := hundone.inside_places houtput (hback ▸ hindex) hsource
  rw [hsource]
  show output.at? source = input.at? index
  rw [← hreads source hinside, hfound]
  rfl

end Crop

/-! ## One after the other -/

/-- The ways to pad that repeat what they add: one value, or the border elements. -/
def Padding.Repeats (padding : Padding) : Prop :=
  padding = .constant ∨ padding = .replicate

/-- **`AddsUp near far whole`** — the pads of a dimension and those of the padded one add up. -/
structure AddsUp (near far whole : PaddedDim) : Prop where
  near_nonneg : 0 ≤ near.before ∧ 0 ≤ near.after
  far_nonneg : 0 ≤ far.before ∧ 0 ≤ far.after
  size : whole.size = near.size
  far_size : (far.size : Int) = near.size + near.before + near.after
  before : whole.before = near.before + far.before
  far_padded : far.padded = far.size + far.before + far.after
  whole_padded : whole.padded = far.padded
  isPadded : far.isPadded = near.isPadded ∧ whole.isPadded = near.isPadded
  unpadded : near.isPadded = false → whole.padded = near.size

/-- A border element stands for everything beyond it, and every other one for itself. -/
theorem place_replicate {dim : PaddedDim} (hpos : 0 < dim.size) (i : Nat) :
    Padding.replicate.place dim i =
      some (max 0 (min ((dim.size : Int) - 1) (i - dim.before))).toNat := by
  unfold Padding.place
  dsimp only
  split
  · congr 1
    omega
  · rfl

/-- A padded dimension has a border element to repeat. -/
theorem Paddable.size_pos {dim : PaddedDim} (h : Paddable .replicate dim) (hsize : dim.size < 2 ^ 63)
    (hpadded : dim.isPadded = true) : 0 < dim.size := by
  have hfits := h.fits hpadded
  rw [signed_of_lt hsize] at hfits
  exact Int.natCast_pos.mp (of_decide_eq_true hfits)

/-- A position comes at once from where it comes from in two steps. -/
theorem AddsUp.place_bind {near far whole : PaddedDim} (h : AddsUp near far whole)
    (hrepeats : padding.Repeats) (hpaddable : Paddable padding near) (hlt : near.size < 2 ^ 63)
    {i : Nat} (hi : (i : Int) < whole.padded) :
    padding.place whole i = (padding.place far i).bind (padding.place near) := by
  obtain ⟨hnear, -, hsize, hfar, hbefore, -, -, -, hunpadded⟩ := h
  obtain rfl | rfl := hrepeats
  · unfold Padding.place
    rw [hsize, hbefore, hfar]
    dsimp only
    by_cases hinside : 0 ≤ (i : Int) - far.before ∧
        (i : Int) - far.before < near.size + near.before + near.after
    · have hsame : (((i : Int) - far.before).toNat : Int) - near.before =
          i - (near.before + far.before) := by omega
      rw [if_pos hinside, Option.bind_some, hsame]
    · rw [if_neg hinside, if_neg (by omega)]
      rfl
  · have hpos : 0 < near.size := by
      cases hpadded : near.isPadded with
      | true => exact hpaddable.size_pos hlt hpadded
      | false =>
        have hwhole := hunpadded hpadded
        omega
    have hpos' : 0 < far.size := by omega
    rw [place_replicate (hsize ▸ hpos), place_replicate hpos', Option.bind_some,
      place_replicate hpos, hsize, hbefore, hfar]
    congr 1
    omega

/-- The pads of a dimension and those of what it becomes add up. -/
theorem addsUp_of_add {pads more : List Int} (hlength : more.length = pads.length)
    (hpads : ∀ pad ∈ pads, 0 ≤ pad) (hmore : ∀ pad ∈ more, 0 ≤ pad) {rank : Nat}
    {entry : Nat × Nat} (hsize : entry.1 < 2 ^ 63) (hgrown : (grown pads rank entry).1 < 2 ^ 63) :
    AddsUp (entryDim pads rank entry) (entryDim more rank (grown pads rank entry))
      (entryDim (List.zipWith (· + ·) pads more) rank entry) := by
  unfold grown entryDim at *
  dsimp only at hgrown ⊢
  obtain ⟨before, after, before', after', hpair, hpair', hsum⟩ | ⟨hnone, hnone', hnone''⟩ :=
    getElem?_padPairs_add hlength (rank - 1 - entry.2)
  · have hnear := padPair_nonneg hpads hpair
    have hfar := padPair_nonneg hmore hpair'
    rw [hpair] at hgrown
    rw [hpair, hpair', hsum]
    rw [padded_dimWith_some hsize] at hgrown ⊢
    have hcast : (((entry.1 : Int) + before + after).toNat : Int) = entry.1 + before + after := by
      omega
    refine ⟨hnear, hfar, rfl, hcast, rfl, padded_dimWith_some hgrown _ _, ?_, ⟨rfl, rfl⟩, ?_⟩
    · rw [padded_dimWith_some hsize, padded_dimWith_some hgrown, hcast]
      omega
    · rintro ⟨⟩
  · rw [hnone, hnone', hnone'', padded_dimWith_none hsize, Int.toNat_natCast]
    have hzero : (0 : Int) ≤ 0 ∧ (0 : Int) ≤ 0 := ⟨Int.le_refl 0, Int.le_refl 0⟩
    refine ⟨hzero, hzero, rfl, ?_, rfl, ?_, rfl, ⟨rfl, rfl⟩, fun _ => padded_dimWith_none hsize⟩
    · show (entry.1 : Int) = entry.1 + 0 + 0
      omega
    · show (dimWith entry.1 none).padded = entry.1 + 0 + 0
      rw [padded_dimWith_none hsize]
      omega

/-- What can be padded once can be padded again, and by the sum. -/
theorem AddsUp.paddable {near far whole : PaddedDim} (h : AddsUp near far whole)
    (hrepeats : padding.Repeats) (hnear : near.size < 2 ^ 63) (hfar : far.size < 2 ^ 63)
    (hpaddable : Paddable padding near) : Paddable padding far ∧ Paddable padding whole := by
  obtain ⟨hadded, hadded', hsize, hgrown, -, hpadded, hwhole, ⟨hfar', hwhole'⟩, -⟩ := h
  have hnonneg : 0 ≤ far.padded := by omega
  obtain rfl | rfl := hrepeats
  · exact ⟨⟨hnonneg, fun _ => rfl⟩, hwhole ▸ hnonneg, fun _ => rfl⟩
  · have hpos := fun hpads => Int.natCast_pos.mpr (hpaddable.size_pos hnear hpads)
    refine ⟨⟨hnonneg, fun hpads => ?_⟩, hwhole ▸ hnonneg, fun hpads => ?_⟩
    · have hlt := hpos (hfar' ▸ hpads)
      rw [signed_of_lt hfar]
      exact decide_eq_true (by omega)
    · have hlt := hpos (hwhole' ▸ hpads)
      rw [hsize, signed_of_lt hnear]
      exact decide_eq_true hlt

section Add

variable {become : Sizes} {pads more : List Int}
  (hrepeats : padding.Repeats) (hlength : more.length = pads.length)
  (hpads : ∀ pad ∈ pads, 0 ≤ pad) (hmore : ∀ pad ∈ more, 0 ≤ pad)
include hlength hpads hmore

section Sum

variable (hsizes : ∀ size ∈ sizes, size < 2 ^ 63) (hlarge : ∀ size ∈ become, size < 2 ^ 63)
  (hbecome : become = (plannedDims sizes pads).map fun dim => dim.padded.toNat)
include hsizes hlarge hbecome

theorem addsUp_planned : ∀ entry ∈ sizes.zipIdx,
    AddsUp (entryDim pads sizes.length entry)
      (entryDim more sizes.length (grown pads sizes.length entry))
      (entryDim (List.zipWith (· + ·) pads more) sizes.length entry) := by
  intro entry hentry
  have hsmall := hsizes _ (List.fst_mem_of_mem_zipIdx hentry)
  exact addsUp_of_add hlength hpads hmore hsmall (grown_lt hlarge hbecome entry hentry)

include hrepeats in
/-- What accepts the first pads accepts the others and the sum. -/
theorem Accepts.add (h : Accepts padding sizes pads) :
    Accepts padding become more ∧ Accepts padding sizes (List.zipWith (· + ·) pads more) := by
  have hadds := addsUp_planned hlength hpads hmore hsizes hlarge hbecome
  have hfar := plannedDims_padded sizes pads more
  rw [← hbecome] at hfar
  have hrank : become.length = sizes.length := by
    rw [hbecome, List.length_map, length_plannedDims]
  have hsum : (List.zipWith (· + ·) pads more).length = pads.length := by
    rw [List.length_zipWith, hlength, Nat.min_self]
  have hpaddable := fun entry hentry =>
    (hadds entry hentry).paddable hrepeats
      (by rw [size_entryDim]; exact hsizes _ (List.fst_mem_of_mem_zipIdx hentry))
      (by rw [size_entryDim]; exact grown_lt hlarge hbecome entry hentry)
      (h.dims _ (List.mem_map_of_mem hentry))
  constructor
  · refine ⟨hlength ▸ h.even, ?_, ?_, ?_⟩
    · rw [hlength, hrank]
      exact h.rank
    · rw [hlength, hrank]
      exact h.leading
    · show ∀ dim ∈ plannedDims become more, Paddable padding dim
      rw [hfar, List.forall_mem_map]
      exact fun entry hentry => (hpaddable entry hentry).1
  · refine ⟨hsum ▸ h.even, ?_, ?_, ?_⟩
    · rw [hsum]
      exact h.rank
    · rw [hsum]
      exact h.leading
    · show ∀ dim ∈ plannedDims sizes (List.zipWith (· + ·) pads more), Paddable padding dim
      rw [plannedDims_eq, List.forall_mem_map]
      exact fun entry hentry => (hpaddable entry hentry).2

/-- The sum leads to the sizes that the one and the other lead to. -/
theorem sizes_add :
    (plannedDims become more).map (fun dim => dim.padded.toNat) =
      (plannedDims sizes (List.zipWith (· + ·) pads more)).map fun dim => dim.padded.toNat := by
  have hadds := addsUp_planned hlength hpads hmore hsizes hlarge hbecome
  rw [hbecome, plannedDims_padded, plannedDims_eq, List.map_map, List.map_map]
  apply List.map_congr_left
  intro entry hentry
  rw [Function.comp_apply, Function.comp_apply, (hadds entry hentry).whole_padded]

include hrepeats in
/-- An index comes at once from where it comes from in two steps. -/
theorem places_add (h : Accepts padding sizes pads) {index : List Nat}
    (hindex : Inside index ((plannedDims sizes (List.zipWith (· + ·) pads more)).map
      fun dim => dim.padded.toNat)) :
    places padding (plannedDims sizes (List.zipWith (· + ·) pads more)) index =
      (places padding (plannedDims become more) index).bind
        (places padding (plannedDims sizes pads)) := by
  have hadds := addsUp_planned hlength hpads hmore hsizes hlarge hbecome
  have hfar := plannedDims_padded sizes pads more
  rw [← hbecome] at hfar
  rw [plannedDims_eq, List.map_map] at hindex
  rw [hfar]
  refine places_bind ?_ hindex
  intro entry hentry i hi
  refine (hadds entry hentry).place_bind hrepeats (h.dims _ (List.mem_map_of_mem hentry)) ?_ hi
  rw [size_entryDim]
  exact hsizes _ (List.fst_mem_of_mem_zipIdx hentry)

end Sum

variable {fill : α} {input middle : Tensor α}
include hrepeats

/-- **Pads one after the other are their sum**: what accepts the first ones accepts the others and
the sum, with the same answer. -/
theorem padTensor_twice (hinput : ∀ size ∈ input.sizes, size < 2 ^ 63)
    (hmiddle : ∀ size ∈ middle.sizes, size < 2 ^ 63)
    (h : padTensor padding fill input pads = .ok middle) :
    ∃ output, padTensor padding fill middle more = .ok output ∧
      padTensor padding fill input (List.zipWith (· + ·) pads more) = .ok output := by
  obtain ⟨haccepts, hgrown, hreads⟩ := (padTensor_eq_ok hinput).mp h
  obtain ⟨hmiddleAccepts, hsumAccepts⟩ :=
    haccepts.add hrepeats hlength hpads hmore hinput hmiddle hgrown
  obtain ⟨output, houtput⟩ := @exists_padTensor α padding fill middle more hmiddleAccepts hmiddle
  obtain ⟨-, hsizes, hreads'⟩ := (padTensor_eq_ok hmiddle).mp houtput
  have hsame := hsizes.trans (sizes_add hlength hpads hmore hinput hmiddle hgrown)
  refine ⟨output, houtput, (padTensor_eq_ok hinput).mpr ⟨hsumAccepts, hsame, fun index hindex => ?_⟩⟩
  rw [places_add hrepeats hlength hpads hmore hinput hmiddle hgrown haccepts (hsame ▸ hindex),
    readAt_bind hreads, hreads' index hindex]
  intro source hsource
  exact hmiddleAccepts.inside_places hmiddle (hsizes ▸ hindex) hsource

/-- A dimension is refused for its size alone, and not for how much is added. -/
theorem requirePaddable_add {size k : Nat} (hsize : size < 2 ^ 63) :
    requirePaddable padding (dimWith size (Rule.padPairs pads)[k]?) =
      requirePaddable padding
        (dimWith size (Rule.padPairs (List.zipWith (· + ·) pads more))[k]?) := by
  obtain ⟨before, after, before', after', hpair, hpair', hsum⟩ | ⟨hnone, -, hnone'⟩ :=
    getElem?_padPairs_add hlength k
  · obtain ⟨hbefore, hafter⟩ := padPair_nonneg hpads hpair
    obtain ⟨hbefore', hafter'⟩ := padPair_nonneg hmore hpair'
    have hnear : ¬ (size : Int) + before + after < 0 := by omega
    have hwhole : ¬ (size : Int) + (before + before') + (after + after') < 0 := by omega
    rw [hpair, hsum]
    unfold requirePaddable
    rw [padded_dimWith_some hsize, padded_dimWith_some hsize]
    dsimp only
    rw [if_neg hnear, if_neg hwhole]
    obtain rfl | rfl := hrepeats <;> rfl
  · rw [hnone, hnone']

/-- Both lists of pads are refused for the same reason, if they are. -/
theorem padPlan_add (hsizes : ∀ size ∈ sizes, size < 2 ^ 63) :
    EndsSame (List.Forall₂ fun _ _ => True) (padPlan padding sizes pads)
      (padPlan padding sizes (List.zipWith (· + ·) pads more)) := by
  have hsum : (List.zipWith (· + ·) pads more).length = pads.length := by
    rw [List.length_zipWith, hlength, Nat.min_self]
  unfold padPlan
  rw [hsum]
  dsimp only
  split_ifs
  · rfl
  · rfl
  · rfl
  have hentries : List.Forall₂ (fun entry other => entry = other ∧ entry.1 < 2 ^ 63) sizes.zipIdx
      sizes.zipIdx := by
    rw [List.forall₂_same]
    exact fun entry hentry => ⟨rfl, hsizes _ (List.fst_mem_of_mem_zipIdx hentry)⟩
  apply EndsSame.mapM hentries
  rintro entry _ ⟨rfl, hsize⟩
  rw [padDim_eq, padDim_eq, ok_bind, ok_bind,
    requirePaddable_add hrepeats hlength hpads hmore hsize]
  cases requirePaddable padding _ with
  | ok => trivial
  | error => rfl

/-- **Pads one after the other are their sum**, also if they are refused. -/
theorem padTensor_add (hinput : ∀ size ∈ input.sizes, size < 2 ^ 63)
    (hmiddle : ∀ middle, padTensor padding fill input pads = .ok middle →
      ∀ size ∈ middle.sizes, size < 2 ^ 63) :
    (do padTensor padding fill (← padTensor padding fill input pads) more) =
      padTensor padding fill input (List.zipWith (· + ·) pads more) := by
  cases h : padTensor padding fill input pads with
  | ok middle =>
    obtain ⟨output, houtput, hsum⟩ :=
      padTensor_twice hrepeats hlength hpads hmore hinput (hmiddle middle h) h
    rw [hsum]
    exact houtput
  | error failure =>
    have hends := padPlan_add hrepeats hlength hpads hmore hinput
    cases hplan : padPlan padding input.sizes pads with
    | ok plan =>
      obtain ⟨haccepts, -⟩ := (padPlan_eq_ok hinput pads plan).mp hplan
      obtain ⟨output, houtput⟩ := @exists_padTensor α padding fill input pads haccepts hinput
      rw [houtput] at h
      cases h
    | error reason =>
      unfold padTensor at h ⊢
      rw [hplan] at h hends
      cases h
      cases hsum : padPlan padding input.sizes (List.zipWith (· + ·) pads more) with
      | ok plan =>
        rw [hsum] at hends
        exact hends.elim
      | error reason =>
        rw [hsum] at hends
        exact congrArg Except.error hends

end Add

/-! ## The same place again -/

/-- How many positions are added in front of an axis. -/
def frontPad (pads : List Int) (rank axis : Nat) : Int :=
  pads[(rank - 1 - axis) * 2]?.getD 0

/-- Indices that lie whole turns around the tensor apart, along each axis. -/
def SameTurn (sizes : Sizes) (pads : List Int) (index other : List Nat) : Prop :=
  ∀ (axis i j : Nat), index[axis]? = some i → other[axis]? = some j →
    ((i : Int) - frontPad pads sizes.length axis) % sizeAt sizes axis =
      ((j : Int) - frontPad pads sizes.length axis) % sizeAt sizes axis

/-- Indices that mirror each other at the first or the last element of the tensor, or are equal,
along each axis. -/
def Mirrored (sizes : Sizes) (pads : List Int) (index other : List Nat) : Prop :=
  ∀ (axis i j : Nat), index[axis]? = some i → other[axis]? = some j →
    i = j ∨ (i + j : Int) = 2 * frontPad pads sizes.length axis ∨
      (i + j : Int) = 2 * (frontPad pads sizes.length axis + sizeAt sizes axis - 1)

theorem getElem?_plannedDims {pads : List Int} (heven : pads.length % 2 = 0) {axis : Nat}
    {dim : PaddedDim} (h : (plannedDims sizes pads)[axis]? = some dim) :
    dim.size = sizeAt sizes axis ∧ dim.before = frontPad pads sizes.length axis := by
  rw [plannedDims_eq, List.getElem?_map, List.getElem?_zipIdx, Nat.zero_add] at h
  obtain ⟨entry, hentry, rfl⟩ := Option.map_eq_some_iff.mp h
  obtain ⟨size, hsize, rfl⟩ := Option.map_eq_some_iff.mp hentry
  refine ⟨?_, ?_⟩
  · rw [size_entryDim]
    unfold sizeAt
    rw [hsize]
    rfl
  · unfold entryDim frontPad
    obtain ⟨-, before, after, hpair, hbefore, -⟩ | ⟨hbeyond, hnone⟩ :=
      getElem?_padPairs pads (sizes.length - 1 - axis)
    · rw [hpair, hbefore]
      rfl
    · dsimp only
      rw [hnone, List.getElem?_eq_none (by omega)]
      rfl

/-- Positions that lie whole turns apart come from the same position. -/
theorem place_circular {dim : PaddedDim} (i : Nat) :
    Padding.circular.place dim i = some (((i : Int) - dim.before) % dim.size).toNat := by
  unfold Padding.place
  dsimp only
  split
  · next hinside => rw [Int.emod_eq_of_lt hinside.1 hinside.2]
  · rfl

/-- A position comes from as far behind the first element as it is away from it, or from as far in
front of the last one, whichever is less. -/
theorem place_reflect {dim : PaddedDim} (hpos : 0 < dim.size) (i : Nat) :
    Padding.reflect.place dim i =
      some (min (max (i - dim.before) (dim.before - i))
        (2 * ((dim.size : Int) - 1) - (i - dim.before))).toNat := by
  unfold Padding.place
  dsimp only
  split <;> congr 1
  · omega
  · split <;> omega

/-- Positions that mirror each other come from the same position. -/
theorem place_mirrored {dim : PaddedDim} {i j : Nat} (hsize : dim.size < 2 ^ 63)
    (hpaddable : Paddable .reflect dim) (hplain : dim.isPadded = false → dim.before = 0 ∧ dim.after = 0)
    (hi : (i : Int) < dim.padded) (hj : (j : Int) < dim.padded)
    (h : i = j ∨ (i + j : Int) = 2 * dim.before ∨ (i + j : Int) = 2 * (dim.before + dim.size - 1)) :
    Padding.reflect.place dim i = Padding.reflect.place dim j := by
  obtain ⟨-, hfits⟩ := hpaddable
  unfold PaddedDim.padded at hi hj
  rw [signed_of_lt hsize] at hi hj hfits
  have hbounds : dim.before < dim.size ∧ dim.after < dim.size := by
    cases hpadded : dim.isPadded with
    | false =>
      obtain ⟨hbefore, hafter⟩ := hplain hpadded
      omega
    | true =>
      have hboth := hfits hpadded
      simp only [Padding.mode, Rule.padFits, Bool.and_eq_true, decide_eq_true_eq] at hboth
      omega
  have hpos : 0 < dim.size := by omega
  rw [place_reflect hpos, place_reflect hpos]
  congr 1
  omega

section Same

variable {fill : α} {input output : Tensor α} {pads : List Int} {index other : List Nat}

/-- Indices whose coordinates come from the same positions hold the same element. -/
theorem at?_eq_of_place (hinput : ∀ size ∈ input.sizes, size < 2 ^ 63)
    (h : padTensor padding fill input pads = .ok output) (hindex : Inside index output.sizes)
    (hother : Inside other output.sizes)
    (hplace : ∀ (axis : Nat) (dim : PaddedDim) (i j : Nat),
      (plannedDims input.sizes pads)[axis]? = some dim → index[axis]? = some i →
        other[axis]? = some j → (i : Int) < dim.padded → (j : Int) < dim.padded →
          padding.place dim i = padding.place dim j) :
    (output.at? index : OpResult α) = output.at? other := by
  obtain ⟨-, hsizes, hreads⟩ := (padTensor_eq_ok hinput).mp h
  rw [← hreads index hindex, ← hreads other hother]
  congr 1
  apply places_congr (hindex.length.trans hother.length.symm)
  intro axis dim i j hdim hi hj
  have hsize : sizeAt output.sizes axis = dim.padded.toNat := by
    unfold sizeAt
    rw [hsizes, List.getElem?_map, hdim, Option.map_some, Option.getD_some]
  have hlt := hindex.getElem_lt hi
  have hlt' := hother.getElem_lt hj
  exact hplace axis dim i j hdim hi hj (by omega) (by omega)

/-- **What is padded from the other end repeats** with the size of each dimension. -/
theorem circular_repeats (hinput : ∀ size ∈ input.sizes, size < 2 ^ 63)
    (h : padTensor .circular fill input pads = .ok output) (hindex : Inside index output.sizes)
    (hother : Inside other output.sizes) (hturn : SameTurn input.sizes pads index other) :
    (output.at? index : OpResult α) = output.at? other := by
  obtain ⟨haccepts, -⟩ := (padTensor_eq_ok hinput).mp h
  apply at?_eq_of_place hinput h hindex hother
  intro axis dim i j hdim hi hj _ _
  obtain ⟨hsize, hbefore⟩ := getElem?_plannedDims haccepts.even hdim
  rw [place_circular, place_circular, hsize, hbefore, hturn axis i j hi hj]

/-- **What is padded in reverse mirrors the border elements** of each dimension. -/
theorem reflect_mirrors (hinput : ∀ size ∈ input.sizes, size < 2 ^ 63)
    (h : padTensor .reflect fill input pads = .ok output) (hindex : Inside index output.sizes)
    (hother : Inside other output.sizes) (hmirrored : Mirrored input.sizes pads index other) :
    (output.at? index : OpResult α) = output.at? other := by
  obtain ⟨haccepts, -⟩ := (padTensor_eq_ok hinput).mp h
  apply at?_eq_of_place hinput h hindex hother
  intro axis dim i j hdim hi hj hlt hlt'
  obtain ⟨hsize, hbefore⟩ := getElem?_plannedDims haccepts.even hdim
  have hmem := List.mem_of_getElem? hdim
  refine place_mirrored (size_plannedDims_lt hinput dim hmem) (haccepts.dims dim hmem) ?_ hlt hlt' ?_
  · obtain ⟨entry, -, rfl⟩ := List.mem_map.mp hmem
    intro hplain
    cases hpair : (Rule.padPairs pads)[input.sizes.length - 1 - entry.2]? with
    | none => exact ⟨rfl, rfl⟩
    | some pair =>
      rw [hpair] at hplain
      cases hplain
  · rw [hsize, hbefore]
    exact hmirrored axis i j hi hj

end Same

/-! ## The laws of padding -/

/-- To pad with a number. -/
def constantPadArgs (input : Tensor Float32) (pads : List Int) (value : Float) : TensorArgs where
  values := [("self", .tensor (.float input)), ("pad", .list (pads.map .int)),
    ("value", .float value)]

theorem constantPadOf_eq_ok {input output : Tensor Float32} {pads : List Int} {value : Float}
    (h : padTensor .constant value.toFloat32 input pads = .ok output) :
    constantPadOf (constantPadArgs input pads value) = .ok (.one (.float output)) := by
  have hvalue : (constantPadArgs input pads value).float "value" = .ok value := rfl
  have hself : floatArg (constantPadArgs input pads value) "self" = .ok input := rfl
  have hpads : (constantPadArgs input pads value).ints "pad" = .ok pads :=
    OpShape.ints_eq_ok "pad" rfl
  rw [constantPadOf_eq hvalue]
  unfold padCall
  rw [hself, ok_bind, hpads, lift_ok_operator, ok_bind, h]
  rfl

/-- **Padding keeps its interior and composes.**  Let pads add elements to a tensor, and let the sizes
of both tensors be signed words.  Then the negative pads give the tensor back, whatever was added and
whatever the crop would fill with; what is added from the other end repeats with the sizes, and what is
added in reverse mirrors the border elements; and with one value or with border elements, two lists of
pads one after the other are the same as their sum, also where they are refused. -/
theorem padding_laws {fill : Float32} {input : Tensor Float32} {pads : List Int}
    (hpads : ∀ pad ∈ pads, 0 ≤ pad) (hinput : ∀ size ∈ input.sizes, size < 2 ^ 63)
    (hfits : ∀ output, padTensor padding fill input pads = .ok output →
      ∀ size ∈ output.sizes, size < 2 ^ 63) :
    (∀ output, padTensor padding fill input pads = .ok output →
      (∀ value, constantPadOf (constantPadArgs output (pads.map fun pad => -pad) value) =
        .ok (.one (.float input))) ∧
      (padding = .circular → ∀ index other, Inside index output.sizes → Inside other output.sizes →
        SameTurn input.sizes pads index other →
          (output.at? index : OpResult Float32) = output.at? other) ∧
      (padding = .reflect → ∀ index other, Inside index output.sizes → Inside other output.sizes →
        Mirrored input.sizes pads index other →
          (output.at? index : OpResult Float32) = output.at? other)) ∧
    (padding = .constant ∨ padding = .replicate → ∀ more : List Int, more.length = pads.length →
      (∀ pad ∈ more, 0 ≤ pad) →
        (do padTensor padding fill (← padTensor padding fill input pads) more) =
          padTensor padding fill input (List.zipWith (· + ·) pads more)) := by
  refine ⟨fun output h => ⟨?_, ?_, ?_⟩, ?_⟩
  · intro value
    exact constantPadOf_eq_ok (crop_padded hpads _ hinput (hfits output h) h)
  · rintro rfl index other hindex hother hturn
    exact circular_repeats hinput h hindex hother hturn
  · rintro rfl index other hindex hother hmirrored
    exact reflect_mirrors hinput h hindex hother hmirrored
  · intro hrepeats more hlength hmore
    exact padTensor_add hrepeats hlength hpads hmore hinput hfits

section Rows

attribute [local semireducible] signed

/-- A row is padded in each way, two in front and one behind, and cropped or padded again. -/
theorem padding_laws_row :
    let row : Tensor Float32 := { sizes := [1, 3], data := #[1, 2, 3], size_data := rfl }
    let repeated : Tensor Float32 :=
      { sizes := [1, 6], data := #[1, 1, 1, 2, 3, 3], size_data := rfl }
    let turned : Tensor Float32 := { sizes := [1, 6], data := #[2, 3, 1, 2, 3, 1], size_data := rfl }
    let mirrored : Tensor Float32 :=
      { sizes := [1, 6], data := #[3, 2, 1, 2, 3, 2], size_data := rfl }
    padTensor .replicate 0 row [2, 1] = .ok repeated ∧
    constantPadOf (constantPadArgs repeated [-2, -1] 0) = .ok (.one (.float row)) ∧
    (do padTensor .replicate 0 (← padTensor .replicate 0 row [2, 1]) [1, 1]) =
      padTensor .replicate 0 row [3, 2] ∧
    (turned.at? [0, 0] : OpResult Float32) = turned.at? [0, 3] ∧
    (mirrored.at? [0, 1] : OpResult Float32) = mirrored.at? [0, 3] := by
  intro row repeated turned mirrored
  have hrow : ∀ size ∈ row.sizes, size < 2 ^ 63 := by
    show ∀ size ∈ [1, 3], size < 2 ^ 63
    decide
  have hsizes : ∀ size ∈ [1, 6], size < 2 ^ 63 := by decide
  have hpads : ∀ pad ∈ [2, 1], (0 : Int) ≤ pad := by decide
  have hrepeated : padTensor .replicate 0 row [2, 1] = .ok repeated := rfl
  have hturned : padTensor .circular 0 row [2, 1] = .ok turned := rfl
  have hmirrored : padTensor .reflect 0 row [2, 1] = .ok mirrored := rfl
  have hfits : ∀ {padding : Padding} {padded : Tensor Float32}, padded.sizes = [1, 6] →
      padTensor padding 0 row [2, 1] = .ok padded →
        ∀ output, padTensor padding 0 row [2, 1] = .ok output →
          ∀ size ∈ output.sizes, size < 2 ^ 63 := by
    intro padding padded hpadded h output houtput
    rw [← Except.ok.inj (h.symm.trans houtput), hpadded]
    exact hsizes
  obtain ⟨hlaws, htwice⟩ := padding_laws hpads hrow (hfits rfl hrepeated)
  obtain ⟨hcircular, -⟩ := padding_laws hpads hrow (hfits rfl hturned)
  obtain ⟨hreflect, -⟩ := padding_laws hpads hrow (hfits rfl hmirrored)
  have hinside : ∀ i : Nat, i < 6 → Inside [0, i] [1, 6] :=
    fun i hi => .cons Nat.one_pos (.cons hi .nil)
  refine ⟨hrepeated, (hlaws repeated hrepeated).1 0, htwice (.inr rfl) [1, 1] rfl (by decide),
    (hcircular turned hturned).2.1 rfl [0, 0] [0, 3] (hinside 0 (by decide)) (hinside 3 (by decide)) ?_,
    (hreflect mirrored hmirrored).2.2 rfl [0, 1] [0, 3] (hinside 1 (by decide))
      (hinside 3 (by decide)) ?_⟩
  · rintro (_ | _ | axis) i j hi hj
    · cases hi
      cases hj
      rfl
    · cases hi
      cases hj
      rfl
    · cases hi
  · rintro (_ | _ | axis) i j hi hj
    · cases hi
      cases hj
      exact .inl rfl
    · cases hi
      cases hj
      exact .inr (.inl rfl)
    · cases hi

/-- A dimension of 2⁶³ entries is taken for a negative number, so that twice 2⁶² pads are accepted and
make it empty; the negative pads do not give it back. -/
theorem padding_laws_wrapped :
    ¬ ∀ (padding : Padding) (fill : Float32) (input output : Tensor Float32) (pads : List Int)
        (value : Float), (∀ pad ∈ pads, 0 ≤ pad) → padTensor padding fill input pads = .ok output →
          constantPadOf (constantPadArgs output (pads.map fun pad => -pad) value) =
            .ok (.one (.float input)) := by
  intro h
  have hpads : ∀ pad ∈ [0, 0, 2 ^ 62, 2 ^ 62], (0 : Int) ≤ pad := by decide
  let wide : Tensor Float32 := { sizes := [2 ^ 63, 0], data := #[], size_data := rfl }
  let empty : Tensor Float32 := { sizes := [0, 0], data := #[], size_data := rfl }
  have haccepted : padTensor .constant 0 wide [0, 0, 2 ^ 62, 2 ^ 62] = .ok empty := rfl
  have hrefused : constantPadOf (constantPadArgs empty
      ([0, 0, 2 ^ 62, 2 ^ 62].map fun pad => -pad) 0) = invalid "Padded size is negative" := rfl
  have hcropped := h .constant 0 wide empty [0, 0, 2 ^ 62, 2 ^ 62] 0 hpads haccepted
  rw [hrefused] at hcropped
  cases hcropped

end Rows

end OpShape.Operator

/-
# `OpShape.Proofs.Rule.Reduce` — reducing dimensions one after the other.

A list of dimensions is reduced exactly if it names each of its dimensions once.  What comes out
depends only on which dimensions these are: not on their order, and not on whether they are counted
from the first or from the last.  Reduced dimensions that stay with size one may be reduced one after
the other in any order, since no place moves; those that disappear have to go from the last to the
first, so that no place in front of them moves.
-/
import OpShape.Proofs.Operator.Reduce

namespace OpShape

/-! ## Sizes along some places -/

/-- Only which places are reduced matters, not in which order they are listed. -/
theorem reducedSizes_congr {axes others : List Nat} (h : ∀ axis, axis ∈ axes ↔ axis ∈ others)
    (keepdim : Bool) (sizes : Sizes) :
    reducedSizes keepdim axes sizes = reducedSizes keepdim others sizes := by
  have hcontains : ∀ axis, axes.contains axis = others.contains axis := by
    intro axis
    rw [Bool.eq_iff_iff, List.contains_iff_mem, List.contains_iff_mem, h]
  unfold reducedSizes keptSizes remainingSizes
  simp only [hcontains]

/-! ### Sizes that stay -/

theorem length_keptSizes (axes : List Nat) (sizes : Sizes) :
    (keptSizes axes sizes).length = sizes.length := by
  simp [keptSizes]

theorem getElem?_keptSizes (axes : List Nat) (sizes : Sizes) (place : Nat) :
    (keptSizes axes sizes)[place]? =
      sizes[place]?.map fun size => if axes.contains place then 1 else size := by
  unfold keptSizes
  rw [List.getElem?_map, List.getElem?_zipIdx, Option.map_map, Nat.zero_add]
  rfl

theorem keptSizes_nil (sizes : Sizes) : keptSizes [] sizes = sizes := by
  apply List.ext_getElem?
  intro place
  rw [getElem?_keptSizes]
  exact Option.map_id'

/-- Flattened dimensions may be flattened one part after the other. -/
theorem keptSizes_append (front back : List Nat) (sizes : Sizes) :
    keptSizes back (keptSizes front sizes) = keptSizes (front ++ back) sizes := by
  apply List.ext_getElem?
  intro place
  rw [getElem?_keptSizes, getElem?_keptSizes, getElem?_keptSizes, Option.map_map]
  congr 1
  funext size
  rw [Function.comp_apply, List.contains_append]
  cases front.contains place <;> cases back.contains place <;> rfl

theorem keptSizes_singleton {place : Nat} {sizes : Sizes} (h : place < sizes.length) :
    keptSizes [place] sizes = sizes.set place 1 := by
  apply List.ext_getElem?
  intro other
  rw [getElem?_keptSizes, List.getElem?_set, List.contains_cons, List.contains_nil, Bool.or_false]
  by_cases hsame : place = other
  · subst hsame
    rw [if_pos rfl, if_pos h, List.getElem?_eq_getElem h, Option.map_some, beq_self_eq_true,
      if_pos rfl]
  · have hbeq : (other == place) = false := beq_eq_false_iff_ne.mpr (Ne.symm hsame)
    rw [if_neg hsame, hbeq]
    exact Option.map_id'

/-! ### Sizes that disappear -/

/-- What is left out of flattened sizes is left out of the sizes themselves. -/
theorem remainingSizes_keptSizes (axes : List Nat) (sizes : Sizes) :
    remainingSizes axes (keptSizes axes sizes) = remainingSizes axes sizes := by
  have hzip : (keptSizes axes sizes).zipIdx =
      sizes.zipIdx.map fun entry => (if axes.contains entry.2 then 1 else entry.1, entry.2) := by
    apply List.ext_getElem?
    intro place
    rw [List.getElem?_zipIdx, getElem?_keptSizes, List.getElem?_map, List.getElem?_zipIdx,
      Option.map_map, Option.map_map, Nat.zero_add]
    rfl
  unfold remainingSizes
  rw [hzip, List.filter_map, List.map_map]
  apply List.map_congr_left
  intro entry hentry
  have hout : axes.contains entry.2 = false := by simpa using (List.mem_filter.mp hentry).2
  rw [Function.comp_apply, hout]
  rfl

theorem remainingSizes_append {places : List Nat} {front : Sizes}
    (h : ∀ place ∈ places, place < front.length) (back : Sizes) :
    remainingSizes places (front ++ back) = remainingSizes places front ++ back := by
  have hback : (back.zipIdx front.length).filter (fun entry => !places.contains entry.2) =
      back.zipIdx front.length := by
    rw [List.filter_eq_self]
    intro entry hentry
    have hle := List.le_snd_of_mem_zipIdx hentry
    rw [Bool.not_eq_true', ← Bool.not_eq_true, List.contains_iff_mem]
    intro hmem
    have hlt := h entry.2 hmem
    omega
  unfold remainingSizes
  rw [List.zipIdx_append, List.filter_append, List.map_append, Nat.zero_add, hback,
    List.zipIdx_map_fst]

/-- The last size is left out. -/
theorem remainingSizes_last (places : List Nat) (front : Sizes) (size : Nat) :
    remainingSizes (front.length :: places) (front ++ [size]) = remainingSizes places front := by
  have hfront : front.zipIdx.filter (fun entry => !(front.length :: places).contains entry.2) =
      front.zipIdx.filter fun entry => !places.contains entry.2 := by
    apply List.filter_congr
    intro entry hentry
    have hlt := List.snd_lt_of_mem_zipIdx hentry
    have hne : (entry.2 == front.length) = false := by
      rw [beq_eq_false_iff_ne]
      omega
    rw [List.contains_cons, hne, Bool.false_or]
  unfold remainingSizes
  rw [List.zipIdx_append, List.filter_append, hfront, Nat.zero_add, List.zipIdx_singleton,
    List.filter_cons_of_neg (by simp), List.filter_nil, List.append_nil]

/-- **A place behind all others that are left out may be erased first.** -/
theorem remainingSizes_cons {place : Nat} {places : List Nat} {sizes : Sizes}
    (hplace : place < sizes.length) (h : ∀ other ∈ places, other < place) :
    remainingSizes (place :: places) sizes = remainingSizes places (sizes.eraseIdx place) := by
  have hfront : (sizes.take place).length = place := by
    rw [List.length_take]
    omega
  have hlt : ∀ other ∈ places, other < (sizes.take place).length := by
    rwa [hfront]
  have hall : ∀ other ∈ place :: places, other < (sizes.take place ++ [sizes[place]]).length := by
    rw [List.length_append, hfront, List.forall_mem_cons]
    exact ⟨Nat.lt_succ_self place, fun other hother => Nat.lt_succ_of_lt (h other hother)⟩
  have hsplit : sizes = sizes.take place ++ [sizes[place]] ++ sizes.drop (place + 1) := by
    rw [List.append_assoc, List.singleton_append, ← List.drop_eq_getElem_cons hplace,
      List.take_append_drop]
  calc remainingSizes (place :: places) sizes
      = remainingSizes (place :: places) (sizes.take place ++ [sizes[place]]) ++
          sizes.drop (place + 1) := by
        conv_lhs => rw [hsplit]
        exact remainingSizes_append hall _
    _ = remainingSizes places (sizes.take place) ++ sizes.drop (place + 1) := by
        have hlast := remainingSizes_last places (sizes.take place) sizes[place]
        rw [hfront] at hlast
        rw [hlast]
    _ = remainingSizes places (sizes.eraseIdx place) := by
        rw [List.eraseIdx_eq_take_drop_succ, remainingSizes_append hlt]

theorem remainingSizes_nil (sizes : Sizes) : remainingSizes [] sizes = sizes :=
  @remainingSizes_append [] [] (fun _ hplace => nomatch hplace) sizes

theorem remainingSizes_singleton {place : Nat} {sizes : Sizes} (h : place < sizes.length) :
    remainingSizes [place] sizes = sizes.eraseIdx place := by
  have hnone : ∀ other ∈ ([] : List Nat), other < place := fun _ hother => nomatch hother
  rw [remainingSizes_cons h hnone, remainingSizes_nil]

end OpShape

namespace OpShape.Rule

open Operator (addAxis reductionAxes resolveAxes resolveAxis)

/-! ## Places of dimensions -/

/-- The place that a number names among `rank` ones, counted from the first. -/
def wrapDim (rank : Nat) (dim : Int) : Nat :=
  (if dim < 0 then dim + rank else dim).toNat

/-- The numbers that name one of `rank` dimensions, from either end. -/
def InRange (rank : Nat) (dim : Int) : Prop :=
  -rank ≤ dim ∧ dim ≤ rank - 1

instance (rank : Nat) (dim : Int) : Decidable (InRange rank dim) :=
  inferInstanceAs (Decidable (_ ∧ _))

/-- **`NamesOnce rank dims`** — each number names a dimension, and no two of them the same. -/
structure NamesOnce (rank : Nat) (dims : List Int) : Prop where
  inRange : ∀ dim ∈ dims, InRange rank dim
  nodup : (dims.map (wrapDim rank)).Nodup

theorem wrapDim_lt {rank : Nat} {dim : Int} (h : InRange rank dim) : wrapDim rank dim < rank := by
  obtain ⟨hlow, hhigh⟩ := h
  unfold wrapDim
  split <;> omega

theorem wrapDim_cast (rank place : Nat) : wrapDim rank place = place := by
  unfold wrapDim
  rw [if_neg (by omega), Int.toNat_natCast]

theorem NamesOnce.perm {rank : Nat} {dims others : List Int} (h : NamesOnce rank dims)
    (hperm : dims.Perm others) : NamesOnce rank others where
  inRange dim hdim := h.inRange dim (hperm.mem_iff.mpr hdim)
  nodup := (hperm.map (wrapDim rank)).nodup_iff.mp h.nodup

theorem resolveAxis_eq_ok {rank axis : Nat} {dim : Int} (hrank : 0 < rank) :
    resolveAxis rank dim = .ok axis ↔ InRange rank dim ∧ axis = wrapDim rank dim := by
  unfold resolveAxis InRange wrapDim
  have hne : rank ≠ 0 := by omega
  simp only [if_neg hne]
  by_cases hout : dim < -(rank : Int) ∨ (rank : Int) ≤ dim
  · rw [if_pos hout]
    constructor
    · intro h
      cases h
    · rintro ⟨hrange, -⟩
      omega
  · have hrange : -(rank : Int) ≤ dim ∧ dim ≤ rank - 1 := by omega
    rw [if_neg hout, and_iff_right hrange]
    split <;> rw [Except.ok.injEq, eq_comm]

theorem addAxis_eq_ok_iff {rank : Nat} {named next : List Nat} {dim : Int} (hrank : 0 < rank) :
    addAxis rank named dim = .ok next ↔
      InRange rank dim ∧ wrapDim rank dim ∉ named ∧ next = named ++ [wrapDim rank dim] := by
  unfold addAxis
  simp only [bind_eq_ok, resolveAxis_eq_ok hrank, and_assoc, exists_eq_left, exists_and_left]
  apply and_congr_right
  intro _
  by_cases hmem : wrapDim rank dim ∈ named
  · simp [hmem, Operator.invalid, Checked.refuse]
  · simp [hmem, eq_comm]

/-- **Axes are resolved exactly if each is named once**, in the order of their numbers. -/
theorem resolveAxes_eq_ok_iff {rank : Nat} {dims : List Int} {axes : List Nat}
    (hrank : 0 < rank) :
    resolveAxes rank dims = .ok axes ↔ NamesOnce rank dims ∧ axes = dims.map (wrapDim rank) := by
  -- The run starts with no axis named; what it does has to be said of any start.
  have hrun : ∀ (dims : List Int) (named : List Nat), named.Nodup →
      (dims.foldlM (addAxis rank) named = .ok axes ↔
        (∀ dim ∈ dims, InRange rank dim) ∧ (named ++ dims.map (wrapDim rank)).Nodup ∧
          axes = named ++ dims.map (wrapDim rank)) := by
    intro dims
    induction dims with
    | nil =>
      intro named hnamed
      simp [pure, Except.pure, hnamed, eq_comm]
    | cons dim dims ih =>
      intro named hnamed
      rw [List.foldlM_cons, bind_eq_ok, List.forall_mem_cons, List.map_cons]
      simp only [addAxis_eq_ok_iff hrank]
      constructor
      · rintro ⟨_, ⟨hdim, hnew, rfl⟩, hrest⟩
        obtain ⟨hdims, hnodup, haxes⟩ :=
          (ih _ (List.nodup_append_comm.mp (List.nodup_cons.mpr ⟨hnew, hnamed⟩))).mp hrest
        rw [List.append_assoc] at hnodup haxes
        exact ⟨⟨hdim, hdims⟩, hnodup, haxes⟩
      · rintro ⟨⟨hdim, hdims⟩, hnodup, haxes⟩
        rw [List.append_cons] at hnodup haxes
        obtain ⟨hfirst, -, -⟩ := List.nodup_append.mp hnodup
        refine ⟨_, ⟨hdim, ?_, rfl⟩, (ih _ hfirst).mpr ⟨hdims, hnodup, haxes⟩⟩
        intro hmem
        exact (List.nodup_append.mp hfirst).2.2 _ hmem _ (List.mem_singleton_self _) rfl
  unfold resolveAxes
  rw [hrun dims [] List.nodup_nil]
  constructor
  · rintro ⟨hrange, hnodup, haxes⟩
    exact ⟨⟨hrange, hnodup⟩, haxes⟩
  · rintro ⟨⟨hrange, hnodup⟩, haxes⟩
    exact ⟨hrange, hnodup, haxes⟩

/-! ## Reductions -/

/-- **A reduction answers exactly if each dimension is named once**, with what is left of the sizes
along the places that are named. -/
theorem reduceDims_eq_ok_iff {shape out : Sizes} {dims : List Int} {keepdim : Bool}
    (hshape : shape ≠ []) (hdims : dims ≠ []) :
    reduceDims shape dims keepdim = .ok out ↔
      NamesOnce shape.length dims ∧
        out = reducedSizes keepdim (dims.map (wrapDim shape.length)) shape := by
  have hrank := List.length_pos_iff.mpr hshape
  have haxes : reductionAxes shape.length dims = resolveAxes shape.length dims := by
    unfold reductionAxes
    rw [if_neg (by simpa using hdims), if_neg (by omega)]
  have halike := Operator.reduceDims_alike shape dims keepdim
  rw [haxes] at halike
  constructor
  · intro h
    rw [h] at halike
    obtain ⟨axes, hresolved, hout⟩ := halike.ok
    obtain ⟨hnames, rfl⟩ := (resolveAxes_eq_ok_iff hrank).mp hresolved
    exact ⟨hnames, hout⟩
  · rintro ⟨hnames, rfl⟩
    obtain ⟨_, h, rfl⟩ := halike.of_right ((resolveAxes_eq_ok_iff hrank).mpr ⟨hnames, rfl⟩)
    exact h

theorem reduceDim_eq_ok_iff {shape out : Sizes} {dim : Int} {keepdim : Bool} (hshape : shape ≠ []) :
    reduceDim shape dim keepdim = .ok out ↔
      InRange shape.length dim ∧ out = reducedSizes keepdim [wrapDim shape.length dim] shape := by
  have hnames : NamesOnce shape.length [dim] ↔ InRange shape.length dim := by
    constructor
    · intro h
      exact h.inRange dim List.mem_cons_self
    · intro h
      exact ⟨by simpa using h, List.nodup_singleton _⟩
  unfold reduceDim
  rw [reduceDims_eq_ok_iff hshape (List.cons_ne_nil dim []), hnames]
  rfl

/-! ### Dimensions in another order, or counted from the other end -/

theorem reduceDims_perm {shape : Sizes} {dims others : List Int} (hshape : shape ≠ [])
    (hdims : dims ≠ []) (h : dims.Perm others) (keepdim : Bool) (out : Sizes) :
    reduceDims shape dims keepdim = .ok out ↔ reduceDims shape others keepdim = .ok out := by
  have hothers : others ≠ [] := fun hnil => hdims (List.perm_nil.mp (hnil ▸ h))
  have hsizes := reducedSizes_congr (fun _ => (h.map (wrapDim shape.length)).mem_iff) keepdim shape
  rw [reduceDims_eq_ok_iff hshape hdims, reduceDims_eq_ok_iff hshape hothers, hsizes]
  constructor
  · rintro ⟨hnames, hout⟩
    exact ⟨hnames.perm h, hout⟩
  · rintro ⟨hnames, hout⟩
    exact ⟨hnames.perm h.symm, hout⟩

/-- **`SameDim rank dim other`** — the numbers are the same, or name one dimension from both ends. -/
def SameDim (rank : Nat) (dim other : Int) : Prop :=
  other = dim ∨ (InRange rank dim ∧ InRange rank other ∧ (other = dim + rank ∨ other = dim - rank))

theorem resolveDim_of_inRange {rank : Nat} {dim : Int} (h : InRange rank dim) :
    resolveDim dim rank = .ok (wrapDim rank dim) := by
  obtain ⟨hlow, hhigh⟩ := h
  have hrank : max (rank : Int) 1 = rank := by omega
  unfold resolveDim wrapDim
  simp only [hrank]
  rw [if_neg (by omega)]

theorem resolveDim_congr {rank : Nat} {dim other : Int} (h : SameDim rank dim other) :
    resolveDim other rank = resolveDim dim rank := by
  rcases h with rfl | ⟨hdim, hother, hsame⟩
  · rfl
  · have hwrap : wrapDim rank other = wrapDim rank dim := by
      unfold InRange at hdim hother
      unfold wrapDim
      rcases hsame with rfl | rfl <;> split_ifs <;> omega
    rw [resolveDim_of_inRange hdim, resolveDim_of_inRange hother, hwrap]

/-- **A dimension may be counted from either end**, also where the list is refused. -/
theorem reduceDims_congr {shape : Sizes} {dims others : List Int}
    (h : List.Forall₂ (SameDim shape.length) dims others) (keepdim : Bool) :
    reduceDims shape others keepdim = reduceDims shape dims keepdim := by
  have hmarks : ∀ marks, others.foldlM (markReduced shape.length) marks =
      dims.foldlM (markReduced shape.length) marks := by
    induction h with
    | nil => exact fun _ => rfl
    | @cons dim other dims others hsame _ ih =>
      intro marks
      rw [List.foldlM_cons, List.foldlM_cons]
      unfold markReduced
      rw [resolveDim_congr hsame]
      exact bind_congr ih
  have hempty : others.isEmpty = dims.isEmpty := by
    cases h <;> rfl
  unfold reduceDims
  rw [hempty, hmarks]

/-- Naming no dimension is naming all of them. -/
theorem reduceDims_nil {shape : Sizes} (hshape : shape ≠ []) (keepdim : Bool) :
    reduceDims shape [] keepdim =
      reduceDims shape ((List.range shape.length).map Nat.cast) keepdim := by
  have hplaces : ((List.range shape.length).map Nat.cast).map (wrapDim shape.length) =
      List.range shape.length := by
    rw [List.map_map]
    exact (List.map_congr_left fun place _ => wrapDim_cast shape.length place).trans (List.map_id _)
  have hnames : NamesOnce shape.length ((List.range shape.length).map Nat.cast) := by
    refine ⟨?_, by rw [hplaces]; exact List.nodup_range⟩
    intro dim hdim
    obtain ⟨place, hplace, rfl⟩ := List.mem_map.mp hdim
    rw [List.mem_range] at hplace
    constructor <;> omega
  have hdims : (List.range shape.length).map (Nat.cast : Nat → Int) ≠ [] := by
    simpa using hshape
  rw [(reduceDims_eq_ok_iff hshape hdims).mpr ⟨hnames, rfl⟩, hplaces]
  obtain ⟨_, h, rfl⟩ := (Operator.reduceDims_alike shape [] keepdim).of_right rfl
  exact h

/-! ### One dimension after the other -/

/-- **Dimensions that stay are reduced one after the other**, in whatever order they are listed. -/
theorem foldlM_reduceDim_kept {shape out : Sizes} {dims : List Int} (hshape : shape ≠ []) :
    dims.foldlM (fun sizes dim => reduceDim sizes dim true) shape = .ok out ↔
      (∀ dim ∈ dims, InRange shape.length dim) ∧
        out = OpShape.keptSizes (dims.map (wrapDim shape.length)) shape := by
  induction dims generalizing shape with
  | nil =>
    rw [List.map_nil, keptSizes_nil]
    simp [pure, Except.pure, eq_comm]
  | cons dim dims ih =>
    have hkept : ∀ axes, OpShape.keptSizes axes shape ≠ [] := by
      intro axes hnil
      have hlength := length_keptSizes axes shape
      rw [hnil] at hlength
      exact hshape (List.length_eq_zero_iff.mp hlength.symm)
    rw [List.foldlM_cons, bind_eq_ok, List.forall_mem_cons, List.map_cons]
    simp only [reduceDim_eq_ok_iff hshape]
    constructor
    · rintro ⟨_, ⟨hdim, rfl⟩, hrest⟩
      obtain ⟨hdims, rfl⟩ := (ih (hkept _)).mp hrest
      rw [length_keptSizes] at hdims ⊢
      exact ⟨⟨hdim, hdims⟩, keptSizes_append _ _ _⟩
    · rintro ⟨⟨hdim, hdims⟩, rfl⟩
      refine ⟨_, ⟨hdim, rfl⟩, (ih (hkept _)).mpr ?_⟩
      rw [length_keptSizes]
      exact ⟨hdims, (keptSizes_append [_] _ _).symm⟩

/-! ### Dimensions that disappear -/

theorem reduceDim_place {shape : Sizes} {place : Nat} (h : place < shape.length) :
    reduceDim shape place false = .ok (shape.eraseIdx place) := by
  have hrange : InRange shape.length place := by
    constructor <;> omega
  rw [reduceDim_eq_ok_iff (List.ne_nil_of_length_pos (by omega)), wrapDim_cast,
    ← remainingSizes_singleton h]
  exact ⟨hrange, rfl⟩

/-- **Dimensions that disappear are reduced one after the other**, from the last to the first. -/
theorem foldlM_reduceDim_removed {shape : Sizes} {places : List Nat}
    (hdown : places.Pairwise (· > ·)) (hplaces : ∀ place ∈ places, place < shape.length) :
    places.foldlM (fun sizes place => reduceDim sizes (place : Nat) false) shape =
      .ok (remainingSizes places shape) := by
  induction places generalizing shape with
  | nil =>
    rw [remainingSizes_nil]
    rfl
  | cons place places ih =>
    rw [List.pairwise_cons] at hdown
    rw [List.forall_mem_cons] at hplaces
    obtain ⟨hlast, hdown⟩ := hdown
    -- The places that are still to be reduced lie in front of the one that has gone.
    have hrest : ∀ other ∈ places, other < (shape.eraseIdx place).length := by
      intro other hother
      have hlt := hlast other hother
      rw [List.length_eraseIdx_of_lt hplaces.1]
      omega
    rw [List.foldlM_cons, reduceDim_place hplaces.1, ok_bind, ih hdown hrest,
      remainingSizes_cons hplaces.1 hlast]

/-! ### Back again -/

/-- **A dimension that stays is one that disappears and is put back.** -/
theorem reduceDim_unsqueeze {shape : Sizes} {dim : Int} (h : InRange shape.length dim) :
    (do unsqueeze (← reduceDim shape dim false) dim) = reduceDim shape dim true := by
  have hplace := wrapDim_lt h
  have hshape : shape ≠ [] := List.ne_nil_of_length_pos (by omega)
  have hremoved : reduceDim shape dim false = .ok (shape.eraseIdx (wrapDim shape.length dim)) := by
    rw [reduceDim_eq_ok_iff hshape, ← remainingSizes_singleton hplace]
    exact ⟨h, rfl⟩
  have hkept : reduceDim shape dim true = .ok (shape.set (wrapDim shape.length dim) 1) := by
    rw [reduceDim_eq_ok_iff hshape, ← keptSizes_singleton hplace]
    exact ⟨h, rfl⟩
  have hlength := List.length_eraseIdx_add_one hplace
  unfold unsqueeze
  rw [hremoved, hkept, ok_bind, hlength, resolveDim_of_inRange h, ok_bind,
    Checked.insertIdx_of_le (by omega), List.insertIdx_eraseIdx_self (Nat.ne_of_lt hplace)]

/-- **A reduction over several dimensions is one reduction after the other.**  It answers exactly if
each number names a dimension and no two of them the same, whatever their order and from whichever
end they are counted.  Dimensions that stay may be reduced one by one in any order; without them the
same sizes are left but for the places named, which may also be reduced one by one from the last to
the first.  Naming none is naming all, and a dimension that disappears can be put back. -/
theorem reduceDims_one_by_one {shape : Sizes} {dims : List Int} (hshape : shape ≠ [])
    (hdims : dims ≠ []) (keepdim : Bool) :
    ((∃ out, reduceDims shape dims keepdim = .ok out) ↔
      (∀ dim ∈ dims, -shape.length ≤ dim ∧ dim ≤ shape.length - 1) ∧
        (dims.map (wrapDim shape.length)).Nodup) ∧
    (∀ others, dims.Perm others → ∀ out,
      reduceDims shape dims keepdim = .ok out ↔ reduceDims shape others keepdim = .ok out) ∧
    (∀ others, List.Forall₂ (SameDim shape.length) dims others →
      reduceDims shape others keepdim = reduceDims shape dims keepdim) ∧
    (∀ others, dims.Perm others → ∀ out,
      reduceDims shape dims true = .ok out ↔
        (dims.map (wrapDim shape.length)).Nodup ∧
          others.foldlM (fun sizes dim => reduceDim sizes dim true) shape = .ok out) ∧
    (∀ kept, reduceDims shape dims true = .ok kept →
      reduceDims shape dims false =
        .ok (remainingSizes (dims.map (wrapDim shape.length)) kept)) ∧
    (∀ (out : Sizes) (places : List Nat), reduceDims shape dims false = .ok out →
      places.Perm (dims.map (wrapDim shape.length)) → places.Pairwise (· > ·) →
        places.foldlM (fun sizes place => reduceDim sizes (place : Nat) false) shape = .ok out) ∧
    reduceDims shape [] keepdim =
      reduceDims shape ((List.range shape.length).map Nat.cast) keepdim ∧
    ∀ dim : Int, -shape.length ≤ dim ∧ dim ≤ shape.length - 1 →
      (do unsqueeze (← reduceDim shape dim false) dim) = reduceDim shape dim true := by
  refine ⟨?_, fun others h => reduceDims_perm hshape hdims h keepdim,
    fun others h => reduceDims_congr h keepdim, ?_, ?_, ?_, reduceDims_nil hshape keepdim,
    fun _ h => reduceDim_unsqueeze h⟩
  · simp only [reduceDims_eq_ok_iff hshape hdims]
    constructor
    · rintro ⟨_, ⟨hrange, hnodup⟩, -⟩
      exact ⟨hrange, hnodup⟩
    · rintro ⟨hrange, hnodup⟩
      exact ⟨_, ⟨hrange, hnodup⟩, rfl⟩
  · intro others h out
    have hsizes := reducedSizes_congr (fun _ => (h.map (wrapDim shape.length)).mem_iff) true shape
    rw [reduceDims_eq_ok_iff hshape hdims, foldlM_reduceDim_kept hshape, hsizes]
    constructor
    · rintro ⟨hnames, hout⟩
      exact ⟨hnames.nodup, (hnames.perm h).inRange, hout⟩
    · rintro ⟨hnodup, hrange, hout⟩
      exact ⟨⟨fun dim hdim => hrange dim (h.mem_iff.mp hdim), hnodup⟩, hout⟩
  · intro kept hkept
    obtain ⟨hnames, rfl⟩ := (reduceDims_eq_ok_iff hshape hdims).mp hkept
    rw [reduceDims_eq_ok_iff hshape hdims]
    exact ⟨hnames, remainingSizes_keptSizes _ shape⟩
  · intro out places hout hperm hdown
    obtain ⟨hnames, rfl⟩ := (reduceDims_eq_ok_iff hshape hdims).mp hout
    have hplaces : ∀ place ∈ places, place < shape.length := by
      intro place hplace
      obtain ⟨dim, hdim, rfl⟩ := List.mem_map.mp (hperm.mem_iff.mp hplace)
      exact wrapDim_lt (hnames.inRange dim hdim)
    rw [foldlM_reduceDim_removed hdown hplaces]
    exact congrArg Except.ok (reducedSizes_congr (fun _ => hperm.mem_iff) false shape)

/-- The first dimension, and the last one counted from the end, leave the one in the middle. -/
theorem reduceDims_one_by_one_ends :
    reduceDims [2, 3, 5] [0, -1] true = .ok [1, 3, 1] ∧
      reduceDims [2, 3, 5] [0, -1] false = .ok [3] ∧
      [-1, 0].foldlM (fun sizes dim => reduceDim sizes dim true) [2, 3, 5] = .ok [1, 3, 1] ∧
      [2, 0].foldlM (fun sizes place => reduceDim sizes (place : Nat) false) [2, 3, 5] = .ok [3] := by
  have hkept : reduceDims [2, 3, 5] [0, -1] true = .ok [1, 3, 1] := by decide
  obtain ⟨-, -, -, hany, hremoved, hdown, -⟩ :=
    @reduceDims_one_by_one [2, 3, 5] [0, -1] (by decide) (by decide) true
  have hgone := hremoved [1, 3, 1] hkept
  exact ⟨hkept, hgone, ((hany [-1, 0] (by decide) [1, 3, 1]).mp hkept).2,
    hdown [3] [2, 0] hgone (by decide) (by decide)⟩

end OpShape.Rule

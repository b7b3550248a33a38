/-
# `OpShape.Proofs.Operator.Marks` — the dimensions that carry an index, and those that do not.

Which dimensions carry an index does not depend on what the indices are: all that counts is a list
of marks, one for each index that may be there.  Indexed dimensions that are neighbours are told
apart by the rule from the first, the last and the number of them, by the operators one after the
other.  The rule cuts the kept sizes out of a shape around neighbours; the operators pick them.
-/
import OpShape.Operator.Index
import OpShape.Rule.Index
import OpShape.Proofs.Tensor.Offset

namespace OpShape

variable {β : Type}

/-! ## Marked dimensions -/

/-- The dimensions that are marked. -/
def markedDims (marks : List Bool) : List Nat :=
  (marks.zipIdx.filter fun entry => entry.1).map Prod.snd

/-- The sizes of the dimensions that are not marked. -/
def unmarkedSizes (sizes : Sizes) (marks : List Bool) : Sizes :=
  (sizes.zipIdx.filter fun entry => !(marks[entry.2]?.getD false)).map Prod.fst

theorem markedDims_cons (mark : Bool) (marks : List Bool) :
    markedDims (mark :: marks) =
      (if mark then [0] else []) ++ (markedDims marks).map Nat.succ := by
  unfold markedDims
  rw [List.zipIdx_cons, List.zipIdx_succ, List.filter_cons]
  cases mark <;> simp [List.filter_map, Function.comp_def]

theorem unmarkedSizes_cons (size : Nat) (sizes : Sizes) (marks : List Bool) :
    unmarkedSizes (size :: sizes) marks =
      (if marks.head?.getD false then [] else [size]) ++ unmarkedSizes sizes (marks.drop 1) := by
  unfold unmarkedSizes
  rw [List.zipIdx_cons, List.zipIdx_succ, List.filter_cons]
  cases marks with
  | nil => simp [List.filter_map, Function.comp_def]
  | cons mark marks => cases mark <;> simp [List.filter_map, Function.comp_def]

theorem mem_markedDims {marks : List Bool} {dim : Nat} :
    dim ∈ markedDims marks ↔ marks[dim]? = some true := by
  unfold markedDims
  rw [List.mem_map]
  constructor
  · rintro ⟨⟨mark, dim⟩, hmem, rfl⟩
    obtain ⟨hmem, hmark⟩ := List.mem_filter.mp hmem
    obtain rfl : mark = true := hmark
    exact List.mem_zipIdx_iff_getElem?.mp hmem
  · intro h
    exact ⟨(true, dim), List.mem_filter.mpr ⟨List.mem_zipIdx_iff_getElem?.mpr h, rfl⟩, rfl⟩

/-- Marked dimensions are listed in order. -/
theorem markedDims_sorted (marks : List Bool) : (markedDims marks).Pairwise (· < ·) := by
  induction marks with
  | nil => exact .nil
  | cons mark marks ih =>
    have htail : ((markedDims marks).map Nat.succ).Pairwise (· < ·) := by
      rw [List.pairwise_map]
      exact ih.imp Nat.succ_lt_succ
    rw [markedDims_cons]
    cases mark with
    | false => exact htail
    | true =>
      refine .cons ?_ htail
      intro dim hdim
      obtain ⟨_, -, rfl⟩ := List.mem_map.mp hdim
      exact Nat.succ_pos _

theorem Operator.indexedDims_eq (indices : List (Option (Tensor Int))) :
    indexedDims indices = markedDims (indices.map Option.isSome) := by
  unfold indexedDims markedDims
  rw [List.zipIdx_map, List.filter_map, List.map_map]
  rfl

theorem Rule.indexedDims_eq (indices : List (Option Sizes)) :
    indexedDims indices = markedDims (indices.map Option.isSome) := by
  unfold indexedDims markedDims
  rw [List.zipIdx_map, List.filter_map, List.map_map]
  rfl

theorem Rule.keptSizes_eq (shape : Sizes) (indices : List (Option Sizes)) :
    keptSizes shape indices = unmarkedSizes shape (indices.map Option.isSome) := by
  unfold keptSizes unmarkedSizes
  refine congrArg (List.map Prod.fst) (List.filter_congr ?_)
  rintro ⟨size, dim⟩ -
  rw [List.getElem?_map]
  rcases indices[dim]? with _ | _ | _ <;> rfl

/-- What the operators keep. -/
theorem unmarkedSizes_eq_not_contains (sizes : Sizes) (marks : List Bool) :
    ((sizes.zipIdx.filter fun entry => !(markedDims marks).contains entry.2).map Prod.fst) =
      unmarkedSizes sizes marks := by
  unfold unmarkedSizes
  refine congrArg (List.map Prod.fst) (List.filter_congr ?_)
  rintro ⟨size, dim⟩ -
  have hmem : (markedDims marks).contains dim = marks[dim]?.getD false := by
    rw [Bool.eq_iff_iff, List.contains_iff_mem, mem_markedDims]
    rcases marks[dim]? with _ | _ | _ <;> simp
  rw [hmem]

/-! ## Neighbours -/

/-- **Dimensions that follow each other** are all those from the first one on. -/
theorem areAdjacent_iff {first : Nat} {rest : List Nat} :
    Operator.areAdjacent (first :: rest) = true ↔
      first :: rest = List.range' first (rest.length + 1) := by
  induction rest generalizing first with
  | nil => exact ⟨fun _ => rfl, fun _ => rfl⟩
  | cons second rest ih =>
    rw [Operator.areAdjacent, Bool.and_eq_true, beq_iff_eq, ih, List.length_cons]
    constructor
    · rintro ⟨rfl, hrest⟩
      rw [List.range'_succ, ← hrest]
    · intro h
      rw [List.range'_succ] at h
      have htail := (List.cons.inj h).2
      obtain rfl : second = first + 1 := by
        rw [List.range'_succ] at htail
        exact (List.cons.inj htail).1
      exact ⟨rfl, htail⟩

/-- In a sorted list there are at least as many numbers as entries from the first to the last one,
and as many only if the entries follow each other. -/
theorem last_of_sorted {first last : Nat} {rest : List Nat}
    (hsorted : (first :: rest).Pairwise (· < ·))
    (hlast : (first :: rest).getLast? = some last) :
    first + rest.length ≤ last ∧
      (last = first + rest.length ↔ first :: rest = List.range' first (rest.length + 1)) := by
  induction rest generalizing first with
  | nil =>
    obtain rfl : first = last := Option.some.inj hlast
    exact ⟨Nat.le_refl _, fun _ => rfl, fun _ => rfl⟩
  | cons second rest ih =>
    obtain ⟨hfirst, hrest⟩ := List.pairwise_cons.mp hsorted
    have hstep : first < second := hfirst second List.mem_cons_self
    rw [List.getLast?_cons_cons] at hlast
    obtain ⟨hle, hiff⟩ := ih hrest hlast
    rw [List.length_cons]
    -- As each entry is greater than the one before, no step is smaller than one.
    refine ⟨by omega, ?_⟩
    constructor
    · intro h
      obtain rfl : second = first + 1 := by omega
      rw [List.range'_succ, hiff.mp (by omega)]
    · intro h
      rw [List.range'_succ] at h
      have htail := (List.cons.inj h).2
      rw [List.range'_succ] at htail
      obtain ⟨rfl, -⟩ := List.cons.inj htail
      have hlast := hiff.mpr (by rw [htail, List.range'_succ])
      omega

theorem first_le_last {first last : Nat} {marks : List Bool}
    (hfirst : (markedDims marks).head? = some first)
    (hlast : (markedDims marks).getLast? = some last) : first ≤ last := by
  have hsorted := markedDims_sorted marks
  obtain ⟨rest, hrest⟩ := List.head?_eq_some_iff.mp hfirst
  rw [hrest] at hsorted hlast
  have hle := (last_of_sorted hsorted hlast).1
  omega

/-- **The two sides tell neighbours alike.** -/
theorem adjacent_iff_last {first last : Nat} {dims : List Nat}
    (hsorted : dims.Pairwise (· < ·)) (hfirst : dims.head? = some first)
    (hlast : dims.getLast? = some last) :
    last - first + 1 = dims.length ↔ Operator.areAdjacent dims = true := by
  cases dims with
  | nil => cases hfirst
  | cons head rest =>
    obtain rfl : head = first := Option.some.inj hfirst
    obtain ⟨hle, hiff⟩ := last_of_sorted hsorted hlast
    rw [areAdjacent_iff, ← hiff, List.length_cons]
    omega

/-- **Around neighbours the kept sizes are cut out of the shape.** -/
theorem unmarkedSizes_of_adjacent (sizes : Sizes) {marks : List Bool} {first count : Nat}
    (hdims : markedDims marks = List.range' first count) (hcount : first + count ≤ sizes.length) :
    unmarkedSizes sizes marks = sizes.take first ++ sizes.drop (first + count) := by
  -- In front of the neighbours and behind them all is kept, and nothing in between.
  have hsplit : sizes = sizes.take first ++ ((sizes.drop first).take count ++
      sizes.drop (first + count)) := by
    rw [← List.drop_drop, List.take_append_drop, List.take_append_drop]
  have hkeep : ∀ dim : Nat, (!(markedDims marks).contains dim) = true ↔
      dim < first ∨ first + count ≤ dim := by
    intro dim
    rw [Bool.not_eq_true', ← Bool.not_eq_true, List.contains_iff_mem, hdims, List.mem_range'_1]
    omega
  have hlengths : (sizes.take first).length = first ∧ ((sizes.drop first).take count).length = count := by
    rw [List.length_take, List.length_take, List.length_drop]
    omega
  rw [← unmarkedSizes_eq_not_contains]
  conv_lhs => rw [hsplit]
  rw [List.zipIdx_append, List.zipIdx_append, List.filter_append, List.filter_append,
    List.map_append, List.map_append, hlengths.1, hlengths.2, Nat.zero_add]
  have hfront : ((sizes.take first).zipIdx.filter fun entry =>
      !(markedDims marks).contains entry.2) = (sizes.take first).zipIdx := by
    rw [List.filter_eq_self]
    rintro ⟨size, dim⟩ hmem
    rw [hkeep]
    have hlt := List.snd_lt_of_mem_zipIdx hmem
    exact .inl (by omega)
  have hmiddle : ((((sizes.drop first).take count).zipIdx first).filter fun entry =>
      !(markedDims marks).contains entry.2) = [] := by
    rw [List.filter_eq_nil_iff]
    rintro ⟨size, dim⟩ hmem
    rw [hkeep]
    have hle := List.le_snd_of_mem_zipIdx hmem
    have hlt := List.snd_lt_of_mem_zipIdx hmem
    dsimp only at hle hlt ⊢
    omega
  have hback : (((sizes.drop (first + count)).zipIdx (first + count)).filter fun entry =>
      !(markedDims marks).contains entry.2) =
        (sizes.drop (first + count)).zipIdx (first + count) := by
    rw [List.filter_eq_self]
    rintro ⟨size, dim⟩ hmem
    rw [hkeep]
    exact .inr (List.le_snd_of_mem_zipIdx hmem)
  rw [hfront, hmiddle, hback, List.zipIdx_map_fst, List.zipIdx_map_fst, List.map_nil,
    List.nil_append]

end OpShape

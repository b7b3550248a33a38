/-
# `OpShape.Proofs.Operator.Order` — permutations and reversals follow their rules.

The rules keep a mark per dimension and refuse one that is marked already; the operators keep the
list of dimensions named so far and refuse one that is in it.  `Marks` relates the two states, each
step preserves it, and so both sides stop at the same number or not at all.
-/
import Mathlib.Data.List.Nodup
import OpShape.Builtin.Layout
import OpShape.Operator.Layout
import OpShape.Proofs.Operator.Agreement
import OpShape.Proofs.Tensor.Permute

namespace OpShape.Operator

open Tensor (HasSizes answers_ofIndices answers_at? answers_permute)

/-! ## Dimensions named once -/

/-- The marks tell which of `count` dimensions have been named. -/
structure Marks (count : Nat) (marks : List Bool) (named : List Nat) : Prop where
  length : marks.length = count
  get : ∀ dim < count, marks[dim]? = some (named.contains dim)

theorem marks_initial (count : Nat) : Marks count (List.replicate count false) [] where
  length := List.length_replicate
  get dim hdim := by
    rw [List.getElem?_replicate, if_pos hdim]
    rfl

namespace Marks

variable {ε : Type} {count dim : Nat} {marks : List Bool} {named : List Nat}

theorem get_eq (h : Marks count marks named) (hdim : dim < count) :
    (Checked.get marks dim : Checked ε Bool) = .ok (named.contains dim) := by
  rw [Checked.get, h.get dim hdim]

theorem set_eq (h : Marks count marks named) (hdim : dim < count) :
    (Checked.set marks dim true : Checked ε (List Bool)) = .ok (marks.set dim true) :=
  Checked.set_of_lt (Nat.lt_of_lt_of_eq hdim h.length.symm) true

/-- Marking a dimension names it. -/
theorem mark (h : Marks count marks named) (dim : Nat) :
    Marks count (marks.set dim true) (named ++ [dim]) where
  length := by
    rw [List.length_set]
    exact h.length
  get other hother := by
    rw [List.getElem?_set]
    by_cases heq : dim = other
    -- The dimension itself is named now; the others are marked as they were.
    · subst heq
      simp [h.length, hother]
    · rw [if_neg heq, h.get other hother]
      have hne : other ≠ dim := fun e => heq e.symm
      simp [hne]

end Marks

/-- The axis that was added is a dimension, where a scalar counts as a vector, and is new. -/
theorem addAxis_eq_ok {rank : Nat} {named next : List Nat} {dim : Int}
    (h : addAxis rank named dim = .ok next) :
    ∃ axis, axis < max rank 1 ∧ axis ∉ named ∧ next = named ++ [axis] := by
  unfold addAxis at h
  obtain ⟨axis, haxis, hnext⟩ := bind_eq_ok.mp h
  obtain ⟨_, -, rfl, hlt⟩ := (alike_axis dim rank).of_right haxis
  split at hnext
  · cases hnext
  · next hnew =>
    refine ⟨_, hlt, ?_, (Except.ok.inj hnext).symm⟩
    simpa using hnew

/-- **Resolved axes are distinct dimensions**, one for each that was given. -/
theorem resolveAxes_eq_ok {rank : Nat} {dims : List Int} {axes : List Nat}
    (h : resolveAxes rank dims = .ok axes) :
    axes.Nodup ∧ (∀ axis ∈ axes, axis < max rank 1) ∧ axes.length = dims.length := by
  -- The run starts with no axis named; what it keeps has to be said of any start.
  have hrun : ∀ (dims : List Int) (named : List Nat), named.Nodup →
      (∀ axis ∈ named, axis < max rank 1) → dims.foldlM (addAxis rank) named = .ok axes →
        axes.Nodup ∧ (∀ axis ∈ axes, axis < max rank 1) ∧
          axes.length = named.length + dims.length := by
    intro dims
    induction dims with
    | nil =>
      intro named hnodup hlt hrun
      rw [List.foldlM_nil] at hrun
      obtain rfl := Except.ok.inj hrun
      exact ⟨hnodup, hlt, rfl⟩
    | cons dim dims ih =>
      intro named hnodup hlt hrun
      rw [List.foldlM_cons] at hrun
      obtain ⟨next, hstep, hrest⟩ := bind_eq_ok.mp hrun
      obtain ⟨axis, haxis, hnew, rfl⟩ := addAxis_eq_ok hstep
      have hnodup' : (named ++ [axis]).Nodup := by
        rw [List.nodup_append]
        refine ⟨hnodup, List.nodup_singleton axis, ?_⟩
        rintro a ha b hb rfl
        rw [List.mem_singleton] at hb
        exact hnew (hb ▸ ha)
      have hlt' : ∀ other ∈ named ++ [axis], other < max rank 1 := by
        intro other hother
        rcases List.mem_append.mp hother with hother | hother
        · exact hlt other hother
        · rw [List.mem_singleton.mp hother]
          exact haxis
      obtain ⟨hfinal, hbound, hlength⟩ := ih _ hnodup' hlt' hrest
      refine ⟨hfinal, hbound, ?_⟩
      rw [hlength, List.length_append, List.length_cons, List.length_cons, List.length_nil]
      omega
  obtain ⟨hnodup, hlt, hlength⟩ := hrun dims [] List.nodup_nil (by simp) h
  rw [List.length_nil, Nat.zero_add] at hlength
  exact ⟨hnodup, hlt, hlength⟩

/-! ## Permutations -/

/-- The state of the rule for permutations beside that of the operator. -/
structure PermuteState (shape : Sizes) (state : List Bool × Sizes) (named : List Nat) : Prop where
  marks : Marks shape.length state.1 named
  sizes : state.2 = named.map (sizeAt shape)

/-- **One more dimension of a permutation** is taken or refused alike. -/
theorem permuteStep_alike {shape : Sizes} {state : List Bool × Sizes} {named : List Nat}
    (h : PermuteState shape state named) (hshape : shape ≠ []) (dim : Int) :
    Alike (PermuteState shape) (Rule.permuteStep shape state dim)
      (addAxis shape.length named dim) := by
  have hrank : max shape.length 1 = shape.length := by
    have hpos := List.length_pos_of_ne_nil hshape
    omega
  unfold Rule.permuteStep addAxis
  apply (alike_axis dim shape.length).bind
  rintro axis _ ⟨rfl, haxis⟩
  rw [hrank] at haxis
  rw [h.marks.get_eq haxis, ok_bind]
  by_cases hnamed : named.contains axis = true
  · rw [if_pos hnamed, if_pos hnamed]
    exact alike_error_error
  · rw [if_neg hnamed, if_neg hnamed, h.marks.set_eq haxis, ok_bind, get_eq_sizeAt haxis, ok_bind]
    refine ⟨h.marks.mark axis, ?_⟩
    rw [h.sizes, List.map_append]
    rfl

/-- A permutation is read alike, if it names as many dimensions as there are. -/
theorem permute_alike {shape : Sizes} {dims : List Int} (hlength : dims.length = shape.length) :
    Alike (PermuteState shape)
      (dims.foldlM (Rule.permuteStep shape) (List.replicate shape.length false, []))
      (resolveAxes shape.length dims) := by
  refine Alike.foldlM ⟨marks_initial shape.length, rfl⟩ ?_
  intro state named hstate dim hdim
  have hshape : shape ≠ [] := by
    rintro rfl
    rw [List.eq_nil_of_length_eq_zero hlength] at hdim
    cases hdim
  exact permuteStep_alike hstate hshape dim

theorem permuteOf_follows (limit : Nat) :
    Follows limit permuteOf (Builtin.withInts Rule.permute "dims") := by
  intro bound hfits
  unfold permuteOf Builtin.withInts
  apply (alike_tensor "self" hfits).bind
  rintro _ input ⟨rfl, -⟩
  apply (alike_ints "dims" hfits).bind
  rintro dims _ ⟨rfl, -⟩
  unfold Rule.permute
  have hrank : input.rank = input.sizes.length := rfl
  rw [hrank]
  by_cases hlength : dims.length ≠ input.sizes.length
  · rw [if_pos hlength, if_pos hlength]
    exact alike_error_error
  · rw [if_neg hlength, if_neg hlength]
    have hlength' : dims.length = input.sizes.length := not_not.mp hlength
    apply ((permute_alike hlength').and_right fun _ => resolveAxes_eq_ok).bind
    rintro state order ⟨hstate, hnodup, hlt, horder⟩
    rw [hlength'] at horder
    -- Where a dimension is named there is one, and then the tensor is no scalar.
    have hlt' : ∀ dim ∈ order, dim < input.sizes.length := by
      intro dim hdim
      have hpos := List.length_pos_of_mem hdim
      have hdim' := hlt dim hdim
      omega
    apply Alike.single
    apply Answers.alike
    rw [hstate.sizes, ← input.sizes_toFloats]
    apply answers_permute
    rw [input.sizes_toFloats]
    exact perm_range_of_nodup hnodup hlt' horder

/-! ## Two dimensions -/

theorem exchange_perm {rank first second : Nat} (hfirst : first < rank) (hsecond : second < rank) :
    (exchange rank first second).Perm (List.range rank) := by
  unfold exchange
  refine perm_range_of_nodup ?_ ?_ ?_
  · refine List.Nodup.map_on ?_ List.nodup_range
    intro a _ b _ heq
    split_ifs at heq <;> omega
  · intro dim hdim
    obtain ⟨source, hsource, rfl⟩ := List.mem_map.mp hdim
    rw [List.mem_range] at hsource
    split
    · exact hsecond
    · split
      · exact hfirst
      · exact hsource
  · rw [List.length_map, List.length_range]

/-- Two sizes are exchanged whether they are written in place or read in another order. -/
theorem exchange_sizes {sizes : Sizes} {first second : Nat} (hfirst : first < sizes.length)
    (hsecond : second < sizes.length) :
    (sizes.set first (sizeAt sizes second)).set second (sizeAt sizes first) =
      (exchange sizes.length first second).map (sizeAt sizes) := by
  have hat : ∀ dim, sizeAt sizes dim = sizes[dim]?.getD 0 := fun _ => rfl
  apply List.ext_getElem?
  intro dim
  unfold exchange
  rw [List.getElem?_map, List.getElem?_map, List.getElem?_set, List.getElem?_set,
    List.length_set]
  by_cases hdim : dim < sizes.length
  · rw [List.getElem?_range hdim, Option.map_some, Option.map_some]
    by_cases hs : second = dim
    · subst hs
      by_cases hf : second = first
      · subst hf
        simp [hsecond]
      · simp [hsecond, hf]
    · by_cases hf : first = dim
      · subst hf
        simp [hs, hfirst]
      · have hs' : dim ≠ second := fun e => hs e.symm
        have hf' : dim ≠ first := fun e => hf e.symm
        simp [hs, hf, hs', hf', hat, hdim]
  · have hnone : (List.range sizes.length)[dim]? = none := by
      rw [List.getElem?_eq_none_iff, List.length_range]
      omega
    have hs : second ≠ dim := by omega
    have hf : first ≠ dim := by omega
    have hout : sizes[dim]? = none := by
      rw [List.getElem?_eq_none_iff]
      omega
    simp [hnone, hs, hf, hout]

theorem transposeOf_follows (limit : Nat) :
    Follows limit transposeOf (Builtin.withDims Rule.transpose "dim0" "dim1") := by
  intro bound hfits
  unfold transposeOf Builtin.withDims Rule.transpose
  apply (alike_floatArg "self" hfits).bind
  rintro _ input ⟨rfl, -⟩
  apply (alike_int "dim0" bound).bind
  rintro dim0 _ rfl
  refine alike_comm_right.mpr ((alike_int "dim1" bound).bind ?_)
  rintro dim1 _ rfl
  apply (alike_axis dim0 input.sizes.length).bind
  rintro first _ ⟨rfl, hfirst⟩
  apply (alike_axis dim1 input.sizes.length).bind
  rintro second _ ⟨rfl, hsecond⟩
  by_cases hscalar : input.sizes.length = 0
  · have hempty : input.sizes.isEmpty = true := by
      rw [List.isEmpty_iff]
      exact List.eq_nil_of_length_eq_zero hscalar
    rw [if_pos hscalar, if_pos hempty]
    exact ⟨input, rfl, rfl⟩
  · have hempty : ¬ input.sizes.isEmpty = true := by
      rw [List.isEmpty_iff, ← List.length_eq_zero_iff]
      exact hscalar
    have hfirst' : first < input.sizes.length := by omega
    have hsecond' : second < input.sizes.length := by omega
    rw [if_neg hscalar, if_neg hempty, get_eq_sizeAt hfirst', get_eq_sizeAt hsecond', ok_bind,
      ok_bind, Checked.set_of_lt hfirst', ok_bind,
      Checked.set_of_lt (by rw [List.length_set]; exact hsecond')]
    apply Alike.single
    apply Answers.alike
    rw [exchange_sizes hfirst' hsecond']
    exact answers_permute (exchange_perm hfirst' hsecond')

theorem matrixTransposeOf_follows (limit : Nat) :
    Follows limit matrixTransposeOf Builtin.transposedMatrix := by
  intro bound hfits
  unfold matrixTransposeOf Builtin.transposedMatrix
  apply (alike_floatArg "self" hfits).bind
  rintro _ input ⟨rfl, -⟩
  match hsizes : input.sizes with
  | [] => exact ⟨input, rfl, hsizes⟩
  | [_] => exact ⟨input, rfl, hsizes⟩
  | [rows, cols] =>
    apply Alike.single
    apply Answers.alike
    have hswap : [cols, rows] = [1, 0].map (sizeAt input.sizes) := by
      rw [hsizes]
      rfl
    rw [hswap]
    apply answers_permute
    rw [hsizes]
    exact List.Perm.swap 0 1 []
  | _ :: _ :: _ :: _ => exact alike_error_error

/-! ## Reversals -/

/-- Coordinates that are counted from the other end are still inside. -/
theorem inside_indexFromEnd (axes : List Nat) {sizes : Sizes} {index : List Nat}
    (h : Inside index sizes) : Inside (indexFromEnd axes sizes index) sizes := by
  -- The number of the first dimension grows along the list, whatever it starts from.
  have hfrom : ∀ start, Inside (((index.zip sizes).zipIdx start).map fun entry =>
      if axes.contains entry.2 then entry.1.2 - 1 - entry.1.1 else entry.1.1) sizes := by
    induction h with
    | nil => exact fun _ => .nil
    | @cons i size index sizes hlt _ ih =>
      intro start
      refine .cons ?_ (ih (start + 1))
      dsimp only
      split
      · omega
      · exact hlt
  exact hfrom 0

theorem answers_flip {input : Tensor Float32} (axes : List Nat) :
    Answers (HasSizes input.sizes) (flip input axes) :=
  answers_ofIndices fun _ hinside => answers_at? (inside_indexFromEnd axes hinside)

/-- **One more dimension to turn around** is taken or refused alike. -/
theorem markFlipped_alike {rank : Nat} {marks : List Bool} {named : List Nat}
    (h : Marks (max rank 1) marks named) (dim : Int) :
    Alike (Marks (max rank 1)) (Builtin.markFlipped rank marks dim) (addAxis rank named dim) := by
  unfold Builtin.markFlipped addAxis
  apply (alike_axis dim rank).bind
  rintro axis _ ⟨rfl, haxis⟩
  rw [h.get_eq haxis, ok_bind]
  by_cases hnamed : named.contains axis = true
  · rw [if_pos hnamed, if_pos hnamed]
    exact alike_error_error
  · rw [if_neg hnamed, if_neg hnamed, h.set_eq haxis]
    exact h.mark axis

/-- **The axes to turn around** are refused alike, also those of a scalar, of which the operator
only checks that there is at most one. -/
theorem flipAxes_alike (rank : Nat) (dims : List Int) :
    Alike (fun _ _ => True) (resolveAxes rank dims) (flipAxes rank dims) := by
  unfold flipAxes
  by_cases hscalar : rank = 0
  · subst hscalar
    rw [if_pos rfl]
    match dims with
    | [] => trivial
    | [dim] =>
      have hone : ¬ 1 < [dim].length := Nat.lt_irrefl 1
      rw [if_neg hone, List.mapM_cons, List.mapM_nil]
      show Alike _ (addAxis 0 [] dim >>= fun named => .ok named) _
      unfold addAxis
      cases resolveAxis 0 dim with
      | error e => exact alike_error_error
      | ok axis => exact alike_ok_ok.mpr trivial
    | first :: second :: rest =>
      -- Two distinct axes of a scalar would have to differ below one.
      have hfails : ∀ axes, resolveAxes 0 (first :: second :: rest) ≠ .ok axes := by
        intro axes haxes
        obtain ⟨hnodup, hlt, hlength⟩ := resolveAxes_eq_ok haxes
        match axes with
        | a :: b :: _ =>
          have ha := hlt a (by simp)
          have hb := hlt b (by simp)
          have hab : a ≠ b := fun e => (List.nodup_cons.mp hnodup).1 (e ▸ List.mem_cons_self)
          omega
      -- The operator refuses a second axis of a scalar only after it has resolved all of them.
      cases haxes : resolveAxes 0 (first :: second :: rest) with
      | ok axes => exact absurd haxes (hfails axes)
      | error e =>
        cases (first :: second :: rest).mapM (resolveAxis 0) with
        | error d => trivial
        | ok resolved =>
          rw [ok_bind, if_pos (by simp)]
          exact alike_error_error
  · rw [if_neg hscalar]
    cases resolveAxes rank dims <;> trivial

theorem flipOf_follows (limit : Nat) : Follows limit flipOf Builtin.flipped := by
  intro bound hfits
  unfold flipOf Builtin.flipped
  apply (alike_floatArg "self" hfits).bind
  rintro _ input ⟨rfl, -⟩
  apply (alike_ints "dims" hfits).bind
  rintro dims _ ⟨rfl, -⟩
  have hmarks : Alike (Marks (max input.sizes.length 1))
      (dims.foldlM (Builtin.markFlipped input.sizes.length)
        (List.replicate (max input.sizes.length 1) false))
      (resolveAxes input.sizes.length dims) :=
    Alike.foldlM (marks_initial _) fun _ _ h dim _ => markFlipped_alike h dim
  apply (hmarks.trans (flipAxes_alike input.sizes.length dims)).bind
  intro marks axes _
  exact Alike.single (Answers.alike (answers_flip axes))

end OpShape.Operator

/-
# `OpShape.Proofs.Rule.View` — views are the reshapes that are determined uniquely.

A view asks for a size at every place, or leaves the size of one place open.  What it stands for is
said here without the rule: the shapes of that length which have the sizes asked for and as many
elements.  The rule answers exactly if there is one such shape and no other, and with that shape.

What carries the proofs is the product of the sizes asked for.  Where a size is open, a product that
is not zero leaves at most one number for it, and a product of zero leaves none or all of them.
-/
import OpShape.Proofs.Operator.View

namespace OpShape.Rule

open Operator (sizesWith sizesWith_cons)

/-! ## Requested sizes -/

/-- The sizes that are asked for by their number. -/
def givenSizes (wanted : List Int) : Sizes :=
  (wanted.filter fun size => 0 ≤ size).map Int.toNat

theorem givenSizes_cons_of_nonneg {size : Int} (h : 0 ≤ size) (wanted : List Int) :
    givenSizes (size :: wanted) = size.toNat :: givenSizes wanted := by
  unfold givenSizes
  rw [List.filter_cons_of_pos (by simpa using h), List.map_cons]

theorem givenSizes_cons_of_neg {size : Int} (h : size < 0) (wanted : List Int) :
    givenSizes (size :: wanted) = givenSizes wanted := by
  unfold givenSizes
  rw [List.filter_cons_of_neg (by simpa using h)]

/-- No running product of the sizes leaves sixty-four bits. -/
def ProductsFit (sizes : Sizes) : Prop :=
  ∀ count, elementCount (sizes.take count) < 2 ^ 64

/-- All running products are found among the lengths that there are. -/
instance (sizes : Sizes) : Decidable (ProductsFit sizes) :=
  decidable_of_iff (∀ count < sizes.length + 1, elementCount (sizes.take count) < 2 ^ 64) <| by
    refine ⟨fun h count => ?_, fun h count _ => h count⟩
    by_cases hcount : count < sizes.length + 1
    · exact h count hcount
    · have hall := h sizes.length (Nat.lt_succ_self _)
      rwa [List.take_length, ← List.take_of_length_le (show sizes.length ≤ count by omega)] at hall

/-- The product of the sizes asked for, with a number in every place that is open. -/
theorem elementCount_sizesWith (fill : Nat) {wanted : List Int} (h : ∀ size ∈ wanted, -1 ≤ size) :
    elementCount (sizesWith fill wanted) =
      elementCount (givenSizes wanted) * fill ^ wanted.count (-1) := by
  induction wanted with
  | nil => rfl
  | cons size wanted ih =>
    rw [List.forall_mem_cons] at h
    rw [sizesWith_cons, elementCount_cons, ih h.2]
    by_cases hopen : size = -1
    · rw [if_pos hopen, givenSizes_cons_of_neg (by omega), hopen, List.count_cons_self]
      ring
    · rw [if_neg hopen, givenSizes_cons_of_nonneg (by omega), List.count_cons_of_ne hopen,
        elementCount_cons]
      ring

/-! What taking a requested size into account does: one that is open, one below, and a number. -/

theorem add_open (request : ViewRequest) :
    request.add (-1) =
      if request.inferred then invalid "only one dimension can be inferred"
      else .ok { request with inferred := true } := rfl

theorem add_of_lt (request : ViewRequest) {size : Int} (h : size < -1) :
    request.add size = invalid "invalid shape dimension" := by
  unfold ViewRequest.add
  rw [if_neg (by omega), if_pos (by omega)]

theorem add_of_nonneg (request : ViewRequest) {size : Int} (h : 0 ≤ size) :
    request.add size =
      if request.known * size.toNat < 2 ^ 64 then
        .ok { request with known := request.known * size.toNat }
      else invalid "shape size overflows" := by
  unfold ViewRequest.add
  rw [if_neg (by omega), if_neg (by omega)]
  rfl

/-- Running products with one more factor in front. -/
theorem products_cons {known size : Nat} {sizes : Sizes} (hknown : known < 2 ^ 64) :
    (∀ count, known * elementCount ((size :: sizes).take count) < 2 ^ 64) ↔
      ∀ count, known * size * elementCount (sizes.take count) < 2 ^ 64 := by
  constructor
  · intro h count
    have hnext := h (count + 1)
    rwa [List.take_succ_cons, elementCount_cons, ← Nat.mul_assoc] at hnext
  · intro h count
    cases count with
    | zero => rwa [List.take_zero, elementCount_nil, Nat.mul_one]
    | succ count =>
      rw [List.take_succ_cons, elementCount_cons, ← Nat.mul_assoc]
      exact h count

/-- **Requested sizes are taken into account exactly if** none lies below minus one, at most one is
left open and no running product of the others leaves the words. -/
theorem requests_eq_ok {request final : ViewRequest} {wanted : List Int}
    (hknown : request.known < 2 ^ 64) :
    wanted.foldlM ViewRequest.add request = .ok final ↔
      wanted.count (-1) + request.inferred.toNat ≤ 1 ∧ (∀ size ∈ wanted, -1 ≤ size) ∧
        (∀ count, request.known * elementCount ((givenSizes wanted).take count) < 2 ^ 64) ∧
        final = {
          inferred := request.inferred || wanted.contains (-1)
          known := request.known * elementCount (givenSizes wanted) } := by
  induction wanted generalizing request with
  | nil =>
    have hempty : givenSizes [] = [] := rfl
    have hopen : request.inferred.toNat ≤ 1 := Bool.toNat_le request.inferred
    simp only [List.foldlM_nil, pure, Except.pure, Except.ok.injEq, List.count_nil, Nat.zero_add,
      hopen, hempty, List.take_nil, elementCount_nil, Nat.mul_one, hknown, List.contains_nil,
      Bool.or_false, List.not_mem_nil, false_imp_iff, implies_true, true_and]
    exact eq_comm
  | cons size wanted ih =>
    rw [List.foldlM_cons, List.forall_mem_cons, List.contains_cons]
    rcases lt_trichotomy size (-1) with hbelow | rfl | habove
    · rw [add_of_lt request hbelow]
      constructor
      · intro h
        cases h
      · rintro ⟨-, ⟨hsize, -⟩, -⟩
        omega
    · rw [add_open, givenSizes_cons_of_neg (by omega), List.count_cons_self]
      cases hinferred : request.inferred with
      | true =>
        -- Another size has been left open already.
        constructor
        · intro h
          cases h
        · rintro ⟨hcount, -⟩
          rw [Bool.toNat_true] at hcount
          omega
      | false =>
        have hnext := @ih { request with inferred := true } hknown
        rw [if_neg Bool.false_ne_true, ok_bind, hnext]
        simp
    · have hne : size ≠ -1 := by omega
      have hbeq : (-1 == size) = false := by simpa using hne.symm
      rw [add_of_nonneg request (by omega), givenSizes_cons_of_nonneg (by omega),
        List.count_cons_of_ne hne, products_cons hknown, hbeq, Bool.false_or, elementCount_cons,
        ← Nat.mul_assoc]
      by_cases hover : request.known * size.toNat < 2 ^ 64
      · rw [if_pos hover, ok_bind, ih hover, and_iff_right habove.le]
      · rw [if_neg hover]
        constructor
        · intro h
          cases h
        · rintro ⟨-, -, hproducts, -⟩
          have hfirst := hproducts 0
          rw [List.take_zero, elementCount_nil, Nat.mul_one] at hfirst
          exact absurd hfirst hover

/-- The size that is inferred fills the elements, which an open size does in one way at most. -/
theorem inferredSize_eq_ok {request : ViewRequest} {count size : Nat} :
    request.inferredSize count = .ok size ↔
      if request.inferred then request.known ≠ 0 ∧ request.known * size = count
      else request.known = count ∧ size = 0 := by
  unfold ViewRequest.inferredSize
  cases request.inferred with
  | true =>
    rw [if_pos rfl, if_pos rfl]
    by_cases hzero : request.known = 0
    · simp [hzero, incompatible, Checked.refuse]
    · have hpos := Nat.pos_of_ne_zero hzero
      rw [if_neg hzero, Checked.mod_of_ne_zero hzero, ok_bind, and_iff_right hzero]
      by_cases hrest : count % request.known = 0
      · obtain ⟨quotient, rfl⟩ := Nat.dvd_of_mod_eq_zero hrest
        rw [if_pos hrest, Checked.div_of_ne_zero hzero, Nat.mul_div_cancel_left quotient hpos,
          Except.ok.injEq, Nat.mul_left_cancel_iff hpos, eq_comm]
      · rw [if_neg hrest]
        constructor
        · intro h
          cases h
        · rintro rfl
          exact absurd (Nat.mul_mod_right request.known size) hrest
  | false =>
    rw [if_neg Bool.false_ne_true, if_neg Bool.false_ne_true]
    by_cases hsame : request.known = count
    · simp [hsame, eq_comm]
    · simp [hsame, incompatible, Checked.refuse]

/-! ## Reshapes -/

/-- Sizes that are what is asked for wherever a number is asked for. -/
abbrev Agrees (wanted : List Int) (sizes : Sizes) : Prop :=
  List.Forall₂ (fun (size : Int) (actual : Nat) => size = -1 ∨ actual = size) wanted sizes

/-- **`IsReshape shape wanted out`** — the shape `out` has a size for every one that is wanted, the
same where a number is wanted, and as many elements as `shape`. -/
structure IsReshape (shape : Sizes) (wanted : List Int) (out : Sizes) : Prop where
  agrees : Agrees wanted out
  elements : elementCount out = elementCount shape

theorem agrees_sizesWith (fill : Nat) {wanted : List Int} (h : ∀ size ∈ wanted, -1 ≤ size) :
    Agrees wanted (sizesWith fill wanted) := by
  unfold Agrees sizesWith
  rw [List.forall₂_map_right_iff, List.forall₂_same]
  intro size hsize
  have hle := h size hsize
  by_cases hopen : size = -1
  · exact .inl hopen
  · rw [if_neg hopen]
    exact .inr (Int.toNat_of_nonneg (by omega))

/-- Where no size is open there is only one shape that agrees. -/
theorem Agrees.eq_of_notMem {wanted : List Int} {sizes : Sizes} (h : Agrees wanted sizes)
    (hopen : -1 ∉ wanted) (fill : Nat) : sizes = sizesWith fill wanted := by
  induction h with
  | nil => rfl
  | @cons size actual wanted sizes hsize _ ih =>
    rw [List.mem_cons, not_or] at hopen
    have hnumber := hsize.resolve_left (Ne.symm hopen.1)
    rw [sizesWith_cons, if_neg (Ne.symm hopen.1), ← ih hopen.2, ← hnumber, Int.toNat_natCast]

/-- Where at most one size is open, the shapes that agree differ in the number that fills it. -/
theorem Agrees.eq_sizesWith {wanted : List Int} {sizes : Sizes} (h : Agrees wanted sizes)
    (hopen : wanted.count (-1) ≤ 1) : ∃ fill, sizes = sizesWith fill wanted := by
  induction h with
  | nil => exact ⟨0, rfl⟩
  | @cons size actual wanted sizes hsize hrest ih =>
    by_cases hfirst : size = -1
    · subst hfirst
      rw [List.count_cons_self] at hopen
      have hnone : -1 ∉ wanted := List.count_eq_zero.mp (by omega)
      refine ⟨actual, ?_⟩
      rw [sizesWith_cons, if_pos rfl, ← Agrees.eq_of_notMem hrest hnone actual]
    · rw [List.count_cons_of_ne hfirst] at hopen
      obtain ⟨fill, rfl⟩ := ih hopen
      refine ⟨fill, ?_⟩
      rw [sizesWith_cons, if_neg hfirst, ← hsize.resolve_left hfirst, Int.toNat_natCast]

/-- Different numbers in an open place make different shapes. -/
theorem sizesWith_inj {wanted : List Int} {fill other : Nat} (hopen : -1 ∈ wanted)
    (h : sizesWith fill wanted = sizesWith other wanted) : fill = other := by
  have hsame := List.map_inj_left.mp h (-1) hopen
  rwa [if_pos rfl, if_pos rfl] at hsame

/-- **The reshapes of a shape** are the numbers for the open place that fill the elements. -/
theorem isReshape_iff {shape out : Sizes} {wanted : List Int} (hopen : wanted.count (-1) ≤ 1)
    (hbelow : ∀ size ∈ wanted, -1 ≤ size) :
    IsReshape shape wanted out ↔
      ∃ fill, out = sizesWith fill wanted ∧
        elementCount (givenSizes wanted) * fill ^ wanted.count (-1) = elementCount shape := by
  constructor
  · rintro ⟨hagrees, helements⟩
    obtain ⟨fill, rfl⟩ := hagrees.eq_sizesWith hopen
    exact ⟨fill, rfl, by rw [← elementCount_sizesWith fill hbelow, helements]⟩
  · rintro ⟨fill, rfl, helements⟩
    exact ⟨agrees_sizesWith fill hbelow, by rw [elementCount_sizesWith fill hbelow, helements]⟩

/-- A product that is filled by one number for the open place only is not zero. -/
theorem isReshape_unique_iff {shape out : Sizes} {wanted : List Int}
    (hopen : wanted.count (-1) ≤ 1) (hbelow : ∀ size ∈ wanted, -1 ≤ size) :
    (IsReshape shape wanted out ∧ ∀ other, IsReshape shape wanted other → other = out) ↔
      ∃ fill, (ViewRequest.mk (wanted.contains (-1))
          (elementCount (givenSizes wanted))).inferredSize (elementCount shape) = .ok fill ∧
        out = sizesWith fill wanted := by
  simp only [inferredSize_eq_ok, isReshape_iff hopen hbelow]
  by_cases hmem : -1 ∈ wanted
  · have hcount : wanted.count (-1) = 1 := by
      have hpos := List.count_pos_iff.mpr hmem
      omega
    simp only [List.contains_iff_mem.mpr hmem, if_true, hcount, Nat.pow_one]
    constructor
    · rintro ⟨⟨fill, rfl, hfill⟩, hunique⟩
      refine ⟨fill, ⟨?_, hfill⟩, rfl⟩
      -- With a product of zero the next number would do as well.
      intro hzero
      rw [hzero, Nat.zero_mul] at hfill
      have hnext := hunique (sizesWith (fill + 1) wanted)
        ⟨fill + 1, rfl, by rw [hzero, Nat.zero_mul, hfill]⟩
      exact absurd (sizesWith_inj hmem hnext) (by omega)
    · rintro ⟨fill, ⟨hzero, hfill⟩, rfl⟩
      refine ⟨⟨fill, rfl, hfill⟩, ?_⟩
      rintro _ ⟨other, rfl, hother⟩
      rw [Nat.eq_of_mul_eq_mul_left (Nat.pos_of_ne_zero hzero) (hother.trans hfill.symm)]
  · have hcontains : wanted.contains (-1) = false := by simpa using hmem
    have hcount : wanted.count (-1) = 0 := List.count_eq_zero.mpr hmem
    have hfill : ∀ fill other, sizesWith fill wanted = sizesWith other wanted := fun fill other =>
      (agrees_sizesWith fill hbelow).eq_of_notMem hmem other
    simp only [hcontains, Bool.false_eq_true, if_false, hcount, Nat.pow_zero, Nat.mul_one]
    constructor
    · rintro ⟨⟨fill, rfl, helements⟩, -⟩
      exact ⟨0, ⟨helements, rfl⟩, hfill fill 0⟩
    · rintro ⟨fill, ⟨helements, -⟩, rfl⟩
      refine ⟨⟨fill, rfl, helements⟩, ?_⟩
      rintro _ ⟨other, rfl, -⟩
      exact hfill other fill

/-- **A view is the one shape that has the sizes asked for and all elements.** -/
theorem view_eq_ok_iff {shape out : Sizes} {wanted : List Int} :
    view shape wanted = .ok out ↔
      wanted.count (-1) ≤ 1 ∧ (∀ size ∈ wanted, -1 ≤ size) ∧ ProductsFit (givenSizes wanted) ∧
        IsReshape shape wanted out ∧ ∀ other, IsReshape shape wanted other → other = out := by
  unfold view
  rw [bind_eq_ok]
  have hrequests := fun final => @requests_eq_ok { inferred := false, known := 1 } final wanted
    (by decide)
  simp only [hrequests, Bool.toNat_false, Nat.add_zero, Nat.one_mul, Bool.false_or]
  constructor
  · rintro ⟨_, ⟨hopen, hbelow, hproducts, rfl⟩, hview⟩
    obtain ⟨fill, hfill, hout⟩ := bind_eq_ok.mp hview
    have hunique := (isReshape_unique_iff hopen hbelow).mpr
      ⟨fill, hfill, (Except.ok.inj hout).symm⟩
    exact ⟨hopen, hbelow, hproducts, hunique⟩
  · rintro ⟨hopen, hbelow, hproducts, hunique⟩
    obtain ⟨fill, hfill, rfl⟩ := (isReshape_unique_iff hopen hbelow).mp hunique
    refine ⟨_, ⟨hopen, hbelow, hproducts, rfl⟩, ?_⟩
    rw [hfill, ok_bind]
    rfl

/-! ## There and back -/

theorem givenSizes_cast (shape : Sizes) : givenSizes (shape.map Nat.cast) = shape := by
  induction shape with
  | nil => rfl
  | cons size shape ih =>
    rw [List.map_cons, givenSizes_cons_of_nonneg (Int.natCast_nonneg size), ih, Int.toNat_natCast]

/-- Any shape with as many elements can be seen as one whose sizes are asked for by their number. -/
theorem view_cast {shape out : Sizes} (hproducts : ProductsFit shape)
    (helements : elementCount out = elementCount shape) :
    view out (shape.map Nat.cast) = .ok shape := by
  have hnone : (-1 : Int) ∉ shape.map Nat.cast := by
    intro hmem
    obtain ⟨size, -, hsize⟩ := List.mem_map.mp hmem
    omega
  have hbelow : ∀ size ∈ shape.map (Nat.cast : Nat → Int), -1 ≤ size := by
    intro size hsize
    obtain ⟨number, -, rfl⟩ := List.mem_map.mp hsize
    omega
  have hagrees : Agrees (shape.map Nat.cast) shape := by
    unfold Agrees
    rw [List.forall₂_map_left_iff, List.forall₂_same]
    exact fun size _ => .inr rfl
  rw [view_eq_ok_iff, List.count_eq_zero.mpr hnone, givenSizes_cast]
  refine ⟨Nat.zero_le 1, hbelow, hproducts, ⟨hagrees, helements.symm⟩, ?_⟩
  rintro other ⟨hother, -⟩
  exact (hother.eq_of_notMem hnone 0).trans (hagrees.eq_of_notMem hnone 0).symm

/-- **A view is the uniquely determined reshape.**  It is answered with exactly if at most one size is
open, none lies below minus one, no running product of the others leaves the words, and the shape is
the only one that has the sizes asked for and as many elements.  So elements are kept, the view can
be undone, and a tensor of that many elements is reshaped alike. -/
theorem view_unique_reshape {shape : Sizes} (hshape : ∀ size ∈ shape, size < 2 ^ 63)
    (hproducts : ProductsFit shape) (wanted : List Int) :
    (∀ out, view shape wanted = .ok out ↔
      wanted.count (-1) ≤ 1 ∧ (∀ size ∈ wanted, -1 ≤ size) ∧ ProductsFit (givenSizes wanted) ∧
        IsReshape shape wanted out ∧ ∀ other, IsReshape shape wanted other → other = out) ∧
    (∀ out, view shape wanted = .ok out →
      elementCount out = elementCount shape ∧ view out (shape.map signed) = .ok shape) ∧
    ∀ out, view shape wanted = .ok out ↔
      Operator.reshapeSizes (elementCount shape) wanted = .ok out := by
  refine ⟨fun out => view_eq_ok_iff, ?_, ?_⟩
  · intro out hout
    obtain ⟨-, -, -, ⟨-, helements⟩, -⟩ := view_eq_ok_iff.mp hout
    have hsigned : shape.map signed = shape.map Nat.cast := by
      apply List.map_congr_left
      intro size hsize
      rw [signed_of_lt (hshape size hsize)]
    rw [hsigned]
    exact ⟨helements, view_cast hproducts helements⟩
  · intro out
    have halike := Operator.reshapeSizes_alike shape wanted
    constructor
    · intro hout
      rw [hout] at halike
      obtain ⟨_, hreshape, rfl, -⟩ := halike.ok
      exact hreshape
    · intro hreshape
      obtain ⟨_, hout, rfl, -⟩ := halike.of_right hreshape
      exact hout

/-- Of six elements two are left for a size that is open beside three.  Beside zero any number would
do for no elements at all, so that none is found. -/
theorem view_unique_reshape_open :
    view [2, 3] [3, -1] = .ok [3, 2] ∧ view [3, 2] [2, 3] = .ok [2, 3] ∧
      (∀ other, IsReshape [2, 3] [3, -1] other → other = [3, 2]) ∧
      ¬ ∃ out, IsReshape [0] [0, -1] out ∧ ∀ other, IsReshape [0] [0, -1] other → other = out := by
  obtain ⟨hiff, hback, -⟩ := @view_unique_reshape [2, 3] (by decide) (by decide) [3, -1]
  obtain ⟨hempty, -⟩ := @view_unique_reshape [0] (by decide) (by decide) [0, -1]
  have hview : view [2, 3] [3, -1] = .ok [3, 2] := by decide
  have hrefused : ∀ out, view [0] [0, -1] ≠ .ok out := by
    intro out h
    cases h
  obtain ⟨-, -, -, -, hunique⟩ := (hiff [3, 2]).mp hview
  refine ⟨hview, (hback [3, 2] hview).2, hunique, ?_⟩
  rintro ⟨out, hout⟩
  exact hrefused out ((hempty out).mpr ⟨by decide, by decide, by decide, hout⟩)

end OpShape.Rule

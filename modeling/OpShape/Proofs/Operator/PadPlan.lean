/-
# `OpShape.Proofs.Operator.PadPlan` — both sides of padding come to the same plan.

The rule goes through the pairs of pads, from the last dimension on; the operator goes through the
dimensions, from the first one on.  Either way each dimension of the input gets the pair of pads that
belongs to it, and the same of these plans are accepted.
-/
import OpShape.Operator.Pad
import OpShape.Proofs.Operator.Agreement
import OpShape.Proofs.Rule.Reads

namespace OpShape.Operator

variable {padding : Padding} {sizes : Sizes}

attribute [local irreducible] signed

/-! ## Plans -/

/-- A dimension with the pair of pads that is given for it, if there is one. -/
def dimWith (size : Nat) : Option (Int × Int) → PaddedDim
  | some (before, after) => { size, before, after, isPadded := true }
  | none => { size, before := 0, after := 0, isPadded := false }

/-- The dimensions with their pads, before anything is checked. -/
def planOf (sizes : Sizes) (pairs : List (Int × Int)) : List PaddedDim :=
  sizes.zipIdx.map fun entry => dimWith entry.1 pairs[sizes.length - 1 - entry.2]?

theorem planOf_nil (sizes : Sizes) : planOf sizes [] = sizes.map fun size => dimWith size none := by
  unfold planOf
  simp only [List.getElem?_nil]
  rw [← List.zipIdx_map_fst 0 sizes, List.map_map]
  simp

/-- The first pair belongs to the last dimension, and the others to the dimensions before it. -/
theorem planOf_concat (sizes : Sizes) (size : Nat) (pair : Int × Int) (pairs : List (Int × Int)) :
    planOf (sizes ++ [size]) (pair :: pairs) = planOf sizes pairs ++ [dimWith size (some pair)] := by
  unfold planOf
  rw [List.zipIdx_append, List.map_append]
  congr 1
  · apply List.map_congr_left
    rintro ⟨other, axis⟩ hmem
    have haxis : axis < sizes.length := (List.mem_zipIdx' hmem).1
    have hpair : (sizes ++ [size]).length - 1 - axis = sizes.length - 1 - axis + 1 := by
      rw [List.length_append, List.length_singleton]
      omega
    dsimp only
    rw [hpair, List.getElem?_cons_succ]
  · simp

@[simp] theorem size_dimWith (size : Nat) (pair : Option (Int × Int)) :
    (dimWith size pair).size = size := by
  cases pair <;> rfl

theorem map_size_planOf (sizes : Sizes) (pairs : List (Int × Int)) :
    (planOf sizes pairs).map PaddedDim.size = sizes := by
  unfold planOf
  rw [List.map_map]
  simp only [Function.comp_def, size_dimWith]
  exact List.zipIdx_map_fst 0 sizes

/-- A pair of pads is there as far as half the length of the list goes. -/
theorem getElem?_padPairs (pads : List Int) (pair : Nat) :
    (pair < pads.length / 2 ∧ ∃ before after, (Rule.padPairs pads)[pair]? = some (before, after) ∧
        pads[pair * 2]? = some before ∧ pads[pair * 2 + 1]? = some after) ∨
      (pads.length / 2 ≤ pair ∧ (Rule.padPairs pads)[pair]? = none) := by
  induction pads using Rule.padPairs.induct generalizing pair with
  | case1 before after rest ih =>
    have hlength : (before :: after :: rest).length / 2 = rest.length / 2 + 1 := by
      rw [List.length_cons, List.length_cons]
      omega
    rw [hlength]
    cases pair with
    | zero => exact .inl ⟨Nat.succ_pos _, before, after, rfl, rfl, rfl⟩
    | succ pair =>
      rcases ih pair with ⟨hpair, first, second, hpairs, hfirst, hsecond⟩ | ⟨hpair, hnone⟩
      · refine .inl ⟨Nat.succ_lt_succ hpair, first, second, hpairs, ?_, ?_⟩
        · rw [Nat.succ_mul]
          exact hfirst
        · rw [Nat.succ_mul]
          exact hsecond
      · exact .inr ⟨Nat.succ_le_succ hpair, hnone⟩
  | case2 pads hshort =>
    rcases pads with _ | ⟨before, _ | ⟨after, rest⟩⟩
    · exact .inr ⟨Nat.zero_le _, rfl⟩
    · exact .inr ⟨by simp, rfl⟩
    · exact absurd rfl (hshort before after rest)

/-- A dimension of the operator's plan has the pair of pads that the rule gives it. -/
theorem padDim_eq (pads : List Int) (rank size axis : Nat) :
    padDim pads rank size axis = .ok (dimWith size (Rule.padPairs pads)[rank - 1 - axis]?) := by
  unfold padDim padPair
  rcases getElem?_padPairs pads (rank - 1 - axis) with
    ⟨hpair, before, after, hpairs, hbefore, hafter⟩ | ⟨hpair, hnone⟩
  · rw [hpairs]
    simp only [if_pos hpair, Checked.get, hbefore, hafter, ok_bind]
    rfl
  · rw [hnone]
    simp only [if_neg (Nat.not_lt.mpr hpair)]
    rfl

/-! ## What is accepted -/

/-- The way to pad under its name in the rules. -/
def Padding.mode : Padding → PadMode
  | constant => .constant
  | reflect => .reflect
  | replicate => .replicate
  | circular => .circular

/-- A dimension can be padded: its size does not become negative, and if it has pads, it has the
elements that they ask for. -/
structure Paddable (padding : Padding) (dim : PaddedDim) : Prop where
  padded_nonneg : 0 ≤ dim.padded
  fits : dim.isPadded = true → Rule.padFits padding.mode (signed dim.size) dim.before dim.after = true

theorem requirePaddable_eq_ok {dim : PaddedDim} (hsize : dim.size < 2 ^ 63) :
    requirePaddable padding dim = .ok () ↔ Paddable padding dim := by
  have hsigned : 0 ≤ signed dim.size := by
    rw [signed_of_lt hsize]
    exact Int.natCast_nonneg _
  have hsplit : Paddable padding dim ↔ 0 ≤ dim.padded ∧ (dim.isPadded = true →
      Rule.padFits padding.mode (signed dim.size) dim.before dim.after = true) :=
    ⟨fun h => ⟨h.1, h.2⟩, fun h => ⟨h.1, h.2⟩⟩
  rw [hsplit]
  unfold requirePaddable PaddedDim.added
  dsimp only
  by_cases hnegative : dim.padded < 0
  · rw [if_pos hnegative]
    refine iff_of_false (fun h => by cases h) fun h => ?_
    exact absurd h.1 (Int.not_le.mpr hnegative)
  rw [if_neg hnegative]
  cases hpadded : dim.isPadded with
  | false => simp [Int.not_lt.mp hnegative]
  | true =>
    have hnonneg : 0 ≤ dim.padded := Int.not_lt.mp hnegative
    simp only [Bool.not_true, Bool.false_eq_true, if_false, hnonneg, true_and, true_implies]
    unfold Padding.mode Rule.padFits invalid Checked.refuse
    cases padding with
    | constant => simp
    | reflect => simp
    | replicate =>
      have hzero : ¬ signed dim.size = 0 ↔ 0 < signed dim.size := by omega
      simp [hzero]
    | circular => simp

/-- All dimensions can be padded, and a way to pad that is not constant leaves one or two of them in
front alone. -/
structure Accepts (padding : Padding) (sizes : Sizes) (pads : List Int) : Prop where
  even : pads.length % 2 = 0
  rank : pads.length / 2 ≤ sizes.length
  leading : padding ≠ .constant →
    ¬ (3 < pads.length / 2 ∨ sizes.length < pads.length / 2 + 1 ∨ pads.length / 2 + 2 < sizes.length)
  dims : ∀ dim ∈ planOf sizes (Rule.padPairs pads), Paddable padding dim

/-- **The operator has a plan exactly if the pads are accepted.** -/
theorem padPlan_eq_ok (hsizes : ∀ size ∈ sizes, size < 2 ^ 63) (pads : List Int)
    (plan : List PaddedDim) :
    padPlan padding sizes pads = .ok plan ↔
      Accepts padding sizes pads ∧ plan = planOf sizes (Rule.padPairs pads) := by
  have hdims : (sizes.zipIdx.mapM fun entry => do
        let dim ← padDim pads sizes.length entry.1 entry.2
        requirePaddable padding dim
        .ok dim) = .ok plan ↔
      (∀ dim ∈ planOf sizes (Rule.padPairs pads), Paddable padding dim) ∧
        plan = planOf sizes (Rule.padPairs pads) := by
    unfold planOf
    rw [List.forall_mem_map]
    apply mapM_eq_ok_map
    rintro ⟨size, axis⟩ hmem dim
    have hsize : size < 2 ^ 63 := hsizes size (List.fst_mem_of_mem_zipIdx hmem)
    rw [padDim_eq, ok_bind]
    generalize hpadded : dimWith size (Rule.padPairs pads)[sizes.length - 1 - axis]? = padded
    have hsame : padded.size = size := by
      rw [← hpadded, size_dimWith]
    rw [← requirePaddable_eq_ok (hsame ▸ hsize), bind_eq_ok]
    constructor
    · rintro ⟨⟨⟩, hok, hdim⟩
      exact ⟨hok, (Except.ok.inj hdim).symm⟩
    · rintro ⟨hok, rfl⟩
      exact ⟨(), hok, rfl⟩
  unfold padPlan
  dsimp only
  by_cases hodd : pads.length % 2 ≠ 0
  · rw [if_pos hodd]
    exact iff_of_false (fun h => by cases h) fun h => hodd h.1.even
  by_cases hrank : sizes.length < pads.length / 2
  · rw [if_neg hodd, if_pos hrank]
    exact iff_of_false (fun h => by cases h) fun h => Nat.not_lt.mpr h.1.rank hrank
  by_cases hleading : padding ≠ .constant ∧ (3 < pads.length / 2 ∨
      sizes.length < pads.length / 2 + 1 ∨ pads.length / 2 + 2 < sizes.length)
  · rw [if_neg hodd, if_neg hrank, if_pos hleading]
    exact iff_of_false (fun h => by cases h) fun h => h.1.leading hleading.1 hleading.2
  rw [if_neg hodd, if_neg hrank, if_neg hleading, hdims]
  constructor
  · rintro ⟨hall, rfl⟩
    exact ⟨⟨not_not.mp hodd, Nat.not_lt.mp hrank, fun h h' => hleading ⟨h, h'⟩, hall⟩, rfl⟩
  · rintro ⟨haccepts, rfl⟩
    exact ⟨haccepts.dims, rfl⟩

/-! ## The rule -/

theorem padded_dimWith_none {size : Nat} (h : size < 2 ^ 63) :
    (dimWith size none).padded = size := by
  unfold dimWith PaddedDim.padded
  dsimp only
  rw [signed_of_lt h]
  omega

/-- Without pads, the sizes stay as they are. -/
theorem map_padded_planOf_nil (hsizes : ∀ size ∈ sizes, size < 2 ^ 63) :
    (planOf sizes []).map (fun dim => dim.padded.toNat) = sizes := by
  rw [planOf_nil, List.map_map]
  refine (List.map_congr_left ?_).trans (List.map_id sizes)
  intro size hsize
  rw [Function.comp_apply, padded_dimWith_none (hsizes size hsize), Int.toNat_natCast, id]

section LastInFront

variable (init back : Sizes) (size : Nat)

/-- Counted from the end, the dimension lies in front of those behind it. -/
theorem sub_length_append_cons :
    (Checked.sub (init ++ size :: back).length (back.length + 1) : ShapeResult Nat) =
      .ok init.length := by
  have hlength : (init ++ size :: back).length = init.length + (back.length + 1) := by
    rw [List.length_append, List.length_cons]
  rw [hlength, Checked.sub_of_le (Nat.le_add_left _ _), Nat.add_sub_cancel]

theorem get_append_cons :
    (Checked.get (init ++ size :: back) init.length : ShapeResult Nat) = .ok size := by
  unfold Checked.get
  rw [List.getElem?_append_right (Nat.le_refl _), Nat.sub_self, List.getElem?_cons_zero]

/-- One pair pads the last of the dimensions in front. -/
theorem padDim_eq_ok (pair : Int × Int) (output : Sizes) :
    Rule.padDim (init ++ size :: back) (pair, back.length) = .ok output ↔
      0 ≤ (dimWith size (some pair)).padded ∧
        output = init ++ (dimWith size (some pair)).padded.toNat :: back := by
  have hlast : init.length < (init ++ size :: back).length := by
    rw [List.length_append, List.length_cons]
    omega
  have hpadded : (dimWith size (some pair)).padded = signed size + pair.1 + pair.2 := rfl
  unfold Rule.padDim
  dsimp only
  rw [sub_length_append_cons, ok_bind, get_append_cons, ok_bind, Checked.set_of_lt hlast,
    List.set_append_right _ _ (Nat.le_refl _), Nat.sub_self, List.set_cons_zero, hpadded]
  generalize signed size + pair.1 + pair.2 = padded
  by_cases hnegative : padded < 0
  · rw [if_pos hnegative]
    exact iff_of_false (fun h => by cases h) fun h => Int.not_le.mpr hnegative h.1
  · rw [if_neg hnegative]
    constructor
    · intro h
      exact ⟨Int.not_lt.mp hnegative, (Except.ok.inj h).symm⟩
    · rintro ⟨-, rfl⟩
      rfl

/-- The last of the dimensions in front is asked for the elements of its pads. -/
theorem checkPadFits_eq_ok (mode : PadMode) (pair : Int × Int) :
    Rule.checkPadFits (init ++ size :: back) mode (pair, back.length) = .ok () ↔
      Rule.padFits mode (signed size) pair.1 pair.2 = true := by
  unfold Rule.checkPadFits
  dsimp only
  rw [sub_length_append_cons, ok_bind, get_append_cons, ok_bind]
  cases Rule.padFits mode (signed size) pair.1 pair.2 with
  | true => exact iff_of_true rfl rfl
  | false => exact iff_of_false (fun h => by cases h) Bool.false_ne_true

end LastInFront

/-- **Pairs are taken from the last dimension on.**  The dimensions behind those in front have been
padded already, and each step pads the last one of those in front. -/
theorem foldlM_padDim_eq_ok (pairs : List (Int × Int)) {front back : Sizes}
    (hlength : pairs.length ≤ front.length) (hsizes : ∀ size ∈ front, size < 2 ^ 63)
    (output : Sizes) :
    (pairs.zipIdx back.length).foldlM Rule.padDim (front ++ back) = .ok output ↔
      (∀ dim ∈ planOf front pairs, 0 ≤ dim.padded) ∧
        output = (planOf front pairs).map (fun dim => dim.padded.toNat) ++ back := by
  induction pairs generalizing front back with
  | nil =>
    have hnonneg : ∀ dim ∈ planOf front [], 0 ≤ dim.padded := by
      rw [planOf_nil, List.forall_mem_map]
      intro size hsize
      rw [padded_dimWith_none (hsizes size hsize)]
      exact Int.natCast_nonneg size
    rw [map_padded_planOf_nil hsizes]
    constructor
    · intro h
      exact ⟨hnonneg, (Except.ok.inj h).symm⟩
    · rintro ⟨-, rfl⟩
      rfl
  | cons pair pairs ih =>
    obtain rfl | ⟨init, size, rfl⟩ := List.eq_nil_or_concat' front
    · cases hlength
    rw [List.length_cons, List.length_append, List.length_singleton] at hlength
    rw [List.zipIdx_cons, List.foldlM_cons, bind_eq_ok, planOf_concat]
    have hrest := @ih init ((dimWith size (some pair)).padded.toNat :: back)
      (Nat.le_of_succ_le_succ hlength) fun size hsize => hsizes size (List.mem_append_left _ hsize)
    simp only [padDim_eq_ok, List.forall_mem_append, List.forall_mem_singleton, List.map_append,
      List.map_cons, List.map_nil, List.append_assoc, List.singleton_append]
    constructor
    · rintro ⟨_, ⟨hpadded, rfl⟩, hfold⟩
      obtain ⟨hall, rfl⟩ := hrest.mp hfold
      exact ⟨⟨hall, hpadded⟩, rfl⟩
    · rintro ⟨⟨hall, hpadded⟩, rfl⟩
      exact ⟨_, ⟨hpadded, rfl⟩, hrest.mpr ⟨hall, rfl⟩⟩

/-- **The pairs of pads are checked from the last dimension on.** -/
theorem forM_checkPadFits_eq_ok (padding : Padding) (pairs : List (Int × Int)) {front : Sizes}
    (back : Sizes) (hlength : pairs.length ≤ front.length) :
    (pairs.zipIdx back.length).forM (Rule.checkPadFits (front ++ back) padding.mode) = .ok () ↔
      ∀ dim ∈ planOf front pairs, dim.isPadded = true →
        Rule.padFits padding.mode (signed dim.size) dim.before dim.after = true := by
  induction pairs generalizing front back with
  | nil =>
    rw [planOf_nil]
    refine iff_of_true rfl ?_
    rw [List.forall_mem_map]
    rintro size - ⟨⟩
  | cons pair pairs ih =>
    obtain rfl | ⟨init, size, rfl⟩ := List.eq_nil_or_concat' front
    · cases hlength
    rw [List.length_cons, List.length_append, List.length_singleton] at hlength
    have hrest := @ih init (size :: back) (Nat.le_of_succ_le_succ hlength)
    rw [planOf_concat, List.append_assoc, List.singleton_append, forM_eq_ok, List.zipIdx_cons,
      List.forall_mem_cons, checkPadFits_eq_ok, ← forM_eq_ok]
    simp only [List.forall_mem_append, List.forall_mem_singleton]
    constructor
    · rintro ⟨hfits, hpairs⟩
      exact ⟨hrest.mp hpairs, fun _ => hfits⟩
    · rintro ⟨hall, hfits⟩
      exact ⟨hfits rfl, hrest.mpr hall⟩

/-- The rule with pads of one value gives the padded sizes, if none of them is negative. -/
theorem pad_eq_ok (hsizes : ∀ size ∈ sizes, size < 2 ^ 63) (pads : List Int) (output : Sizes) :
    Rule.pad sizes pads = .ok output ↔
      Accepts .constant sizes pads ∧
        output = (planOf sizes (Rule.padPairs pads)).map fun dim => dim.padded.toNat := by
  rw [Rule.pad_eq]
  by_cases hodd : pads.length % 2 ≠ 0
  · rw [if_pos hodd]
    exact iff_of_false (fun h => by cases h) fun h => hodd h.1.even
  by_cases hrank : sizes.length < pads.length / 2
  · rw [if_neg hodd, if_pos hrank]
    exact iff_of_false (fun h => by cases h) fun h => Nat.not_lt.mpr h.1.rank hrank
  rw [if_neg hodd, if_neg hrank]
  have hlength : (Rule.padPairs pads).length ≤ sizes.length := by
    rw [Rule.length_padPairs]
    exact Nat.not_lt.mp hrank
  have hfold := @foldlM_padDim_eq_ok (Rule.padPairs pads) sizes [] hlength hsizes output
  rw [List.append_nil, List.append_nil, List.length_nil] at hfold
  rw [hfold]
  constructor
  · rintro ⟨hpadded, rfl⟩
    exact ⟨⟨not_not.mp hodd, Nat.not_lt.mp hrank, fun h => absurd rfl h,
      fun dim hdim => ⟨hpadded dim hdim, fun _ => rfl⟩⟩, rfl⟩
  · rintro ⟨haccepts, rfl⟩
    exact ⟨fun dim hdim => (haccepts.dims dim hdim).padded_nonneg, rfl⟩

theorem padWithMode_constant (pads : List Int) :
    Rule.padWithMode sizes pads .constant = Rule.pad sizes pads := by
  unfold Rule.padWithMode
  simp only [if_true]
  exact bind_pure (Rule.pad sizes pads)

/-- **The rule answers exactly if the pads are accepted**, with the padded sizes of the plan. -/
theorem padWithMode_eq_ok (padding : Padding) (hsizes : ∀ size ∈ sizes, size < 2 ^ 63)
    (pads : List Int) (output : Sizes) :
    Rule.padWithMode sizes pads padding.mode = .ok output ↔
      Accepts padding sizes pads ∧
        output = (planOf sizes (Rule.padPairs pads)).map fun dim => dim.padded.toNat := by
  by_cases hconstant : padding = .constant
  · subst hconstant
    show Rule.padWithMode sizes pads .constant = _ ↔ _
    rw [padWithMode_constant, pad_eq_ok hsizes]
  have hmode : ¬ padding.mode = .constant := by
    cases padding <;> simp_all [Padding.mode]
  unfold Rule.padWithMode
  simp only [if_neg hmode]
  rw [bind_eq_ok]
  by_cases hleading : 3 < pads.length / 2 ∨ sizes.length < pads.length / 2 + 1 ∨
      pads.length / 2 + 2 < sizes.length
  · simp only [if_pos hleading]
    refine iff_of_false (fun ⟨_, _, h⟩ => by cases h) fun h => ?_
    exact h.1.leading hconstant hleading
  simp only [if_neg hleading, bind_eq_ok]
  have hchecks (hrank : pads.length / 2 ≤ sizes.length) :=
    @forM_checkPadFits_eq_ok padding (Rule.padPairs pads) sizes []
      (Rule.length_padPairs pads ▸ hrank)
  rw [List.append_nil, List.length_nil] at hchecks
  constructor
  · rintro ⟨_, hpad, ⟨⟩, hfits, hout⟩
    obtain ⟨haccepts, rfl⟩ := (pad_eq_ok hsizes pads _).mp hpad
    rw [Rule.forM_padChunks haccepts.even] at hfits
    have hdims := (hchecks haccepts.rank).mp hfits
    refine ⟨⟨haccepts.even, haccepts.rank, fun _ => hleading, ?_⟩, (Except.ok.inj hout).symm⟩
    exact fun dim hdim => ⟨(haccepts.dims dim hdim).padded_nonneg, hdims dim hdim⟩
  · rintro ⟨haccepts, rfl⟩
    refine ⟨_, (pad_eq_ok hsizes pads _).mpr ⟨?_, rfl⟩, (), ?_, rfl⟩
    · exact ⟨haccepts.even, haccepts.rank, fun h => absurd rfl h,
        fun dim hdim => ⟨(haccepts.dims dim hdim).padded_nonneg, fun _ => rfl⟩⟩
    · rw [Rule.forM_padChunks haccepts.even]
      exact (hchecks haccepts.rank).mpr fun dim hdim => (haccepts.dims dim hdim).fits

/-! ## Both sides -/

/-- Both sides accept the same pads, and then the rule gives the sizes of the operator's plan. -/
theorem padPlan_alike (padding : Padding) (hsizes : ∀ size ∈ sizes, size < 2 ^ 63)
    (pads : List Int) :
    Alike (fun output plan => Accepts padding sizes pads ∧
        plan = planOf sizes (Rule.padPairs pads) ∧ output = plan.map fun dim => dim.padded.toNat)
      (Rule.padWithMode sizes pads padding.mode) (padPlan padding sizes pads) :=
  alike_of_eq_ok (padWithMode_eq_ok padding hsizes pads) (padPlan_eq_ok hsizes pads)
    fun haccepts => ⟨haccepts, rfl, rfl⟩

theorem unbroken_requirePaddable (padding : Padding) (dim : PaddedDim) :
    Unbroken (requirePaddable padding dim) := by
  unfold requirePaddable
  dsimp only
  cases padding <;> split_ifs <;> first | exact unbroken_ok () | exact unbroken_refuse _

theorem unbroken_padPlan (padding : Padding) (sizes : Sizes) (pads : List Int) :
    Unbroken (padPlan padding sizes pads) := by
  unfold padPlan
  dsimp only
  split_ifs
  · exact unbroken_refuse _
  · exact unbroken_refuse _
  · exact unbroken_refuse _
  · apply Unbroken.mapM
    intro entry _
    rw [padDim_eq, ok_bind]
    exact (unbroken_requirePaddable _ _).bind fun _ _ => unbroken_ok _

end OpShape.Operator

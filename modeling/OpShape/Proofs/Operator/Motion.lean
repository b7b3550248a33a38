/-
# `OpShape.Proofs.Operator.Motion` — the parameters of convolutions, and the sizes that they lead to.

A rule keeps the parameters of a convolution as lists of integers, an operator as one motion per
spatial dimension.  Both accept the same lists.  The rule rounds a signed distance down and looks at
the sign of what comes out; the operator compares two unsigned extents and divides what is left of
the greater one.  Along every dimension the two find the same size, or neither finds one.
-/
import OpShape.Operator.Conv
import OpShape.Proofs.Operator.Agreement
import OpShape.Proofs.Rule.Reads

namespace OpShape.Operator

attribute [local irreducible] signed

/-! ## One dimension -/

/-- A motion that convolutions accept, whose numbers are words. -/
structure Motion.Valid (motion : Motion) : Prop where
  stride_pos : 0 < motion.stride
  dilation_pos : 0 < motion.dilation
  stride_lt : motion.stride < 2 ^ 63
  padding_lt : motion.padding < 2 ^ 63
  dilation_lt : motion.dilation < 2 ^ 63

/-- What the rules make of a motion and a size of the kernel. -/
def Motion.axis (motion : Motion) (kernel : Nat) : Rule.Axis where
  kernel := signed kernel
  padding := motion.padding
  stride := motion.stride
  dilation := motion.dilation

/-- **A kernel has the same number of places** on both sides, or does not fit on either. -/
theorem convSize_alike {motion : Motion} {size kernel : Nat} (h : motion.Valid)
    (hsize : size < 2 ^ 63) (hkernel : kernel < 2 ^ 63) :
    Alike Eq (Rule.poolOutputSize size (motion.axis kernel) false)
      (convSize motion size kernel) := by
  obtain ⟨hstride, hdilation, -, -, -⟩ := h
  unfold Rule.poolOutputSize convSize Motion.axis
  dsimp only
  simp only [signed_of_lt hsize, signed_of_lt hkernel]
  by_cases hzero : kernel = 0
  · rw [if_pos (by omega), if_pos (.inl hzero)]
    exact alike_error_error
  · rw [if_neg (by omega), if_neg (by omega), if_neg (by omega), if_neg (by omega),
      Checked.ediv_of_ne_zero (by omega), ok_bind]
    -- The reach of the kernel is one number on both sides, of which nothing else is known.
    have hreach : (motion.dilation : Int) * ((kernel : Int) - 1) =
        ((motion.dilation * (kernel - 1) : Nat) : Int) := by
      rw [Int.natCast_mul, Int.natCast_sub (Nat.pos_of_ne_zero hzero)]
      rfl
    rw [hreach]
    generalize motion.dilation * (kernel - 1) = reach
    simp only [Bool.false_eq_true, false_and, if_false]
    -- Below zero the rule rounds to a negative number of places; the operator compares first.
    by_cases hsmall : size + 2 * motion.padding < reach + 1
    · have hneg : ((size : Int) + 2 * motion.padding - reach - 1) / motion.stride < 0 :=
        Int.ediv_neg_of_neg_of_pos (by omega) (by omega)
      rw [if_pos (by omega), if_pos (.inr hsmall)]
      exact alike_error_error
    · have hroom : (size : Int) + 2 * motion.padding - reach - 1 =
          ((size + 2 * motion.padding - (reach + 1) : Nat) : Int) := by
        omega
      rw [hroom, ← Int.natCast_ediv, if_neg (not_or.mpr ⟨hzero, hsmall⟩),
        Checked.div_of_ne_zero (by omega), ok_bind]
      generalize (size + 2 * motion.padding - (reach + 1)) / motion.stride = places
      rw [if_neg (by omega)]
      show ((places : Int) + 1).toNat = places + 1
      omega

/-- **A transposed convolution spreads over the same size** on both sides, or is refused on both. -/
theorem spreadSize_alike {motion : Motion} {extra size kernel : Nat} (h : motion.Valid)
    (hextra : extra < 2 ^ 63) :
    Alike Eq (Rule.transposedSize size (motion.axis kernel) extra)
      (spreadSize motion extra size kernel) := by
  obtain ⟨-, -, hstride, hpadding, hdilation⟩ := h
  unfold Rule.transposedSize spreadSize Motion.axis
  dsimp only
  rw [signed_of_lt hstride, signed_of_lt hpadding, signed_of_lt hdilation, signed_of_lt hextra]
  simp only [Int.ofNat_le]
  by_cases hlarge : motion.stride ≤ extra ∧ motion.dilation ≤ extra
  · rw [if_pos hlarge, if_pos hlarge]
    exact alike_error_error
  · rw [if_neg hlarge, if_neg hlarge]
    split
    · exact alike_error_error
    · rfl

/-! ## All dimensions -/

/-- What the rules make of motions and of the sizes of a kernel. -/
def motionAxes (motions : List Motion) (kernels : Sizes) : List Rule.Axis :=
  Rule.axes (kernels.map signed) (motions.map fun motion => (motion.padding : Int))
    (motions.map fun motion => (motion.stride : Int))
    (motions.map fun motion => (motion.dilation : Int))

theorem motionAxes_cons (motion : Motion) (motions : List Motion) (kernel : Nat) (kernels : Sizes) :
    motionAxes (motion :: motions) (kernel :: kernels) =
      motion.axis kernel :: motionAxes motions kernels := rfl

theorem convSizes_alike {motions : List Motion} {inputs kernels : Sizes}
    (hvalid : ∀ motion ∈ motions, motion.Valid)
    (hinputs : List.Forall₂ (fun _ size => size < 2 ^ 63) motions inputs)
    (hkernels : List.Forall₂ (fun _ kernel => kernel < 2 ^ 63) motions kernels) :
    Alike (fun sizes others => sizes = others ∧ sizes.length = motions.length)
      ((inputs.zip (motionAxes motions kernels)).mapM fun entry =>
        Rule.poolOutputSize entry.1 entry.2 false)
      (convSizes motions inputs kernels) := by
  induction hinputs generalizing kernels with
  | nil =>
    cases hkernels
    exact ⟨rfl, rfl⟩
  | @cons motion size motions inputs hsize _ ih =>
    cases hkernels with
    | @cons _ kernel _ kernels hkernel hkernels =>
      rw [motionAxes_cons, List.zip_cons_cons, List.mapM_cons]
      apply (convSize_alike (hvalid motion List.mem_cons_self) hsize hkernel).bind
      rintro place _ rfl
      apply (ih (fun m hm => hvalid m (List.mem_cons_of_mem _ hm)) hkernels).bind
      rintro places _ ⟨rfl, hlength⟩
      exact ⟨rfl, congrArg Nat.succ hlength⟩

theorem spreadSizes_alike {motions : List Motion} {extras : List Nat} {inputs kernels : Sizes}
    (hvalid : ∀ motion ∈ motions, motion.Valid)
    (hextras : List.Forall₂ (fun _ extra => extra < 2 ^ 63) motions extras)
    (hinputs : inputs.length = motions.length) (hkernels : kernels.length = motions.length) :
    Alike (fun sizes others => sizes = others ∧ sizes.length = motions.length)
      (((inputs.zip (motionAxes motions kernels)).zip (extras.map Nat.cast)).mapM
        fun entry => Rule.transposedSize entry.1.1 entry.1.2 entry.2)
      (spreadSizes motions extras inputs kernels) := by
  induction hextras generalizing inputs kernels with
  | nil =>
    rw [List.eq_nil_of_length_eq_zero hinputs]
    exact ⟨rfl, rfl⟩
  | @cons motion extra motions extras hextra _ ih =>
    cases inputs with
    | nil => cases hinputs
    | cons size inputs =>
      cases kernels with
      | nil => cases hkernels
      | cons kernel kernels =>
        rw [motionAxes_cons, List.zip_cons_cons, List.map_cons, List.zip_cons_cons, List.mapM_cons]
        apply (spreadSize_alike (hvalid motion List.mem_cons_self) hextra).bind
        rintro spread _ rfl
        refine (ih (fun m hm => hvalid m (List.mem_cons_of_mem _ hm)) (Nat.succ.inj hinputs)
          (Nat.succ.inj hkernels)).bind ?_
        rintro spreads _ ⟨rfl, hlength⟩
        exact ⟨rfl, congrArg Nat.succ hlength⟩

/-! ## Parameters -/

/-- Values of parameters that convolutions accept. -/
structure Accepted (paddings strides dilations : List Int) (groups : Int) : Prop where
  paddings : ∀ padding ∈ paddings, 0 ≤ padding
  strides : ∀ stride ∈ strides, 0 < stride
  dilations : ∀ dilation ∈ dilations, 0 < dilation
  groups : 0 < groups

theorem check_eq_ok {params : Rule.ConvParams} {paddings : List Int} {groups : Int} :
    params.check paddings groups = .ok () ↔
      Accepted paddings params.stride params.dilation groups := by
  unfold Rule.ConvParams.check
  constructor
  · intro h
    split_ifs at h with hpaddings hstrides hdilations hgroups
    · cases h
    · cases h
    · cases h
    · cases h
    · exact {
        paddings := by simpa using hpaddings
        strides := by simpa using hstrides
        dilations := by simpa using hdilations
        groups := Int.not_le.mp hgroups }
  · rintro ⟨hpaddings, hstrides, hdilations, hgroups⟩
    rw [if_neg (by simpa using hpaddings), if_neg (by simpa using hstrides),
      if_neg (by simpa using hdilations), if_neg (Int.not_le.mpr hgroups)]

/-- More values that must not be negative are accepted one part after the other. -/
theorem accepted_append {paddings others strides dilations : List Int} {groups : Int} :
    Accepted (paddings ++ others) strides dilations groups ↔
      Accepted paddings strides dilations groups ∧ ∀ other ∈ others, 0 ≤ other := by
  constructor
  · rintro ⟨hpaddings, hstrides, hdilations, hgroups⟩
    obtain ⟨hleft, hright⟩ := List.forall_mem_append.mp hpaddings
    exact ⟨⟨hleft, hstrides, hdilations, hgroups⟩, hright⟩
  · rintro ⟨⟨hpaddings, hstrides, hdilations, hgroups⟩, hothers⟩
    exact ⟨List.forall_mem_append.mpr ⟨hpaddings, hothers⟩, hstrides, hdilations, hgroups⟩

/-- One value stands for all dimensions on both sides. -/
theorem spatial_alike {values : List Int} (hvalues : ∀ value ∈ values, value < 2 ^ 63) (count : Nat)
    (details : String) :
    Alike (fun spread others => spread = others ∧ spread.length = count ∧
        ∀ value ∈ spread, value < 2 ^ 63)
      (Rule.spatialParam values count details) (spatialValues values count) := by
  have hlist : Alike (fun spread others => spread = others ∧ spread.length = count ∧
        ∀ value ∈ spread, value < 2 ^ 63)
      (if values.length = count then .ok values else Rule.invalid details)
      (if values.length = count then .ok values
        else invalid "Parameter must have one value or one per spatial dim") := by
    by_cases hcount : values.length = count
    · rw [if_pos hcount, if_pos hcount]
      exact ⟨rfl, hcount, hvalues⟩
    · rw [if_neg hcount, if_neg hcount]
      exact alike_error_error
  -- Only a list of one value is spread; all others have to have the right length.
  rcases values with _ | ⟨value, _ | ⟨second, rest⟩⟩
  · exact hlist
  · refine ⟨rfl, List.length_replicate, ?_⟩
    intro other hother
    rw [List.eq_of_mem_replicate hother]
    exact hvalues value List.mem_cons_self
  · exact hlist

/-- **The parameters of a rule are the motions of an operator.** -/
structure SameMotions (count : Nat) (groups : Int) (params : Rule.ConvParams) (motion : ConvMotion) :
    Prop where
  length : motion.motions.length = count
  stride : params.stride = motion.motions.map fun m => (m.stride : Int)
  padding : params.padding = motion.motions.map fun m => (m.padding : Int)
  dilation : params.dilation = motion.motions.map fun m => (m.dilation : Int)
  valid : ∀ m ∈ motion.motions, m.Valid
  groups : groups.toNat = motion.groups
  groups_pos : 0 < motion.groups

theorem SameMotions.axes {count : Nat} {groups : Int} {params : Rule.ConvParams}
    {motion : ConvMotion} (h : SameMotions count groups params motion) (kernels : Sizes) :
    Rule.axes (kernels.map signed) params.padding params.stride params.dilation =
      motionAxes motion.motions kernels := by
  unfold motionAxes
  rw [h.stride, h.padding, h.dilation]

theorem map_toNat_cast {values : List Int} (h : ∀ value ∈ values, 0 ≤ value) :
    values.map (fun value => (value.toNat : Int)) = values := by
  refine (List.map_congr_left fun value hvalue => ?_).trans (List.map_id values)
  exact Int.toNat_of_nonneg (h value hvalue)

/-- The motions that values for each dimension stand for. -/
def zipMotions (stride padding dilation : List Int) : List Motion :=
  (stride.zip (padding.zip dilation)).map fun entry =>
    { stride := entry.1.toNat, padding := entry.2.1.toNat, dilation := entry.2.2.toNat }

/-- Motions that are made of accepted words are valid. -/
theorem valid_of_mem_zipMotions {groups : Int} {stride padding dilation : List Int}
    (h : Accepted padding stride dilation groups) (hstride : ∀ value ∈ stride, value < 2 ^ 63)
    (hpadding : ∀ value ∈ padding, value < 2 ^ 63) (hdilation : ∀ value ∈ dilation, value < 2 ^ 63)
    {motion : Motion} (hmotion : motion ∈ zipMotions stride padding dilation) : motion.Valid := by
  obtain ⟨⟨s, p, d⟩, hentry, rfl⟩ := List.mem_map.mp hmotion
  obtain ⟨hs, hrest⟩ := List.of_mem_zip hentry
  obtain ⟨hp, hd⟩ := List.of_mem_zip hrest
  have hs_pos := h.strides s hs
  have hd_pos := h.dilations d hd
  have hp_nonneg := h.paddings p hp
  have hs_lt := hstride s hs
  have hp_lt := hpadding p hp
  have hd_lt := hdilation d hd
  constructor <;> dsimp only <;> omega

theorem sameMotions_zip {count : Nat} {groups : Int} {stride padding dilation : List Int}
    (h : Accepted padding stride dilation groups)
    (hstride : stride.length = count ∧ ∀ value ∈ stride, value < 2 ^ 63)
    (hpadding : padding.length = count ∧ ∀ value ∈ padding, value < 2 ^ 63)
    (hdilation : dilation.length = count ∧ ∀ value ∈ dilation, value < 2 ^ 63) :
    SameMotions count groups { stride, padding, dilation }
      { motions := zipMotions stride padding dilation, groups := groups.toNat } := by
  have hinner : (padding.zip dilation).length = count := by
    rw [List.length_zip, hpadding.1, hdilation.1, Nat.min_self]
  have hfst : (stride.zip (padding.zip dilation)).map Prod.fst = stride :=
    List.map_fst_zip (by omega)
  have hsnd : (stride.zip (padding.zip dilation)).map Prod.snd = padding.zip dilation :=
    List.map_snd_zip (by omega)
  have hsnd_fst : (padding.zip dilation).map Prod.fst = padding := List.map_fst_zip (by omega)
  have hsnd_snd : (padding.zip dilation).map Prod.snd = dilation := List.map_snd_zip (by omega)
  have hstrides := map_toNat_cast fun value hvalue => Int.le_of_lt (h.strides value hvalue)
  have hdilations := map_toNat_cast fun value hvalue => Int.le_of_lt (h.dilations value hvalue)
  have hpaddings := map_toNat_cast h.paddings
  unfold zipMotions
  refine {
    length := ?_, stride := ?_, padding := ?_, dilation := ?_, valid := ?_, groups := rfl,
    groups_pos := ?_ }
  · show ((stride.zip (padding.zip dilation)).map _).length = count
    rw [List.length_map, List.length_zip, hstride.1, hinner, Nat.min_self]
  · show stride = ((stride.zip (padding.zip dilation)).map _).map _
    conv_lhs => rw [← hstrides, ← hfst, List.map_map]
    rw [List.map_map]
    rfl
  · show padding = ((stride.zip (padding.zip dilation)).map _).map _
    conv_lhs => rw [← hpaddings, ← hsnd_fst, ← hsnd, List.map_map, List.map_map]
    rw [List.map_map]
    rfl
  · show dilation = ((stride.zip (padding.zip dilation)).map _).map _
    conv_lhs => rw [← hdilations, ← hsnd_snd, ← hsnd, List.map_map, List.map_map]
    rw [List.map_map]
    rfl
  · intro motion hmotion
    exact valid_of_mem_zipMotions h hstride.2 hpadding.2 hdilation.2 hmotion
  · have hgroups := h.groups
    show 0 < groups.toNat
    omega

theorem check_refuses (params : Rule.ConvParams) (paddings : List Int) {groups : Int}
    (h : ¬ Accepted paddings params.stride params.dilation groups) :
    ∃ failure, params.check paddings groups = .error failure := by
  cases hcheck : params.check paddings groups with
  | ok => exact absurd (check_eq_ok.mp hcheck) h
  | error failure => exact ⟨failure, rfl⟩

/-- **Both sides accept the same parameters**, and make the same motions of them. -/
theorem ofLists_alike (count : Nat) (groups : Int) {stride padding dilation : List Int}
    (hstride : ∀ value ∈ stride, value < 2 ^ 63) (hpadding : ∀ value ∈ padding, value < 2 ^ 63)
    (hdilation : ∀ value ∈ dilation, value < 2 ^ 63) :
    Alike (SameMotions count groups)
      (do
        let params ← Rule.ConvParams.spread { stride, padding, dilation } count
        params.check params.padding groups
        .ok params)
      (ConvMotion.ofLists count stride padding dilation groups) := by
  unfold Rule.ConvParams.spread ConvMotion.ofLists
  simp only [bind_assoc, ok_bind]
  apply (spatial_alike hstride count _).bind
  rintro strides _ ⟨rfl, hstrides⟩
  apply (spatial_alike hpadding count _).bind
  rintro paddings _ ⟨rfl, hpaddings⟩
  apply (spatial_alike hdilation count _).bind
  rintro dilations _ ⟨rfl, hdilations⟩
  -- Both sides refuse for the same reasons, but in different orders and in different words.
  by_cases haccepted : Accepted paddings strides dilations groups
  · obtain ⟨hpaddings', hstrides', hdilations', hgroups⟩ := id haccepted
    rw [check_eq_ok.mpr haccepted, if_neg (by simpa using hpaddings'),
      if_neg (by simpa using And.intro hstrides' hdilations'), if_neg (Int.not_le.mpr hgroups)]
    exact sameMotions_zip haccepted hstrides hpaddings hdilations
  · obtain ⟨failure, hfailure⟩ := check_refuses ⟨strides, paddings, dilations⟩ paddings haccepted
    rw [hfailure]
    split_ifs with hnegative hzero hgroups
    · exact alike_error_error
    · exact alike_error_error
    · exact alike_error_error
    · refine (haccepted ?_).elim
      obtain ⟨hstrides', hdilations'⟩ :
          (∀ value ∈ strides, 0 < value) ∧ ∀ value ∈ dilations, 0 < value := by
        simpa using hzero
      exact {
        paddings := by simpa using hnegative
        strides := hstrides'
        dilations := hdilations'
        groups := Int.not_le.mp hgroups }

/-- What a transposed convolution adds at the end of each dimension, where all other parameters are
accepted: the rule checks it together with the paddings, the operator by itself. -/
theorem extras_alike {count : Nat} {groups : Int} {extra : List Int}
    (hextra : ∀ value ∈ extra, value < 2 ^ 63) {params : Rule.ConvParams} {motion : ConvMotion}
    (haccepted : Accepted params.padding params.stride params.dilation groups)
    (hsame : SameMotions count groups params motion) (details : String) :
    Alike (fun params motion => SameMotions count groups params.1 motion.1 ∧
        params.2 = motion.2.map Nat.cast ∧ motion.2.length = count ∧
        ∀ extra ∈ motion.2, extra < 2 ^ 63)
      (do
        let extras ← Rule.spatialParam extra count details
        params.check (params.padding ++ extras) groups
        .ok (params, extras))
      (do
        let extras ← spatialValues extra count
        if extras.any fun p => p < 0 then
          invalid "Output padding must be non-negative"
        else
          .ok (motion, extras.map Int.toNat) : OpResult (ConvMotion × List Nat)) := by
  apply (spatial_alike hextra count details).bind
  rintro extras _ ⟨rfl, hlength, hlt⟩
  by_cases hnonneg : ∀ extra ∈ extras, 0 ≤ extra
  · rw [check_eq_ok.mpr (accepted_append.mpr ⟨haccepted, hnonneg⟩), if_neg (by simpa using hnonneg)]
    refine ⟨hsame, ?_, ?_, ?_⟩
    · show extras = (extras.map Int.toNat).map Nat.cast
      rw [List.map_map]
      exact (map_toNat_cast hnonneg).symm
    · exact (List.length_map _).trans hlength
    · intro extra hextra
      obtain ⟨value, hvalue, rfl⟩ := List.mem_map.mp hextra
      have hvalue_lt := hlt value hvalue
      omega
  · have hrefused : ¬ Accepted (params.padding ++ extras) params.stride params.dilation groups := by
      intro h
      exact hnonneg (accepted_append.mp h).2
    obtain ⟨failure, hfailure⟩ := check_refuses params _ hrefused
    rw [hfailure, if_pos (by simpa using hnonneg)]
    exact alike_error_error

/-- **Both sides accept the same parameters of a transposed convolution**: the rule reads what is
added at the end before it checks anything, the operator after all checks of the others. -/
theorem ofLists_extras_alike (count : Nat) (groups : Int)
    {stride padding dilation extra : List Int}
    (hstride : ∀ value ∈ stride, value < 2 ^ 63) (hpadding : ∀ value ∈ padding, value < 2 ^ 63)
    (hdilation : ∀ value ∈ dilation, value < 2 ^ 63) (hextra : ∀ value ∈ extra, value < 2 ^ 63)
    (details : String) :
    Alike (fun params motion => SameMotions count groups params.1 motion.1 ∧
        params.2 = motion.2.map Nat.cast ∧ motion.2.length = count ∧
        ∀ extra ∈ motion.2, extra < 2 ^ 63)
      (do
        let params ← Rule.ConvParams.spread { stride, padding, dilation } count
        let extras ← Rule.spatialParam extra count details
        params.check (params.padding ++ extras) groups
        .ok (params, extras))
      (do
        let motion ← ConvMotion.ofLists count stride padding dilation groups
        let extras ← spatialValues extra count
        if extras.any fun p => p < 0 then
          invalid "Output padding must be non-negative"
        else
          .ok (motion, extras.map Int.toNat) : OpResult (ConvMotion × List Nat)) := by
  have hlists := ofLists_alike count groups hstride hpadding hdilation
  cases hspread : Rule.ConvParams.spread { stride, padding, dilation } count with
  | error failure =>
    rw [hspread, error_bind] at hlists
    obtain ⟨failure', hfailure⟩ := hlists.error
    rw [hfailure]
    exact alike_error_error
  | ok params =>
    rw [hspread, ok_bind] at hlists
    rw [ok_bind]
    by_cases haccepted : Accepted params.padding params.stride params.dilation groups
    · rw [check_eq_ok.mpr haccepted, ok_bind] at hlists
      obtain ⟨motion, hmotion, hsame⟩ := hlists.ok
      rw [hmotion, ok_bind]
      exact extras_alike hextra haccepted hsame details
    · obtain ⟨failure, hfailure⟩ := check_refuses params _ haccepted
      rw [hfailure, error_bind] at hlists
      obtain ⟨failure', hfailure'⟩ := hlists.error
      rw [hfailure', error_bind]
      apply alike_bind_error
      intro extras
      obtain ⟨failure'', hrefused⟩ := check_refuses params (params.padding ++ extras)
        fun h => haccepted (accepted_append.mp h).1
      rw [hrefused]
      exact alike_error_error

end OpShape.Operator

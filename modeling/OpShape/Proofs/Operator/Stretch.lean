/-
# `OpShape.Proofs.Operator.Stretch` — tensors that are repeated to fill a shape.

A shape *stretches* over another one if each of its sizes is one or the same as the size that it is
aligned with at the end.  Repeating a tensor answers exactly if its sizes stretch over those that
are to be filled, and then it reads no position that is not there.
-/
import OpShape.Builtin.Layout
import OpShape.Operator.Layout
import OpShape.Proofs.Operator.Agreement
import OpShape.Proofs.Rule.Reads
import OpShape.Proofs.Tensor.Entry

namespace OpShape.Operator

open Tensor (HasSizes answersIf_ofOffsets)

variable {α : Type}

/-- Each size is one, or the same as the size that it is aligned with. -/
abbrev Aligned (source target : Sizes) : Prop :=
  List.Forall₂ (fun size wanted => size = wanted ∨ size = 1) source target

/-- The sizes of `source` are aligned with the last ones of `target`. -/
def Stretches (source target : Sizes) : Prop :=
  source.length ≤ target.length ∧
    Aligned source (target.drop (target.length - source.length))

theorem aligned_iff_all {source target : Sizes} (h : source.length = target.length) :
    ((source.zip target).all fun entry => entry.1 == entry.2 || entry.1 == 1) = true ↔
      Aligned source target := by
  unfold Aligned
  rw [List.forall₂_iff_zip, List.all_eq_true]
  constructor
  · intro hall
    refine ⟨h, ?_⟩
    intro a b hab
    simpa using hall (a, b) hab
  · rintro ⟨-, hall⟩ ⟨a, b⟩ hab
    simpa using hall hab

/-- The element that is repeated at an index is there. -/
theorem inside_sourceIndex {source target : Sizes} {index : List Nat}
    (h : Stretches source target) (hindex : Inside index target) :
    Inside (sourceIndex source index) source := by
  -- A size of one is read at zero; any other one is the size that bounds the coordinate.
  have hmatch : ∀ (source target : Sizes) (own : List Nat), Aligned source target →
      Inside own target →
        Inside ((source.zip own).map fun entry => if entry.1 = 1 then 0 else entry.2) source := by
    intro source target own haligned
    induction haligned generalizing own with
    | nil =>
      intro _
      exact .nil
    | @cons size wanted source target hsize _ ih =>
      intro hown
      cases hown with
      | @cons i _ own _ hlt hrest =>
        refine .cons ?_ (ih own hrest)
        show (if size = 1 then 0 else i) < size
        split <;> omega
  unfold sourceIndex
  rw [hindex.length]
  exact hmatch _ _ _ h.2 (List.forall₂_drop _ hindex)

/-- **A tensor is repeated without breaking down** to fill sizes that its own stretch over, and there
are no elements in the answer but its own. -/
theorem answers_broadcastTo_mem {tensor : Tensor α} {sizes : Sizes}
    (h : Stretches tensor.sizes sizes) :
    Answers (fun wide => HasSizes sizes wide ∧ ∀ x ∈ wide.data, x ∈ tensor.data)
      (broadcastTo tensor sizes) := by
  have hlength : (sizes.drop (sizes.length - tensor.sizes.length)).length = tensor.sizes.length :=
    h.2.length_eq.symm
  unfold broadcastTo
  rw [if_neg (Nat.not_lt.mpr h.1), if_pos ((aligned_iff_all hlength.symm).mpr h.2)]
  refine (answersIf_ofOffsets (p := True) fun offset hoffset => ?_).answers trivial
  have hinside := inside_sourceIndex h (inside_unravel_of_lt hoffset)
  have hlt := Nat.lt_of_lt_of_eq (ravel_lt hinside) tensor.size_data.symm
  unfold Tensor.at?
  dsimp only
  rw [Checked.fetch_of_lt hlt]
  exact Array.getElem_mem hlt

theorem answers_broadcastTo {tensor : Tensor α} {sizes : Sizes} (h : Stretches tensor.sizes sizes) :
    Answers (HasSizes sizes) (broadcastTo tensor sizes) :=
  (answers_broadcastTo_mem h).imp fun _ hwide => hwide.1

/-- A tensor is not repeated to fill any other sizes. -/
theorem broadcastTo_refuses {tensor : Tensor α} {sizes : Sizes}
    (h : ¬ Stretches tensor.sizes sizes) : ∃ failure, broadcastTo tensor sizes = .error failure := by
  unfold broadcastTo
  by_cases hlength : sizes.length < tensor.sizes.length
  · rw [if_pos hlength]
    exact ⟨_, rfl⟩
  · rw [if_neg hlength]
    have hdrop : tensor.sizes.length = (sizes.drop (sizes.length - tensor.sizes.length)).length := by
      rw [List.length_drop]
      omega
    have hall := mt (aligned_iff_all hdrop).mp fun h' => h ⟨Nat.not_lt.mp hlength, h'⟩
    dsimp only
    rw [if_neg hall]
    exact ⟨_, rfl⟩

/-- **What a repeated tensor holds**: at each index the element that is repeated there. -/
theorem broadcastTo_eq_ok {tensor wide : Tensor α} {sizes : Sizes}
    (h : Stretches tensor.sizes sizes) :
    broadcastTo tensor sizes = .ok wide ↔ wide.sizes = sizes ∧ ∀ index, Inside index sizes →
      (tensor.at? (sourceIndex tensor.sizes index) : OpResult α) = wide.at? index := by
  have hlength : (sizes.drop (sizes.length - tensor.sizes.length)).length = tensor.sizes.length :=
    h.2.length_eq.symm
  unfold broadcastTo
  rw [if_neg (Nat.not_lt.mpr h.1), if_pos ((aligned_iff_all hlength.symm).mpr h.2),
    Tensor.ofIndices_eq_ok]

/-! ## Nothing is stretched -/

/-- Over its own sizes nothing is repeated. -/
theorem sourceIndex_self {index sizes : List Nat} (h : Inside index sizes) :
    sourceIndex sizes index = index := by
  unfold sourceIndex
  rw [h.length, Nat.sub_self, List.drop_zero]
  dsimp only
  induction h with
  | nil => rfl
  | @cons i size index sizes hlt _ ih =>
    have hcoordinate : (if size = 1 then 0 else i) = i := by
      split <;> omega
    rw [List.zip_cons_cons, List.map_cons, ih, hcoordinate]

theorem broadcastTo_self (tensor : Tensor α) : broadcastTo tensor tensor.sizes = .ok tensor := by
  have hstretches : Stretches tensor.sizes tensor.sizes := by
    unfold Stretches
    rw [Nat.sub_self, List.drop_zero]
    exact ⟨Nat.le_refl _, List.forall₂_same.mpr fun size _ => .inl rfl⟩
  refine (broadcastTo_eq_ok hstretches).mpr ⟨rfl, fun index hindex => ?_⟩
  rw [sourceIndex_self hindex]

/-- Coordinates that stand behind all others on both sides are kept as they are. -/
theorem sourceIndex_append {source rest : Sizes} {index place : List Nat}
    (hlength : source.length ≤ index.length) (hplace : Inside place rest) :
    sourceIndex (source ++ rest) (index ++ place) = sourceIndex source index ++ place := by
  have hself := sourceIndex_self hplace
  unfold sourceIndex at hself ⊢
  dsimp only at hself ⊢
  have hcount : (index ++ place).length - (source ++ rest).length =
      index.length - source.length := by
    rw [List.length_append, List.length_append, hplace.length]
    omega
  rw [hplace.length, Nat.sub_self, List.drop_zero] at hself
  rw [hcount, List.drop_append_of_le_length (Nat.sub_le _ _), List.zip_append, List.map_append,
    hself]
  rw [List.length_drop]
  omega

/-! ## Expansion -/

/-- A size as a signed word is a number of the half range below exactly if it is that number. -/
theorem signed_eq_iff {size : Nat} {target : Int} (hsize : size < 2 ^ 64) (hpos : 0 ≤ target)
    (htarget : target < 2 ^ 63) : signed size = target ↔ size = target.toNat := by
  rw [signed_eq, Int.bmod_def, Int.emod_eq_of_lt (by omega) (by omega)]
  split <;> omega

/-- What an operator makes of a size that is asked for. -/
def wantedSize (size : Nat) (wanted : Int) : OpResult Nat :=
  if wanted = -1 then .ok size else toSize wanted

theorem expandAligned_cons (size : Nat) (sizes : Sizes) (value : Int) (wanted : List Int) :
    expandAligned (size :: sizes) (value :: wanted) = (do
      let size ← wantedSize size value
      let sizes ← expandAligned sizes wanted
      .ok (size :: sizes)) := by
  rw [expandAligned]
  unfold wantedSize
  split <;> rfl

/-- The sizes that are read are those of the first dimension and of the others. -/
theorem expandAligned_cons_eq_ok {size : Nat} {sizes : Sizes} {value : Int} {wanted : List Int}
    {all : Sizes} :
    expandAligned (size :: sizes) (value :: wanted) = .ok all ↔
      ∃ out outs, wantedSize size value = .ok out ∧ expandAligned sizes wanted = .ok outs ∧
        all = out :: outs := by
  rw [expandAligned_cons]
  constructor
  · intro h
    obtain ⟨out, hout, hrest⟩ := bind_eq_ok.mp h
    obtain ⟨outs, houts, hall⟩ := bind_eq_ok.mp hrest
    exact ⟨out, outs, hout, houts, (Except.ok.inj hall).symm⟩
  · rintro ⟨out, outs, hout, houts, rfl⟩
    rw [hout, houts, ok_bind, ok_bind]

/-- The rule decides at once about a dimension that is there, the operator in two steps: it reads
the size that is asked for, and later finds that its own stretches over it. -/
theorem expandedSize_cases {size : Nat} {wanted : Int} (hsize : size < 2 ^ 64)
    (hwanted : wanted < 2 ^ 63) :
    (∃ out, Rule.expandedSize (some size) wanted = .ok out ∧ wantedSize size wanted = .ok out ∧
        (size = out ∨ size = 1)) ∨
      ((∃ failure, Rule.expandedSize (some size) wanted = .error failure) ∧
        ∀ out, wantedSize size wanted = .ok out → ¬ (size = out ∨ size = 1)) := by
  unfold Rule.expandedSize wantedSize toSize
  dsimp only
  by_cases hkeep : wanted = -1
  · rw [if_pos hkeep, if_pos hkeep]
    exact .inl ⟨size, rfl, rfl, .inl rfl⟩
  · rw [if_neg hkeep, if_neg hkeep]
    by_cases hneg : wanted < 0
    · rw [if_pos hneg, if_pos hneg]
      exact .inr ⟨⟨_, rfl⟩, fun out hout => by cases hout⟩
    · rw [if_neg hneg, if_neg hneg]
      have hsigned := signed_eq_iff hsize (Int.not_lt.mp hneg) hwanted
      by_cases heq : signed size = wanted
      · rw [if_pos heq, ← hsigned.mp heq]
        exact .inl ⟨size, rfl, rfl, .inl rfl⟩
      · rw [if_neg heq]
        by_cases hone : size = 1
        · rw [if_pos hone]
          exact .inl ⟨_, rfl, rfl, .inr hone⟩
        · rw [if_neg hone]
          refine .inr ⟨⟨_, rfl⟩, ?_⟩
          intro out hout
          rw [← Except.ok.inj hout, ← hsigned, or_iff_left hone]
          exact heq

/-- The same for all dimensions that are there. -/
theorem expandAligned_cases {sizes : Sizes} {wanted : List Int}
    (hlength : sizes.length = wanted.length) (hsizes : ∀ size ∈ sizes, size < 2 ^ 64)
    (hwanted : ∀ value ∈ wanted, value < 2 ^ 63) :
    (∃ out, (((sizes.map some).zip wanted).mapM fun entry => Rule.expandedSize entry.1 entry.2) =
          .ok out ∧ expandAligned sizes wanted = .ok out ∧ Aligned sizes out) ∨
      ((∃ failure, (((sizes.map some).zip wanted).mapM fun entry =>
          Rule.expandedSize entry.1 entry.2) = .error failure) ∧
        ∀ out, expandAligned sizes wanted = .ok out → ¬ Aligned sizes out) := by
  induction sizes generalizing wanted with
  | nil =>
    rw [List.eq_nil_of_length_eq_zero hlength.symm]
    exact .inl ⟨[], rfl, rfl, .nil⟩
  | cons size sizes ih =>
    cases wanted with
    | nil => cases hlength
    | cons value wanted =>
      have hhead := expandedSize_cases (hsizes size List.mem_cons_self)
        (hwanted value List.mem_cons_self)
      have htail := ih (Nat.succ.inj hlength) (fun s hs => hsizes s (List.mem_cons_of_mem _ hs))
        (fun v hv => hwanted v (List.mem_cons_of_mem _ hv))
      rw [List.map_cons, List.zip_cons_cons, List.mapM_cons]
      -- The rule stops at the first dimension that does not fit; the operator may read them all.
      rcases hhead with ⟨out, hrule, hop, hfits⟩ | ⟨⟨failure, hrule⟩, hop⟩
      · rw [hrule, ok_bind]
        rcases htail with ⟨outs, hrules, hops, hfitss⟩ | ⟨⟨failure, hrules⟩, hops⟩
        · rw [hrules]
          refine .inl ⟨out :: outs, rfl, ?_, .cons hfits hfitss⟩
          exact expandAligned_cons_eq_ok.mpr ⟨out, outs, hop, hops, rfl⟩
        · rw [hrules]
          refine .inr ⟨⟨failure, rfl⟩, ?_⟩
          intro all hall hfit
          obtain ⟨_, outs, -, houts, rfl⟩ := expandAligned_cons_eq_ok.mp hall
          cases hfit with
          | cons _ hfit => exact hops outs houts hfit
      · rw [hrule]
        refine .inr ⟨⟨failure, rfl⟩, ?_⟩
        intro all hall hfit
        obtain ⟨out, _, hout, -, rfl⟩ := expandAligned_cons_eq_ok.mp hall
        cases hfit with
        | cons hfit _ => exact hop out hout hfit

theorem expandAligned_length {sizes : Sizes} {wanted : List Int} {out : Sizes}
    (h : expandAligned sizes wanted = .ok out) : out.length = wanted.length := by
  have hrest : ∀ (wanted : List Int) (out : Sizes), wanted.mapM toSize = .ok out →
      out.length = wanted.length :=
    fun wanted out h => (mapM_eq_ok.mp h).length_eq.symm
  induction sizes generalizing wanted out with
  | nil =>
    rw [expandAligned] at h
    · exact hrest wanted out h
    · intro _ _ _ _ h
      cases h
  | cons size sizes ih =>
    cases wanted with
    | nil => exact hrest [] out h
    | cons value wanted =>
      obtain ⟨_, outs, -, houts, rfl⟩ := expandAligned_cons_eq_ok.mp h
      rw [List.length_cons, List.length_cons, ih houts]

/-- New leading dimensions are read alike. -/
theorem expandLeading_alike (wanted : List Int) :
    Alike Eq (((List.replicate wanted.length none).zip wanted).mapM fun entry =>
        Rule.expandedSize entry.1 entry.2) (wanted.mapM expandLeading) := by
  induction wanted with
  | nil => rfl
  | cons value wanted ih =>
    rw [List.length_cons, List.replicate_succ, List.zip_cons_cons, List.mapM_cons, List.mapM_cons]
    have hhead : Alike Eq (Rule.expandedSize none value) (expandLeading value) := by
      unfold Rule.expandedSize expandLeading toSize
      dsimp only
      apply alike_guard
      intro _
      apply alike_guard
      intro _
      rfl
    apply hhead.bind
    rintro size _ rfl
    apply ih.bind
    rintro sizes _ rfl
    rfl

theorem stretches_append {source aligned : Sizes} (leading : Sizes)
    (h : source.length = aligned.length) :
    Stretches source (leading ++ aligned) ↔ Aligned source aligned := by
  unfold Stretches
  have hadded : (leading ++ aligned).length - source.length = leading.length := by
    rw [List.length_append]
    omega
  rw [hadded, List.drop_left]
  apply and_iff_right
  rw [List.length_append]
  omega

/-- **Expansion follows its rule.** -/
theorem expandTo_alike {input : Tensor Float32} {wanted : List Int}
    (hsizes : ∀ size ∈ input.sizes, size < 2 ^ 64) (hwanted : ∀ value ∈ wanted, value < 2 ^ 63) :
    Alike SingleOf (Rule.expand input.sizes wanted) (expandTo input wanted) := by
  rw [Rule.expand_eq]
  unfold expandTo expandSizes
  by_cases hrank : wanted.length < input.sizes.length
  · rw [if_pos hrank, if_pos hrank]
    exact alike_error_error
  · rw [if_neg hrank, if_neg hrank]
    generalize hadded : wanted.length - input.sizes.length = added
    have htake : (wanted.take added).length = added := by
      rw [List.length_take]
      omega
    have hdrop : input.sizes.length = (wanted.drop added).length := by
      rw [List.length_drop]
      omega
    -- The rule goes through new and old dimensions at once, the operator through one after the other.
    have hsplit : (List.replicate added none ++ input.sizes.map some).zip wanted =
        (List.replicate (wanted.take added).length none).zip (wanted.take added) ++
          (input.sizes.map some).zip (wanted.drop added) := by
      rw [htake, ← List.zip_append (by rw [List.length_replicate, htake]), List.take_append_drop]
    dsimp only
    rw [hsplit, List.mapM_append]
    simp only [bind_assoc]
    apply (expandLeading_alike (wanted.take added)).bind
    rintro leading _ rfl
    rcases expandAligned_cases hdrop hsizes fun v hv => hwanted v (List.mem_of_mem_drop hv) with
      ⟨out, hrule, hop, haligned⟩ | ⟨⟨failure, hrule⟩, hop⟩
    · rw [hrule, hop]
      simp only [ok_bind]
      apply Alike.single
      apply Answers.alike
      apply answers_broadcastTo
      exact (stretches_append leading haligned.length_eq).mpr haligned
    · rw [hrule]
      cases hread : expandAligned input.sizes (wanted.drop added) with
      | error e => exact alike_error_error
      | ok out =>
        have hlength : input.sizes.length = out.length :=
          hdrop.trans (expandAligned_length hread).symm
        obtain ⟨e, he⟩ := broadcastTo_refuses
          (mt (stretches_append leading hlength).mp (hop out hread))
        simp only [ok_bind]
        rw [he]
        exact alike_error_error

theorem expandOf_follows : Follows (2 ^ 64) expandOf (Builtin.withInts Rule.expand "size") := by
  intro bound hfits
  unfold expandOf Builtin.withInts
  apply (alike_floatArg "self" hfits).bind
  rintro _ input ⟨rfl, hsizes⟩
  apply (alike_ints "size" hfits).bind
  rintro wanted _ ⟨rfl, hwanted⟩
  exact expandTo_alike hsizes hwanted

theorem expandAsOf_follows : Follows (2 ^ 64) expandAsOf Builtin.expandAs := by
  intro bound hfits
  unfold expandAsOf Builtin.expandAs
  apply (alike_tensor "other" hfits).bind
  rintro _ other ⟨rfl, -⟩
  apply (alike_floatArg "self" hfits).bind
  rintro _ input ⟨rfl, hsizes⟩
  refine expandTo_alike hsizes ?_
  intro value hvalue
  obtain ⟨size, -, rfl⟩ := List.mem_map.mp hvalue
  exact signed_lt size

end OpShape.Operator

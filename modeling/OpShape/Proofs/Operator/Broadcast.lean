/-
# `OpShape.Proofs.Operator.Broadcast` — the common shape of tensors.

The rules pad shapes with leading ones and go through them from the first dimension on; the
operators go through them from the last dimension on and stop padding where a shape ends.  Both find
the same common shape or none, and each shape stretches over what they find.
-/
import Mathlib.Data.List.Zip
import OpShape.Rule.Broadcast
import OpShape.Proofs.Operator.Stretch

namespace OpShape.Operator

open Tensor (HasSizes answers_ofData)

/-! ## Shapes from their last dimension on -/

/-- One shape stretches over another, both given with their last dimension first. -/
def StretchesReversed : Sizes → Sizes → Prop
  | [], _ => True
  | _ :: _, [] => False
  | size :: source, wanted :: target =>
    (size = wanted ∨ size = 1) ∧ StretchesReversed source target

theorem stretchesReversed_iff {source target : Sizes} :
    StretchesReversed source target ↔
      source.length ≤ target.length ∧ Aligned source (target.take source.length) := by
  induction source generalizing target with
  | nil => exact ⟨fun _ => ⟨Nat.zero_le _, .nil⟩, fun _ => trivial⟩
  | cons size source ih =>
    cases target with
    | nil =>
      refine ⟨fun h => h.elim, ?_⟩
      rintro ⟨h, -⟩
      cases h
    | cons wanted target =>
      show (size = wanted ∨ size = 1) ∧ StretchesReversed source target ↔ _
      unfold Aligned at ih ⊢
      rw [ih, List.length_cons, List.length_cons, List.take_succ_cons, List.forall₂_cons,
        Nat.succ_le_succ_iff]
      exact and_left_comm

theorem stretches_iff_reversed {source target : Sizes} :
    Stretches source target ↔ StretchesReversed source.reverse target.reverse := by
  rw [stretchesReversed_iff, List.length_reverse, List.length_reverse, List.take_reverse]
  unfold Stretches Aligned
  rw [List.forall₂_reverse_iff]

theorem StretchesReversed.trans {a b c : Sizes} (h : StretchesReversed a b)
    (h' : StretchesReversed b c) : StretchesReversed a c := by
  induction a generalizing b c with
  | nil => trivial
  | cons x a ih =>
    cases b with
    | nil => exact h.elim
    | cons y b =>
      cases c with
      | nil => exact h'.elim
      | cons z c =>
        obtain ⟨hxy, hab⟩ := h
        obtain ⟨hyz, hbc⟩ := h'
        refine ⟨?_, ih hab hbc⟩
        rcases hxy with rfl | hone
        · exact hyz
        · exact .inr hone

theorem stretchesReversed_refl (sizes : Sizes) : StretchesReversed sizes sizes := by
  induction sizes with
  | nil => trivial
  | cons size sizes ih => exact ⟨.inl rfl, ih⟩

/-- The common size of two aligned sizes. -/
def commonOf (x y : Nat) : Option Nat :=
  if x = y then some x else if x = 1 then some y else if y = 1 then some x else none

theorem commonReversed_cons {x y : Nat} {a b c : Sizes} :
    commonReversed (x :: a) (y :: b) = some c ↔
      ∃ size rest, commonOf x y = some size ∧ commonReversed a b = some rest ∧ c = size :: rest := by
  have heq : commonReversed (x :: a) (y :: b) = (do
      let size ← commonOf x y
      let sizes ← commonReversed a b
      some (size :: sizes)) := by
    rw [commonReversed]
    unfold commonOf
    split_ifs <;> rfl
  rw [heq]
  simp only [Option.bind_eq_bind, Option.bind_eq_some_iff, Option.some.injEq]
  constructor
  · rintro ⟨size, hsize, rest, hrest, rfl⟩
    exact ⟨size, rest, hsize, hrest, rfl⟩
  · rintro ⟨size, rest, hsize, hrest, rfl⟩
    exact ⟨size, hsize, rest, hrest, rfl⟩

theorem commonOf_left {x y size : Nat} (h : commonOf x y = some size) : x = size ∨ x = 1 := by
  unfold commonOf at h
  split_ifs at h with hsame hone
  · exact .inl (Option.some.inj h)
  · exact .inr hone
  · exact .inl (Option.some.inj h)

theorem commonOf_right {x y size : Nat} (h : commonOf x y = some size) : y = size ∨ y = 1 := by
  unfold commonOf at h
  split_ifs at h with hsame _ hone
  · exact .inl (hsame ▸ Option.some.inj h)
  · exact .inl (Option.some.inj h)
  · exact .inr hone

theorem commonOf_eq_right {x y : Nat} : commonOf x y = some y ↔ x = y ∨ x = 1 := by
  constructor
  · exact commonOf_left
  · intro h
    unfold commonOf
    by_cases hsame : x = y
    · rw [if_pos hsame, hsame]
    · rw [if_neg hsame, if_pos (h.resolve_left hsame)]

/-- **Both shapes stretch over their common shape.** -/
theorem commonReversed_stretches {a b c : Sizes} (h : commonReversed a b = some c) :
    StretchesReversed a c ∧ StretchesReversed b c := by
  induction a generalizing b c with
  | nil =>
    rw [commonReversed] at h
    rw [Option.some.inj h]
    exact ⟨trivial, stretchesReversed_refl c⟩
  | cons x a ih =>
    cases b with
    | nil =>
      obtain rfl := Option.some.inj h
      exact ⟨stretchesReversed_refl _, trivial⟩
    | cons y b =>
      obtain ⟨size, rest, hsize, hrest, rfl⟩ := commonReversed_cons.mp h
      obtain ⟨ha, hb⟩ := ih hrest
      exact ⟨⟨commonOf_left hsize, ha⟩, ⟨commonOf_right hsize, hb⟩⟩

/-- A shape is its own common shape with another one exactly if that stretches over it. -/
theorem commonReversed_eq_right {a b : Sizes} :
    commonReversed a b = some b ↔ StretchesReversed a b := by
  induction a generalizing b with
  | nil => simp [commonReversed, StretchesReversed]
  | cons x a ih =>
    cases b with
    | nil => simp [commonReversed, StretchesReversed]
    | cons y b =>
      show _ ↔ (x = y ∨ x = 1) ∧ StretchesReversed a b
      rw [commonReversed_cons, ← ih, ← commonOf_eq_right]
      constructor
      · rintro ⟨size, rest, hsize, hrest, heq⟩
        obtain ⟨rfl, rfl⟩ := List.cons.inj heq
        exact ⟨hsize, hrest⟩
      · rintro ⟨hsize, hrest⟩
        exact ⟨y, b, hsize, hrest, rfl⟩

/-! ## The common shape -/

/-- The rule for two aligned sizes does what the operators do. -/
theorem commonSize_eq_ok {x y size : Nat} :
    Rule.commonSize x y = .ok size ↔ commonOf x y = some size := by
  unfold Rule.commonSize commonOf
  split_ifs <;> simp [Rule.incompatible, Checked.refuse]

/-- Sizes that are aligned at their ends have the common sizes `c`, all of them given with the last
dimension first and with ones behind them up to a rank. -/
def CommonPadded (rank : Nat) (a b c : Sizes) : Prop :=
  List.Forall₂ (fun entry size => commonOf entry.1 entry.2 = some size)
    ((a ++ List.replicate (rank - a.length) 1).zip (b ++ List.replicate (rank - b.length) 1)) c

theorem commonPadded_nil_left {b c : Sizes} : CommonPadded b.length [] b c ↔ c = b := by
  unfold CommonPadded
  rw [Nat.sub_self, List.nil_append, List.length_nil, Nat.sub_zero, List.replicate_zero,
    List.append_nil]
  induction b generalizing c with
  | nil => exact List.forall₂_nil_left_iff
  | cons y b ih =>
    rw [List.length_cons, List.replicate_succ, List.zip_cons_cons, List.forall₂_cons_left_iff]
    -- Padding stretches over anything, so that the other shape stays as it is.
    have hone : ∀ size, commonOf 1 y = some size ↔ size = y := by
      intro size
      rw [commonOf_eq_right.mpr (.inr rfl), Option.some.injEq]
      exact eq_comm
    simp only [hone, ih]
    constructor
    · rintro ⟨_, _, rfl, rfl, rfl⟩
      rfl
    · rintro rfl
      exact ⟨y, b, rfl, rfl, rfl⟩

theorem commonOf_comm (x y : Nat) : commonOf x y = commonOf y x := by
  unfold commonOf
  split_ifs <;> simp_all

theorem commonPadded_comm {rank : Nat} {a b c : Sizes} :
    CommonPadded rank a b c ↔ CommonPadded rank b a c := by
  have hswap : ∀ a b : Sizes, CommonPadded rank a b c → CommonPadded rank b a c := by
    intro a b h
    unfold CommonPadded at h ⊢
    rw [← List.zip_swap, List.forall₂_map_left_iff]
    exact h.imp fun entry size hsize => (commonOf_comm _ _).trans hsize
  exact ⟨hswap a b, hswap b a⟩

theorem commonReversed_eq_some {a b c : Sizes} :
    commonReversed a b = some c ↔ CommonPadded (max a.length b.length) a b c := by
  induction a generalizing b c with
  | nil =>
    rw [commonReversed, List.length_nil, Nat.zero_max, commonPadded_nil_left, Option.some.injEq]
    exact eq_comm
  | cons x a ih =>
    cases b with
    | nil =>
      have hnil : commonReversed (x :: a) [] = some (x :: a) := rfl
      rw [hnil, List.length_nil, Nat.max_zero, commonPadded_comm, commonPadded_nil_left,
        Option.some.injEq, eq_comm]
    | cons y b =>
      have hmax : max (x :: a).length (y :: b).length = max a.length b.length + 1 := by
        rw [List.length_cons, List.length_cons, Nat.succ_max_succ]
      rw [commonReversed_cons, hmax]
      unfold CommonPadded at ih ⊢
      rw [List.length_cons, List.length_cons, Nat.add_sub_add_right, Nat.add_sub_add_right,
        List.cons_append, List.cons_append, List.zip_cons_cons, List.forall₂_cons_left_iff]
      simp only [← ih]

theorem reverse_padded (rank : Nat) (shape : Sizes) :
    (Rule.padded rank shape).reverse =
      shape.reverse ++ List.replicate (rank - shape.reverse.length) 1 := by
  unfold Rule.padded
  rw [List.reverse_append, List.reverse_replicate, List.length_reverse]

/-- **Both sides find the same common shape**, or neither finds one. -/
theorem broadcast_eq_ok {a b c : Sizes} :
    Rule.broadcast a b = .ok c ↔ commonShape? a b = some c := by
  have hlength : (Rule.padded (max a.length b.length) a).length =
      (Rule.padded (max a.length b.length) b).length := by
    rw [Rule.length_padded (Nat.le_max_left _ _), Rule.length_padded (Nat.le_max_right _ _)]
  have hcommon : commonShape? a b = some c ↔
      commonReversed a.reverse b.reverse = some c.reverse := by
    unfold commonShape?
    rw [Option.map_eq_some_iff]
    constructor
    · rintro ⟨reversed, hreversed, rfl⟩
      rw [hreversed, List.reverse_reverse]
    · intro h
      exact ⟨_, h, List.reverse_reverse c⟩
  -- Seen from the last dimension on, padding in front is padding behind.
  rw [hcommon, commonReversed_eq_some]
  unfold CommonPadded
  rw [Rule.broadcast_eq, mapM_eq_ok, ← List.forall₂_reverse_iff, List.zip_eq_zipWith,
    List.reverse_zipWith hlength, ← List.zip_eq_zipWith, reverse_padded, reverse_padded,
    List.length_reverse, List.length_reverse]
  simp only [commonSize_eq_ok]

/-- A shape is its own common shape with another one exactly if that stretches over it. -/
theorem commonShape_eq_right {a b : Sizes} : commonShape? a b = some b ↔ Stretches a b := by
  rw [stretches_iff_reversed, ← commonReversed_eq_right]
  unfold commonShape?
  rw [Option.map_eq_some_iff]
  constructor
  · rintro ⟨reversed, hreversed, rfl⟩
    rw [List.reverse_reverse] at hreversed ⊢
    exact hreversed
  · intro h
    exact ⟨_, h, List.reverse_reverse b⟩

/-- **A shape stretches over another one** in the sense of the rules exactly if a tensor of that
shape can be repeated to fill it. -/
theorem stretchesOver_iff {shape target : Sizes} :
    Rule.stretchesOver shape target = true ↔ Stretches shape target := by
  have hcommon : Rule.stretchesOver shape target = true ↔
      Rule.broadcast shape target = .ok target := by
    unfold Rule.stretchesOver
    cases Rule.broadcast shape target <;> simp
  rw [hcommon, broadcast_eq_ok, commonShape_eq_right]

theorem commonShape_stretches {a b c : Sizes} (h : commonShape? a b = some c) :
    Stretches a c ∧ Stretches b c := by
  unfold commonShape? at h
  obtain ⟨reversed, hreversed, rfl⟩ := Option.map_eq_some_iff.mp h
  rw [stretches_iff_reversed, stretches_iff_reversed, List.reverse_reverse]
  exact commonReversed_stretches hreversed

theorem Stretches.trans {a b c : Sizes} (h : Stretches a b) (h' : Stretches b c) :
    Stretches a c := by
  rw [stretches_iff_reversed] at *
  exact h.trans h'

theorem stretches_refl (sizes : Sizes) : Stretches sizes sizes := by
  rw [stretches_iff_reversed]
  exact stretchesReversed_refl _

/-! ## Elements in step -/

/-- **Three shapes have the common shape that folding the operators' twice gives.** -/
theorem broadcast3_eq_ok {a b c d : Sizes} :
    Rule.broadcast3 a b c = .ok d ↔
      ((commonShape? a b).bind fun both => commonShape? both c) = some d := by
  unfold Rule.broadcast3
  rw [bind_eq_ok, Option.bind_eq_some_iff]
  simp only [broadcast_eq_ok]

/-- A rule that answers with what an operator requires is followed by the requirement. -/
theorem requireCommon_alike {rule : ShapeResult Sizes} {common : Option Sizes}
    (h : ∀ sizes, rule = .ok sizes ↔ common = some sizes) :
    Alike (fun named found => named = found ∧ common = some found) rule (requireCommon common) := by
  cases common with
  | some sizes =>
    rw [(h sizes).mpr rfl]
    exact ⟨rfl, rfl⟩
  | none =>
    cases rule with
    | error failure => exact alike_error_error
    | ok sizes => cases (h sizes).mp rfl

variable {α β γ : Type}

/-- **Combining two tensors follows the rule for their common shape.** -/
theorem zip2_alike (a : Tensor α) (b : Tensor β) (f : α → β → γ) :
    Alike HasSizes (Rule.broadcast a.sizes b.sizes) (zip2 a b f) := by
  unfold zip2
  apply (requireCommon_alike fun _ => broadcast_eq_ok).bind_right
  rintro sizes _ ⟨rfl, hcommon⟩
  obtain ⟨ha, hb⟩ := commonShape_stretches hcommon
  apply (answers_broadcastTo ha).bind
  intro left (hleft : left.sizes = sizes)
  apply (answers_broadcastTo hb).bind
  intro right (hright : right.sizes = sizes)
  apply answers_ofData
  rw [Array.size_zipWith, left.size_data, right.size_data, hleft, hright, Nat.min_self]

/-- **Combining three tensors follows the rule for their common shape.** -/
theorem zip3_alike (a b c : Tensor α) (f : α → α → α → γ) :
    Alike HasSizes (Rule.broadcast3 a.sizes b.sizes c.sizes) (zip3 a b c f) := by
  unfold zip3
  apply (requireCommon_alike fun _ => broadcast3_eq_ok).bind_right
  rintro sizes _ ⟨rfl, hcommon⟩
  obtain ⟨both, hboth, hall⟩ := Option.bind_eq_some_iff.mp hcommon
  obtain ⟨ha, hb⟩ := commonShape_stretches hboth
  obtain ⟨hboth, hc⟩ := commonShape_stretches hall
  -- The first two stretch over their own common shape, and that one over the shape of all three.
  apply (answers_broadcastTo (ha.trans hboth)).bind
  intro first (hfirst : first.sizes = sizes)
  apply (answers_broadcastTo (hb.trans hboth)).bind
  intro second (hsecond : second.sizes = sizes)
  apply (answers_broadcastTo hc).bind
  intro third (hthird : third.sizes = sizes)
  apply answers_ofData
  rw [Array.size_zipWith, Array.size_zip, first.size_data, second.size_data, third.size_data,
    hfirst, hsecond, hthird, Nat.min_self, Nat.min_self]

end OpShape.Operator

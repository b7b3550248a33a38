/-
# `OpShape.Proofs.Rule.Broadcast` — the common shape is the least one.

Stretching orders shapes: a shape is below another one if it stretches over it.  Two shapes have a
common shape exactly if some shape lies above both, and then their common shape is the least of
those.  All that is said here of three shapes, in any order and grouping, follows from this alone,
since the least shape above some shapes depends on nothing but which shapes they are.

`ExpandsTo` says the same in terms of the rule for expansion: the sizes that are asked for are those
of the target, taken as signed words.
-/
import OpShape.Proofs.Operator.Broadcast

namespace OpShape.Rule

open Operator (Aligned Stretches StretchesReversed broadcast_eq_ok commonOf commonOf_eq_right
  commonOf_left commonReversed commonReversed_cons commonShape? commonShape_eq_right
  commonShape_stretches stretches_iff_reversed)

/-! ## Stretching orders shapes -/

theorem stretchesReversed_antisymm {a b : Sizes} (h : StretchesReversed a b)
    (h' : StretchesReversed b a) : a = b := by
  induction a generalizing b with
  | nil =>
    cases b with
    | nil => rfl
    | cons y b => exact h'.elim
  | cons x a ih =>
    cases b with
    | nil => exact h.elim
    | cons y b =>
      obtain ⟨hxy, hab⟩ := h
      obtain ⟨hyx, hba⟩ := h'
      have hsize : x = y := by omega
      rw [hsize, ih hab hba]

theorem stretches_antisymm {a b : Sizes} (h : Stretches a b) (h' : Stretches b a) : a = b := by
  rw [stretches_iff_reversed] at h h'
  exact List.reverse_injective (stretchesReversed_antisymm h h')

/-- Two sizes that both stretch to a third one have a common size, and that does so as well. -/
theorem commonOf_least {x y z : Nat} (hx : x = z ∨ x = 1) (hy : y = z ∨ y = 1) :
    ∃ size, commonOf x y = some size ∧ (size = z ∨ size = 1) := by
  unfold commonOf
  split_ifs with hsame hone hone'
  · exact ⟨x, rfl, hx⟩
  · exact ⟨y, rfl, hy⟩
  · exact ⟨x, rfl, hx⟩
  · exact absurd ((hx.resolve_right hone).trans (hy.resolve_right hone').symm) hsame

theorem commonReversed_least {a b d : Sizes} (ha : StretchesReversed a d)
    (hb : StretchesReversed b d) :
    ∃ c, commonReversed a b = some c ∧ StretchesReversed c d := by
  induction a generalizing b d with
  | nil => exact ⟨b, by rw [commonReversed], hb⟩
  | cons x a ih =>
    cases b with
    | nil => exact ⟨x :: a, rfl, ha⟩
    | cons y b =>
      cases d with
      | nil => exact ha.elim
      | cons z d =>
        obtain ⟨hx, ha⟩ := ha
        obtain ⟨hy, hb⟩ := hb
        obtain ⟨size, hsize, hle⟩ := commonOf_least hx hy
        obtain ⟨rest, hrest, hstretch⟩ := ih ha hb
        exact ⟨size :: rest, commonReversed_cons.mpr ⟨size, rest, hsize, hrest, rfl⟩, hle, hstretch⟩

/-! ## Least shapes -/

/-- **`IsLeastOver shapes least`** — all of `shapes` stretch over `least`, and `least` stretches over
every other shape of that kind. -/
structure IsLeastOver (shapes : List Sizes) (least : Sizes) : Prop where
  above : ∀ shape ∈ shapes, Stretches shape least
  least : ∀ target, (∀ shape ∈ shapes, Stretches shape target) → Stretches least target

namespace IsLeastOver

variable {shapes others : List Sizes} {a b c d : Sizes}

theorem unique (h : IsLeastOver shapes a) (h' : IsLeastOver shapes b) : a = b :=
  stretches_antisymm (h.least b h'.above) (h'.least a h.above)

/-- Which shape is the least depends only on the shapes over which all of them stretch. -/
theorem congr (hsame : ∀ target, (∀ shape ∈ shapes, Stretches shape target) ↔
    ∀ shape ∈ others, Stretches shape target) :
    IsLeastOver shapes a ↔ IsLeastOver others a := by
  constructor
  · rintro ⟨habove, hleast⟩
    exact ⟨(hsame a).mp habove, fun target htarget => hleast target ((hsame target).mpr htarget)⟩
  · rintro ⟨habove, hleast⟩
    exact ⟨(hsame a).mpr habove, fun target htarget => hleast target ((hsame target).mp htarget)⟩

/-- It does not matter in which order the shapes are listed. -/
theorem perm (h : shapes.Perm others) : IsLeastOver shapes a ↔ IsLeastOver others a := by
  apply congr
  intro target
  simp only [h.mem_iff]

/-- Two shapes may be replaced by the least shape over both. -/
theorem merge (h : IsLeastOver [a, b] c) (rest : List Sizes) :
    IsLeastOver (c :: rest) d ↔ IsLeastOver (a :: b :: rest) d := by
  apply congr
  intro target
  have hpair : Stretches c target ↔ Stretches a target ∧ Stretches b target := by
    obtain ⟨ha, hb⟩ : Stretches a c ∧ Stretches b c := by simpa using h.above
    refine ⟨fun hc => ⟨ha.trans hc, hb.trans hc⟩, ?_⟩
    rintro ⟨ha, hb⟩
    exact h.least target (by simp [ha, hb])
  simp only [List.forall_mem_cons, hpair, and_assoc]

end IsLeastOver

/-- Where a shape lies above both, there is a common shape, and it lies below that one. -/
theorem broadcast_below {a b d : Sizes} (ha : Stretches a d) (hb : Stretches b d) :
    ∃ c, broadcast a b = .ok c ∧ Stretches c d := by
  rw [stretches_iff_reversed] at ha hb
  obtain ⟨c, hc, hstretch⟩ := commonReversed_least ha hb
  refine ⟨c.reverse, broadcast_eq_ok.mpr ?_, ?_⟩
  · unfold commonShape?
    rw [hc, Option.map_some]
  · rwa [stretches_iff_reversed, List.reverse_reverse]

/-- **The common shape of two shapes is the least one over which both stretch.** -/
theorem broadcast_eq_ok_iff_least {a b c : Sizes} :
    broadcast a b = .ok c ↔ IsLeastOver [a, b] c := by
  have hleast : ∀ {c}, broadcast a b = .ok c → IsLeastOver [a, b] c := by
    intro c hc
    obtain ⟨ha, hb⟩ := commonShape_stretches (broadcast_eq_ok.mp hc)
    refine ⟨by simp [ha, hb], ?_⟩
    intro target htarget
    obtain ⟨ha, hb⟩ : Stretches a target ∧ Stretches b target := by simpa using htarget
    obtain ⟨c', hc', hbelow⟩ := broadcast_below ha hb
    obtain rfl := Except.ok.inj (hc.symm.trans hc')
    exact hbelow
  refine ⟨hleast, fun h => ?_⟩
  obtain ⟨ha, hb⟩ : Stretches a c ∧ Stretches b c := by simpa using h.above
  obtain ⟨c', hc', -⟩ := broadcast_below ha hb
  rw [hc', (hleast hc').unique h]

/-- **Three shapes have the least one over which all of them stretch**, whichever two of them come
first. -/
theorem broadcast3_eq_ok_iff_least {a b c d : Sizes} :
    broadcast3 a b c = .ok d ↔ IsLeastOver [a, b, c] d := by
  unfold broadcast3
  simp only [bind_eq_ok, broadcast_eq_ok_iff_least]
  constructor
  · rintro ⟨e, he, hd⟩
    exact (he.merge [c]).mp hd
  · intro h
    obtain ⟨ha, hb, -⟩ : Stretches a d ∧ Stretches b d ∧ Stretches c d := by simpa using h.above
    obtain ⟨e, he, -⟩ := broadcast_below ha hb
    have hleast := broadcast_eq_ok_iff_least.mp he
    exact ⟨e, hleast, (hleast.merge [c]).mpr h⟩

theorem broadcast_last_eq_ok_iff_least {a b c d : Sizes} :
    (do broadcast a (← broadcast b c)) = .ok d ↔ IsLeastOver [a, b, c] d := by
  -- The common shape of two shapes is the same in either order.
  have hswap : ∀ e, broadcast a e = .ok d ↔ broadcast e a = .ok d := by
    intro e
    rw [broadcast_eq_ok_iff_least, broadcast_eq_ok_iff_least, IsLeastOver.perm (.swap e a [])]
  have hrotate : [b, c, a].Perm [a, b, c] := List.perm_append_singleton a [b, c]
  rw [← IsLeastOver.perm hrotate, ← broadcast3_eq_ok_iff_least]
  unfold broadcast3
  simp only [bind_eq_ok, hswap]

/-! ## Shapes without a common one -/

/-- The only reason for which there is no common shape. -/
def noCommonShape : Failure ShapeError :=
  .error (.incompatibleShapes "sizes must be equal or 1 at each non-singleton dimension")

theorem broadcast_eq_error {a b : Sizes} {failure : Failure ShapeError}
    (h : broadcast a b = .error failure) : failure = noCommonShape := by
  rw [broadcast_eq] at h
  obtain ⟨_, entry, _, -, -, hsizes⟩ := mapM_eq_error.mp h
  unfold commonSize at hsizes
  split_ifs at hsizes
  exact (Except.error.inj hsizes).symm

theorem broadcast_bind_eq_error {a b : Sizes} {f : Sizes → ShapeResult Sizes}
    (hf : ∀ c failure, f c = .error failure → failure = noCommonShape)
    {failure : Failure ShapeError} (h : (broadcast a b >>= f) = .error failure) :
    failure = noCommonShape := by
  cases hab : broadcast a b with
  | error e =>
    rw [hab] at h
    obtain rfl := Except.error.inj h
    exact broadcast_eq_error hab
  | ok c =>
    rw [hab] at h
    exact hf c failure h

/-- Two computations that fail for one reason only are the same if they answer the same. -/
theorem eq_of_eq_ok_iff {ε α : Type} {x y : Except ε α} {failure : ε}
    (hx : ∀ e, x = .error e → e = failure) (hy : ∀ e, y = .error e → e = failure)
    (h : ∀ a, x = .ok a ↔ y = .ok a) : x = y := by
  cases x with
  | ok a => exact ((h a).mp rfl).symm
  | error e =>
    cases y with
    | ok a => exact (h a).mpr rfl
    | error d => rw [hx e rfl, hy d rfl]

/-- **The common shape of three shapes does not depend on their order or grouping**, and where there
is none the reason does not either. -/
theorem broadcast3_perm {a b c x y z : Sizes} (h : [x, y, z].Perm [a, b, c]) :
    broadcast3 x y z = broadcast3 a b c ∧
      (do broadcast x (← broadcast y z)) = broadcast3 a b c := by
  have hbroadcast3 : ∀ x y z failure, broadcast3 x y z = .error failure → failure = noCommonShape :=
    fun x y z failure => broadcast_bind_eq_error fun _ _ => broadcast_eq_error
  constructor
  · apply eq_of_eq_ok_iff (hbroadcast3 x y z) (hbroadcast3 a b c)
    intro d
    rw [broadcast3_eq_ok_iff_least, broadcast3_eq_ok_iff_least, IsLeastOver.perm h]
  · apply eq_of_eq_ok_iff (fun _ => broadcast_bind_eq_error fun _ _ => broadcast_eq_error)
      (hbroadcast3 a b c)
    intro d
    rw [broadcast_last_eq_ok_iff_least, broadcast3_eq_ok_iff_least, IsLeastOver.perm h]

/-! ## Expansion -/

/-- **`ExpandsTo shape target`** — expansion answers with `target` where its sizes are asked for, each
of them taken as a signed word. -/
def ExpandsTo (shape target : Sizes) : Prop :=
  expand shape (target.map signed) = .ok target

/-- A new dimension gets the size that it is asked for exactly if that is no negative word. -/
theorem expandedSize_new {size : Nat} :
    expandedSize none (signed size) = .ok size ↔ size < 2 ^ 63 := by
  unfold expandedSize
  dsimp only
  constructor
  · intro h
    split_ifs at h with hkeep hneg
    · cases h
    · cases h
    · have hsize := Except.ok.inj h
      have hlt := signed_lt size
      omega
  · intro h
    rw [signed_of_lt h, if_neg (by omega), if_neg (by omega), Int.toNat_natCast]

/-- A dimension that is there gets it exactly if its own size stretches as well. -/
theorem expandedSize_old {current size : Nat} (hcurrent : current < 2 ^ 63) :
    expandedSize (some current) (signed size) = .ok size ↔
      (current = size ∨ current = 1) ∧ size < 2 ^ 63 := by
  unfold expandedSize
  dsimp only
  rw [signed_of_lt hcurrent]
  constructor
  · intro h
    have hlt := signed_lt size
    split_ifs at h with hkeep hneg hsame hone
    · obtain rfl := Except.ok.inj h
      exact ⟨.inl rfl, hcurrent⟩
    · cases h
    · obtain rfl := Except.ok.inj h
      exact ⟨.inl rfl, hcurrent⟩
    · have hsize := Except.ok.inj h
      exact ⟨.inr hone, by omega⟩
    · cases h
  · rintro ⟨hstretch, hsize⟩
    rw [signed_of_lt hsize, if_neg (by omega), if_neg (by omega)]
    by_cases hsame : current = size
    · rw [if_pos (by omega), hsame]
    · rw [if_neg (by omega), if_pos (hstretch.resolve_left hsame), Int.toNat_natCast]

/-- A dimension that is asked for a size below the half range gets it exactly if its own size, which
may be any word, stretches. -/
theorem expandedSize_word {current size : Nat} (hcurrent : current < 2 ^ 64)
    (hsize : size < 2 ^ 63) :
    expandedSize (some current) (signed size) = .ok size ↔
      (current = size ∨ current = 1) ∧ size < 2 ^ 63 := by
  have hsame : signed current = size ↔ current = size := by
    have hword := Operator.signed_eq_iff hcurrent (Int.natCast_nonneg size) (by omega)
    rwa [Int.toNat_natCast] at hword
  unfold expandedSize
  dsimp only
  rw [signed_of_lt hsize, if_neg (by omega), if_neg (by omega), and_iff_left hsize, ← hsame]
  by_cases heq : signed current = size
  · rw [if_pos heq]
    exact iff_of_true (congrArg Except.ok (hsame.mp heq)) (.inl heq)
  · rw [if_neg heq, or_iff_right heq]
    by_cases hone : current = 1
    · rw [if_pos hone, Int.toNat_natCast]
      exact iff_of_true rfl hone
    · rw [if_neg hone]
      exact iff_of_false (fun h => by cases h) hone

/-- The dimensions that are there get their sizes one by one. -/
theorem expandedSizes_old {shape target : Sizes} (hlength : target.length = shape.length)
    (hsizes : ∀ current ∈ shape, ∀ size ∈ target,
      expandedSize (some current) (signed size) = .ok size ↔
        (current = size ∨ current = 1) ∧ size < 2 ^ 63) :
    List.Forall₂ (fun (entry : Option Nat × Int) out => expandedSize entry.1 entry.2 = .ok out)
        ((shape.map some).zip (target.map signed)) target ↔
      Aligned shape target ∧ ∀ size ∈ target, size < 2 ^ 63 := by
  induction shape generalizing target with
  | nil =>
    rw [List.eq_nil_of_length_eq_zero hlength]
    simp
  | cons current shape ih =>
    cases target with
    | nil => cases hlength
    | cons size target =>
      simp only [List.forall_mem_cons] at hsizes
      have hrest := ih (Nat.succ.inj hlength) fun other hother => (hsizes.2 other hother).2
      unfold Aligned at hrest ⊢
      rw [List.map_cons, List.map_cons, List.zip_cons_cons, List.forall₂_cons, List.forall₂_cons,
        hrest, hsizes.1.1, List.forall_mem_cons]
      exact and_and_and_comm

/-- The same for all dimensions, of which the first `added` are new. -/
theorem expandedSizes_iff {added : Nat} {shape target : Sizes}
    (hlength : target.length = added + shape.length)
    (hsizes : ∀ current ∈ shape, ∀ size ∈ target,
      expandedSize (some current) (signed size) = .ok size ↔
        (current = size ∨ current = 1) ∧ size < 2 ^ 63) :
    List.Forall₂ (fun (entry : Option Nat × Int) out => expandedSize entry.1 entry.2 = .ok out)
        ((List.replicate added none ++ shape.map some).zip (target.map signed)) target ↔
      Aligned shape (target.drop added) ∧ ∀ size ∈ target, size < 2 ^ 63 := by
  induction added generalizing target with
  | zero => exact expandedSizes_old (by rw [hlength, Nat.zero_add]) hsizes
  | succ added ih =>
    cases target with
    | nil =>
      rw [List.length_nil] at hlength
      omega
    | cons size target =>
      have hrest := @ih target (by rw [List.length_cons] at hlength; omega)
        fun current hcurrent other hother =>
          hsizes current hcurrent other (List.mem_cons_of_mem size hother)
      rw [List.replicate_succ, List.cons_append, List.map_cons, List.zip_cons_cons,
        List.forall₂_cons, hrest, expandedSize_new, List.drop_succ_cons, List.forall_mem_cons]
      exact and_left_comm

theorem expandsTo_iff_of_sizes {shape target : Sizes}
    (hsizes : ∀ current ∈ shape, ∀ size ∈ target,
      expandedSize (some current) (signed size) = .ok size ↔
        (current = size ∨ current = 1) ∧ size < 2 ^ 63) :
    ExpandsTo shape target ↔ Stretches shape target ∧ ∀ size ∈ target, size < 2 ^ 63 := by
  unfold ExpandsTo Stretches
  rw [expand_eq, List.length_map]
  by_cases hrank : target.length < shape.length
  · rw [if_pos hrank]
    constructor
    · intro h
      cases h
    · rintro ⟨⟨hle, -⟩, -⟩
      omega
  · rw [if_neg hrank, mapM_eq_ok, expandedSizes_iff (by omega) hsizes,
      and_iff_right (Nat.not_lt.mp hrank)]

/-- **A shape expands to those shapes of words over which it stretches.** -/
theorem expandsTo_iff {shape target : Sizes} (hshape : ∀ size ∈ shape, size < 2 ^ 63) :
    ExpandsTo shape target ↔ Stretches shape target ∧ ∀ size ∈ target, size < 2 ^ 63 :=
  expandsTo_iff_of_sizes fun current hcurrent _ _ => expandedSize_old (hshape current hcurrent)

/-- **Where no size is asked for that would be taken as negative**, a shape of any words expands
exactly to the shapes over which it stretches. -/
theorem expandsTo_iff_stretches {shape target : Sizes} (hshape : ∀ size ∈ shape, size < 2 ^ 64)
    (htarget : ∀ size ∈ target, size < 2 ^ 63) : ExpandsTo shape target ↔ Stretches shape target := by
  rw [expandsTo_iff_of_sizes fun current hcurrent size hsize =>
    expandedSize_word (hshape current hcurrent) (htarget size hsize)]
  exact and_iff_left htarget

/-- Common sizes are sizes of one of the shapes. -/
theorem mem_of_commonReversed {a b c : Sizes} (h : commonReversed a b = some c) {size : Nat}
    (hsize : size ∈ c) : size ∈ a ∨ size ∈ b := by
  induction a generalizing b c with
  | nil =>
    rw [commonReversed] at h
    obtain rfl := Option.some.inj h
    exact .inr hsize
  | cons x a ih =>
    cases b with
    | nil =>
      obtain rfl := Option.some.inj h
      exact .inl hsize
    | cons y b =>
      obtain ⟨common, rest, hcommon, hrest, rfl⟩ := commonReversed_cons.mp h
      rcases List.mem_cons.mp hsize with rfl | hmem
      · rcases commonOf_left hcommon with rfl | rfl
        · exact .inl List.mem_cons_self
        · rw [commonOf_eq_right.mpr (.inr rfl)] at hcommon
          exact .inr (Option.some.inj hcommon ▸ List.mem_cons_self)
      · exact (ih hrest hmem).imp (List.mem_cons_of_mem x) (List.mem_cons_of_mem y)

theorem mem_of_broadcast {a b c : Sizes} (h : broadcast a b = .ok c) {size : Nat}
    (hsize : size ∈ c) : size ∈ a ∨ size ∈ b := by
  have hcommon := broadcast_eq_ok.mp h
  unfold commonShape? at hcommon
  obtain ⟨reversed, hreversed, rfl⟩ := Option.map_eq_some_iff.mp hcommon
  have hmem := mem_of_commonReversed hreversed (List.mem_reverse.mp hsize)
  rwa [List.mem_reverse, List.mem_reverse] at hmem

/-- **Broadcasting is the least upper bound under expansion.**  Both shapes expand to their common
shape, and that one to every other shape to which both expand; there is none only where no shape at
all is such.  So a shape is its own common shape with another one exactly if that expands to it, and
three shapes are broadcast alike, or refused alike, in every order and grouping. -/
theorem broadcast_least_expansion {a b : Sizes} (ha : ∀ size ∈ a, size < 2 ^ 63)
    (hb : ∀ size ∈ b, size < 2 ^ 63) :
    (∀ c, broadcast a b = .ok c →
      ExpandsTo a c ∧ ExpandsTo b c ∧ ∀ d, ExpandsTo a d → ExpandsTo b d → ExpandsTo c d) ∧
    ((∃ failure, broadcast a b = .error failure) ↔ ¬ ∃ d, ExpandsTo a d ∧ ExpandsTo b d) ∧
    (broadcast a b = .ok b ↔ ExpandsTo a b) ∧
    ∀ c x y z, [x, y, z].Perm [a, b, c] →
      broadcast3 x y z = broadcast3 a b c ∧
        (do broadcast x (← broadcast y z)) = broadcast3 a b c := by
  have hcommon : ∀ c, broadcast a b = .ok c → ∀ size ∈ c, size < 2 ^ 63 := by
    intro c hc size hsize
    exact (mem_of_broadcast hc hsize).elim (ha size) (hb size)
  have hleast : ∀ c, broadcast a b = .ok c →
      ExpandsTo a c ∧ ExpandsTo b c ∧ ∀ d, ExpandsTo a d → ExpandsTo b d → ExpandsTo c d := by
    intro c hc
    have hlt := hcommon c hc
    obtain ⟨hac, hbc⟩ := commonShape_stretches (broadcast_eq_ok.mp hc)
    refine ⟨(expandsTo_iff ha).mpr ⟨hac, hlt⟩, (expandsTo_iff hb).mpr ⟨hbc, hlt⟩, ?_⟩
    intro d had hbd
    rw [expandsTo_iff ha] at had
    rw [expandsTo_iff hb] at hbd
    have hbelow := (broadcast_eq_ok_iff_least.mp hc).least d (by simp [had.1, hbd.1])
    exact (expandsTo_iff hlt).mpr ⟨hbelow, had.2⟩
  refine ⟨hleast, ?_, ?_, fun c x y z h => broadcast3_perm h⟩
  · constructor
    · rintro ⟨failure, hrefused⟩ ⟨d, had, hbd⟩
      rw [expandsTo_iff ha] at had
      rw [expandsTo_iff hb] at hbd
      obtain ⟨c, hc, -⟩ := broadcast_below had.1 hbd.1
      rw [hc] at hrefused
      cases hrefused
    · intro hnone
      cases hab : broadcast a b with
      | ok c => exact absurd ⟨c, (hleast c hab).1, (hleast c hab).2.1⟩ hnone
      | error failure => exact ⟨failure, rfl⟩
  · rw [expandsTo_iff ha, and_iff_left hb, broadcast_eq_ok, commonShape_eq_right]

/-- A row and a column meet in a matrix, to which both expand; sizes of two and three do not meet. -/
theorem broadcast_least_expansion_row_column :
    broadcast [3, 1] [4] = .ok [3, 4] ∧ ExpandsTo [3, 1] [3, 4] ∧ ExpandsTo [4] [3, 4] ∧
      (∀ d, ExpandsTo [3, 1] d → ExpandsTo [4] d → ExpandsTo [3, 4] d) ∧
      ¬ ∃ d, ExpandsTo [2] d ∧ ExpandsTo [3] d := by
  have hmeet : broadcast [3, 1] [4] = .ok [3, 4] := by decide
  have hrefused : broadcast [2] [3] = .error noCommonShape := by decide
  obtain ⟨hleast, -⟩ := broadcast_least_expansion (a := [3, 1]) (b := [4]) (by decide) (by decide)
  obtain ⟨-, hnone, -⟩ := broadcast_least_expansion (a := [2]) (b := [3]) (by decide) (by decide)
  obtain ⟨ha, hb, hbelow⟩ := hleast [3, 4] hmeet
  exact ⟨hmeet, ha, hb, hbelow, hnone.mp ⟨_, hrefused⟩⟩

end OpShape.Rule

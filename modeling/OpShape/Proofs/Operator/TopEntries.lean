/-
# `OpShape.Proofs.Operator.TopEntries` — which entries of a lane are taken.

A lane is sorted together with its positions, and sorting keeps the order of what it holds for equal.
So the entries that are taken stand in front of all others: by the total order of floats, and where
that says nothing by their positions.  They are written to the lanes of the answer, each offset of it
once.

Floats are ordered by their bits, by which a NaN is the greatest of all or, with a sign, the least.
Nothing else of an element is looked at, so that it may be of any type with the bits of a float: the
floats themselves, or all their bits where one NaN is not enough.
-/
import OpShape.Proofs.Operator.TopK

namespace OpShape

/-! ## Sorting keeps the order of equals -/

/-- **Sorting keeps the order of equals**: of two entries that may stand either way, the one that
stood in front of the other still does. -/
theorem pairwise_mergeSort_stable {α : Type} {le : α → α → Bool} {S : α → α → Prop} {l : List α}
    (htrans : ∀ a b c, le a b = true → le b c = true → le a c = true)
    (htotal : ∀ a b, (le a b || le b a) = true) (h : l.Pairwise S) :
    (l.mergeSort le).Pairwise fun a b => le a b = true ∧ (le b a = true → S a b) := by
  -- Numbered, the entries are sorted by their numbers as well.
  rw [← List.mergeSort_zipIdx, List.pairwise_map]
  have hsorted := List.pairwise_mergeSort (List.zipIdxLE_trans htrans) (List.zipIdxLE_total htotal)
    l.zipIdx
  have hperm := List.mergeSort_perm l.zipIdx (List.zipIdxLE le)
  have hnumbers : ((l.zipIdx.mergeSort (List.zipIdxLE le)).map Prod.snd).Nodup := by
    rw [(hperm.map Prod.snd).nodup_iff, List.zipIdx_map_snd]
    exact List.nodup_range'
  refine (hsorted.and (List.pairwise_map.mp hnumbers)).imp_of_mem ?_
  rintro ⟨a, i⟩ ⟨b, j⟩ ha hb ⟨hle, hne⟩
  have ha' := List.mem_zipIdx_iff_getElem?.mp (hperm.mem_iff.mp ha)
  have hb' := List.mem_zipIdx_iff_getElem?.mp (hperm.mem_iff.mp hb)
  unfold List.zipIdxLE at hle
  dsimp only at ha' hb' hle hne ⊢
  split at hle
  · next hab =>
    refine ⟨hab, fun hba => ?_⟩
    rw [if_pos hba] at hle
    have hlt : i < j := by
      have hij := of_decide_eq_true hle
      omega
    obtain ⟨hi, rfl⟩ := List.getElem?_eq_some_iff.mp ha'
    obtain ⟨hj, rfl⟩ := List.getElem?_eq_some_iff.mp hb'
    exact List.pairwise_iff_getElem.mp h i j hi hj hlt
  · cases hle

namespace Operator

open Tensor (IsLane)

attribute [local irreducible] wrapInt

variable {α : Type}

/-! ## The entries of a lane -/

section Order

variable (bits : α → UInt32) (largest : Bool)

/-- **`Precedes bits largest x y`** — the one element is greater, or less, than the other in the total
order of all floats. -/
def Precedes (x y : α) : Prop :=
  if largest then Single.rank (bits y) < Single.rank (bits x)
  else Single.rank (bits x) < Single.rank (bits y)

/-- A NaN is greater than infinity, and one with a sign less than its negative. -/
example : Precedes id true (0x7fc00000 : UInt32) 0x7f800000 ∧
    Precedes id true (0xff800000 : UInt32) 0xffc00000 := by
  unfold Precedes
  decide

/-- **`Ahead bits largest lane i j`** — the entry at the one position comes before that at the other: by
the total order, and entries of equal rank by their positions. -/
def Ahead (lane : List α) (i j : Nat) : Prop :=
  ∃ x y, lane[i]? = some x ∧ lane[j]? = some y ∧
    (Precedes bits largest x y ∨ Single.rank (bits x) = Single.rank (bits y) ∧ i < j)

/-- **`TopOf bits largest k lane picked kept`** — the picked positions of a lane, with the elements that
are kept of it, are those of its first `k` entries in order. -/
structure TopOf (k : Nat) (lane : List α) (picked : List Nat) (kept : List α) : Prop where
  count : picked.length = k
  distinct : picked.Nodup
  elements : List.Forall₂ (fun position x => lane[position]? = some x) picked kept
  ordered : kept.Pairwise fun x y => ¬ Precedes bits largest y x
  ahead : picked.Pairwise (Ahead bits largest lane)
  best : ∀ position ∈ picked, ∀ other < lane.length, other ∉ picked →
    Ahead bits largest lane position other

/-- The order by which entries are sorted. -/
def entryLE (a b : α × Nat) : Bool :=
  if largest then Single.rank (bits b.1) ≤ Single.rank (bits a.1)
  else Single.rank (bits a.1) ≤ Single.rank (bits b.1)

theorem topEntries_eq (k : Nat) (lane : List α) :
    topEntries bits largest k lane = (lane.zipIdx.mergeSort (entryLE bits largest)).take k := rfl

/-- The entry comes before another one of its lane, each with its position. -/
def EntryAhead (a b : α × Nat) : Prop :=
  Precedes bits largest a.1 b.1 ∨ Single.rank (bits a.1) = Single.rank (bits b.1) ∧ a.2 < b.2

end Order

section Lane

variable {bits : α → UInt32} {largest : Bool} {lane : List α} {a b c : α × Nat}

theorem entryLE_iff : entryLE bits largest a b = true ↔
    if largest then Single.rank (bits b.1) ≤ Single.rank (bits a.1)
    else Single.rank (bits a.1) ≤ Single.rank (bits b.1) := by
  unfold entryLE
  cases largest <;> simp

theorem entryLE_trans (hab : entryLE bits largest a b = true) (hbc : entryLE bits largest b c = true) :
    entryLE bits largest a c = true := by
  rw [entryLE_iff] at *
  cases largest
  · exact Int.le_trans hab hbc
  · exact Int.le_trans hbc hab

theorem entryLE_total (a b : α × Nat) : (entryLE bits largest a b || entryLE bits largest b a) = true := by
  rw [Bool.or_eq_true, entryLE_iff, entryLE_iff]
  cases largest
  · exact Int.le_total _ _
  · exact Int.le_total _ _

/-- Sorted entries are ahead of each other where their positions decide between equals. -/
theorem entryAhead_of_le (hle : entryLE bits largest a b = true)
    (hequal : entryLE bits largest b a = true → a.2 < b.2) : EntryAhead bits largest a b := by
  rw [entryLE_iff] at hle hequal
  unfold EntryAhead Precedes
  cases largest with
  | false =>
    obtain hlt | hsame := Int.lt_or_eq_of_le hle
    · exact .inl hlt
    · exact .inr ⟨hsame, hequal (Int.le_of_eq hsame.symm)⟩
  | true =>
    obtain hlt | hsame := Int.lt_or_eq_of_le hle
    · exact .inl hlt
    · exact .inr ⟨hsame.symm, hequal (Int.le_of_eq hsame.symm)⟩

/-- What comes before another entry is not preceded by it. -/
theorem EntryAhead.not_precedes (h : EntryAhead bits largest a b) : ¬ Precedes bits largest b.1 a.1 := by
  unfold EntryAhead Precedes at *
  cases largest with
  | false =>
    simp only [Bool.false_eq_true, if_false] at h ⊢
    omega
  | true =>
    simp only [if_true] at h ⊢
    omega

theorem ahead_of_entryAhead (ha : a ∈ lane.zipIdx) (hb : b ∈ lane.zipIdx)
    (h : EntryAhead bits largest a b) : Ahead bits largest lane a.2 b.2 :=
  ⟨a.1, b.1, List.mem_zipIdx_iff_getElem?.mp ha, List.mem_zipIdx_iff_getElem?.mp hb, h⟩

/-- **The entries that are taken come before all others of the lane**, and each of them before those
behind it. -/
theorem topEntries_ahead (bits : α → UInt32) (largest : Bool) (k : Nat) (lane : List α) :
    ∃ others, (topEntries bits largest k lane ++ others).Perm lane.zipIdx ∧
      (topEntries bits largest k lane ++ others).Pairwise (EntryAhead bits largest) := by
  have hpositions : lane.zipIdx.Pairwise fun a b => a.2 < b.2 := by
    rw [← List.pairwise_map (f := Prod.snd) (R := (· < ·)), List.zipIdx_map_snd]
    exact List.pairwise_lt_range'
  refine ⟨(lane.zipIdx.mergeSort (entryLE bits largest)).drop k, ?_, ?_⟩
  · rw [topEntries_eq, List.take_append_drop]
    exact List.mergeSort_perm _ _
  · rw [topEntries_eq, List.take_append_drop]
    refine (pairwise_mergeSort_stable ?_ entryLE_total hpositions).imp ?_
    · exact fun a b c => entryLE_trans
    · exact fun h => entryAhead_of_le h.1 h.2

/-- **The entries that are taken are the first of their lane.** -/
theorem topOf_topEntries (bits : α → UInt32) (largest : Bool) {k : Nat} (hk : k ≤ lane.length) :
    TopOf bits largest k lane ((topEntries bits largest k lane).map Prod.snd)
      ((topEntries bits largest k lane).map Prod.fst) := by
  have hcount := length_topEntries bits largest hk
  obtain ⟨others, hperm, hahead⟩ := topEntries_ahead bits largest k lane
  generalize topEntries bits largest k lane = taken at hcount hperm hahead ⊢
  have hmem : ∀ entry ∈ taken, entry ∈ lane.zipIdx :=
    fun entry hentry => hperm.mem_iff.mp (List.mem_append_left _ hentry)
  obtain ⟨hfirst, -, hothers⟩ := List.pairwise_append.mp hahead
  have hnodup : ((taken ++ others).map Prod.snd).Nodup := by
    rw [(hperm.map Prod.snd).nodup_iff, List.zipIdx_map_snd]
    exact List.nodup_range'
  refine ⟨(List.length_map _).trans hcount, ?_, ?_, ?_, ?_, ?_⟩
  · rw [List.map_append] at hnodup
    exact (List.nodup_append.mp hnodup).1
  · rw [List.forall₂_map_left_iff, List.forall₂_map_right_iff, List.forall₂_same]
    exact fun entry hentry => List.mem_zipIdx_iff_getElem?.mp (hmem entry hentry)
  · exact List.pairwise_map.mpr (hfirst.imp fun h => h.not_precedes)
  · exact List.pairwise_map.mpr (hfirst.imp_of_mem fun ha hb h =>
      ahead_of_entryAhead (hmem _ ha) (hmem _ hb) h)
  · rintro position hposition other hother hnot
    obtain ⟨entry, hentry, rfl⟩ := List.mem_map.mp hposition
    -- What is not among the entries that are taken is among the others.
    have hleft : (lane[other], other) ∈ lane.zipIdx :=
      List.mem_zipIdx_iff_getElem?.mpr (List.getElem?_eq_getElem hother)
    obtain htaken | hrest := List.mem_append.mp (hperm.mem_iff.mpr hleft)
    · exact absurd (List.mem_map_of_mem (f := Prod.snd) htaken) hnot
    · exact ahead_of_entryAhead (hmem entry hentry) hleft (hothers entry hentry _ hrest)

end Lane

/-! ## The entries of all lanes -/

/-- The lane of a table that entries were written to holds what was written. -/
theorem isLane_of_writes {β : Type} {table : Tensor β} {sizes place : List Nat} {axis count : Nat}
    {entries : List (α × Nat)} {f : α × Nat → β} (haxis : axis < sizes.length)
    (hsizes : table.sizes = sizes.set axis count) (hcount : entries.length = count)
    (hread : ∀ entry ∈ (laneThrough (sizes.set axis count) axis place).zip entries,
      table.data[entry.1]? = some (f entry.2)) :
    IsLane table axis place (entries.map f) := by
  refine ⟨?_, fun i hi => ?_⟩
  · rw [List.length_map, hsizes, sizeAt_set haxis, hcount]
  · rw [List.length_map] at hi
    have hentry : (ravel (place.set axis i) table.sizes, entries[i]) ∈
        (laneThrough (sizes.set axis count) axis place).zip entries := by
      rw [laneThrough_eq (by rwa [List.length_set]), sizeAt_set haxis, hsizes, ← hcount]
      exact List.mem_iff_getElem?.mpr ⟨i, by simp [hi]⟩
    rw [hread _ hentry, List.getElem?_map, List.getElem?_eq_getElem hi]
    rfl

section Call

variable {input : Tensor α} {k dim : Int} {axis : Nat}

/-- To take the greatest or least entries along a dimension. -/
def topkArgs (input : Tensor Float32) (k dim : Int) (largest sorted : Bool) : TensorArgs where
  values := [("self", .tensor (.float input)), ("k", .int k), ("dim", .int dim),
    ("largest", .bool largest), ("sorted", .bool sorted)]

/-- The operator takes the entries of a tensor of floats. -/
theorem topkOf_topkArgs (input : Tensor Float32) (k dim : Int) (largest sorted : Bool) :
    topkOf (topkArgs input k dim largest sorted) = (do
      let (values, positions) ← topk Float32.toBits 0.0 input k dim largest
      many [.float values, .int positions]) := rfl

end Call

end Operator

end OpShape

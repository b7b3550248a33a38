/-
# `OpShape.Proofs.Text.Parts` — texts that are put together can be taken apart.

No length stands in front of the parts of a text: where a part ends is told by the characters that
it cannot hold.  A part that holds no *stop* ends at the first stop.  The items of a list are told
one by one: behind each of them stands a comma or the mark that closes the list.
-/
import Mathlib.Data.List.Forall2
import OpShape.Text.Split

namespace OpShape.Text

variable {α : Type}

/-- **A part without stops ends where the first stop stands.** -/
theorem append_inj_of_stop {stop : Char → Prop} {x y r s : List Char} (hx : ∀ c ∈ x, ¬ stop c)
    (hy : ∀ c ∈ y, ¬ stop c) (hr : ∀ c ∈ r.head?, stop c) (hs : ∀ c ∈ s.head?, stop c)
    (h : x ++ r = y ++ s) : x = y ∧ r = s := by
  induction x generalizing y with
  | nil =>
    cases y with
    | nil => exact ⟨rfl, h⟩
    | cons d y =>
      obtain rfl : r = d :: (y ++ s) := h
      exact absurd (hr d rfl) (hy d List.mem_cons_self)
  | cons c x ih =>
    cases y with
    | nil =>
      obtain rfl : c :: (x ++ r) = s := h
      exact absurd (hs c rfl) (hx c List.mem_cons_self)
    | cons d y =>
      obtain ⟨rfl, htail⟩ := List.cons.inj h
      obtain ⟨rfl, hrest⟩ := ih (fun e he => hx e (List.mem_cons_of_mem c he))
        (fun e he => hy e (List.mem_cons_of_mem c he)) htail
      exact ⟨rfl, hrest⟩

/-! ## Items of a list -/

/-- Behind an item of a list stands a comma or the mark that closes the list. -/
def GoesOn (close : Char) (rest : List Char) : Prop :=
  ∃ c tail, rest = c :: tail ∧ (c = ',' ∨ c = close)

theorem GoesOn.head {close : Char} {rest : List Char} (h : GoesOn close rest) :
    ∀ c ∈ rest.head?, c = ',' ∨ c = close := by
  obtain ⟨d, tail, rfl, hd⟩ := h
  intro c hc
  obtain rfl : d = c := Option.some.inj hc
  exact hd

/-- **`Tells close x y p`** — two texts that start with the items `x` and `y` of a list are equal
only if `p` holds and they go on equally. -/
def Tells (close : Char) (x y : List Char) (p : Prop) : Prop :=
  ∀ r s, GoesOn close r → GoesOn close s → x ++ r = y ++ s → p ∧ r = s

/-- The items behind the first one. -/
def laterItems (write : α → List Char) (items : List α) : List Char :=
  items.flatMap fun item => ',' :: ' ' :: write item

theorem goesOn_laterItems (close : Char) (write : α → List Char) (items : List α)
    (rest : List Char) : GoesOn close (laterItems write items ++ close :: rest) := by
  cases items with
  | nil => exact ⟨close, rest, rfl, .inr rfl⟩
  | cons item items =>
    exact ⟨',', ' ' :: write item ++ laterItems write items ++ close :: rest,
      by simp [laterItems], .inl rfl⟩

theorem toList_joined_cons (write : α → String) (item : α) (items : List α) :
    (joined ", " ((item :: items).map write)).toList =
      (write item).toList ++ laterItems (fun item => (write item).toList) items := by
  induction items generalizing item with
  | nil => simp [laterItems]
  | cons next items ih =>
    rw [List.map_cons, List.map_cons, joined, ← List.map_cons, String.toList_append,
      String.toList_append, ih, laterItems, laterItems, List.flatMap_cons]
    simp

section Items

variable {close : Char} {write : α → List Char} {same : α → α → Prop} {xs ys : List α}
  {r s : List Char}

/-- **Items that are told from each other are told one by one**, and so is the end of the list. -/
theorem laterItems_tell (hclose : close ≠ ',')
    (hitems : ∀ x ∈ xs, ∀ y ∈ ys, Tells close (write x) (write y) (same x y))
    (h : laterItems write xs ++ close :: r = laterItems write ys ++ close :: s) :
    List.Forall₂ same xs ys ∧ r = s := by
  induction xs generalizing ys with
  | nil =>
    cases ys with
    | nil => exact ⟨.nil, (List.cons.inj h).2⟩
    | cons y ys => exact absurd (List.cons.inj h).1 hclose
  | cons x xs ih =>
    cases ys with
    | nil => exact absurd (List.cons.inj h).1.symm hclose
    | cons y ys =>
      have htail : write x ++ (laterItems write xs ++ close :: r) =
          write y ++ (laterItems write ys ++ close :: s) := by
        simpa [laterItems] using h
      obtain ⟨hxy, hrest⟩ := hitems x List.mem_cons_self y List.mem_cons_self _ _
        (goesOn_laterItems close write xs r) (goesOn_laterItems close write ys s) htail
      obtain ⟨hsame, hend⟩ := ih (fun x' hx' y' hy' => hitems x' (List.mem_cons_of_mem x hx') y'
        (List.mem_cons_of_mem y hy')) hrest
      exact ⟨.cons hxy hsame, hend⟩

end Items

theorem toList_bracketed (items : List String) :
    (bracketed items).toList = '[' :: ((joined ", " items).toList ++ [']']) := by
  simp [bracketed]

/-- **A list is told by its items**, if none of them can be taken for its end. -/
theorem joined_tells {close : Char} {write : α → String} {same : α → α → Prop} {xs ys : List α}
    {r s : List Char} (hclose : close ≠ ',')
    (hitems : ∀ x ∈ xs, ∀ y ∈ ys, Tells close (write x).toList (write y).toList (same x y))
    (hxs : ∀ x ∈ xs, ∀ t, (write x).toList ++ t ≠ close :: s)
    (hys : ∀ y ∈ ys, ∀ t, (write y).toList ++ t ≠ close :: r)
    (h : (joined ", " (xs.map write)).toList ++ close :: r =
      (joined ", " (ys.map write)).toList ++ close :: s) :
    List.Forall₂ same xs ys ∧ r = s := by
  cases xs with
  | nil =>
    cases ys with
    | nil => exact ⟨.nil, (List.cons.inj h).2⟩
    | cons y ys =>
      rw [toList_joined_cons, List.append_assoc] at h
      exact absurd h.symm (hys y List.mem_cons_self _)
  | cons x xs =>
    rw [toList_joined_cons, List.append_assoc] at h
    cases ys with
    | nil => exact absurd h (hxs x List.mem_cons_self _)
    | cons y ys =>
      rw [toList_joined_cons, List.append_assoc] at h
      obtain ⟨hxy, hrest⟩ := hitems x List.mem_cons_self y List.mem_cons_self _ _
        (goesOn_laterItems _ _ xs r) (goesOn_laterItems _ _ ys s) h
      obtain ⟨hsame, hend⟩ := laterItems_tell hclose (fun x' hx' y' hy' =>
        hitems x' (List.mem_cons_of_mem x hx') y' (List.mem_cons_of_mem y hy')) hrest
      exact ⟨.cons hxy hsame, hend⟩

end OpShape.Text

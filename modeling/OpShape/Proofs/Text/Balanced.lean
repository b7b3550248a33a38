/-
# `OpShape.Proofs.Text.Balanced` — texts whose brackets pair off.

A text is cut at the commas that stand outside of all brackets.  A part whose brackets pair off, and
whose commas stand inside of them, is passed over whole: behind it as many brackets are open as in
front of it.
-/
import Mathlib.Data.List.Basic
import OpShape.Proofs.Text.Cut

namespace OpShape.Text

/-- The brackets of either sort, in pairs. -/
def bracketPairs : List (Char × Char) :=
  [('(', ')'), ('[', ']')]

/-- Is the character a bracket of either sort? -/
def isBracket (c : Char) : Bool :=
  c ∈ ['(', ')', '[', ']']

/-- **The brackets of the text pair off**, each with one of its own sort.  Commas stand inside of
brackets, and outside of them as well if `commas` allows it. -/
inductive Balanced : Bool → List Char → Prop
  | nil {commas : Bool} : Balanced commas []
  | char {commas : Bool} {c : Char} {rest : List Char} :
      isBracket c = false → (c = ',' → commas = true) → Balanced commas rest →
        Balanced commas (c :: rest)
  | pair {commas : Bool} {bracket : Char × Char} {inner rest : List Char} :
      bracket ∈ bracketPairs → Balanced true inner → Balanced commas rest →
        Balanced commas (bracket.1 :: (inner ++ bracket.2 :: rest))

namespace Balanced

variable {commas : Bool} {x y : List Char}

/-- A text without brackets, and without commas where none are allowed. -/
theorem of_all (h : ∀ c ∈ x, isBracket c = false ∧ (c = ',' → commas = true)) :
    Balanced commas x := by
  induction x with
  | nil => exact .nil
  | cons c rest ih =>
    rw [List.forall_mem_cons] at h
    exact .char h.1.1 h.1.2 (ih h.2)

theorem append (hx : Balanced commas x) (hy : Balanced commas y) : Balanced commas (x ++ y) := by
  induction hx with
  | nil => exact hy
  | char hc hcomma _ ih => exact .char hc hcomma (ih hy)
  | pair hbracket hinner _ _ ih =>
    rw [List.cons_append, List.append_assoc, List.cons_append]
    exact .pair hbracket hinner (ih hy)

/-- A text in round brackets. -/
theorem round (hx : Balanced true x) : Balanced commas ('(' :: (x ++ [')'])) :=
  @pair _ ('(', ')') _ _ (by decide) hx .nil

/-- A text in square brackets. -/
theorem square (hx : Balanced true x) : Balanced commas ('[' :: (x ++ [']'])) :=
  @pair _ ('[', ']') _ _ (by decide) hx .nil

/-- Where commas may stand they need not. -/
theorem allowCommas (h : Balanced commas x) : Balanced true x := by
  induction h with
  | nil => exact .nil
  | char hc _ _ ih => exact .char hc (fun _ => rfl) ih
  | pair hbracket hinner _ _ ih => exact .pair hbracket hinner ih

/-- Parts with commas between them. -/
theorem intercalate {separator : List Char} (hseparator : Balanced true separator)
    {parts : List (List Char)} (hparts : ∀ part ∈ parts, Balanced commas part) :
    Balanced true (separator.intercalate parts) := by
  induction parts with
  | nil => exact .nil
  | cons part parts ih =>
    rw [List.forall_mem_cons] at hparts
    cases parts with
    | nil =>
      rw [List.intercalate_singleton]
      exact hparts.1.allowCommas
    | cons next parts =>
      rw [List.intercalate_cons_cons]
      exact (hparts.1.allowCommas.append hseparator).append (ih hparts.2)

end Balanced

/-! ## Commas outside of all brackets -/

theorem piecesFrom_ne_nil (mark : Char) (depth : Int) (text : List Char) :
    piecesFrom mark depth text ≠ [] := by
  cases text with
  | nil => simp [piecesFrom]
  | cons c rest =>
    unfold piecesFrom
    split
    · exact List.cons_ne_nil _ _
    · split <;> exact List.cons_ne_nil _ _

/-- A character that is no mark outside of all brackets belongs to the piece behind it. -/
theorem piecesFrom_cons {mark c : Char} {depth : Int} (h : ¬(c = mark ∧ depth = 0))
    (rest : List Char) : piecesFrom mark depth (c :: rest) =
      (piecesFrom mark (depthAfter depth c) rest).modifyHead (c :: ·) := by
  rw [piecesFrom, if_neg h]
  cases hpieces : piecesFrom mark (depthAfter depth c) rest with
  | nil => exact absurd hpieces (piecesFrom_ne_nil _ _ _)
  | cons piece others => rfl

theorem depthAfter_of_not_isBracket {c : Char} (h : isBracket c = false) (depth : Int) :
    depthAfter depth c = depth := by
  have hmem : c ∉ ['(', ')', '[', ']'] := of_decide_eq_false h
  simp only [List.mem_cons, List.not_mem_nil, or_false, not_or] at hmem
  obtain ⟨h1, h2, h3, h4⟩ := hmem
  rw [depthAfter, if_neg (by simp [h1, h3]), if_neg (by simp [h2, h4])]

theorem depthAfter_pair {bracket : Char × Char} (h : bracket ∈ bracketPairs) (depth : Int) :
    depthAfter depth bracket.1 = depth + 1 ∧ depthAfter depth bracket.2 = depth - 1 := by
  rcases List.mem_pair.mp h with rfl | rfl <;> exact ⟨rfl, rfl⟩

theorem bracket_ne_comma {bracket : Char × Char} (h : bracket ∈ bracketPairs) :
    bracket.1 ≠ ',' := by
  rcases List.mem_pair.mp h with rfl | rfl <;> decide

/-- **A text whose brackets pair off belongs to the piece behind it**, where its commas are inside
of brackets. -/
theorem Balanced.piecesFrom_append {commas : Bool} {text : List Char} (h : Balanced commas text)
    {depth : Int} (hdepth : 0 ≤ depth) (hcommas : commas = true → 0 < depth) (rest : List Char) :
    piecesFrom ',' depth (text ++ rest) =
      (piecesFrom ',' depth rest).modifyHead (text ++ ·) := by
  induction h generalizing depth rest with
  | nil => exact (congrFun List.modifyHead_id _).symm
  | @char commas c text hc hcomma _ ih =>
    have hmark : ¬(c = ',' ∧ depth = 0) := by
      rintro ⟨hmark, rfl⟩
      exact absurd (hcommas (hcomma hmark)) (Int.lt_irrefl 0)
    rw [List.cons_append, piecesFrom_cons hmark, depthAfter_of_not_isBracket hc,
      ih hdepth hcommas, List.modifyHead_modifyHead]
    rfl
  | @pair commas bracket inner text hbracket _ _ ihinner ihtext =>
    have hopen : ¬(bracket.1 = ',' ∧ depth = 0) := fun h => bracket_ne_comma hbracket h.1
    have hclose : ¬(bracket.2 = ',' ∧ depth + 1 = 0) := fun h => by omega
    have hdeeper : depthAfter depth bracket.1 = depth + 1 := (depthAfter_pair hbracket depth).1
    have hback : depthAfter (depth + 1) bracket.2 = depth := by
      rw [(depthAfter_pair hbracket _).2, Int.add_sub_cancel]
    calc piecesFrom ',' depth (bracket.1 :: (inner ++ bracket.2 :: text) ++ rest)
        = (piecesFrom ',' (depth + 1) (inner ++ bracket.2 :: (text ++ rest))).modifyHead
            (bracket.1 :: ·) := by
          rw [List.cons_append, piecesFrom_cons hopen, hdeeper, List.append_assoc,
            List.cons_append]
      _ = ((((piecesFrom ',' depth rest).modifyHead (text ++ ·)).modifyHead
            (bracket.2 :: ·)).modifyHead (inner ++ ·)).modifyHead (bracket.1 :: ·) := by
          rw [ihinner (by omega) (fun _ => by omega), piecesFrom_cons hclose, hback,
            ihtext hdepth hcommas]
      _ = (piecesFrom ',' depth rest).modifyHead
            (bracket.1 :: (inner ++ bracket.2 :: text) ++ ·) := by
          simp only [List.modifyHead_modifyHead]
          congr 1
          funext piece
          simp

theorem outerPieces_append {text : List Char} (h : Balanced false text) (rest : List Char) :
    outerPieces ',' (text ++ ',' :: rest) = text :: outerPieces ',' rest := by
  rw [outerPieces, h.piecesFrom_append (Int.le_refl 0) (fun hf => by cases hf), piecesFrom,
    if_pos ⟨rfl, rfl⟩, List.modifyHead_cons, List.append_nil, outerPieces]

theorem outerPieces_of_balanced {text : List Char} (h : Balanced false text) :
    outerPieces ',' text = [text] := by
  have hpieces := h.piecesFrom_append (Int.le_refl 0) (fun hf => by cases hf) []
  rw [List.append_nil, piecesFrom, List.modifyHead_cons, List.append_nil] at hpieces
  exact hpieces

/-- **A text is cut at its outer commas into the parts it was put together from.** -/
theorem outerPieces_intercalate {parts : List (List Char)} (hne : parts ≠ [])
    (hparts : ∀ part ∈ parts, Balanced false part) :
    outerPieces ',' ([','].intercalate parts) = parts :=
  cut_intercalate (fun _ h rest => outerPieces_append h rest)
    (fun _ h => outerPieces_of_balanced h) hne hparts

end OpShape.Text

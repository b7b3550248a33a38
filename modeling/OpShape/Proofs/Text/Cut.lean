/-
# `OpShape.Proofs.Text.Cut` — what is left when a text is cut.

Nothing behind the last mark is a mark, and trimming takes characters away without adding any.  A
text that is put together from solid parts, with a mark and a gap of blanks between them, is taken
apart into the same parts when it is cut at the mark and each piece is trimmed.
-/
import Mathlib.Data.List.Basic
import OpShape.Text.Blank
import OpShape.Text.Split

namespace OpShape.Text

/-! ## The last mark -/

theorem not_mem_of_cutLast_eq_none {mark : Char} {text : List Char} (h : cutLast mark text = none) :
    mark ∉ text := by
  induction text with
  | nil => exact List.not_mem_nil
  | cons c rest ih =>
    unfold cutLast at h
    cases hrest : cutLast mark rest with
    | some parts =>
      rw [hrest] at h
      cases h
    | none =>
      rw [hrest] at h
      rw [List.mem_cons, not_or]
      refine ⟨?_, ih hrest⟩
      rintro rfl
      rw [if_pos rfl] at h
      cases h

/-- **Behind the last mark there is none.** -/
theorem not_mem_of_cutLast {mark : Char} {text before after : List Char}
    (h : cutLast mark text = some (before, after)) : mark ∉ after := by
  induction text generalizing before with
  | nil => cases h
  | cons c rest ih =>
    unfold cutLast at h
    cases hrest : cutLast mark rest with
    | some parts =>
      rw [hrest] at h
      obtain ⟨-, rfl⟩ := Prod.mk.inj (Option.some.inj h)
      exact ih hrest
    | none =>
      rw [hrest] at h
      dsimp only at h
      split at h
      · obtain ⟨-, rfl⟩ := Prod.mk.inj (Option.some.inj h)
        exact not_mem_of_cutLast_eq_none hrest
      · cases h

/-! ## The first mark, and the first pair of marks -/

/-- A text is put together again from the parts into which it was cut. -/
theorem eq_of_cutFirst {mark : Char} {text before after : List Char}
    (h : cutFirst mark text = some (before, after)) : text = before ++ mark :: after := by
  induction text generalizing before with
  | nil => cases h
  | cons c rest ih =>
    unfold cutFirst at h
    split at h
    · next hc =>
      obtain ⟨rfl, rfl⟩ := Prod.mk.inj (Option.some.inj h)
      rw [hc]
      rfl
    · obtain ⟨parts, hparts, heq⟩ := Option.map_eq_some_iff.mp h
      obtain ⟨rfl, rfl⟩ := Prod.mk.inj heq
      rw [ih hparts]
      rfl

theorem eq_of_cutPair {first second : Char} {text before after : List Char}
    (h : cutPair first second text = some (before, after)) :
    text = before ++ first :: second :: after := by
  induction text generalizing before with
  | nil => cases h
  | cons c rest ih =>
    cases rest with
    | nil => cases h
    | cons d rest =>
      unfold cutPair at h
      split at h
      · next hmarks =>
        obtain ⟨rfl, rfl⟩ := Prod.mk.inj (Option.some.inj h)
        rw [hmarks.1, hmarks.2]
        rfl
      · obtain ⟨parts, hparts, heq⟩ := Option.map_eq_some_iff.mp h
        obtain ⟨rfl, rfl⟩ := Prod.mk.inj heq
        rw [ih hparts]
        rfl

theorem cutPair_append {first second : Char} {before : List Char} (h : first ∉ before)
    (after : List Char) :
    cutPair first second (before ++ first :: second :: after) = some (before, after) := by
  induction before with
  | nil =>
    rw [List.nil_append, cutPair, if_pos ⟨rfl, rfl⟩]
  | cons c rest ih =>
    rw [List.mem_cons, not_or] at h
    obtain ⟨d, tail, htail⟩ : ∃ d tail, rest ++ first :: second :: after = d :: tail :=
      List.exists_cons_of_ne_nil (List.append_ne_nil_of_right_ne_nil _ (List.cons_ne_nil _ _))
    rw [List.cons_append, htail, cutPair, if_neg (fun heq => h.1 heq.1.symm), ← htail, ih h.2]
    rfl

/-! ## Trimming -/

theorem mem_of_mem_trim {c : Char} {text : List Char} (h : c ∈ trim text) : c ∈ text := by
  unfold trim at h
  rw [List.mem_reverse] at h
  have hdropped := (List.dropWhile_sublist isBlank).mem h
  rw [List.mem_reverse] at hdropped
  exact (List.dropWhile_sublist isBlank).mem hdropped

/-- The text starts and ends with characters that are not blank. -/
structure Solid (text : List Char) : Prop where
  first : ∃ c ∈ text.head?, isBlank c = false
  last : ∃ c ∈ text.getLast?, isBlank c = false

namespace Solid

variable {x y : List Char}

theorem of_all (hne : x ≠ []) (h : ∀ c ∈ x, isBlank c = false) : Solid x where
  first := ⟨x.head hne, List.head?_eq_some_head hne, h _ (List.head_mem hne)⟩
  last := ⟨x.getLast hne, List.getLast?_eq_some_getLast hne, h _ (List.getLast_mem hne)⟩

/-- Between two solid texts anything may stand. -/
theorem around (hx : Solid x) (hy : Solid y) (middle : List Char) :
    Solid (x ++ (middle ++ y)) := by
  obtain ⟨c, hc, hfirst⟩ := hx.first
  obtain ⟨d, hd, hlast⟩ := hy.last
  refine ⟨⟨c, ?_, hfirst⟩, ⟨d, ?_, hlast⟩⟩
  · rw [List.head?_append, hc]
    rfl
  · rw [List.getLast?_append, List.getLast?_append, hd]
    rfl

/-- Between two marks that are not blank anything may stand. -/
theorem enclosed {start stop : Char} (hstart : isBlank start = false)
    (hstop : isBlank stop = false) (middle : List Char) : Solid (start :: (middle ++ [stop])) where
  first := ⟨start, rfl, hstart⟩
  last := by
    refine ⟨stop, ?_, hstop⟩
    rw [← List.cons_append, List.getLast?_concat]
    rfl

theorem ne_nil (h : Solid x) : x ≠ [] := by
  rintro rfl
  obtain ⟨c, hc, -⟩ := h.first
  cases hc

theorem trim_eq (h : Solid x) : trim x = x := by
  obtain ⟨c, hc, hfirst⟩ := h.first
  obtain ⟨d, hd, hlast⟩ := h.last
  refine trim_of_not_isBlank ?_ ?_
  · intro e he
    rwa [← Option.some.inj (hc.symm.trans he)]
  · intro e he
    rwa [← Option.some.inj (hd.symm.trans he)]

/-- Blanks in front of a solid text are taken away. -/
theorem trim_append (h : Solid x) {gap : List Char} (hgap : ∀ c ∈ gap, isBlank c = true) :
    trim (gap ++ x) = x := by
  calc trim (gap ++ x) = trim x := by rw [trim, List.dropWhile_append_of_pos hgap, trim]
    _ = x := h.trim_eq

end Solid

/-! ## Parts with marks between them -/

/-- A gap that stands behind each mark can be seen as the start of the part that follows. -/
theorem intercalate_gap (mark : Char) (gap part : List Char) (parts : List (List Char)) :
    (mark :: gap).intercalate (part :: parts) =
      [mark].intercalate (part :: parts.map (gap ++ ·)) := by
  -- The part in front is any text, because it takes up the gap behind the mark before it.
  suffices h : ∀ front, front ++ (mark :: gap).intercalate (part :: parts) =
      [mark].intercalate ((front ++ part) :: parts.map (gap ++ ·)) from h []
  induction parts generalizing part with
  | nil =>
    intro front
    rw [List.intercalate_singleton, List.map_nil, List.intercalate_singleton]
  | cons next parts ih =>
    intro front
    rw [List.intercalate_cons_cons, List.map_cons, List.intercalate_cons_cons, ← ih]
    simp only [List.append_assoc, List.cons_append, List.nil_append]

/-- **A text is cut into the parts it was put together from**, if each of them is one piece and ends
where the mark behind it stands. -/
theorem cut_intercalate {mark : Char} {cut : List Char → List (List Char)}
    {IsPiece : List Char → Prop}
    (happend : ∀ part, IsPiece part → ∀ rest, cut (part ++ mark :: rest) = part :: cut rest)
    (hlast : ∀ part, IsPiece part → cut part = [part])
    {parts : List (List Char)} (hne : parts ≠ []) (hparts : ∀ part ∈ parts, IsPiece part) :
    cut ([mark].intercalate parts) = parts := by
  induction parts with
  | nil => exact absurd rfl hne
  | cons part parts ih =>
    rw [List.forall_mem_cons] at hparts
    cases parts with
    | nil =>
      rw [List.intercalate_singleton]
      exact hlast part hparts.1
    | cons next parts =>
      rw [List.intercalate_cons_cons, List.append_assoc, List.singleton_append,
        happend part hparts.1, ih (List.cons_ne_nil _ _) hparts.2]

theorem pieces_intercalate {mark : Char} {parts : List (List Char)} (hne : parts ≠ [])
    (hparts : ∀ part ∈ parts, mark ∉ part) : pieces mark ([mark].intercalate parts) = parts :=
  cut_intercalate (fun _ h rest => pieces_append h rest) (fun _ h => pieces_of_not_mem h) hne
    hparts

/-- **A text is the pieces it is cut into, with the mark between them.** -/
theorem intercalate_pieces {mark : Char} {text : List Char} :
    [mark].intercalate (pieces mark text) = text := by
  induction text with
  | nil => rfl
  | cons c rest ih =>
    obtain ⟨piece, others, hrest⟩ := List.exists_cons_of_ne_nil (pieces_ne_nil mark rest)
    rw [hrest] at ih
    rw [pieces, hrest]
    split
    · next hc => rw [List.intercalate_cons_cons, ih, hc, List.nil_append, List.singleton_append]
    · cases others with
      | nil => rw [List.intercalate_singleton, ← ih, List.intercalate_singleton]
      | cons next others =>
        rw [← ih, List.intercalate_cons_cons, List.intercalate_cons_cons]
        simp only [List.cons_append]

/-- No piece holds the mark. -/
theorem not_mem_of_mem_pieces {mark : Char} {text piece : List Char}
    (h : piece ∈ pieces mark text) : mark ∉ piece := by
  induction text generalizing piece with
  | nil =>
    rw [List.mem_singleton.mp h]
    exact List.not_mem_nil
  | cons c rest ih =>
    obtain ⟨first, others, hrest⟩ := List.exists_cons_of_ne_nil (pieces_ne_nil mark rest)
    rw [pieces, hrest] at h
    rw [hrest] at ih
    split at h
    · rcases List.mem_cons.mp h with rfl | h
      · exact List.not_mem_nil
      · exact ih h
    · next hc =>
      rcases List.mem_cons.mp h with rfl | h
      · rw [List.mem_cons, not_or]
        exact ⟨Ne.symm hc, ih List.mem_cons_self⟩
      · exact ih (List.mem_cons_of_mem first h)

/-- Trimming takes the gaps in front of solid parts away. -/
theorem map_trim_gaps {gap part : List Char} {parts : List (List Char)}
    (hgap : ∀ c ∈ gap, isBlank c = true) (hparts : ∀ p ∈ part :: parts, Solid p) :
    (part :: parts.map (gap ++ ·)).map trim = part :: parts := by
  rw [List.forall_mem_cons] at hparts
  rw [List.map_cons, hparts.1.trim_eq, List.map_map]
  congr 1
  calc parts.map (trim ∘ (gap ++ ·)) = parts.map id :=
      List.map_congr_left fun p hp => (hparts.2 p hp).trim_append hgap
    _ = parts := List.map_id parts

/-- **A list that is cut at its marks and trimmed is taken apart into its solid parts**, whatever
cuts it. -/
theorem map_trim_cut {mark : Char} {gap : List Char} {cut : List Char → List (List Char)}
    {IsPiece : List Char → Prop}
    (hcut : ∀ parts, parts ≠ [] → (∀ part ∈ parts, IsPiece part) →
      cut ([mark].intercalate parts) = parts)
    (hblank : ∀ c ∈ gap, isBlank c = true) (hgap : ∀ part, IsPiece part → IsPiece (gap ++ part))
    {parts : List (List Char)} (hne : parts ≠ []) (hsolid : ∀ part ∈ parts, Solid part)
    (hparts : ∀ part ∈ parts, IsPiece part) :
    (cut ((mark :: gap).intercalate parts)).map trim = parts := by
  obtain ⟨part, parts, rfl⟩ := List.exists_cons_of_ne_nil hne
  rw [List.forall_mem_cons] at hparts
  have hpieces : ∀ p ∈ part :: parts.map (gap ++ ·), IsPiece p := by
    rw [List.forall_mem_cons, List.forall_mem_map]
    exact ⟨hparts.1, fun p hp => hgap p (hparts.2 p hp)⟩
  rw [intercalate_gap, hcut _ (List.cons_ne_nil _ _) hpieces, map_trim_gaps hblank hsolid]

/-- Between solid parts anything may stand. -/
theorem Solid.intercalate (separator : List Char) {parts : List (List Char)} (hne : parts ≠ [])
    (hparts : ∀ part ∈ parts, Solid part) : Solid (separator.intercalate parts) := by
  induction parts with
  | nil => exact absurd rfl hne
  | cons part parts ih =>
    rw [List.forall_mem_cons] at hparts
    cases parts with
    | nil =>
      rw [List.intercalate_singleton]
      exact hparts.1
    | cons next parts =>
      rw [List.intercalate_cons_cons, List.append_assoc]
      exact hparts.1.around (ih (List.cons_ne_nil _ _) hparts.2) separator

end OpShape.Text

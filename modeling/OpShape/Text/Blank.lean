/-
# `OpShape.Text.Blank` — white space and its removal.

A character is blank when it has the White_Space property of the Unicode character database.  There
are twenty-five such characters, none of them beyond the basic plane.
-/

namespace OpShape.Text

/-- Does the character count as white space? -/
def isBlank (c : Char) : Bool :=
  c == ' ' || ('\x09' ≤ c && c ≤ '\x0d') || c == '\u0085' || c == '\u00a0' || c == '\u1680' ||
    ('\u2000' ≤ c && c ≤ '\u200a') || c == '\u2028' || c == '\u2029' || c == '\u202f' ||
    c == '\u205f' || c == '\u3000'

/-- The text without the blanks before it and after it. -/
def trim (text : List Char) : List Char :=
  ((text.dropWhile isBlank).reverse.dropWhile isBlank).reverse

@[simp] theorem trim_nil : trim [] = [] := rfl

/-- A text that neither starts nor ends with a blank is left alone. -/
theorem trim_of_not_isBlank {text : List Char} (first : ∀ c ∈ text.head?, isBlank c = false)
    (last : ∀ c ∈ text.getLast?, isBlank c = false) : trim text = text := by
  have keep : ∀ {l : List Char}, (∀ c ∈ l.head?, isBlank c = false) →
      l.dropWhile isBlank = l := by
    intro l h
    cases l with
    | nil => rfl
    | cons c r => simp [List.dropWhile, h c (by simp)]
  rw [trim, keep first, keep, List.reverse_reverse]
  simpa using last

end OpShape.Text

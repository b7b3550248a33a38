/-
# `OpShape.Proofs.Text.Plain` — characters that structure no text.

A plain character is no blank, no bracket, no comma and no equals sign.  A text of plain characters
is never cut.  Letters, digits and underscores are plain.
-/
import OpShape.OpName
import OpShape.Proofs.Text.Balanced

namespace OpShape.Text

/-! ## Characters of a text -/

section Decide

variable {p : Char → Prop} [DecidablePred p]

/- There are finitely many characters, but what holds in a text is not decided by going through all
of them. -/

instance (priority := high) decidableForallChar (text : List Char) :
    Decidable (∀ c ∈ text, p c) :=
  List.decidableBAll p text

instance (priority := high) decidableExistsChar (text : List Char) :
    Decidable (∃ c ∈ text, p c) :=
  List.decidableBEx p text

end Decide

/-! ## Characters of identifiers -/

theorem toNat_lt_of_isIdentifierChar {c : Char} (h : OpName.isIdentifierChar c = true) :
    c.toNat < 128 := by
  change (((decide ('A'.val ≤ c.val ∧ c.val ≤ 'Z'.val) ||
      (decide ('a'.val ≤ c.val) && decide (c.val ≤ 'z'.val))) ||
    (decide ('0'.val ≤ c.val) && decide (c.val ≤ '9'.val))) || c == '_') = true at h
  change c.val.toNat < 128
  simp only [Bool.or_eq_true, Bool.and_eq_true, decide_eq_true_eq, beq_iff_eq,
    UInt32.le_iff_toNat_le] at h
  rcases h with ((⟨-, h⟩ | ⟨-, h⟩) | ⟨-, h⟩) | rfl
  · exact Nat.lt_of_le_of_lt h (by decide)
  · exact Nat.lt_of_le_of_lt h (by decide)
  · exact Nat.lt_of_le_of_lt h (by decide)
  · decide

/-- What holds of the characters of identifiers is checked character by character. -/
theorem forall_identifierChar {p : Char → Prop}
    (h : ∀ n < 128, OpName.isIdentifierChar (Char.ofNat n) = true → p (Char.ofNat n)) {c : Char}
    (hc : OpName.isIdentifierChar c = true) : p c := by
  have hp := h c.toNat (toNat_lt_of_isIdentifierChar hc)
  rw [Char.ofNat_toNat] at hp
  exact hp hc

theorem isIdentifierChar_of_isDigit {c : Char} (h : c.isDigit = true) :
    OpName.isIdentifierChar c = true := by
  rw [OpName.isIdentifierChar, Char.isAlphanum, h, Bool.or_true, Bool.true_or]

theorem isIdentifierChar_of_mem {text : List Char} (h : OpName.isIdentifier text = true) {c : Char}
    (hc : c ∈ text) : OpName.isIdentifierChar c = true :=
  List.all_eq_true.mp (Bool.and_eq_true_iff.mp h).2 c hc

theorem not_mem_of_isIdentifier {text : List Char} (h : OpName.isIdentifier text = true) {c : Char}
    (hc : OpName.isIdentifierChar c = false) : c ∉ text := by
  intro hmem
  rw [isIdentifierChar_of_mem h hmem] at hc
  cases hc

/-! ## Plain characters -/

/-- Is the character neither a blank nor a bracket, a comma or an equals sign? -/
def isPlain (c : Char) : Bool :=
  !(isBlank c || isBracket c || c == ',' || c == '=')

theorem isPlain_of_isIdentifierChar {c : Char} (h : OpName.isIdentifierChar c = true) :
    isPlain c = true :=
  forall_identifierChar (p := fun c => isPlain c = true) (by decide) h

theorem isPlain_iff {c : Char} :
    isPlain c = true ↔ isBlank c = false ∧ isBracket c = false ∧ c ≠ ',' ∧ c ≠ '=' := by
  simp [isPlain, and_assoc]

/-- A text of plain characters. -/
def Plain (text : List Char) : Prop :=
  ∀ c ∈ text, isPlain c = true

instance (text : List Char) : Decidable (Plain text) :=
  inferInstanceAs (Decidable (∀ c ∈ text, isPlain c = true))

namespace Plain

variable {x y : List Char}

theorem append (hx : Plain x) (hy : Plain y) : Plain (x ++ y) :=
  List.forall_mem_append.mpr ⟨hx, hy⟩

theorem cons {c : Char} (hc : isPlain c = true) (hx : Plain x) : Plain (c :: x) :=
  List.forall_mem_cons.mpr ⟨hc, hx⟩

/-- Digits are plain. -/
theorem of_digits (h : ∀ c ∈ x, c.isDigit = true) : Plain x :=
  fun c hc => isPlain_of_isIdentifierChar (isIdentifierChar_of_isDigit (h c hc))

theorem solid (h : Plain x) (hne : x ≠ []) : Solid x :=
  .of_all hne fun c hc => (isPlain_iff.mp (h c hc)).1

theorem balanced (h : Plain x) {commas : Bool} : Balanced commas x :=
  .of_all fun c hc =>
    have hplain := isPlain_iff.mp (h c hc)
    ⟨hplain.2.1, fun hcomma => absurd hcomma hplain.2.2.1⟩

theorem not_mem (h : Plain x) {c : Char} (hc : isPlain c = false) : c ∉ x := by
  intro hmem
  rw [h c hmem] at hc
  cases hc

end Plain

end OpShape.Text

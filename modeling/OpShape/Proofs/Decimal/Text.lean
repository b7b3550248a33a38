/-
# `OpShape.Proofs.Decimal.Text` — the characters of numbers.

An integer is written with digits and perhaps a minus sign, and no other integer is written so.  A
float is written with digits, signs and a few letters, and always with a character that no integer
has: a point, or a letter.
-/
import OpShape.Decimal.FloatText
import OpShape.Proofs.Text.Plain

namespace OpShape.Decimal

/-! ## Integers -/

/-- A character of an integer. -/
def isIntChar (c : Char) : Bool :=
  c.isDigit || c == '-'

theorem natText_inj {m n : Nat} (h : natText m = natText n) : m = n := by
  have hread := congrArg (fun text => Nat.ofDigitChars 10 (String.toList text) 0) h
  simpa [natText, Nat.ofDigitChars_toDigits] using hread

theorem natText_ne_nil (n : Nat) : (natText n).toList ≠ [] := by
  rw [natText, String.toList_ofList]
  exact Nat.toDigits_ne_nil

/-- An integer is written as its digits, or as a minus sign in front of them. -/
theorem toList_intText (i : Int) :
    (0 ≤ i ∧ (intText i).toList = (natText i.natAbs).toList) ∨
      (i < 0 ∧ (intText i).toList = '-' :: (natText i.natAbs).toList) := by
  unfold intText
  by_cases h : i < 0
  · rw [if_pos h]
    exact .inr ⟨h, by simp⟩
  · rw [if_neg h]
    exact .inl ⟨Int.not_lt.mp h, rfl⟩

theorem isIntChar_of_mem_intText {i : Int} {c : Char} (h : c ∈ (intText i).toList) :
    isIntChar c = true := by
  unfold isIntChar
  rcases toList_intText i with ⟨-, htext⟩ | ⟨-, htext⟩
  · rw [htext] at h
    rw [isDigit_of_mem_natText h, Bool.true_or]
  · rw [htext] at h
    rcases List.mem_cons.mp h with rfl | h
    · rfl
    · rw [isDigit_of_mem_natText h, Bool.true_or]

theorem intText_ne_nil (i : Int) : (intText i).toList ≠ [] := by
  rcases toList_intText i with ⟨-, htext⟩ | ⟨-, htext⟩
  · rw [htext]
    exact natText_ne_nil i.natAbs
  · rw [htext]
    exact List.cons_ne_nil _ _

/-- **No two integers are written alike.** -/
theorem intText_inj {i j : Int} (h : (intText i).toList = (intText j).toList) : i = j := by
  -- Digits are no sign, so that the signs are the same.
  have hsign : ∀ m n : Nat, (natText m).toList ≠ '-' :: (natText n).toList := by
    intro m n heq
    have hdigit := @isDigit_of_mem_natText m '-' (heq ▸ List.mem_cons_self)
    exact absurd hdigit (by decide)
  rcases toList_intText i with ⟨hi, hi'⟩ | ⟨hi, hi'⟩
  · rcases toList_intText j with ⟨hj, hj'⟩ | ⟨hj, hj'⟩
    · rw [hi', hj'] at h
      have habs := natText_inj (String.toList_inj.mp h)
      omega
    · rw [hi', hj'] at h
      exact absurd h (hsign _ _)
  · rcases toList_intText j with ⟨hj, hj'⟩ | ⟨hj, hj'⟩
    · rw [hi', hj'] at h
      exact absurd h.symm (hsign _ _)
    · rw [hi', hj'] at h
      have habs := natText_inj (String.toList_inj.mp (List.cons.inj h).2)
      omega

/-! ## Floats -/

/-- A character of a float. -/
def isFloatChar (c : Char) : Bool :=
  isIntChar c || ['.', 'e', 'N', 'a', 'i', 'n', 'f'].contains c

/-- The text is that of a float: its characters are, and one of them is in no integer. -/
structure WritesFloat (text : List Char) : Prop where
  chars : ∀ c ∈ text, isFloatChar c = true
  mark : ∃ c ∈ text, isIntChar c = false

theorem isFloatChar_of_mem_toDigits {n : Nat} {c : Char} (h : c ∈ Nat.toDigits 10 n) :
    isFloatChar c = true := by
  have hdigit := Nat.isDigit_of_mem_toDigits (by decide) (by decide) h
  unfold isFloatChar isIntChar
  rw [hdigit, Bool.true_or, Bool.true_or]

/-- Digits around a point are the text of a float. -/
theorem writesFloat_positional {digits : List Char} (h : ∀ c ∈ digits, isFloatChar c = true)
    (whole : Int) : WritesFloat (positional digits whole) := by
  have hzeros : ∀ (n : Nat), ∀ c ∈ List.replicate n '0', isFloatChar c = true := by
    intro n c hc
    rw [List.eq_of_mem_replicate hc]
    decide
  unfold positional
  split
  · refine ⟨?_, '.', by simp, by decide⟩
    simp only [List.forall_mem_append]
    exact ⟨⟨by decide, hzeros _⟩, h⟩
  · refine ⟨?_, '.', by simp, by decide⟩
    simp only [List.forall_mem_append]
    refine ⟨⟨⟨fun c hc => h c (List.mem_of_mem_take hc), hzeros _⟩, by decide⟩, ?_⟩
    split
    · decide
    · exact fun c hc => h c (List.mem_of_mem_drop hc)

/-- So are digits with an exponent. -/
theorem writesFloat_scientific {digits : List Char} (h : ∀ c ∈ digits, isFloatChar c = true)
    (lead : Int) : WritesFloat (scientific digits lead) := by
  unfold scientific
  refine ⟨?_, 'e', by simp, by decide⟩
  simp only [List.forall_mem_append]
  refine ⟨⟨⟨fun c hc => h c (List.mem_of_mem_take hc), ?_⟩, by decide⟩, ?_⟩
  · split
    · rw [List.forall_mem_cons]
      exact ⟨by decide, fun c hc => h c (List.mem_of_mem_drop hc)⟩
    · exact fun c hc => by cases hc
  · intro c hc
    unfold isFloatChar
    rw [isIntChar_of_mem_intText hc, Bool.true_or]

theorem writesFloat_dyadic (x : Dyadic) : WritesFloat x.text := by
  unfold Dyadic.text
  have hdigits : ∀ c ∈ Nat.toDigits 10 x.shortest.1, isFloatChar c = true :=
    fun _ => isFloatChar_of_mem_toDigits
  dsimp only
  split
  · exact writesFloat_positional hdigits _
  · exact writesFloat_scientific hdigits _

/-- A sign in front of the text of a float. -/
theorem WritesFloat.sign {text : List Char} (h : WritesFloat text) (bits : Nat) :
    WritesFloat ((if bits < Nat.pow 2 63 then [] else ['-']) ++ text) := by
  obtain ⟨hchars, c, hc, hmark⟩ := h
  refine ⟨?_, c, List.mem_append_right _ hc, hmark⟩
  rw [List.forall_mem_append]
  refine ⟨?_, hchars⟩
  split
  · exact fun c hc => by cases hc
  · decide

/-- **A float is written with characters of floats, and never as an integer.** -/
theorem writesFloat_floatText (x : Float) : WritesFloat (floatText x).toList := by
  have hword : ∀ word ∈ [['N', 'a', 'N'], ['i', 'n', 'f'], ['0', '.', '0']],
      (∀ c ∈ word, isFloatChar c = true) ∧ ∃ c ∈ word, isIntChar c = false := by decide
  have hwrites : ∀ word ∈ [['N', 'a', 'N'], ['i', 'n', 'f'], ['0', '.', '0']], WritesFloat word :=
    fun word hmem => ⟨(hword word hmem).1, (hword word hmem).2⟩
  rw [floatText, String.toList_ofList]
  unfold bitsText
  dsimp only
  split
  · exact hwrites _ (by simp)
  split
  · exact (hwrites _ (by simp)).sign _
  split
  · exact (hwrites _ (by simp)).sign _
  · exact (writesFloat_dyadic _).sign _

end OpShape.Decimal

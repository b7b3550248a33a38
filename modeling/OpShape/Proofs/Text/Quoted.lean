/-
# `OpShape.Proofs.Text.Quoted` — a text between quotes ends at its own quote.

Whatever stands for a character inside quotes starts with no quote and is told from what stands for
any other one: a character stands for itself, or a backslash announces a letter, or a backslash and
the letter u announce a number in braces.  So the text between quotes can be read off, whatever
follows it, and two texts between quotes are equal only if the texts are.
-/
import Mathlib.Data.List.Basic
import OpShape.Proofs.Text.Parts
import OpShape.Text.Quoted

namespace OpShape.Text

/-! ## Numbers in hexadecimal digits -/

theorem mem_toDigits_sixteen {n : Nat} {c : Char} (h : c ∈ Nat.toDigits 16 n) :
    ∃ d < 16, c = Nat.digitChar d := by
  induction n using Nat.strongRecOn with
  | ind n ih =>
    rw [Nat.toDigits_eq_if (by decide)] at h
    split at h
    · next hlt => exact ⟨n, hlt, List.mem_singleton.mp h⟩
    · next hle =>
      rcases List.mem_append.mp h with h | h
      · exact ih (n / 16) (Nat.div_lt_self (by omega) (by decide)) h
      · exact ⟨n % 16, Nat.mod_lt n (by decide), List.mem_singleton.mp h⟩

theorem digitChar_inj {m n : Nat} (hm : m < 16) (hn : n < 16)
    (h : Nat.digitChar m = Nat.digitChar n) : m = n := by
  have hall : ∀ m < 16, ∀ n < 16, Nat.digitChar m = Nat.digitChar n → m = n := by decide
  exact hall m hm n hn h

/-- Numbers of equal digits are equal. -/
theorem toDigits_sixteen_inj {m n : Nat} (h : Nat.toDigits 16 m = Nat.toDigits 16 n) : m = n := by
  induction m using Nat.strongRecOn generalizing n with
  | ind m ih =>
    have hlong : ∀ k, 16 ≤ k → ∀ c : Char, Nat.toDigits 16 k ≠ [c] := by
      intro k hk c hc
      rw [Nat.toDigits_eq_if (by decide), if_neg (by omega)] at hc
      have hlength := congrArg List.length hc
      have hpos := @Nat.length_toDigits_pos 16 (k / 16)
      rw [List.length_append, List.length_singleton, List.length_singleton] at hlength
      omega
    by_cases hm : m < 16
    · have hdigit : Nat.toDigits 16 m = [Nat.digitChar m] := Nat.toDigits_of_lt_base hm
      by_cases hn : n < 16
      · rw [hdigit, Nat.toDigits_of_lt_base hn] at h
        exact digitChar_inj hm hn (List.cons.inj h).1
      · exact absurd (h.symm.trans hdigit) (hlong n (by omega) _)
    · by_cases hn : n < 16
      · exact absurd (h.trans (Nat.toDigits_of_lt_base hn)) (hlong m (by omega) _)
      · rw [Nat.toDigits_eq_if (by decide), if_neg hm, Nat.toDigits_eq_if (b := 16) (n := n)
          (by decide), if_neg hn] at h
        obtain ⟨hfront, hlast⟩ := List.append_inj' h rfl
        have hquotient := ih (m / 16) (Nat.div_lt_self (by omega) (by decide)) hfront
        have hremainder := digitChar_inj (Nat.mod_lt m (by decide)) (Nat.mod_lt n (by decide))
          (List.cons.inj hlast).1
        omega

/-! ## What stands for one character -/

/-- The characters that have a letter of their own behind a backslash, and these letters. -/
def letters : List (Char × Char) := [
  ('\x00', '0'), ('\t', 't'), ('\n', 'n'), ('\r', 'r'), ('"', '"'), ('\\', '\\')]

theorem escaped_cases (c : Char) :
    (escaped c = [c] ∧ c ≠ '\\' ∧ c ≠ '"') ∨
      (∃ letter, escaped c = ['\\', letter] ∧ (c, letter) ∈ letters) ∨
        escaped c = numbered c := by
  unfold escaped
  split_ifs with h0 ht hn hr hq hb hnum
  · exact .inr (.inl ⟨_, rfl, by simp [letters, h0]⟩)
  · exact .inr (.inl ⟨_, rfl, by simp [letters, ht]⟩)
  · exact .inr (.inl ⟨_, rfl, by simp [letters, hn]⟩)
  · exact .inr (.inl ⟨_, rfl, by simp [letters, hr]⟩)
  · exact .inr (.inl ⟨_, rfl, by simp [letters, hq]⟩)
  · exact .inr (.inl ⟨_, rfl, by simp [letters, hb]⟩)
  · exact .inr (.inr rfl)
  · exact .inl ⟨rfl, hb, hq⟩

theorem letters_inj {c d letter : Char} (hc : (c, letter) ∈ letters) (hd : (d, letter) ∈ letters) :
    c = d := by
  have hall : ∀ p ∈ letters, ∀ q ∈ letters, p.2 = q.2 → p.1 = q.1 := by decide
  exact hall _ hc _ hd rfl

theorem letters_ne_u {c letter : Char} (h : (c, letter) ∈ letters) : letter ≠ 'u' := by
  have hall : ∀ p ∈ letters, p.2 ≠ 'u' := by decide
  exact hall _ h

/-- A number in braces ends at its brace. -/
theorem numbered_append_inj {c d : Char} {r s : List Char}
    (h : numbered c ++ r = numbered d ++ s) : c = d ∧ r = s := by
  have hbrace : ∀ n : Nat, ∀ e ∈ Nat.toDigits 16 n, ¬ e = '\x7d' := by
    intro n e he
    obtain ⟨d, hd, rfl⟩ := mem_toDigits_sixteen he
    have hall : ∀ d < 16, ¬ Nat.digitChar d = '\x7d' := by decide
    exact hall d hd
  have hdigits : Nat.toDigits 16 c.toNat ++ '\x7d' :: r =
      Nat.toDigits 16 d.toNat ++ '\x7d' :: s := by
    simpa [numbered] using h
  obtain ⟨heq, hrest⟩ := append_inj_of_stop (hbrace c.toNat) (hbrace d.toNat)
    (by simp) (by simp) hdigits
  exact ⟨Char.toNat_inj.mp (toDigits_sixteen_inj heq), (List.cons.inj hrest).2⟩

/-- **What stands for a character is told from what stands for any other one.** -/
theorem escaped_append_inj {c d : Char} {r s : List Char} (h : escaped c ++ r = escaped d ++ s) :
    c = d ∧ r = s := by
  rcases escaped_cases c with ⟨hc, hc', -⟩ | ⟨letter, hc, hmem⟩ | hc
  · rcases escaped_cases d with ⟨hd, -, -⟩ | ⟨letter, hd, -⟩ | hd
    · rw [hc, hd] at h
      exact List.cons.inj h
    · rw [hc, hd] at h
      exact absurd (List.cons.inj h).1 hc'
    · rw [hc, hd] at h
      exact absurd (List.cons.inj h).1 hc'
  · rcases escaped_cases d with ⟨hd, hd', -⟩ | ⟨letter', hd, hmem'⟩ | hd
    · rw [hc, hd] at h
      exact absurd (List.cons.inj h).1.symm hd'
    · rw [hc, hd] at h
      obtain ⟨rfl, hrest⟩ := List.cons.inj (List.cons.inj h).2
      exact ⟨letters_inj hmem hmem', hrest⟩
    · rw [hc, hd] at h
      exact absurd (List.cons.inj (List.cons.inj h).2).1 (letters_ne_u hmem)
  · rcases escaped_cases d with ⟨hd, hd', -⟩ | ⟨letter, hd, hmem⟩ | hd
    · rw [hc, hd] at h
      exact absurd (List.cons.inj h).1.symm hd'
    · rw [hc, hd] at h
      exact absurd (List.cons.inj (List.cons.inj h).2).1.symm (letters_ne_u hmem)
    · rw [hc, hd] at h
      exact numbered_append_inj h

/-- Nothing that stands for a character is taken for the quote at the end. -/
theorem escaped_append_ne_quote (c : Char) (r s : List Char) : escaped c ++ r ≠ '"' :: s := by
  intro h
  rcases escaped_cases c with ⟨hc, -, hne⟩ | ⟨letter, hc, -⟩ | hc
  · rw [hc] at h
    exact hne (List.cons.inj h).1
  · rw [hc] at h
    exact absurd (List.cons.inj h).1 (by decide)
  · rw [hc] at h
    exact absurd (List.cons.inj h).1 (by decide)

/-! ## Whole texts -/

/-- **A text between quotes ends at its own quote**, and no other text is written so. -/
theorem quotedChars_append_inj {x y r s : List Char}
    (h : quotedChars x ++ r = quotedChars y ++ s) : x = y ∧ r = s := by
  have hbody : x.flatMap escaped ++ '"' :: r = y.flatMap escaped ++ '"' :: s := by
    simpa [quotedChars] using h
  clear h
  induction x generalizing y with
  | nil =>
    cases y with
    | nil => exact ⟨rfl, (List.cons.inj hbody).2⟩
    | cons d y =>
      rw [List.flatMap_cons, List.append_assoc] at hbody
      exact absurd hbody.symm (escaped_append_ne_quote d _ _)
  | cons c x ih =>
    rw [List.flatMap_cons, List.append_assoc] at hbody
    cases y with
    | nil => exact absurd hbody (escaped_append_ne_quote c _ _)
    | cons d y =>
      rw [List.flatMap_cons, List.append_assoc] at hbody
      obtain ⟨rfl, hrest⟩ := escaped_append_inj hbody
      obtain ⟨rfl, hend⟩ := ih hrest
      exact ⟨rfl, hend⟩

end OpShape.Text

/-
# `OpShape.Proofs.Decimal.Literal` — literals and their values.

A literal is a number in decimal digits, with zeros in front and a sign if the writer likes.  The
value of a literal is said by its parts, and it is what is read from its text.
-/
import OpShape.Decimal.FloatRead
import OpShape.Proofs.Decimal.Text
import OpShape.Proofs.Text.Plain

namespace OpShape.Decimal

/-! ## Digits -/

/-- One or more digits. -/
structure Numeral where
  digits : List Char
  nonempty : digits ≠ []
  areDigits : ∀ c ∈ digits, c.isDigit = true

namespace Numeral

/-- The number that the digits stand for. -/
def value (n : Numeral) : Nat :=
  Nat.ofDigitChars 10 n.digits 0

theorem digitsValue?_digits (n : Numeral) : digitsValue? n.digits = some n.value := by
  have hempty : n.digits.isEmpty = false := by
    rw [List.isEmpty_eq_false_iff]
    exact n.nonempty
  have hall : n.digits.all Char.isDigit = true := List.all_eq_true.mpr n.areDigits
  rw [digitsValue?, hempty, hall]
  rfl

theorem plain (n : Numeral) : Text.Plain n.digits :=
  .of_digits n.areDigits

/-- Digits do not start with a sign. -/
theorem ne_cons (n : Numeral) {c : Char} (hc : c.isDigit = false) (rest : List Char) :
    n.digits ≠ c :: rest := by
  intro hdigits
  have hdigit := n.areDigits c (hdigits ▸ List.mem_cons_self)
  rw [hc] at hdigit
  cases hdigit

/-- The digits of a number. -/
def ofNat (n : Nat) : Numeral where
  digits := (natText n).toList
  nonempty := natText_ne_nil n
  areDigits _ := isDigit_of_mem_natText

@[simp] theorem digits_ofNat (n : Nat) : (ofNat n).digits = (natText n).toList := rfl

@[simp] theorem value_ofNat (n : Nat) : (ofNat n).value = n := by
  simp [ofNat, value, natText, Nat.ofDigitChars_toDigits]

end Numeral

/-! ## Signs -/

/-- What stands in front of the digits. -/
inductive Sign where
  | none
  | plus
  | minus

namespace Sign

/-- The sign as it is written. -/
def chars : Sign → List Char
  | none => []
  | plus => ['+']
  | minus => ['-']

theorem plain (sign : Sign) : Text.Plain sign.chars := by
  cases sign <;> decide

/-- What does not start with the text behind the sign starts with the sign. -/
theorem append_ne_cons {sign : Sign} {text : List Char} {c : Char} (hc : c ∉ ['+', '-'])
    {rest : List Char} (htext : text ≠ c :: rest) : sign.chars ++ text ≠ c :: rest := by
  have hsign : ∀ d ∈ ['+', '-'], d :: text ≠ c :: rest :=
    fun d hd heq => hc ((List.cons.inj heq).1 ▸ hd)
  cases sign with
  | none => exact htext
  | plus => exact hsign '+' (by decide)
  | minus => exact hsign '-' (by decide)

/-- The number of the sign. -/
def int (sign : Sign) (n : Nat) : Int :=
  match sign with
  | minus => -Int.ofNat n
  | _ => Int.ofNat n

/-- The float of the sign. -/
def float (sign : Sign) (x : Float) : Float :=
  match sign with
  | minus => -x
  | _ => x

end Sign

/-! ## Integers -/

/-- An integer literal: a number that fits sixty-four bits with one of them for the sign. -/
structure IntLiteral where
  sign : Sign
  numeral : Numeral
  fits : -Int.pow 2 63 ≤ sign.int numeral.value ∧ sign.int numeral.value < Int.pow 2 63

namespace IntLiteral

/-- The literal as it is written. -/
def chars (literal : IntLiteral) : List Char :=
  literal.sign.chars ++ literal.numeral.digits

/-- The number that the literal stands for. -/
def value (literal : IntLiteral) : Int :=
  literal.sign.int literal.numeral.value

theorem plain (literal : IntLiteral) : Text.Plain literal.chars :=
  literal.sign.plain.append literal.numeral.plain

theorem ne_nil (literal : IntLiteral) : literal.chars ≠ [] :=
  List.append_ne_nil_of_right_ne_nil _ literal.numeral.nonempty

/-- An integer literal starts with a digit or a sign. -/
theorem ne_cons (literal : IntLiteral) {c : Char} (hdigit : c.isDigit = false)
    (hsign : c ∉ ['+', '-']) (rest : List Char) : literal.chars ≠ c :: rest :=
  Sign.append_ne_cons hsign (literal.numeral.ne_cons hdigit rest)

/-- **An integer literal is read as its value.** -/
theorem readInt?_chars (literal : IntLiteral) : readInt? literal.chars = some literal.value := by
  obtain ⟨sign, numeral, hfits⟩ := literal
  have hread : readInt? (sign.chars ++ numeral.digits) =
      (some (sign.int numeral.value)).bind fun i =>
        if -Int.pow 2 63 ≤ i ∧ i < Int.pow 2 63 then some i else none := by
    cases sign with
    | none =>
      unfold readInt?
      split
      · next heq => exact absurd heq (numeral.ne_cons (by decide) _)
      · next heq => exact absurd heq (numeral.ne_cons (by decide) _)
      · rw [Sign.chars, List.nil_append, numeral.digitsValue?_digits]
        rfl
    | plus =>
      simp only [readInt?, Sign.chars, List.singleton_append, numeral.digitsValue?_digits]
      rfl
    | minus =>
      simp only [readInt?, Sign.chars, List.singleton_append, numeral.digitsValue?_digits]
      rfl
  rw [chars, hread, Option.bind_some, if_pos hfits, value]

end IntLiteral

/-! ## Sizes -/

/-- **A size is read from its digits**, if it fits sixty-four bits. -/
theorem readSize?_digits (n : Numeral) (hfits : n.value < Nat.pow 2 64) :
    readSize? n.digits = some n.value := by
  have hread : readSize? n.digits =
      (some n.value).bind fun value => if value < Nat.pow 2 64 then some value else none := by
    unfold readSize?
    split
    · next heq => exact absurd heq (n.ne_cons (by decide) _)
    · dsimp only
      rw [n.digitsValue?_digits]
      rfl
  rw [hread, Option.bind_some, if_pos hfits]

/-! ## Floats -/

/-- The exponent of a float literal: the letter e, perhaps in upper case, and an integer. -/
structure Exponent where
  letter : Char
  sign : Sign
  numeral : Numeral
  isLetter : letter = 'e' ∨ letter = 'E'

/-- The exponent as it is written, if there is one. -/
def Exponent.chars? : Option Exponent → List Char
  | none => []
  | some e => e.letter :: (e.sign.chars ++ e.numeral.digits)

/-- The number that the exponent stands for; where there is none it is zero. -/
def Exponent.value? : Option Exponent → Int
  | none => 0
  | some e => e.sign.int e.numeral.value

/-- A float literal: digits, perhaps with a point among or around them, and perhaps an exponent. -/
structure FloatLiteral where
  sign : Sign
  whole : List Char
  fraction? : Option (List Char)
  exponent? : Option Exponent
  nonempty : whole ++ fraction?.getD [] ≠ []
  areDigits : ∀ c ∈ whole ++ fraction?.getD [], c.isDigit = true

namespace FloatLiteral

/-- The digits behind the point. -/
def fraction (literal : FloatLiteral) : List Char :=
  literal.fraction?.getD []

/-- The point and the digits behind it, as they are written. -/
def pointChars (literal : FloatLiteral) : List Char :=
  match literal.fraction? with
  | none => []
  | some digits => '.' :: digits

/-- The literal without its sign, as it is written. -/
def unsignedChars (literal : FloatLiteral) : List Char :=
  literal.whole ++ (literal.pointChars ++ Exponent.chars? literal.exponent?)

/-- The literal as it is written. -/
def chars (literal : FloatLiteral) : List Char :=
  literal.sign.chars ++ literal.unsignedChars

/-- The float nearest to the number that the literal stands for. -/
def value (literal : FloatLiteral) : Float :=
  literal.sign.float (nearestFloat (Nat.ofDigitChars 10 (literal.whole ++ literal.fraction) 0)
    (Exponent.value? literal.exponent? - literal.fraction.length))

end FloatLiteral

theorem Exponent.plain (e? : Option Exponent) : Text.Plain (Exponent.chars? e?) := by
  cases e? with
  | none => exact fun c hc => by cases hc
  | some e =>
    have hletter : Text.isPlain e.letter = true := by
      rcases e.isLetter with h | h <;> rw [h] <;> decide
    exact .cons hletter (e.sign.plain.append e.numeral.plain)

theorem readExponent?_chars? (e? : Option Exponent) :
    readExponent? (Exponent.chars? e?) = some (Exponent.value? e?) := by
  cases e? with
  | none => rfl
  | some e =>
    obtain ⟨letter, sign, numeral, hletter⟩ := e
    simp only [Exponent.chars?, readExponent?, if_pos hletter]
    cases sign with
    | none =>
      split
      · next heq => exact absurd heq (numeral.ne_cons (by decide) _)
      · next heq => exact absurd heq (numeral.ne_cons (by decide) _)
      · rw [Sign.chars, List.nil_append, numeral.digitsValue?_digits]
        rfl
    | plus =>
      simp only [Sign.chars, List.singleton_append, numeral.digitsValue?_digits]
      rfl
    | minus =>
      simp only [Sign.chars, List.singleton_append, numeral.digitsValue?_digits]
      rfl

/-- What is no digit ends a run of digits. -/
theorem takeDigits_append {digits rest : List Char} (hdigits : ∀ c ∈ digits, c.isDigit = true)
    (hrest : ∀ c ∈ rest.head?, c.isDigit = false) :
    (digits ++ rest).takeWhile Char.isDigit = digits ∧
      (digits ++ rest).dropWhile Char.isDigit = rest := by
  rw [List.takeWhile_append_of_pos hdigits, List.dropWhile_append_of_pos hdigits]
  cases rest with
  | nil => exact ⟨List.append_nil digits, rfl⟩
  | cons c rest =>
    have hc : ¬c.isDigit = true := Bool.eq_false_iff.mp (hrest c rfl)
    rw [List.takeWhile_cons_of_neg hc, List.dropWhile_cons_of_neg hc, List.append_nil]
    exact ⟨rfl, rfl⟩

/-- An exponent starts with neither a digit nor a point. -/
theorem head?_exponentChars {e? : Option Exponent} {c : Char}
    (hc : c ∈ (Exponent.chars? e?).head?) : c.isDigit = false ∧ c ≠ '.' := by
  cases e? with
  | none => cases hc
  | some e =>
    obtain rfl : e.letter = c := Option.some.inj hc
    rcases e.isLetter with h | h <;> rw [h] <;> decide

namespace FloatLiteral

theorem takeDecimal_chars (literal : FloatLiteral) :
    takeDecimal literal.unsignedChars =
      (literal.whole, literal.fraction, Exponent.chars? literal.exponent?) := by
  obtain ⟨sign, whole, fraction?, exponent?, hnonempty, hdigits⟩ := literal
  rw [List.forall_mem_append] at hdigits
  have hexponent : ∀ c ∈ (Exponent.chars? exponent?).head?, c.isDigit = false :=
    fun c hc => (head?_exponentChars hc).1
  cases fraction? with
  | none =>
    obtain ⟨htake, hdrop⟩ := takeDigits_append hdigits.1 hexponent
    simp only [takeDecimal, unsignedChars, pointChars, fraction, List.nil_append, htake, hdrop]
    split
    · next heq =>
      have hhead : '.' ∈ (Exponent.chars? exponent?).head? := by
        rw [heq]
        rfl
      exact absurd rfl (head?_exponentChars hhead).2
    · rfl
  | some fraction =>
    have hpoint : ∀ c ∈ ('.' :: (fraction ++ Exponent.chars? exponent?)).head?,
        c.isDigit = false := by
      intro c hc
      obtain rfl : '.' = c := Option.some.inj hc
      decide
    obtain ⟨htake, hdrop⟩ := takeDigits_append hdigits.1 hpoint
    have hfraction : ∀ c ∈ fraction, c.isDigit = true := hdigits.2
    obtain ⟨htake', hdrop'⟩ := takeDigits_append hfraction hexponent
    simp only [takeDecimal, unsignedChars, pointChars, FloatLiteral.fraction, List.cons_append,
      htake, hdrop, htake', hdrop', Option.getD_some]

/-- Without its sign a float literal starts with a digit or a point. -/
theorem exists_cons (literal : FloatLiteral) :
    ∃ c rest, literal.unsignedChars = c :: rest ∧ (c.isDigit = true ∨ c = '.') := by
  obtain ⟨sign, whole, fraction?, exponent?, hnonempty, hdigits⟩ := literal
  cases whole with
  | cons c whole => exact ⟨c, _, rfl, .inl (hdigits c List.mem_cons_self)⟩
  | nil =>
    cases fraction? with
    | none => exact absurd rfl hnonempty
    | some fraction => exact ⟨'.', _, rfl, .inr rfl⟩

theorem unsigned_ne_cons (literal : FloatLiteral) {c : Char} (hc : c.isDigit = false ∧ c ≠ '.')
    (rest : List Char) : literal.unsignedChars ≠ c :: rest := by
  intro heq
  obtain ⟨d, rest', hchars, hd⟩ := literal.exists_cons
  obtain rfl : d = c := (List.cons.inj (hchars.symm.trans heq)).1
  rcases hd with hdigit | hpoint
  · rw [hc.1] at hdigit
    cases hdigit
  · exact hc.2 hpoint

/-- No word in letters of either case is a float literal. -/
theorem toLower_ne_cons (literal : FloatLiteral) {c : Char} (hc : c = 'i' ∨ c = 'n')
    (rest : List Char) : literal.unsignedChars.map Char.toLower ≠ c :: rest := by
  intro heq
  obtain ⟨d, rest', hchars, hd⟩ := literal.exists_cons
  rw [hchars, List.map_cons] at heq
  obtain rfl : d.toLower = c := (List.cons.inj heq).1
  rcases hd with hdigit | rfl
  · have hlower : d.isDigit = true → ¬(d.toLower = 'i' ∨ d.toLower = 'n') :=
      Text.forall_identifierChar
        (p := fun d => d.isDigit = true → ¬(d.toLower = 'i' ∨ d.toLower = 'n'))
        (by decide) (Text.isIdentifierChar_of_isDigit hdigit)
    exact hlower hdigit hc
  · exact absurd hc (by decide)

theorem readUnsigned?_chars (literal : FloatLiteral) :
    readUnsigned? literal.unsignedChars =
      some (nearestFloat (Nat.ofDigitChars 10 (literal.whole ++ literal.fraction) 0)
        (Exponent.value? literal.exponent? - literal.fraction.length)) := by
  have hi := literal.toLower_ne_cons (.inl rfl)
  have hn := literal.toLower_ne_cons (.inr rfl)
  have hdigits : (literal.whole.isEmpty && literal.fraction.isEmpty) = false := by
    rw [Bool.eq_false_iff, ne_eq, Bool.and_eq_true, List.isEmpty_iff, List.isEmpty_iff]
    exact fun h => literal.nonempty (List.append_eq_nil_iff.mpr h)
  unfold readUnsigned?
  dsimp only
  rw [if_neg (by simp only [hi, or_self, not_false_eq_true]), if_neg (hn _),
    literal.takeDecimal_chars]
  simp only [hdigits, Bool.false_eq_true, if_false, readExponent?_chars?, Option.map_some]

theorem plain (literal : FloatLiteral) : Text.Plain literal.chars := by
  obtain ⟨hwhole, hfraction⟩ := List.forall_mem_append.mp literal.areDigits
  have hpoint : Text.Plain literal.pointChars := by
    unfold pointChars
    split
    · exact fun c hc => by cases hc
    · next digits hdigits =>
      rw [hdigits] at hfraction
      exact .cons (by decide) (.of_digits hfraction)
  exact literal.sign.plain.append ((Text.Plain.of_digits hwhole).append
    (hpoint.append (Exponent.plain literal.exponent?)))

theorem ne_nil (literal : FloatLiteral) : literal.chars ≠ [] := by
  obtain ⟨c, rest, hchars, -⟩ := literal.exists_cons
  exact List.append_ne_nil_of_right_ne_nil _ (hchars ▸ List.cons_ne_nil c rest)

/-- A float literal starts with a digit, a point or a sign. -/
theorem ne_cons (literal : FloatLiteral) {c : Char} (hc : c.isDigit = false ∧ c ≠ '.')
    (hsign : c ∉ ['+', '-']) (rest : List Char) : literal.chars ≠ c :: rest :=
  Sign.append_ne_cons hsign (literal.unsigned_ne_cons hc rest)

/-- **A float literal is read as its value.** -/
theorem readFloat?_chars (literal : FloatLiteral) :
    readFloat? literal.chars = some literal.value := by
  unfold chars value
  cases literal.sign with
  | none =>
    rw [Sign.chars, List.nil_append]
    unfold readFloat?
    split
    · next heq => exact absurd heq (literal.unsigned_ne_cons (by decide) _)
    · next heq => exact absurd heq (literal.unsigned_ne_cons (by decide) _)
    · exact literal.readUnsigned?_chars
  | plus => exact literal.readUnsigned?_chars
  | minus =>
    rw [Sign.chars, List.singleton_append, readFloat?, literal.readUnsigned?_chars]
    rfl

end FloatLiteral

end OpShape.Decimal

/-
# `OpShape.Text.Split` — cutting a text at a mark.

Texts are cut on their list of characters.  Each cut has a lemma that says when a text built from
parts is taken apart into the same parts again.
-/

namespace OpShape.Text

/-! ## Cutting once -/

/-- What stands before and after the first `mark`, if there is one. -/
def cutFirst (mark : Char) : List Char → Option (List Char × List Char)
  | [] => none
  | c :: rest =>
    if c = mark then some ([], rest)
    else (cutFirst mark rest).map fun parts => (c :: parts.1, parts.2)

/-- What stands before and after the last `mark`, if there is one. -/
def cutLast (mark : Char) : List Char → Option (List Char × List Char)
  | [] => none
  | c :: rest =>
    match cutLast mark rest with
    | some parts => some (c :: parts.1, parts.2)
    | none => if c = mark then some ([], rest) else none

/-- What stands before and after the first place where two marks follow each other. -/
def cutPair (first second : Char) : List Char → Option (List Char × List Char)
  | c :: d :: rest =>
    if c = first ∧ d = second then some ([], rest)
    else (cutPair first second (d :: rest)).map fun parts => (c :: parts.1, parts.2)
  | _ => none

/-- The rest of a text that starts with `start`. -/
def stripStart : List Char → List Char → Option (List Char)
  | [], text => some text
  | _ :: _, [] => none
  | s :: start, c :: text => if s = c then stripStart start text else none

/-- The text in front of the final character, if that is `mark`. -/
def stripEnd (mark : Char) (text : List Char) : Option (List Char) :=
  if text.getLast? = some mark then some text.dropLast else none

theorem cutFirst_append {mark : Char} {before : List Char} (h : mark ∉ before)
    (after : List Char) : cutFirst mark (before ++ mark :: after) = some (before, after) := by
  induction before with
  | nil => simp [cutFirst]
  | cons c rest ih =>
    simp only [List.mem_cons, not_or] at h
    simp [cutFirst, Ne.symm h.1, ih h.2]

theorem cutFirst_eq_none {mark : Char} {text : List Char} (h : mark ∉ text) :
    cutFirst mark text = none := by
  induction text with
  | nil => rfl
  | cons c rest ih =>
    simp only [List.mem_cons, not_or] at h
    simp [cutFirst, Ne.symm h.1, ih h.2]

theorem cutLast_eq_none {mark : Char} {text : List Char} (h : mark ∉ text) :
    cutLast mark text = none := by
  induction text with
  | nil => rfl
  | cons c rest ih =>
    simp only [List.mem_cons, not_or] at h
    simp [cutLast, Ne.symm h.1, ih h.2]

theorem cutLast_append {mark : Char} {after : List Char} (h : mark ∉ after)
    (before : List Char) : cutLast mark (before ++ mark :: after) = some (before, after) := by
  induction before with
  | nil => simp [cutLast, cutLast_eq_none h]
  | cons c rest ih => simp [cutLast, ih]

@[simp] theorem stripStart_append (start text : List Char) :
    stripStart start (start ++ text) = some text := by
  induction start with
  | nil => cases text <;> rfl
  | cons c rest ih => simp [stripStart, ih]

@[simp] theorem stripEnd_append (mark : Char) (text : List Char) :
    stripEnd mark (text ++ [mark]) = some text := by
  simp [stripEnd]

/-! ## Cutting everywhere -/

/-- The pieces between all occurrences of `mark`; there is always one more than occurrences. -/
def pieces (mark : Char) : List Char → List (List Char)
  | [] => [[]]
  | c :: rest =>
    if c = mark then [] :: pieces mark rest
    else
      match pieces mark rest with
      | [] => [[c]]
      | piece :: others => (c :: piece) :: others

/-- The depth of brackets after a character: round and square ones count alike. -/
def depthAfter (depth : Int) (c : Char) : Int :=
  if c = '(' ∨ c = '[' then depth + 1 else if c = ')' ∨ c = ']' then depth - 1 else depth

/-- The pieces between those occurrences of `mark` that stand outside all brackets, where the text
starts inside `depth` open ones. -/
def piecesFrom (mark : Char) (depth : Int) : List Char → List (List Char)
  | [] => [[]]
  | c :: rest =>
    if c = mark ∧ depth = 0 then [] :: piecesFrom mark 0 rest
    else
      match piecesFrom mark (depthAfter depth c) rest with
      | [] => [[c]]
      | piece :: others => (c :: piece) :: others

/-- The pieces between those occurrences of `mark` that stand outside all brackets. -/
def outerPieces (mark : Char) (text : List Char) : List (List Char) :=
  piecesFrom mark 0 text

theorem pieces_ne_nil (mark : Char) (text : List Char) : pieces mark text ≠ [] := by
  cases text with
  | nil => simp [pieces]
  | cons c rest =>
    simp only [pieces]
    split
    · simp
    · split <;> simp

/-- A text without the mark is one piece. -/
theorem pieces_of_not_mem {mark : Char} {text : List Char} (h : mark ∉ text) :
    pieces mark text = [text] := by
  induction text with
  | nil => rfl
  | cons c rest ih =>
    have hne : c ≠ mark := fun e => h (e ▸ List.mem_cons_self)
    have hrest : mark ∉ rest := fun m => h (List.mem_cons_of_mem c m)
    simp [pieces, hne, ih hrest]

/-- The piece in front of the first mark, and then the pieces behind it. -/
theorem pieces_append {mark : Char} {before : List Char} (h : mark ∉ before)
    (after : List Char) : pieces mark (before ++ mark :: after) = before :: pieces mark after := by
  induction before with
  | nil => simp [pieces]
  | cons c rest ih =>
    have hne : c ≠ mark := fun e => h (e ▸ List.mem_cons_self)
    have hrest : mark ∉ rest := fun m => h (List.mem_cons_of_mem c m)
    simp [pieces, hne, ih hrest]

/-! ## Joining -/

/-- The parts with `mark` between each two of them. -/
def joined (mark : String) : List String → String
  | [] => ""
  | [part] => part
  | part :: next :: parts => part ++ mark ++ joined mark (next :: parts)

@[simp] theorem joined_nil (mark : String) : joined mark [] = "" := rfl

@[simp] theorem joined_singleton (mark part : String) : joined mark [part] = part := rfl

/-- A list as it is written in texts: in square brackets, with a comma between its items. -/
def bracketed (items : List String) : String :=
  "[" ++ joined ", " items ++ "]"

end OpShape.Text

/-
# `OpShape.Proofs.Json.Read` — a value is read from its own text.

From the tokens of a value, the reader gets just that value and puts it into whatever is open at the
place where it started.  This is so for every value, by recursion over it: between two items of an
array, the reader holds the items in front, and the same goes for the members of an object.  With
the tokens of a printed value, this makes reading undo printing.
-/
import OpShape.Json.Parser
import OpShape.Proofs.Json.Scan

namespace OpShape.Json

namespace Reader

/-- Read tokens one after the other. -/
def run? (reader : Reader) (tokens : List Token) : Option Reader :=
  tokens.foldlM step? reader

@[simp] theorem run?_nil (reader : Reader) : reader.run? [] = some reader := rfl

@[simp] theorem run?_cons (reader : Reader) (token : Token) (tokens : List Token) :
    reader.run? (token :: tokens) = (reader.step? token).bind (run? · tokens) :=
  List.foldlM_cons

theorem run?_append (reader : Reader) (tokens tokens' : List Token) :
    reader.run? (tokens ++ tokens') = (reader.run? tokens).bind (run? · tokens') :=
  List.foldlM_append

end Reader

/-- No value starts with the end of what is open. -/
theorem Value.tokens_eq_cons (value : Value) :
    ∃ token rest, value.tokens = token :: rest ∧ ∀ stack, Reader.close? stack token = none := by
  have henclosed : ∀ first last parts, ∃ rest, enclosed first last parts = first :: rest := by
    rintro first last (_ | ⟨part, parts⟩)
    · exact ⟨_, rfl⟩
    · exact ⟨_, rfl⟩
  cases value with
  | array items =>
    obtain ⟨rest, h⟩ := henclosed .openArray .closeArray (itemTokens items)
    exact ⟨_, rest, h, fun _ => rfl⟩
  | object members =>
    obtain ⟨rest, h⟩ := henclosed .openObject .closeObject (memberTokens members)
    exact ⟨_, rest, h, fun _ => rfl⟩
  | _ => exact ⟨_, _, rfl, fun _ => rfl⟩

/-- The first item of an array is read as any other value. -/
theorem run?_firstItem (stack : List Frame) (value : Value) :
    Reader.run? ⟨stack, .firstItem⟩ value.tokens = Reader.run? ⟨stack, .value⟩ value.tokens := by
  obtain ⟨token, rest, htokens, hclose⟩ := value.tokens_eq_cons
  have hstep : Reader.step? ⟨stack, .firstItem⟩ token = Reader.step? ⟨stack, .value⟩ token := by
    simp only [Reader.step?, hclose]
    rfl
  rw [htokens, Reader.run?_cons, Reader.run?_cons, hstep]

mutual

/-- **The tokens of a value are read as the value**, whatever is open around it. -/
theorem run?_tokens (stack : List Frame) :
    (value : Value) → Reader.run? ⟨stack, .value⟩ value.tokens = Reader.deliver? stack value
  | .null | .bool _ | .natural _ | .number _ | .str _ => by
    simp [Value.tokens, Reader.step?, Reader.beginValue?]
  | .array [] => by
    simp [Value.tokens, Value.itemTokens, enclosed, Reader.step?, Reader.beginValue?, Reader.close?]
  | .array (item :: items) => by
    have hopen : ∀ tokens, Reader.run? ⟨stack, .value⟩ (.openArray :: tokens) =
        Reader.run? ⟨.array [] :: stack, .firstItem⟩ tokens := fun _ => rfl
    have hfirst : Reader.run? ⟨.array [] :: stack, .firstItem⟩ item.tokens =
        some ⟨.array [item] :: stack, .separator⟩ :=
      (run?_firstItem _ item).trans (run?_tokens _ item)
    rw [Value.tokens, Value.itemTokens, enclosed, List.append_assoc, List.cons_append, hopen,
      Reader.run?_append, hfirst, Option.bind_some, run?_itemTokens stack [item] items]
    rfl
  | .object [] => by
    simp [Value.tokens, Value.memberTokens, enclosed, Reader.step?, Reader.beginValue?,
      Reader.close?, Reader.beginMember?]
  | .object ((name, value) :: members) => by
    have hopen : ∀ tokens,
        Reader.run? ⟨stack, .value⟩ (.openObject :: .str name :: .colon :: tokens) =
          Reader.run? ⟨.member [] name :: stack, .value⟩ tokens := fun _ => rfl
    have hfirst : Reader.run? ⟨.member [] name :: stack, .value⟩ value.tokens =
        some ⟨.object [(name, value)] :: stack, .separator⟩ :=
      run?_tokens _ value
    rw [Value.tokens, Value.memberTokens, enclosed, List.append_assoc, List.cons_append,
      List.cons_append, List.cons_append, hopen, Reader.run?_append, hfirst, Option.bind_some,
      run?_memberTokens stack [(name, value)] members]
    rfl

/-- Items are read up to the end of their array, behind those that have been read. -/
theorem run?_itemTokens (stack : List Frame) (read : List Value) :
    (items : List Value) →
    Reader.run? ⟨.array read :: stack, .separator⟩
        ((Value.itemTokens items).flatMap (.comma :: ·) ++ [.closeArray]) =
      Reader.deliver? stack (.array (read.reverse ++ items))
  | [] => by
    simp [Value.itemTokens, Reader.step?, Reader.separate?, Reader.close?]
  | item :: items => by
    have hcomma : ∀ tokens, Reader.run? ⟨.array read :: stack, .separator⟩ (.comma :: tokens) =
        Reader.run? ⟨.array read :: stack, .value⟩ tokens := fun _ => rfl
    have hitem : Reader.run? ⟨.array read :: stack, .value⟩ item.tokens =
        some ⟨.array (item :: read) :: stack, .separator⟩ :=
      run?_tokens _ item
    rw [Value.itemTokens, List.flatMap_cons, List.append_assoc, List.cons_append, hcomma,
      Reader.run?_append, hitem, Option.bind_some, run?_itemTokens stack (item :: read) items,
      List.reverse_cons, List.append_assoc, List.singleton_append]

/-- Members are read up to the end of their object, behind those that have been read. -/
theorem run?_memberTokens (stack : List Frame) (read : List (List Piece × Value)) :
    (members : List (List Piece × Value)) →
    Reader.run? ⟨.object read :: stack, .separator⟩
        ((Value.memberTokens members).flatMap (.comma :: ·) ++ [.closeObject]) =
      Reader.deliver? stack (.object (read.reverse ++ members))
  | [] => by
    simp [Value.memberTokens, Reader.step?, Reader.separate?, Reader.close?]
  | (name, value) :: members => by
    have hcomma : ∀ tokens,
        Reader.run? ⟨.object read :: stack, .separator⟩ (.comma :: .str name :: .colon :: tokens) =
          Reader.run? ⟨.member read name :: stack, .value⟩ tokens := fun _ => rfl
    have hvalue : Reader.run? ⟨.member read name :: stack, .value⟩ value.tokens =
        some ⟨.object ((name, value) :: read) :: stack, .separator⟩ :=
      run?_tokens _ value
    rw [Value.memberTokens, List.flatMap_cons, List.append_assoc, List.cons_append,
      List.cons_append, List.cons_append, hcomma, Reader.run?_append, hvalue, Option.bind_some,
      run?_memberTokens stack ((name, value) :: read) members, List.reverse_cons,
      List.append_assoc, List.singleton_append]

end

namespace Value

theorem ofTokens?_tokens (value : Value) : ofTokens? value.tokens = some value := by
  have hrun : value.tokens.foldlM Reader.step? Reader.start = some ⟨[], .nothing value⟩ :=
    run?_tokens [] value
  rw [ofTokens?, hrun]
  rfl

/-- **A value is read from the text that it is printed as.** -/
theorem parse?_pretty {value : Value} (h : value.Plain) : parse? value.pretty = some value := by
  rw [parse?, tokens?_pretty h]
  exact value.ofTokens?_tokens

end Value

end OpShape.Json

/-
# `OpShape.Proofs.Operator.Expansion` — repeating the elements of a tensor is expansion.

A tensor is repeated to fill a shape exactly if the rule for expansion answers with that shape.  The
element at an index is then the one of the tensor whose index is what is left of it: the coordinates
of new leading dimensions are dropped, and those along sizes of one are zero.  Dropping and zeroing
may be done in several steps, and so may repeating.
-/
import OpShape.Proofs.Rule.Broadcast

namespace OpShape.Operator

variable {α : Type}

/-! ## The index that is read -/

/-- **`ReadsFrom source index own`** — `own` is what is left of `index` in a tensor of the sizes
`source`: the extra leading coordinates are gone, and those along sizes of one are zero. -/
structure ReadsFrom (source : Sizes) (index own : List Nat) : Prop where
  length : own.length = source.length
  coordinate : ∀ dim size i, source[dim]? = some size →
    index[index.length - source.length + dim]? = some i →
      own[dim]? = some (if size = 1 then 0 else i)

theorem readsFrom_sourceIndex {source : Sizes} {index : List Nat}
    (h : source.length ≤ index.length) : ReadsFrom source index (sourceIndex source index) where
  length := by
    unfold sourceIndex
    simp only [List.length_map, List.length_zip, List.length_drop]
    omega
  coordinate dim size i hsize hi := by
    have hentry : (source.zip (index.drop (index.length - source.length)))[dim]? = some (size, i) := by
      rw [List.getElem?_zip_eq_some, List.getElem?_drop]
      exact ⟨hsize, hi⟩
    unfold sourceIndex
    simp only [List.getElem?_map, hentry, Option.map_some]

/-- Only one index is left. -/
theorem ReadsFrom.unique {source : Sizes} {index own other : List Nat}
    (hlength : source.length ≤ index.length) (h : ReadsFrom source index own)
    (h' : ReadsFrom source index other) : own = other := by
  apply List.ext_getElem?
  intro dim
  by_cases hdim : dim < source.length
  · have hsize := List.getElem?_eq_getElem hdim
    have hi := List.getElem?_eq_getElem
      (show index.length - source.length + dim < index.length by omega)
    rw [h.coordinate _ _ _ hsize hi, h'.coordinate _ _ _ hsize hi]
  · have hbeyond : source.length ≤ dim := Nat.not_lt.mp hdim
    rw [List.getElem?_eq_none (h.length ▸ hbeyond),
      List.getElem?_eq_none (h'.length ▸ hbeyond)]

/-- A size that is aligned with another one is one or the same. -/
theorem Stretches.getElem? {source target : Sizes} (h : Stretches source target) {dim size : Nat}
    (hsize : source[dim]? = some size) :
    ∃ wanted, target[target.length - source.length + dim]? = some wanted ∧
      (size = wanted ∨ size = 1) := by
  obtain ⟨-, haligned⟩ := h
  obtain ⟨wanted, hwanted, hfits⟩ := getElem?_of_forall₂ haligned.flip hsize
  rw [List.getElem?_drop] at hwanted
  exact ⟨wanted, hwanted, hfits⟩

/-- **What is left in two steps is left at once.** -/
theorem sourceIndex_sourceIndex {source middle target : Sizes} {index : List Nat}
    (h : Stretches source middle) (h' : Stretches middle target) (hindex : Inside index target) :
    sourceIndex source (sourceIndex middle index) = sourceIndex source index := by
  have hle := h.1
  have hle' := h'.1
  have hlength := hindex.length
  have hmiddle : ReadsFrom middle index (sourceIndex middle index) :=
    readsFrom_sourceIndex (by omega)
  have hsource : ReadsFrom source (sourceIndex middle index)
      (sourceIndex source (sourceIndex middle index)) :=
    readsFrom_sourceIndex (by rw [hmiddle.length]; omega)
  refine ReadsFrom.unique (by omega) ⟨hsource.length, ?_⟩ (readsFrom_sourceIndex (by omega))
  intro dim size i hsize hi
  obtain ⟨wanted, hwanted, hfits⟩ := h.getElem? hsize
  -- The coordinate is read at the place of the middle shape that is aligned with the dimension.
  have hplace : index.length - middle.length + (middle.length - source.length + dim) =
      index.length - source.length + dim := by
    omega
  have hbetween := hmiddle.coordinate _ _ i hwanted (by rw [hplace, hi])
  rw [← hmiddle.length] at hbetween
  rw [hsource.coordinate dim size _ hsize hbetween]
  rcases hfits with rfl | rfl
  · split <;> rfl
  · rfl

/-! ## Tensors that are repeated -/

/-- The reason for which a tensor is not repeated. -/
def stretchRefusal (source target : Sizes) : Failure OpError :=
  .error (.incompatibleInputShapes
    (if target.length < source.length then "Cannot broadcast to a shape with fewer dims"
      else "Cannot broadcast input"))

/-- **A tensor whose sizes do not stretch is refused**, and nothing breaks down. -/
theorem broadcastTo_of_not_stretches {tensor : Tensor α} {target : Sizes}
    (h : ¬ Stretches tensor.sizes target) :
    broadcastTo tensor target = .error (stretchRefusal tensor.sizes target) := by
  unfold broadcastTo stretchRefusal
  by_cases hlength : target.length < tensor.sizes.length
  · rw [if_pos hlength, if_pos hlength]
    rfl
  · have hdrop : tensor.sizes.length =
        (target.drop (target.length - tensor.sizes.length)).length := by
      rw [List.length_drop]
      omega
    have hall := mt (aligned_iff_all hdrop).mp fun haligned => h ⟨Nat.not_lt.mp hlength, haligned⟩
    rw [if_neg hlength, if_neg hlength]
    dsimp only
    rw [if_neg hall]
    rfl

theorem broadcastTo_answers {tensor : Tensor α} {target : Sizes} :
    (∃ wide, broadcastTo tensor target = .ok wide) ↔ Stretches tensor.sizes target := by
  constructor
  · rintro ⟨wide, hwide⟩
    by_contra hrefused
    rw [broadcastTo_of_not_stretches hrefused] at hwide
    cases hwide
  · intro h
    obtain ⟨wide, hwide, -⟩ := answers_iff.mp (answers_broadcastTo h)
    exact ⟨wide, hwide⟩

/-- **A tensor that is repeated in two steps is repeated at once.** -/
theorem broadcastTo_broadcastTo {tensor near far : Tensor α} {middle target : Sizes}
    (h : broadcastTo tensor middle = .ok near) (h' : broadcastTo near target = .ok far) :
    broadcastTo tensor target = .ok far := by
  have hstretch := broadcastTo_answers.mp ⟨near, h⟩
  obtain ⟨rfl, hnear⟩ := (broadcastTo_eq_ok hstretch).mp h
  have hstretch' := broadcastTo_answers.mp ⟨far, h'⟩
  obtain ⟨hsizes, hfar⟩ := (broadcastTo_eq_ok hstretch').mp h'
  refine (broadcastTo_eq_ok (hstretch.trans hstretch')).mpr ⟨hsizes, fun index hindex => ?_⟩
  rw [← hfar index hindex, ← hnear _ (inside_sourceIndex hstretch' hindex),
    sourceIndex_sourceIndex hstretch hstretch' hindex]

/-- The element of a repeated tensor at an index is the one at what is left of the index. -/
theorem exists_source {tensor wide : Tensor α} {target : Sizes}
    (h : broadcastTo tensor target = .ok wide) {index : List Nat} (hindex : Inside index target) :
    ∃ own x, ReadsFrom tensor.sizes index own ∧ Inside own tensor.sizes ∧
      (tensor.at? own : OpResult α) = .ok x ∧ (wide.at? index : OpResult α) = .ok x := by
  have hstretch := broadcastTo_answers.mp ⟨wide, h⟩
  obtain ⟨-, hentries⟩ := (broadcastTo_eq_ok hstretch).mp h
  have hinside := inside_sourceIndex hstretch hindex
  obtain ⟨x, hx, -⟩ := answers_iff.mp (Tensor.answers_at? (ε := OpError) hinside)
  refine ⟨_, x, readsFrom_sourceIndex ?_, hinside, hx, ?_⟩
  · rw [hindex.length]
    exact hstretch.1
  · rw [← hentries index hindex, hx]

end OpShape.Operator

/-
# `OpShape.Proofs.Run.Trial` — what it takes for one invocation to pass.

A trial is one invocation of one shape function, together with the token of its call.  `Passes` and
`Rejected` say in terms of the two sides alone what becomes of it: they mention neither texts of
failures being compared nor the order in which the comparison goes about its work, except where the
order shows in the report, which names the first output and the first dimension that differ.

The main statements are `verify_eq_ok` and `verify_eq_error`: the verifier accepts exactly the trials
that pass, and rejects the others for exactly the reason that `Rejected` gives.
-/
import OpShape.Proofs.Call.Projection
import OpShape.Verify

namespace OpShape

variable {ε α : Type}

/-! ## Comparing outputs -/

/-- Every dimension of the shape is fixed, at the size that is expected of it. -/
def Shape.Fits (shape : Shape) (sizes : Sizes) : Prop :=
  List.Forall₂ (fun dim size => dim = .fixed size) shape.dims sizes

/-- Why shapes do not fit the sizes that are expected: their number differs, or else the first one
that does not fit has another rank, or a first dimension that is not fixed at its size. -/
inductive Mismatch (actual : List Shape) (expected : List Sizes) : Disagreement → Prop
  | count :
      actual.length ≠ expected.length → Mismatch actual expected (.count expected.length actual.length)
  | rank {output : Nat} {shape : Shape} {sizes : Sizes} :
      actual.length = expected.length →
      (actual.zip expected)[output]? = some (shape, sizes) →
      (∀ pair ∈ (actual.zip expected).take output, pair.1.Fits pair.2) →
      shape.rank ≠ sizes.length → Mismatch actual expected (.rank output sizes shape)
  | dimension {output dim size : Nat} {shape : Shape} {sizes : Sizes} {found : Dim} :
      actual.length = expected.length →
      (actual.zip expected)[output]? = some (shape, sizes) →
      (∀ pair ∈ (actual.zip expected).take output, pair.1.Fits pair.2) →
      shape.rank = sizes.length →
      (shape.dims.zip sizes)[dim]? = some (found, size) →
      (∀ pair ∈ (shape.dims.zip sizes).take dim, pair.1 = .fixed pair.2) →
      found ≠ .fixed size → Mismatch actual expected (.dimension output dim sizes shape)

theorem Dim.hasSize_iff {dim : Dim} {size : Nat} : dim.hasSize size = true ↔ dim = .fixed size := by
  cases dim <;> simp [Dim.hasSize, Dim.size?]

theorem mismatchedDim?_eq_none {shape : Shape} {sizes : Sizes} :
    mismatchedDim? shape sizes = none ↔ ∀ pair ∈ shape.dims.zip sizes, pair.1 = .fixed pair.2 := by
  simp only [mismatchedDim?, List.findIdx?_eq_none_iff, Bool.not_eq_eq_eq_not, Bool.not_false,
    Dim.hasSize_iff]

theorem mismatchedDim?_eq_some {shape : Shape} {sizes : Sizes} {dim : Nat} :
    mismatchedDim? shape sizes = some dim ↔
      ∃ found size, (shape.dims.zip sizes)[dim]? = some (found, size) ∧
        (∀ pair ∈ (shape.dims.zip sizes).take dim, pair.1 = .fixed pair.2) ∧
        found ≠ .fixed size := by
  rw [mismatchedDim?, List.findIdx?_eq_some_iff_getElem]
  constructor
  · rintro ⟨hlt, hfound, hbefore⟩
    refine ⟨_, _, List.getElem?_eq_getElem hlt, ?_, ?_⟩
    · intro pair hpair
      obtain ⟨j, hj, rfl⟩ := List.mem_take_iff_getElem.mp hpair
      have h := hbefore j (by omega)
      simpa [Dim.hasSize_iff] using h
    · intro h
      rw [Bool.not_eq_true', Bool.eq_false_iff] at hfound
      exact hfound (Dim.hasSize_iff.mpr h)
  · rintro ⟨found, size, hget, hbefore, hne⟩
    obtain ⟨hlt, hpair⟩ := List.getElem?_eq_some_iff.mp hget
    refine ⟨hlt, ?_, ?_⟩
    · rw [hpair, Bool.not_eq_true', Bool.eq_false_iff, Ne, Dim.hasSize_iff]
      exact hne
    · intro j hj
      have h := hbefore _ (List.mem_take_iff_getElem.mpr ⟨j, by omega, rfl⟩)
      rw [Bool.not_eq_true', Bool.eq_false_iff, not_not]
      exact Dim.hasSize_iff.mpr h

theorem Shape.fits_iff {shape : Shape} {sizes : Sizes} :
    shape.Fits sizes ↔
      shape.rank = sizes.length ∧ ∀ pair ∈ shape.dims.zip sizes, pair.1 = .fixed pair.2 := by
  rw [Shape.Fits, List.forall₂_iff_zip, Shape.rank]
  exact and_congr_right fun _ => ⟨fun h pair hp => h hp, fun h _ _ hp => h _ hp⟩

theorem compareOutput_eq_ok {output : Nat} {shape : Shape} {sizes : Sizes} :
    compareOutput output shape sizes = .ok () ↔ shape.Fits sizes := by
  rw [Shape.fits_iff, ← mismatchedDim?_eq_none, compareOutput]
  by_cases hrank : shape.rank = sizes.length
  · cases mismatchedDim? shape sizes <;> simp [hrank]
  · simp [hrank]

/-- The checks of all outputs in order stop at the first output that does not fit. -/
theorem compareAll_eq_error {pairs : List (Shape × Sizes)} {reason : Disagreement} :
    (pairs.zipIdx.forM fun entry => compareOutput entry.2 entry.1.1 entry.1.2) = .error reason ↔
      ∃ output shape sizes, pairs[output]? = some (shape, sizes) ∧
        (∀ pair ∈ pairs.take output, pair.1.Fits pair.2) ∧
        compareOutput output shape sizes = .error reason := by
  rw [forM_eq_error]
  constructor
  · rintro ⟨before, ⟨⟨shape, sizes⟩, output⟩, after, hpairs, hbefore, hentry⟩
    -- The number that is checked with an output is its place, and so the number of those before it.
    have hget : pairs.zipIdx[before.length]? = some ((shape, sizes), output) := by simp [hpairs]
    rw [List.getElem?_zipIdx, Option.map_eq_some_iff] at hget
    obtain ⟨pair, hpair, heq⟩ := hget
    obtain ⟨rfl, rfl⟩ := Prod.mk.inj heq
    rw [Nat.zero_add] at hentry
    refine ⟨before.length, shape, sizes, hpair, ?_, hentry⟩
    intro pair hmem
    obtain ⟨j, hj, rfl⟩ := List.mem_take_iff_getElem.mp hmem
    refine compareOutput_eq_ok.mp (hbefore (pairs[j], j) ?_)
    have hj' : pairs.zipIdx[j]? = some (pairs[j], j) := by
      simp [List.getElem?_eq_getElem (show j < pairs.length by omega)]
    -- An output at an earlier place is among those that were checked before.
    rw [hpairs, List.getElem?_append_left (by omega)] at hj'
    exact List.mem_of_getElem? hj'
  · rintro ⟨output, shape, sizes, hget, hbefore, hentry⟩
    obtain ⟨hlt, hpair⟩ := List.getElem?_eq_some_iff.mp hget
    refine ⟨pairs.zipIdx.take output, ((shape, sizes), output), pairs.zipIdx.drop (output + 1),
      ?_, ?_, hentry⟩
    · rw [← hpair]
      have hlt' : output < pairs.zipIdx.length := by
        rw [List.length_zipIdx]
        exact hlt
      have h : pairs.zipIdx[output] = (pairs[output], output) := by simp
      rw [← h, List.getElem_cons_drop, List.take_append_drop]
    · rintro ⟨pair, i⟩ hmem
      refine compareOutput_eq_ok.mpr (hbefore pair ?_)
      obtain ⟨j, hj, heq⟩ := List.mem_take_iff_getElem.mp hmem
      rw [List.getElem_zipIdx] at heq
      rw [List.length_zipIdx] at hj
      obtain ⟨rfl, -⟩ := Prod.mk.inj heq
      exact List.mem_take_iff_getElem.mpr ⟨j, hj, rfl⟩

/-- **Outputs are accepted exactly if there are as many as expected and each fits.** -/
theorem compareOutputs_eq_ok {actual : List Shape} {expected : List Sizes} :
    compareOutputs actual expected = .ok () ↔ List.Forall₂ Shape.Fits actual expected := by
  rw [List.forall₂_iff_zip, compareOutputs]
  by_cases hlength : actual.length = expected.length
  · rw [if_neg (not_not.mpr hlength), forM_eq_ok]
    simp only [compareOutput_eq_ok]
    constructor
    · intro h
      refine ⟨hlength, fun {shape sizes} hmem => ?_⟩
      obtain ⟨i, hi, heq⟩ := List.getElem_of_mem hmem
      refine h ((shape, sizes), i) (List.mem_of_getElem? (i := i) ?_)
      rw [List.getElem?_zipIdx, List.getElem?_eq_getElem hi, heq, Option.map_some, Nat.zero_add]
    · rintro ⟨-, h⟩ ⟨pair, i⟩ hmem
      exact h (List.fst_mem_of_mem_zipIdx hmem)
  · rw [if_pos hlength]
    simp [hlength]

/-- **Outputs are rejected for exactly the reason that they do not fit.** -/
theorem compareOutputs_eq_error {actual : List Shape} {expected : List Sizes}
    {reason : Disagreement} :
    compareOutputs actual expected = .error reason ↔ Mismatch actual expected reason := by
  rw [compareOutputs]
  by_cases hlength : actual.length = expected.length
  · rw [if_neg (not_not.mpr hlength), compareAll_eq_error]
    constructor
    · rintro ⟨output, shape, sizes, hget, hbefore, h⟩
      rw [compareOutput] at h
      split at h
      · next hrank =>
        rw [← Except.error.inj h]
        exact .rank hlength hget hbefore hrank
      · next hrank =>
        -- The ranks are the same here, so that a dimension has to differ.
        cases hdim : mismatchedDim? shape sizes with
        | none => simp [hdim] at h
        | some dim =>
          rw [hdim] at h
          obtain ⟨found, size, hfound, hfits, hne⟩ := mismatchedDim?_eq_some.mp hdim
          rw [← Except.error.inj h]
          exact .dimension hlength hget hbefore (not_not.mp hrank) hfound hfits hne
    · intro h
      cases h with
      | count hne => exact absurd hlength hne
      | @rank output shape sizes _ hget hbefore hrank =>
        exact ⟨output, shape, sizes, hget, hbefore, by rw [compareOutput, if_pos hrank]⟩
      | @dimension output dim size shape sizes found _ hget hbefore hrank hfound hfits hne =>
        refine ⟨output, shape, sizes, hget, hbefore, ?_⟩
        have hdim := mismatchedDim?_eq_some.mpr ⟨found, size, hfound, hfits, hne⟩
        rw [compareOutput, if_neg (not_not.mpr hrank), hdim]
  · rw [if_pos hlength]
    constructor
    · intro h
      rw [← Except.error.inj h]
      exact .count hlength
    · intro h
      cases h with
      | count _ => rfl
      | rank heq => exact absurd heq hlength
      | dimension heq => exact absurd heq hlength

/-! ## Comparing sides -/

/-- Both sides end as the invocation is meant to end: they fail where failure is expected, and
elsewhere they answer with as many outputs, every shape fixed at the sizes of its tensor.  The sizes
of the tensors are what there is to record. -/
inductive Agreement (expectError : Bool) :
    ShapeResult (Returned Shape) → OpResult (Returned RealTensor) → Option (List Sizes) → Prop
  | failure {shapeFailure : Failure ShapeError} {opFailure : Failure OpError} :
      expectError = true → Agreement expectError (.error shapeFailure) (.error opFailure) none
  | outputs {shapes : Returned Shape} {tensors : Returned RealTensor} :
      expectError = false →
      List.Forall₂ Shape.Fits shapes.toList (tensors.toList.map RealTensor.sizes) →
      Agreement expectError (.ok shapes) (.ok tensors)
        (some (tensors.toList.map RealTensor.sizes))

/-- Why the two sides do not end as they are meant to. -/
inductive Objection (expectError : Bool) :
    ShapeResult (Returned Shape) → OpResult (Returned RealTensor) → Disagreement → Prop
  | bothFailed {shapeFailure : Failure ShapeError} {opFailure : Failure OpError} :
      expectError = false →
      Objection expectError (.error shapeFailure) (.error opFailure)
        (.unexpectedDoubleFailure (shapeFailure.message ShapeError.message)
          (opFailure.message OpError.message))
  | shapeFunctionFailed {failure : Failure ShapeError} {tensors : Returned RealTensor} :
      Objection expectError (.error failure) (.ok tensors)
        (.asymmetricFailure .shapeFunction (failure.message ShapeError.message))
  | operatorFailed {shapes : Returned Shape} {failure : Failure OpError} :
      Objection expectError (.ok shapes) (.error failure)
        (.asymmetricFailure .operator (failure.message OpError.message))
  | bothAnswered {shapes : Returned Shape} {tensors : Returned RealTensor} :
      expectError = true → Objection expectError (.ok shapes) (.ok tensors) .missedExpectedError
  | mismatch {shapes : Returned Shape} {tensors : Returned RealTensor} {reason : Disagreement} :
      expectError = false →
      Mismatch shapes.toList (tensors.toList.map RealTensor.sizes) reason →
      Objection expectError (.ok shapes) (.ok tensors) reason

theorem Shape.fits_iff_eq {shape : Shape} {sizes : Sizes} :
    shape.Fits sizes ↔ shape = Shape.ofSizes sizes := by
  rw [Shape.Fits, ← List.forall₂_map_right_iff, List.forall₂_eq_eq_eq]
  constructor
  · intro h
    cases shape
    exact congrArg Shape.mk h
  · rintro rfl
    rfl

theorem forall₂_fits_iff_eq {shapes : List Shape} {sizes : List Sizes} :
    List.Forall₂ Shape.Fits shapes sizes ↔ shapes = sizes.map Shape.ofSizes := by
  rw [← List.forall₂_eq_eq_eq, List.forall₂_map_right_iff]
  simp only [← Shape.fits_iff_eq]

section Sides

variable {expectError : Bool} {shapes : ShapeResult (Returned Shape)}
  {tensors : OpResult (Returned RealTensor)}

/-- Where the sides agree, their comparison accepts, and keeps the sizes of the tensors. -/
theorem agreedOutputs_of_agreement {sizes : Option (List Sizes)}
    (h : Agreement expectError shapes tensors sizes) :
    agreedOutputs expectError (sideOutputs ShapeError.message shapes)
        (sideOutputs OpError.message tensors) =
      .ok (sizes.map fun sizes => sizes.map Shape.ofSizes) := by
  cases h with
  | failure hexpect =>
    rw [hexpect]
    rfl
  | outputs hexpect hfits =>
    simp only [sideOutputs, agreedOutputs, hexpect, Bool.false_eq_true, if_false]
    rw [compareOutputs_eq_ok.mpr hfits, forall₂_fits_iff_eq.mp hfits]
    rfl

/-- Where there is an objection, the comparison makes it. -/
theorem agreedOutputs_of_objection {reason : Disagreement}
    (h : Objection expectError shapes tensors reason) :
    agreedOutputs expectError (sideOutputs ShapeError.message shapes)
        (sideOutputs OpError.message tensors) = .error reason := by
  cases h with
  | bothFailed hexpect =>
    rw [hexpect]
    rfl
  | shapeFunctionFailed => rfl
  | operatorFailed => rfl
  | bothAnswered hexpect =>
    rw [hexpect]
    rfl
  | mismatch hexpect hmismatch =>
    simp only [sideOutputs, agreedOutputs, hexpect, Bool.false_eq_true, if_false]
    rw [compareOutputs_eq_error.mpr hmismatch]
    rfl

/-- The sides agree, or there is something to object to. -/
theorem agreement_or_objection (expectError : Bool) (shapes : ShapeResult (Returned Shape))
    (tensors : OpResult (Returned RealTensor)) :
    (∃ sizes, Agreement expectError shapes tensors sizes) ∨
      ∃ reason, Objection expectError shapes tensors reason := by
  cases shapes with
  | error shapeFailure =>
    cases tensors with
    | error opFailure =>
      cases hexpect : expectError with
      | true => exact .inl ⟨_, .failure rfl⟩
      | false => exact .inr ⟨_, .bothFailed rfl⟩
    | ok tensors => exact .inr ⟨_, .shapeFunctionFailed⟩
  | ok shapes =>
    cases tensors with
    | error opFailure => exact .inr ⟨_, .operatorFailed⟩
    | ok tensors =>
      cases hexpect : expectError with
      | true => exact .inr ⟨_, .bothAnswered rfl⟩
      | false =>
        cases hcompare : compareOutputs shapes.toList (tensors.toList.map RealTensor.sizes) with
        | ok _ => exact .inl ⟨_, .outputs rfl (compareOutputs_eq_ok.mp hcompare)⟩
        | error reason =>
          exact .inr ⟨reason, .mismatch rfl (compareOutputs_eq_error.mp hcompare)⟩

/-- **The comparison of the two sides accepts exactly where they agree.** -/
theorem agreedOutputs_eq_ok {outputs : Option (List Shape)} :
    agreedOutputs expectError (sideOutputs ShapeError.message shapes)
        (sideOutputs OpError.message tensors) = .ok outputs ↔
      ∃ sizes, Agreement expectError shapes tensors sizes ∧
        outputs = sizes.map fun sizes => sizes.map Shape.ofSizes := by
  constructor
  · intro h
    rcases agreement_or_objection expectError shapes tensors with ⟨sizes, hagree⟩ | ⟨reason, hobject⟩
    · rw [agreedOutputs_of_agreement hagree] at h
      exact ⟨sizes, hagree, (Except.ok.inj h).symm⟩
    · rw [agreedOutputs_of_objection hobject] at h
      cases h
  · rintro ⟨sizes, hagree, rfl⟩
    exact agreedOutputs_of_agreement hagree

/-- **The comparison of the two sides objects for exactly the reason that they do not agree.** -/
theorem agreedOutputs_eq_error {reason : Disagreement} :
    agreedOutputs expectError (sideOutputs ShapeError.message shapes)
        (sideOutputs OpError.message tensors) = .error reason ↔
      Objection expectError shapes tensors reason := by
  constructor
  · intro h
    rcases agreement_or_objection expectError shapes tensors with ⟨sizes, hagree⟩ | ⟨found, hobject⟩
    · rw [agreedOutputs_of_agreement hagree] at h
      cases h
    · rw [agreedOutputs_of_objection hobject] at h
      rw [← Except.error.inj h]
      exact hobject
  · exact agreedOutputs_of_objection

end Sides

/-! ## Trials -/

/-- One invocation of a function that is tried in a run, with the token of its call. -/
structure Trial where
  function : ShapeFunction
  invocation : Invocation
  token : Nat

namespace Trial

/-- How the verifier judges the trial. -/
def verify (oracle : Oracle) (trial : Trial) : Except VerifyError VerifiedInvocation :=
  trial.function.verifyInvocation oracle trial.token trial.invocation

/-- What the two sides of the trial end with, once its invocation is read. -/
def Sides (oracle : Oracle) (trial : Trial) (shapes : ShapeResult (Returned Shape))
    (tensors : OpResult (Returned RealTensor)) : Prop :=
  ∃ shapeArgs realArgs, trial.invocation.shapeArgs = .ok shapeArgs ∧
    trial.invocation.realArgs = .ok realArgs ∧
    trial.function.call trial.token shapeArgs = shapes ∧
    oracle trial.function.op realArgs = tensors

/-- **The trial passes**, and `outputs` are the sizes that are recorded of it: no keyword holds a
tensor, and the two sides agree. -/
def PassesWith (oracle : Oracle) (trial : Trial) (outputs : Option (List Sizes)) : Prop :=
  trial.invocation.KeywordsTensorless ∧
    ∃ shapes tensors, trial.Sides oracle shapes tensors ∧
      Agreement trial.invocation.expectError shapes tensors outputs

/-- The trial passes, whatever is recorded of it. -/
def Passes (oracle : Oracle) (trial : Trial) : Prop :=
  ∃ outputs, trial.PassesWith oracle outputs

/-- Why the trial does not pass: its invocation cannot be read, or the two sides do not agree. -/
inductive Rejected (oracle : Oracle) (trial : Trial) : VerifyFailure → Prop
  | unreadable {reason : TensorKeyword} :
      trial.invocation.FirstTensorKeyword reason.name → Rejected oracle trial (.projection reason)
  | objection {shapes : ShapeResult (Returned Shape)} {tensors : OpResult (Returned RealTensor)}
      {reason : Disagreement} :
      trial.Sides oracle shapes tensors →
      Objection trial.invocation.expectError shapes tensors reason →
      Rejected oracle trial (.disagreement reason)

/-- The outcome of an invocation that can be read, in terms of its two sides. -/
theorem verify_of_sides {oracle : Oracle} {trial : Trial} {shapes : ShapeResult (Returned Shape)}
    {tensors : OpResult (Returned RealTensor)} (hsides : trial.Sides oracle shapes tensors) :
    trial.verify oracle =
      match agreedOutputs trial.invocation.expectError (sideOutputs ShapeError.message shapes)
        (sideOutputs OpError.message tensors) with
      | .error reason => .error {
          op := trial.function.op, invocation := trial.invocation.text,
          reason := .disagreement reason }
      | .ok outputs => .ok { invocation := trial.invocation, outputs } := by
  obtain ⟨shapeArgs, realArgs, hshape, hreal, rfl, rfl⟩ := hsides
  have h : ShapeFunction.projections trial.invocation = .ok (shapeArgs, realArgs) := by
    rw [ShapeFunction.projections, hshape, hreal]
    rfl
  rw [verify, ShapeFunction.verifyInvocation]
  exact h ▸ rfl

/-- The outcome of an invocation that cannot be read. -/
theorem verify_of_unreadable {oracle : Oracle} {trial : Trial} {reason : TensorKeyword}
    (hread : trial.invocation.shapeArgs = .error reason) :
    trial.verify oracle = .error {
      op := trial.function.op, invocation := trial.invocation.text,
      reason := .projection reason } := by
  have h : ShapeFunction.projections trial.invocation = .error reason := by
    rw [ShapeFunction.projections, hread]
    rfl
  rw [verify, ShapeFunction.verifyInvocation, h]

/-- The two sides of a trial are what they are. -/
theorem Sides.unique {oracle : Oracle} {trial : Trial} {shapes shapes' : ShapeResult (Returned Shape)}
    {tensors tensors' : OpResult (Returned RealTensor)} (h : trial.Sides oracle shapes tensors)
    (h' : trial.Sides oracle shapes' tensors') : shapes = shapes' ∧ tensors = tensors' := by
  obtain ⟨shapeArgs, realArgs, hshape, hreal, rfl, rfl⟩ := h
  obtain ⟨shapeArgs', realArgs', hshape', hreal', rfl, rfl⟩ := h'
  rw [hshape, Except.ok.injEq] at hshape'
  rw [hreal, Except.ok.injEq] at hreal'
  subst hshape' hreal'
  exact ⟨rfl, rfl⟩

/-- **Two readings, one obstacle.** Either no keyword holds a tensor and both sides of the trial are
tried, or the first keyword that holds one is named and neither side is. -/
theorem sides_or_unreadable (oracle : Oracle) (trial : Trial) :
    (trial.invocation.KeywordsTensorless ∧ ∃ shapes tensors, trial.Sides oracle shapes tensors) ∨
      (¬ trial.invocation.KeywordsTensorless ∧
        ∃ reason, trial.invocation.shapeArgs = .error reason) := by
  cases hshape : trial.invocation.shapeArgs with
  | ok shapeArgs =>
    have hless := Invocation.project_answers.mp ⟨shapeArgs, hshape⟩
    obtain ⟨realArgs, hreal⟩ := Invocation.project_answers.mpr hless
    exact .inl ⟨hless, _, _, shapeArgs, realArgs, hshape, hreal, rfl, rfl⟩
  | error reason =>
    refine .inr ⟨?_, reason, rfl⟩
    intro hless
    obtain ⟨args, hargs⟩ : ∃ args, trial.invocation.project Placeholder.sizes = .ok args :=
      Invocation.project_answers.mpr hless
    rw [Invocation.shapeArgs, hargs] at hshape
    cases hshape

/-- **The verifier accepts exactly the trials that pass**, and keeps the sizes of the tensors. -/
theorem verify_eq_ok {oracle : Oracle} {trial : Trial} {verified : VerifiedInvocation} :
    trial.verify oracle = .ok verified ↔
      ∃ outputs, trial.PassesWith oracle outputs ∧
        verified = {
          invocation := trial.invocation,
          outputs := outputs.map fun sizes => sizes.map Shape.ofSizes } := by
  rcases trial.sides_or_unreadable oracle with ⟨hless, shapes, tensors, hsides⟩ | ⟨hheld, reason, hread⟩
  · rw [verify_of_sides hsides]
    constructor
    · intro h
      split at h
      · cases h
      · next outputs hagreed =>
        obtain ⟨sizes, hagree, rfl⟩ := agreedOutputs_eq_ok.mp hagreed
        exact ⟨sizes, ⟨hless, shapes, tensors, hsides, hagree⟩, (Except.ok.inj h).symm⟩
    · rintro ⟨outputs, ⟨-, shapes', tensors', hsides', hagree⟩, rfl⟩
      obtain ⟨rfl, rfl⟩ := hsides'.unique hsides
      rw [agreedOutputs_eq_ok.mpr ⟨outputs, hagree, rfl⟩]
  · rw [verify_of_unreadable hread]
    constructor
    · intro h
      cases h
    · rintro ⟨outputs, ⟨hless, -⟩, -⟩
      exact absurd hless hheld

/-- **The verifier rejects a trial for exactly the reason that it does not pass.** -/
theorem verify_eq_error {oracle : Oracle} {trial : Trial} {error : VerifyError} :
    trial.verify oracle = .error error ↔
      ∃ reason, trial.Rejected oracle reason ∧
        error = { op := trial.function.op, invocation := trial.invocation.text, reason } := by
  rcases trial.sides_or_unreadable oracle with ⟨hless, shapes, tensors, hsides⟩ | ⟨hheld, reason, hread⟩
  · rw [verify_of_sides hsides]
    constructor
    · intro h
      split at h
      · next reason hagreed =>
        exact ⟨_, .objection hsides (agreedOutputs_eq_error.mp hagreed), (Except.error.inj h).symm⟩
      · cases h
    · rintro ⟨reason, hrejected, rfl⟩
      cases hrejected with
      -- Both sides were tried, and then no keyword holds a tensor.
      | @unreadable found hfirst =>
        obtain ⟨before, arg, after, hkwargs, -, harg⟩ := hfirst
        have hmem : (found.name, arg) ∈ trial.invocation.kwargs := by
          rw [hkwargs]
          exact List.mem_append_right before List.mem_cons_self
        exact absurd harg (hless _ hmem)
      | objection hsides' hobjection =>
        obtain ⟨rfl, rfl⟩ := hsides'.unique hsides
        rw [agreedOutputs_eq_error.mpr hobjection]
  · rw [verify_of_unreadable hread]
    constructor
    · intro h
      exact ⟨_, .unreadable (Invocation.project_eq_error.mp hread), (Except.error.inj h).symm⟩
    · rintro ⟨reason', hrejected, rfl⟩
      cases hrejected with
      | unreadable hfirst =>
        have h : trial.invocation.project Placeholder.sizes = .error _ :=
          Invocation.project_eq_error.mpr hfirst
        rw [Invocation.shapeArgs, h] at hread
        rw [Except.error.inj hread]
      | objection hsides' _ =>
        obtain ⟨shapeArgs, -, hshape, -⟩ := hsides'
        rw [hread] at hshape
        cases hshape

end Trial

end OpShape

/-
# `OpShape.Proofs.Run.Generate` — what a run of the generator guarantees.

A run tries the invocations of a library function by function, then compares the functions with a
registry, and stops at the first thing that is wrong.  So a manifest exists exactly if every trial
passes and no function drifts from the registry; the manifest then records each trial with the sizes
on which both sides agreed; and an error is that of the first trial that does not pass or, after all
of them have, of the first function that drifts.
-/
import OpShape.Generate
import OpShape.Proofs.Registry.Check
import OpShape.Proofs.Run.Trial

namespace OpShape

/-! ## The trials of a library -/

/-- The trials of a function.  Their calls have tokens from the given one on. -/
def ShapeFunction.trials (function : ShapeFunction) (token : Nat) : List Trial :=
  (function.invocations.zipIdx token).map fun entry =>
    { function, invocation := entry.1, token := entry.2 }

/-- Functions with their trials, in order. -/
def trialsFrom : Nat → List ShapeFunction → List (ShapeFunction × List Trial)
  | _, [] => []
  | token, function :: functions =>
    (function, function.trials token) ::
      trialsFrom (token + function.invocations.length) functions

/-- The functions of a library with their trials, in the order in which they are tried. -/
def ShapeLibrary.trials (library : ShapeLibrary) : List (ShapeFunction × List Trial) :=
  trialsFrom 0 library.functions

/-- A trial comes from each invocation of each function, and from nothing else. -/
theorem trialsFrom_functions (token : Nat) (functions : List ShapeFunction) :
    (trialsFrom token functions).map Prod.fst = functions := by
  induction functions generalizing token with
  | nil => rfl
  | cons function functions ih =>
    show function :: (trialsFrom _ functions).map Prod.fst = _
    rw [ih]

theorem ShapeFunction.trials_invocations (function : ShapeFunction) (token : Nat) :
    (function.trials token).map Trial.invocation = function.invocations := by
  unfold ShapeFunction.trials
  rw [List.map_map]
  exact List.zipIdx_map_fst token function.invocations

/-- The trials of one function, up to the first that does not pass. -/
def verifyTrials (oracle : Oracle) (run : ShapeFunction × List Trial) :
    Except VerifyError (ShapeFunction × List VerifiedInvocation) := do
  let verified ← run.2.mapM (Trial.verify oracle)
  .ok (run.1, verified)

theorem verifyTrials_eq_ok {oracle : Oracle} {run : ShapeFunction × List Trial}
    {verified : ShapeFunction × List VerifiedInvocation} :
    verifyTrials oracle run = .ok verified ↔
      ∃ invocations, List.Forall₂ (fun trial invocation => trial.verify oracle = .ok invocation)
          run.2 invocations ∧ verified = (run.1, invocations) := by
  unfold verifyTrials
  simp only [bind_eq_ok, mapM_eq_ok, Except.ok.injEq, @eq_comm _ verified]

/-- The verifier goes through the trials of one function after the other. -/
theorem verifyAll_eq_mapM (oracle : Oracle) (token : Nat) (functions : List ShapeFunction) :
    verifyAll oracle token functions = (trialsFrom token functions).mapM (verifyTrials oracle) := by
  induction functions generalizing token with
  | nil => rfl
  | cons function functions ih =>
    -- The token of a function's first call is the number of invocations before it.
    have hverify : function.verify oracle token =
        (function.trials token).mapM (Trial.verify oracle) := by
      unfold ShapeFunction.trials
      rw [List.mapM_map]
      rfl
    unfold verifyAll trialsFrom
    rw [List.mapM_cons, ih, hverify]
    unfold verifyTrials
    rw [bind_assoc]
    rfl

/-! ## What is recorded -/

/-- **The entry records the trial**: the invocation as it is written, whether it is meant to fail,
and the sizes on which both sides agreed, all of which are known. -/
def InvocationEntry.Records (oracle : Oracle) (trial : Trial) (entry : InvocationEntry) : Prop :=
  ∃ outputs, trial.PassesWith oracle outputs ∧
    entry = {
      call := trial.invocation.text,
      expectError := trial.invocation.expectError,
      outputs := outputs.map fun sizes => sizes.map fun dims => dims.map some }

/-- The entry records a function and its trials, in their order. -/
structure FunctionEntry.Records (oracle : Oracle) (run : ShapeFunction × List Trial)
    (entry : FunctionEntry) : Prop where
  op : entry.op = run.1.op.text
  signature : entry.signature = run.1.signature.text
  registryExempt : entry.registryExempt = run.1.isExempt
  invocations : List.Forall₂ (InvocationEntry.Records oracle) run.2 entry.invocations

/-- The manifest records a library: it has one entry per function, ordered by their operators. -/
structure Manifest.Records (oracle : Oracle) (library : ShapeLibrary) (manifest : Manifest) :
    Prop where
  version : manifest.version = Manifest.currentVersion
  functions : ∃ entries, List.Forall₂ (FunctionEntry.Records oracle) library.trials entries ∧
    manifest.functions.Perm entries
  sorted : manifest.functions.Pairwise fun a b => a.op ≤ b.op

/-- What is written of an invocation that passed records its trial. -/
theorem InvocationEntry.records_ofVerified {oracle : Oracle} {trial : Trial}
    {verified : VerifiedInvocation} (h : trial.verify oracle = .ok verified) :
    InvocationEntry.Records oracle trial (.ofVerified verified) := by
  obtain ⟨outputs, hpasses, rfl⟩ := Trial.verify_eq_ok.mp h
  refine ⟨outputs, hpasses, ?_⟩
  have hdims : ∀ dims : Sizes, (Shape.ofSizes dims).dims.map Dim.size? = dims.map some := by
    intro dims
    show (dims.map Dim.fixed).map Dim.size? = _
    rw [List.map_map]
    rfl
  unfold InvocationEntry.ofVerified
  simp only [Option.map_map, Function.comp_def, List.map_map, hdims]

/-- What is written of a function whose invocations passed records its trials. -/
theorem FunctionEntry.records_ofVerified {oracle : Oracle} {run : ShapeFunction × List Trial}
    {verified : ShapeFunction × List VerifiedInvocation}
    (h : verifyTrials oracle run = .ok verified) :
    FunctionEntry.Records oracle run (.ofVerified verified) := by
  obtain ⟨invocations, hrun, rfl⟩ := verifyTrials_eq_ok.mp h
  refine ⟨rfl, rfl, rfl, ?_⟩
  show List.Forall₂ _ run.2 (invocations.map InvocationEntry.ofVerified)
  rw [List.forall₂_map_right_iff]
  exact hrun.imp fun _ _ h => InvocationEntry.records_ofVerified h

/-- The manifest of a verified library records it. -/
theorem Manifest.records_ofVerified {oracle : Oracle} {library : ShapeLibrary}
    {verified : List (ShapeFunction × List VerifiedInvocation)}
    (h : verifyAll oracle 0 library.functions = .ok verified) :
    Manifest.Records oracle library (.ofVerified verified) := by
  rw [verifyAll_eq_mapM] at h
  refine ⟨rfl, ⟨verified.map .ofVerified, ?_, List.mergeSort_perm _ _⟩, ?_⟩
  · rw [List.forall₂_map_right_iff]
    exact (mapM_eq_ok.mp h).imp fun _ _ h => FunctionEntry.records_ofVerified h
  -- Sorting needs an order that any two entries can be compared by.
  · have htrans : ∀ a b c : FunctionEntry, decide (a.op ≤ b.op) = true →
        decide (b.op ≤ c.op) = true → decide (a.op ≤ c.op) = true := by
      intro a b c hab hbc
      rw [decide_eq_true_eq] at *
      exact String.le_trans hab hbc
    have htotal : ∀ a b : FunctionEntry, (decide (a.op ≤ b.op) || decide (b.op ≤ a.op)) = true := by
      intro a b
      rw [Bool.or_eq_true, decide_eq_true_eq, decide_eq_true_eq]
      exact String.le_total a.op b.op
    have hsorted := List.pairwise_mergeSort htrans htotal (verified.map .ofVerified)
    exact hsorted.imp fun h => of_decide_eq_true h

/-! ## The outcome of a run -/

/-- Every trial of the library passes. -/
def ShapeLibrary.Passes (oracle : Oracle) (library : ShapeLibrary) : Prop :=
  ∀ run ∈ library.trials, ∀ trial ∈ run.2, trial.Passes oracle

/-- **Why a run ends without a manifest**: the first trial of the first function that does not pass
or, if there is none, the first function that drifts from the registry. -/
inductive FirstFailure (library : ShapeLibrary) (oracle : Oracle) (registry : Registry) :
    GenerateError → Prop
  | verify {runsBefore runsAfter : List (ShapeFunction × List Trial)}
      {function : ShapeFunction} {before after : List Trial} {trial : Trial}
      {reason : VerifyFailure} :
      library.trials = runsBefore ++ (function, before ++ trial :: after) :: runsAfter →
      (∀ run ∈ runsBefore, ∀ earlier ∈ run.2, earlier.Passes oracle) →
      (∀ earlier ∈ before, earlier.Passes oracle) →
      trial.Rejected oracle reason →
      FirstFailure library oracle registry (.verify {
        op := trial.function.op, invocation := trial.invocation.text, reason })
  | registry {before after : List ShapeFunction} {function : ShapeFunction}
      {error : RegistryError} :
      library.Passes oracle →
      library.functions = before ++ function :: after →
      (∀ earlier ∈ before, registry.Accepts earlier) →
      registry.Drift function error →
      FirstFailure library oracle registry (.registry error)

/-- A trial passes exactly if the verifier accepts it. -/
theorem Trial.passes_iff {oracle : Oracle} {trial : Trial} :
    trial.Passes oracle ↔ ∃ verified, trial.verify oracle = .ok verified := by
  constructor
  · rintro ⟨outputs, hpasses⟩
    exact ⟨_, Trial.verify_eq_ok.mpr ⟨outputs, hpasses, rfl⟩⟩
  · rintro ⟨verified, h⟩
    obtain ⟨outputs, hpasses, -⟩ := Trial.verify_eq_ok.mp h
    exact ⟨outputs, hpasses⟩

theorem verifyTrials_answers {oracle : Oracle} {run : ShapeFunction × List Trial} :
    (∃ verified, verifyTrials oracle run = .ok verified) ↔
      ∀ trial ∈ run.2, trial.Passes oracle := by
  simp only [Trial.passes_iff]
  constructor
  · rintro ⟨verified, h⟩ trial htrial
    obtain ⟨invocations, hrun, -⟩ := verifyTrials_eq_ok.mp h
    obtain ⟨invocation, -, hverify⟩ := exists_of_forall₂_left hrun htrial
    exact ⟨invocation, hverify⟩
  · intro h
    obtain ⟨invocations, hrun⟩ := exists_forall₂_of_forall h
    exact ⟨_, verifyTrials_eq_ok.mpr ⟨invocations, hrun, rfl⟩⟩

theorem verifyTrials_eq_error {oracle : Oracle} {run : ShapeFunction × List Trial}
    {error : VerifyError} :
    verifyTrials oracle run = .error error ↔
      ∃ before trial after reason, run.2 = before ++ trial :: after ∧
        (∀ earlier ∈ before, earlier.Passes oracle) ∧ trial.Rejected oracle reason ∧
        error = { op := trial.function.op, invocation := trial.invocation.text, reason } := by
  have hrun : verifyTrials oracle run = .error error ↔
      run.2.mapM (Trial.verify oracle) = .error error := by
    unfold verifyTrials
    cases run.2.mapM (Trial.verify oracle) <;> simp [bind, Except.bind]
  rw [hrun, mapM_eq_error]
  simp only [Trial.passes_iff, Trial.verify_eq_error]
  constructor
  · rintro ⟨before, trial, after, hrun, hbefore, reason, hrejected, herror⟩
    exact ⟨before, trial, after, reason, hrun, hbefore, hrejected, herror⟩
  · rintro ⟨before, trial, after, reason, hrun, hbefore, hrejected, herror⟩
    exact ⟨before, trial, after, hrun, hbefore, reason, hrejected, herror⟩

/-- The verifier accepts a library exactly if all of its trials pass. -/
theorem verifyAll_answers {oracle : Oracle} {library : ShapeLibrary} :
    (∃ verified, verifyAll oracle 0 library.functions = .ok verified) ↔
      library.Passes oracle := by
  unfold ShapeLibrary.Passes
  simp only [← verifyTrials_answers]
  rw [verifyAll_eq_mapM]
  constructor
  · rintro ⟨verified, h⟩ run hrun
    obtain ⟨result, -, hresult⟩ := exists_of_forall₂_left (mapM_eq_ok.mp h) hrun
    exact ⟨result, hresult⟩
  · intro h
    obtain ⟨verified, hverified⟩ := exists_forall₂_of_forall h
    exact ⟨verified, mapM_eq_ok.mpr hverified⟩

/-- A run gives a manifest exactly if both of its passes succeed. -/
theorem generate_eq_ok {library : ShapeLibrary} {oracle : Oracle} {registry : Registry}
    {manifest : Manifest} :
    generate library oracle registry = .ok manifest ↔
      ∃ verified, verifyAll oracle 0 library.functions = .ok verified ∧
        registry.checkAll library = .ok () ∧ manifest = .ofVerified verified := by
  unfold generate
  cases verifyAll oracle 0 library.functions with
  | error e => simp [Except.mapError, bind, Except.bind]
  | ok verified =>
    cases registry.checkAll library with
    | error e => simp [Except.mapError, bind, Except.bind]
    | ok _ =>
      simp only [Except.mapError, bind, Except.bind, Except.ok.injEq, true_and,
        exists_eq_left']
      exact eq_comm

/-- A run fails with the error of its first pass that fails. -/
theorem generate_eq_error {library : ShapeLibrary} {oracle : Oracle} {registry : Registry}
    {error : GenerateError} :
    generate library oracle registry = .error error ↔
      (∃ found, verifyAll oracle 0 library.functions = .error found ∧ error = .verify found) ∨
        (∃ verified found, verifyAll oracle 0 library.functions = .ok verified ∧
          registry.checkAll library = .error found ∧ error = .registry found) := by
  unfold generate
  cases verifyAll oracle 0 library.functions with
  | error e =>
    simp only [Except.mapError, bind, Except.bind, Except.error.injEq, reduceCtorEq, false_and,
      exists_false, or_false, exists_eq_left']
    exact eq_comm
  | ok verified =>
    cases registry.checkAll library with
    | error e =>
      simp only [Except.mapError, bind, Except.bind, Except.error.injEq, Except.ok.injEq,
        reduceCtorEq, false_and, exists_false, false_or]
      constructor
      · rintro rfl
        exact ⟨verified, e, rfl, rfl, rfl⟩
      · rintro ⟨-, -, -, rfl, rfl⟩
        rfl
    | ok _ => simp [Except.mapError, bind, Except.bind]

/-- The error of a run is that of the first failure. -/
theorem generate_eq_error_iff_firstFailure {library : ShapeLibrary} {oracle : Oracle}
    {registry : Registry} {error : GenerateError} :
    generate library oracle registry = .error error ↔
      FirstFailure library oracle registry error := by
  rw [generate_eq_error, verifyAll_eq_mapM]
  constructor
  · rintro (⟨found, hfound, rfl⟩ | ⟨verified, found, hverified, hfound, rfl⟩)
    · obtain ⟨runsBefore, run, runsAfter, hruns, hearlier, hrun⟩ := mapM_eq_error.mp hfound
      obtain ⟨before, trial, after, reason, htrials, hbefore, hrejected, rfl⟩ :=
        verifyTrials_eq_error.mp hrun
      obtain ⟨function, trials⟩ := run
      obtain rfl : trials = before ++ trial :: after := htrials
      refine .verify hruns ?_ hbefore hrejected
      exact fun run hrun => verifyTrials_answers.mp (hearlier run hrun)
    · obtain ⟨before, function, after, hfunctions, hbefore, hdrift⟩ :=
        Registry.checkAll_eq_error.mp hfound
      rw [← verifyAll_eq_mapM] at hverified
      exact .registry (verifyAll_answers.mp ⟨verified, hverified⟩) hfunctions hbefore hdrift
  · intro h
    cases h with
    | verify hruns hearlier hbefore hrejected =>
      refine .inl ⟨_, ?_, rfl⟩
      refine mapM_eq_error.mpr ⟨_, _, _, hruns, ?_, ?_⟩
      · exact fun run hrun => verifyTrials_answers.mpr (hearlier run hrun)
      · exact verifyTrials_eq_error.mpr ⟨_, _, _, _, rfl, hbefore, hrejected, rfl⟩
    -- The registry is asked only after all trials have passed.
    | registry hpasses hfunctions hbefore hdrift =>
      obtain ⟨verified, hverified⟩ := verifyAll_answers.mpr hpasses
      rw [verifyAll_eq_mapM] at hverified
      refine .inr ⟨verified, _, hverified, ?_, rfl⟩
      exact Registry.checkAll_eq_error.mpr ⟨_, _, _, hfunctions, hbefore, hdrift⟩

/-- **What a run of the generator guarantees**, for every library, oracle and registry.  There is a
manifest exactly if all trials pass and the registry accepts every function; a manifest records
the library; and there is no manifest exactly for the first failure, which is the error. -/
theorem generate_sound_and_complete (library : ShapeLibrary) (oracle : Oracle)
    (registry : Registry) :
    ((∃ manifest, generate library oracle registry = .ok manifest) ↔
        library.Passes oracle ∧ ∀ function ∈ library.functions, registry.Accepts function) ∧
      (∀ manifest, generate library oracle registry = .ok manifest →
        manifest.Records oracle library) ∧
      ∀ error, generate library oracle registry = .error error ↔
        FirstFailure library oracle registry error := by
  refine ⟨?_, ?_, fun error => generate_eq_error_iff_firstFailure⟩
  · rw [← verifyAll_answers, ← Registry.checkAll_eq_ok]
    constructor
    · rintro ⟨manifest, h⟩
      obtain ⟨verified, hverified, hregistry, -⟩ := generate_eq_ok.mp h
      exact ⟨⟨verified, hverified⟩, hregistry⟩
    · rintro ⟨⟨verified, hverified⟩, hregistry⟩
      exact ⟨_, generate_eq_ok.mpr ⟨verified, hverified, hregistry, rfl⟩⟩
  · intro manifest h
    obtain ⟨verified, hverified, -, rfl⟩ := generate_eq_ok.mp h
    exact Manifest.records_ofVerified hverified

end OpShape

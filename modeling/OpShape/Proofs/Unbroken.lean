/-
# `OpShape.Proofs.Unbroken` — what a computation needs in order not to break down.

Whether a computation breaks down is read off its text.  A checked read needs its bound; two
computations in a row need that the first one does not break down, nor the second one on any value
that the first one can have; a refusal and a value need nothing.  Each of these is an equivalence
and a simp lemma, so that simp turns `Unbroken x` into the bounds of the reads in `x`, each one under
the checks that come before it.  What is left are facts about lengths.
-/
import OpShape.Proofs.Outcome
import OpShape.Rule.Error

namespace OpShape

variable {ε δ α β : Type}

attribute [simp] unbroken_ok unbroken_refuse

/-! ## How computations are put together -/

@[simp] theorem unbroken_pure (a : α) : Unbroken (pure a : Checked ε α) :=
  unbroken_ok a

@[simp] theorem unbroken_breakDown (cause : Fault) :
    ¬ Unbroken (Checked.breakDown cause : Checked ε α) :=
  fun h => h cause rfl

@[simp] theorem unbroken_bind {x : Checked ε α} {f : α → Checked ε β} :
    Unbroken (x >>= f) ↔ Unbroken x ∧ ∀ a, x = .ok a → Unbroken (f a) := by
  constructor
  · intro h
    constructor
    · rintro cause rfl
      exact h cause rfl
    · rintro a rfl
      exact h
  · rintro ⟨hx, hf⟩
    exact hx.bind hf

@[simp] theorem unbroken_ite {condition : Prop} [Decidable condition] {x y : Checked ε α} :
    Unbroken (if condition then x else y) ↔
      (condition → Unbroken x) ∧ (¬ condition → Unbroken y) := by
  by_cases h : condition
  · simp [h]
  · simp [h]

/-- A plain result breaks nothing down: its errors are refusals. -/
@[simp] theorem unbroken_ofExcept (wrap : δ → ε) (x : Except δ α) :
    Unbroken (Checked.ofExcept wrap x) := by
  cases x with
  | error reason => exact unbroken_refuse (wrap reason)
  | ok value => exact unbroken_ok value

/-- Reading an argument breaks nothing down, whatever the call has given for it. -/
@[simp] theorem unbroken_argument (x : Except BindError α) :
    Unbroken (liftM x : ShapeResult α) :=
  unbroken_ofExcept ShapeError.bind x

@[simp] theorem argument_eq_ok {x : Except BindError α} {a : α} :
    (liftM x : ShapeResult α) = .ok a ↔ x = .ok a := by
  cases x with
  | error reason => exact iff_of_false (fun h => by cases h) fun h => by cases h
  | ok value => exact ⟨fun h => congrArg _ (Except.ok.inj h), fun h => congrArg _ (Except.ok.inj h)⟩

/-- **A fold needs its steps**, as long as what it has gathered keeps what they rely on. -/
theorem Unbroken.foldlM {P : β → Prop} {f : β → α → Checked ε β} {xs : List α} {start : β}
    (hstart : P start) (hstep : ∀ b, P b → ∀ x ∈ xs, Unbroken (f b x))
    (hkeep : ∀ b, P b → ∀ x ∈ xs, ∀ b', f b x = .ok b' → P b') :
    Unbroken (xs.foldlM f start) := by
  induction xs generalizing start with
  | nil => exact unbroken_ok start
  | cons x xs ih =>
    rw [List.foldlM_cons]
    apply (hstep start hstart x List.mem_cons_self).bind
    intro b hb
    apply ih (hkeep start hstart x List.mem_cons_self b hb)
    · exact fun b hb y hy => hstep b hb y (List.mem_cons_of_mem x hy)
    · exact fun b hb y hy => hkeep b hb y (List.mem_cons_of_mem x hy)

theorem Unbroken.forM {f : α → Checked ε Unit} {xs : List α} (h : ∀ x ∈ xs, Unbroken (f x)) :
    Unbroken (xs.forM f) := by
  rw [forM_eq_mapM]
  exact (Unbroken.mapM h).bind fun _ _ => unbroken_ok ()

/-! ## Checked reads -/

section Reads

variable {entries : List α} {index start stop length removed parts : Nat} {entry : α}
  {low high value divisor dividend : Int}

@[simp] theorem unbroken_get :
    Unbroken (Checked.get entries index : Checked ε α) ↔ index < entries.length := by
  unfold Checked.get
  by_cases h : index < entries.length
  · simp [h]
  · simp [h]

@[simp] theorem unbroken_set :
    Unbroken (Checked.set entries index entry : Checked ε (List α)) ↔ index < entries.length := by
  unfold Checked.set
  simp

@[simp] theorem unbroken_eraseIdx :
    Unbroken (Checked.eraseIdx entries index : Checked ε (List α)) ↔ index < entries.length := by
  unfold Checked.eraseIdx
  simp

@[simp] theorem unbroken_insertIdx :
    Unbroken (Checked.insertIdx entries index entry : Checked ε (List α)) ↔
      index ≤ entries.length := by
  unfold Checked.insertIdx
  simp

@[simp] theorem unbroken_slice :
    Unbroken (Checked.slice entries start stop : Checked ε (List α)) ↔
      start ≤ stop ∧ stop ≤ entries.length := by
  unfold Checked.slice
  simp

@[simp] theorem unbroken_sub :
    Unbroken (Checked.sub length removed : Checked ε Nat) ↔ removed ≤ length := by
  unfold Checked.sub
  simp

@[simp] theorem unbroken_div : Unbroken (Checked.div length parts : Checked ε Nat) ↔ parts ≠ 0 := by
  unfold Checked.div
  simp

@[simp] theorem unbroken_mod : Unbroken (Checked.mod length parts : Checked ε Nat) ↔ parts ≠ 0 := by
  unfold Checked.mod
  simp

@[simp] theorem unbroken_ediv :
    Unbroken (Checked.ediv dividend divisor : Checked ε Int) ↔ divisor ≠ 0 := by
  unfold Checked.ediv
  simp

@[simp] theorem unbroken_tdiv :
    Unbroken (Checked.tdiv dividend divisor : Checked ε Int) ↔ divisor ≠ 0 := by
  unfold Checked.tdiv
  simp

@[simp] theorem unbroken_clamp :
    Unbroken (Checked.clamp low high value : Checked ε Int) ↔ low ≤ high := by
  unfold Checked.clamp
  simp

/-! The values of reads that are in bounds. -/

@[simp] theorem get_eq_ok :
    (Checked.get entries index : Checked ε α) = .ok entry ↔ entries[index]? = some entry := by
  unfold Checked.get Checked.breakDown
  cases entries[index]? <;> simp

@[simp] theorem sub_eq_ok {rest : Nat} :
    (Checked.sub length removed : Checked ε Nat) = .ok rest ↔
      removed ≤ length ∧ length - removed = rest := by
  unfold Checked.sub Checked.breakDown
  split_ifs with h <;> simp [h]

@[simp] theorem slice_eq_ok {part : List α} :
    (Checked.slice entries start stop : Checked ε (List α)) = .ok part ↔
      (start ≤ stop ∧ stop ≤ entries.length) ∧ (entries.take stop).drop start = part := by
  unfold Checked.slice Checked.breakDown
  split_ifs with h <;> simp [h]

@[simp] theorem set_eq_ok {result : List α} :
    (Checked.set entries index entry : Checked ε (List α)) = .ok result ↔
      index < entries.length ∧ entries.set index entry = result := by
  unfold Checked.set Checked.breakDown
  split_ifs with h <;> simp [h]

end Reads

/-! ## Rules -/

namespace Rule

@[simp] theorem unbroken_incompatible (details : String) :
    Unbroken (incompatible details : ShapeResult α) :=
  unbroken_refuse _

@[simp] theorem unbroken_wrongRank (details : String) :
    Unbroken (wrongRank details : ShapeResult α) :=
  unbroken_refuse _

@[simp] theorem unbroken_invalid (details : String) : Unbroken (invalid details : ShapeResult α) :=
  unbroken_refuse _

end Rule

end OpShape

/-
# `OpShape.Proofs.Outcome` — computations that may end without a value.

Two ways of talking about such computations are used throughout.  `Answers P x` says that `x` ends
with a value and that the value has `P`: it is how "this never fails" is stated.  `Alike R x y`
says that `x` and `y` end alike: both with values that `R` relates, or both without a value.  It is
how two independently written computations are compared, and it never looks at the reasons for
which either of them gives up.  `AnswersIf` and `AlikeIf` promise a value under a condition only.

Both are closed under the ways in which computations are built: one after the other, over a list,
and as a fold over a list.
-/
import Mathlib.Algebra.Group.Int.Defs
import Mathlib.Algebra.Group.Nat.Defs
import Mathlib.Data.List.Forall2
import OpShape.Fault

namespace OpShape

variable {ε δ α β γ κ : Type}

@[simp] theorem ok_bind (a : α) (f : α → Except ε β) : (.ok a >>= f) = f a := rfl

@[simp] theorem error_bind (e : ε) (f : α → Except ε β) : (.error e >>= f) = .error e := rfl

/-- **Steps one after the other answer exactly if each of them does.** -/
theorem bind_eq_ok {x : Except ε α} {f : α → Except ε β} {b : β} :
    (x >>= f) = .ok b ↔ ∃ a, x = .ok a ∧ f a = .ok b := by
  cases x with
  | error e => simp
  | ok a => simp

/-- What follows a check is done where the check passes. -/
theorem guarded_bind {c : Prop} [Decidable c] {e : ε} {x : Except ε α} {f : α → Except ε β} :
    ((if c then .error e else x) >>= f) = if c then .error e else x >>= f := by
  split <;> rfl

/-- What follows a check answers exactly if the check passes and it answers itself. -/
theorem guarded_eq_ok {c : Prop} [Decidable c] {e : ε} {x : Except ε α} {a : α} :
    (if c then .error e else x) = .ok a ↔ ¬ c ∧ x = .ok a := by
  split <;> simp [*]

/-! ## Runs over lists -/

theorem exists_of_forall₂_left {R : α → β → Prop} {xs : List α} {ys : List β} {x : α}
    (h : List.Forall₂ R xs ys) (hx : x ∈ xs) : ∃ y ∈ ys, R x y := by
  induction h with
  | nil => cases hx
  | cons hxy _ ih =>
    rcases List.mem_cons.mp hx with rfl | hx
    · exact ⟨_, List.mem_cons_self, hxy⟩
    · obtain ⟨y, hy, hR⟩ := ih hx
      exact ⟨y, List.mem_cons_of_mem _ hy, hR⟩

theorem exists_of_forall₂_right {R : α → β → Prop} {xs : List α} {ys : List β} {y : β}
    (h : List.Forall₂ R xs ys) (hy : y ∈ ys) : ∃ x ∈ xs, R x y := by
  have hflip : List.Forall₂ (fun y x => R x y) ys xs := List.Forall₂.flip h
  exact exists_of_forall₂_left hflip hy

/-- Two lists have the same values if their entries have, one by one. -/
theorem map_eq_map_iff_forall₂ {f : α → γ} {g : β → γ} {xs : List α} {ys : List β} :
    xs.map f = ys.map g ↔ List.Forall₂ (fun x y => f x = g y) xs ys := by
  rw [← List.forall₂_eq_eq_eq, List.forall₂_map_left_iff, List.forall₂_map_right_iff]

/-- Entries at the same place are related. -/
theorem getElem?_of_forall₂ {R : α → β → Prop} {xs : List α} {ys : List β} {i : Nat} {y : β}
    (h : List.Forall₂ R xs ys) (hy : ys[i]? = some y) : ∃ x, xs[i]? = some x ∧ R x y := by
  induction h generalizing i with
  | nil => cases hy
  | cons hxy _ ih =>
    cases i with
    | zero => exact ⟨_, rfl, Option.some.inj hy ▸ hxy⟩
    | succ i => exact ih hy

/-- A relation that looks at its right side alone is a property of all entries there. -/
theorem forall₂_right_iff {P : β → Prop} {xs : List α} {ys : List β} :
    List.Forall₂ (fun _ => P) xs ys ↔ xs.length = ys.length ∧ ∀ y ∈ ys, P y := by
  constructor
  · intro h
    refine ⟨h.length_eq, ?_⟩
    intro y hy
    obtain ⟨_, -, hP⟩ := exists_of_forall₂_right h hy
    exact hP
  · rintro ⟨hlength, h⟩
    rw [List.forall₂_iff_zip]
    refine ⟨hlength, ?_⟩
    intro x y hxy
    exact h y (List.of_mem_zip hxy).2

theorem forall_mem_flatten_of_forall₂ {P : β → Prop} {xs : List α} {yss : List (List β)}
    (h : List.Forall₂ (fun _ ys => ∀ y ∈ ys, P y) xs yss) : ∀ y ∈ yss.flatten, P y := by
  intro y hy
  obtain ⟨ys, hys, hmem⟩ := List.mem_flatten.mp hy
  exact (forall₂_right_iff.mp h).2 ys hys y hmem

theorem exists_forall₂_of_forall {R : α → β → Prop} {xs : List α} (h : ∀ x ∈ xs, ∃ y, R x y) :
    ∃ ys, List.Forall₂ R xs ys := by
  induction xs with
  | nil => exact ⟨[], .nil⟩
  | cons x xs ih =>
    obtain ⟨y, hy⟩ := h x List.mem_cons_self
    obtain ⟨ys, hys⟩ := ih fun z hz => h z (List.mem_cons_of_mem _ hz)
    exact ⟨y :: ys, .cons hy hys⟩

/-- **A run over a list answers exactly if each step does**, and then entry by entry. -/
theorem mapM_eq_ok {f : α → Except ε β} {xs : List α} {ys : List β} :
    xs.mapM f = .ok ys ↔ List.Forall₂ (fun x y => f x = .ok y) xs ys := by
  induction xs generalizing ys with
  | nil =>
    rw [List.mapM_nil, List.forall₂_nil_left_iff]
    exact ⟨fun h => (Except.ok.inj h).symm, fun h => h ▸ rfl⟩
  | cons x xs ih =>
    rw [List.mapM_cons, List.forall₂_cons_left_iff]
    -- The run goes on behind an entry only if that has answered.
    cases hx : f x with
    | error e => simp [bind, Except.bind]
    | ok y =>
      cases hxs : xs.mapM f with
      | error e => simp [bind, Except.bind, ← ih, hxs]
      | ok zs =>
        simp only [bind, Except.bind, pure, Except.pure, Except.ok.injEq, ← ih, hxs]
        exact ⟨fun h => ⟨y, zs, rfl, rfl, h.symm⟩, fun ⟨_, _, hy, hz, h⟩ => by rw [h, hy, hz]⟩

/-- Runs whose steps do the same at every entry are the same. -/
theorem mapM_congr {f g : α → Except ε β} {xs : List α} (h : ∀ x ∈ xs, f x = g x) :
    xs.mapM f = xs.mapM g := by
  induction xs with
  | nil => rfl
  | cons x xs ih =>
    rw [List.mapM_cons, List.mapM_cons, h x List.mem_cons_self,
      ih fun y hy => h y (List.mem_cons_of_mem _ hy)]

/-- A run answers the same if its steps are done in another way that answers what the first one
answers. -/
theorem mapM_of_agrees {f g : α → Except ε β} {xs : List α} {ys : List β}
    (hagrees : ∀ x ∈ xs, ∀ y, f x = .ok y → g x = .ok y) (h : xs.mapM f = .ok ys) :
    xs.mapM g = .ok ys := by
  have hboth := (List.forall₂_and_left _ _).mpr ⟨fun _ hx => hx, mapM_eq_ok.mp h⟩
  exact mapM_eq_ok.mpr (hboth.imp fun x y hxy => hagrees x hxy.1 y hxy.2)

/-- A run whose steps check an entry before they change it. -/
theorem mapM_eq_ok_map {f : α → Except ε β} {g : α → β} {p : α → Prop} {xs : List α} {ys : List β}
    (h : ∀ x ∈ xs, ∀ y, f x = .ok y ↔ p x ∧ y = g x) :
    xs.mapM f = .ok ys ↔ (∀ x ∈ xs, p x) ∧ ys = xs.map g := by
  rw [mapM_eq_ok]
  induction xs generalizing ys with
  | nil => simp
  | cons x xs ih =>
    have hrest := fun zs => @ih zs fun z hz => h z (List.mem_cons_of_mem _ hz)
    simp only [List.forall₂_cons_left_iff, h x List.mem_cons_self, hrest, List.forall_mem_cons,
      List.map_cons]
    constructor
    · rintro ⟨_, _, ⟨hx, rfl⟩, ⟨hxs, rfl⟩, rfl⟩
      exact ⟨⟨hx, hxs⟩, rfl⟩
    · rintro ⟨⟨hx, hxs⟩, rfl⟩
      exact ⟨_, _, ⟨hx, rfl⟩, ⟨hxs, rfl⟩, rfl⟩

/-- Whether a run over a list answers is seen step by step. -/
theorem mapM_answers {f : α → Except ε β} {xs : List α} :
    (∃ ys, xs.mapM f = .ok ys) ↔ ∀ x ∈ xs, ∃ y, f x = .ok y := by
  simp only [mapM_eq_ok]
  constructor
  · rintro ⟨ys, hys⟩ x hx
    obtain ⟨y, -, hy⟩ := exists_of_forall₂_left hys hx
    exact ⟨y, hy⟩
  · exact exists_forall₂_of_forall

/-- A run whose steps are two each is two runs, one after the other. -/
theorem mapM_bind_eq_ok {f : α → Except ε β} {g : β → Except ε γ} {xs : List α} {zs : List γ} :
    (xs.mapM fun x => f x >>= g) = .ok zs ↔ ∃ ys, xs.mapM f = .ok ys ∧ ys.mapM g = .ok zs := by
  simp only [mapM_eq_ok]
  constructor
  · intro h
    induction h with
    | nil => exact ⟨[], .nil, .nil⟩
    | cons hstep _ ih =>
      obtain ⟨y, hy, hz⟩ := bind_eq_ok.mp hstep
      obtain ⟨ys, hys, hzs⟩ := ih
      exact ⟨y :: ys, .cons hy hys, .cons hz hzs⟩
  · rintro ⟨ys, hys, hzs⟩
    induction hys generalizing zs with
    | nil =>
      cases hzs
      exact .nil
    | cons hy _ ih =>
      cases hzs with
      | cons hz hzs => exact .cons (bind_eq_ok.mpr ⟨_, hy, hz⟩) (ih hzs)

/-- **A run over a list fails exactly at the first step that fails**, with the error of that step. -/
theorem mapM_eq_error {f : α → Except ε β} {xs : List α} {e : ε} :
    xs.mapM f = .error e ↔
      ∃ before x after, xs = before ++ x :: after ∧ (∀ y ∈ before, ∃ z, f y = .ok z) ∧
        f x = .error e := by
  induction xs with
  | nil => simp [List.mapM_nil, pure, Except.pure]
  | cons x xs ih =>
    rw [List.mapM_cons]
    cases hx : f x with
    | error d =>
      simp only [bind, Except.bind, Except.error.injEq]
      constructor
      · rintro rfl
        exact ⟨[], x, xs, rfl, by simp, hx⟩
      · rintro ⟨before, y, after, hxs, hbefore, hy⟩
        -- The first entry fails, so that nothing can stand before the one that is named.
        cases before with
        | nil =>
          obtain ⟨rfl, -⟩ := List.cons.inj hxs
          rw [hx] at hy
          exact Except.error.inj hy
        | cons z before =>
          obtain ⟨rfl, -⟩ := List.cons.inj hxs
          obtain ⟨w, hw⟩ := hbefore x (by simp)
          rw [hx] at hw
          cases hw
    | ok y =>
      have hrest : (do let zs ← xs.mapM f; pure (y :: zs) : Except ε (List β)) = .error e ↔
          xs.mapM f = .error e := by
        cases xs.mapM f <;> simp [bind, Except.bind, pure, Except.pure]
      refine hrest.trans (ih.trans ?_)
      constructor
      · rintro ⟨before, z, after, rfl, hbefore, hz⟩
        refine ⟨x :: before, z, after, rfl, ?_, hz⟩
        intro w hw
        rcases List.mem_cons.mp hw with rfl | hw
        · exact ⟨y, hx⟩
        · exact hbefore w hw
      · rintro ⟨before, z, after, hxs, hbefore, hz⟩
        cases before with
        | nil =>
          obtain ⟨rfl, -⟩ := List.cons.inj hxs
          rw [hx] at hz
          cases hz
        | cons w before =>
          obtain ⟨rfl, rfl⟩ := List.cons.inj hxs
          exact ⟨before, z, after, rfl, fun v hv => hbefore v (List.mem_cons_of_mem _ hv), hz⟩

/-- **A fold keeps what each of its steps keeps.** -/
theorem foldlM_keeps {P : β → Prop} {f : β → α → Except ε β} {xs : List α} {start result : β}
    (hstep : ∀ b x c, P b → f b x = .ok c → P c) (hstart : P start)
    (hrun : xs.foldlM f start = .ok result) : P result := by
  induction xs generalizing start with
  | nil =>
    obtain rfl := Except.ok.inj hrun
    exact hstart
  | cons x xs ih =>
    rw [List.foldlM_cons] at hrun
    obtain ⟨next, hnext, hrest⟩ := bind_eq_ok.mp hrun
    exact ih (hstep start x next hstart hnext) hrest

theorem forM_eq_mapM (f : α → Except ε Unit) (xs : List α) :
    xs.forM f = (do let _ ← xs.mapM f; .ok ()) := by
  induction xs with
  | nil => rfl
  | cons x xs ih =>
    show (do f x; xs.forM f) = _
    rw [List.mapM_cons, ih]
    cases f x with
    | error e => rfl
    | ok u => cases xs.mapM f <;> rfl

/-- A run of checks passes exactly if each check does. -/
theorem forM_eq_ok {f : α → Except ε Unit} {xs : List α} :
    xs.forM f = .ok () ↔ ∀ x ∈ xs, f x = .ok () := by
  induction xs with
  | nil => simp [pure, Except.pure]
  | cons x xs ih =>
    show (do f x; xs.forM f) = _ ↔ _
    rw [List.forall_mem_cons, ← ih]
    cases f x <;> simp [bind, Except.bind]

/-- A run of checks fails exactly at the first check that fails. -/
theorem forM_eq_error {f : α → Except ε Unit} {xs : List α} {e : ε} :
    xs.forM f = .error e ↔
      ∃ before x after, xs = before ++ x :: after ∧ (∀ y ∈ before, f y = .ok ()) ∧
        f x = .error e := by
  have hunit : ∀ y, (∃ z, f y = .ok z) ↔ f y = .ok () :=
    fun y => ⟨fun ⟨_, h⟩ => h, fun h => ⟨(), h⟩⟩
  have hrun : xs.forM f = .error e ↔ xs.mapM f = .error e := by
    rw [forM_eq_mapM]
    cases xs.mapM f <;> simp [bind, Except.bind]
  rw [hrun, mapM_eq_error]
  simp only [hunit]

/-! ## Values that are promised -/

/-- **`Answers P x`** — the computation `x` ends with a value, and the value has `P`. -/
def Answers (P : α → Prop) : Except ε α → Prop
  | .ok value => P value
  | .error _ => False

@[simp] theorem answers_ok {P : α → Prop} {a : α} : Answers P (.ok a : Except ε α) ↔ P a := Iff.rfl

@[simp] theorem answers_error {P : α → Prop} {e : ε} :
    Answers P (.error e : Except ε α) ↔ False := Iff.rfl

theorem answers_iff {P : α → Prop} {x : Except ε α} : Answers P x ↔ ∃ a, x = .ok a ∧ P a := by
  cases x <;> simp

theorem Answers.imp {P Q : α → Prop} {x : Except ε α} (h : Answers P x) (hPQ : ∀ a, P a → Q a) :
    Answers Q x := by
  cases x with
  | error e => exact h
  | ok a => exact hPQ a h

theorem Answers.bind {P : α → Prop} {Q : β → Prop} {x : Except ε α} {f : α → Except ε β}
    (h : Answers P x) (hf : ∀ a, P a → Answers Q (f a)) : Answers Q (x >>= f) := by
  cases x with
  | error e => exact h.elim
  | ok a => exact hf a h

/-- **`AnswersIf p P x`** — a value that `x` ends with has `P`, and `x` ends with one provided that
`p` holds. -/
def AnswersIf (p : Prop) (P : α → Prop) : Except ε α → Prop
  | .ok value => P value
  | .error _ => ¬ p

theorem Answers.answersIf {P : α → Prop} {x : Except ε α} (h : Answers P x) (p : Prop) :
    AnswersIf p P x := by
  cases x with
  | error e => exact h.elim
  | ok a => exact h

theorem answersIf_iff {p : Prop} {P : α → Prop} {x : Except ε α} :
    AnswersIf p P x ↔ (p → ∃ a, x = .ok a) ∧ ∀ a, x = .ok a → P a := by
  cases x <;> simp [AnswersIf]

/-- Under its condition a value is promised. -/
theorem AnswersIf.answers {p : Prop} {P : α → Prop} {x : Except ε α} (h : AnswersIf p P x)
    (hp : p) : Answers P x := by
  cases x with
  | error e => exact h hp
  | ok a => exact h

theorem AnswersIf.imp {p : Prop} {P Q : α → Prop} {x : Except ε α} (h : AnswersIf p P x)
    (hPQ : ∀ a, P a → Q a) : AnswersIf p Q x := by
  cases x with
  | error e => exact h
  | ok a => exact hPQ a h

/-- A stronger condition will do. -/
theorem AnswersIf.of_imp {p q : Prop} {P : α → Prop} {x : Except ε α} (h : AnswersIf p P x)
    (hqp : q → p) : AnswersIf q P x := by
  cases x with
  | error e => exact fun hq => h (hqp hq)
  | ok a => exact h

theorem AnswersIf.bind {p : Prop} {P : α → Prop} {Q : β → Prop} {x : Except ε α}
    {f : α → Except ε β} (h : AnswersIf p P x) (hf : ∀ a, P a → AnswersIf p Q (f a)) :
    AnswersIf p Q (x >>= f) := by
  cases x with
  | error e => exact h
  | ok a => exact hf a h

@[simp] theorem answersIf_false_ok {P : α → Prop} {a : α} :
    AnswersIf False P (.ok a : Except ε α) ↔ P a := Iff.rfl

@[simp] theorem answersIf_false_error {P : α → Prop} {e : ε} :
    AnswersIf False P (.error e : Except ε α) := id

/-- What goes before matters for a value only if it ends with one itself. -/
@[simp] theorem answersIf_false_bind {Q : β → Prop} {x : Except ε α} {f : α → Except ε β} :
    AnswersIf False Q (x >>= f) ↔ ∀ a, x = .ok a → AnswersIf False Q (f a) := by
  cases x <;> simp

@[simp] theorem answersIf_false_ite {c : Prop} [Decidable c] {P : α → Prop} {x y : Except ε α} :
    AnswersIf False P (if c then x else y) ↔
      (c → AnswersIf False P x) ∧ (¬ c → AnswersIf False P y) := by
  split <;> simp [*]

theorem AnswersIf.mapM {p : Prop} {R : α → β → Prop} {f : α → Except ε β} {xs : List α}
    (h : ∀ x ∈ xs, AnswersIf p (R x) (f x)) : AnswersIf p (List.Forall₂ R xs) (xs.mapM f) := by
  induction xs with
  | nil => exact List.Forall₂.nil
  | cons x xs ih =>
    rw [List.mapM_cons]
    refine (h x List.mem_cons_self).bind fun y hy => ?_
    refine (ih fun z hz => h z (List.mem_cons_of_mem _ hz)).bind fun ys hys => ?_
    exact List.Forall₂.cons hy hys

/-- A run over a list answers if each step does. -/
theorem Answers.mapM {R : α → β → Prop} {f : α → Except ε β} {xs : List α}
    (h : ∀ x ∈ xs, Answers (R x) (f x)) : Answers (List.Forall₂ R xs) (xs.mapM f) :=
  (AnswersIf.mapM fun x hx => (h x hx).answersIf True).answers trivial

/-! ## Computations that end alike -/

/-- **`Alike R x y`** — both computations end with a value, and `R` relates the two; or neither of
them does. -/
def Alike (R : α → β → Prop) : Except ε α → Except δ β → Prop
  | .ok a, .ok b => R a b
  | .error _, .error _ => True
  | _, _ => False

section Alike

variable {R : α → β → Prop} {S : γ → κ → Prop}

@[simp] theorem alike_ok_ok {a : α} {b : β} :
    Alike R (.ok a : Except ε α) (.ok b : Except δ β) ↔ R a b := Iff.rfl

@[simp] theorem alike_error_error {e : ε} {d : δ} :
    Alike R (.error e : Except ε α) (.error d : Except δ β) := trivial

@[simp] theorem alike_ok_error {a : α} {d : δ} :
    Alike R (.ok a : Except ε α) (.error d : Except δ β) ↔ False := Iff.rfl

@[simp] theorem alike_error_ok {e : ε} {b : β} :
    Alike R (.error e : Except ε α) (.ok b : Except δ β) ↔ False := Iff.rfl

/-- One side ends with a value exactly if the other one does, and the values are then related. -/
theorem alike_iff {x : Except ε α} {y : Except δ β} :
    Alike R x y ↔
      ((∃ a, x = .ok a) ↔ ∃ b, y = .ok b) ∧ ∀ a b, x = .ok a → y = .ok b → R a b := by
  cases x <;> cases y <;> simp

theorem Alike.imp {R' : α → β → Prop} {x : Except ε α} {y : Except δ β} (h : Alike R x y)
    (hR : ∀ a b, R a b → R' a b) : Alike R' x y := by
  cases x <;> cases y
  · trivial
  · exact h
  · exact h
  · exact hR _ _ h

theorem Alike.bind {x : Except ε α} {y : Except δ β} {f : α → Except ε γ} {g : β → Except δ κ}
    (h : Alike R x y) (hfg : ∀ a b, R a b → Alike S (f a) (g b)) :
    Alike S (x >>= f) (y >>= g) := by
  cases x <;> cases y
  · trivial
  · exact h.elim
  · exact h.elim
  · exact hfg _ _ h

/-- Two computations behind the same check: only what follows the check is left to compare. -/
theorem alike_guard {c : Prop} [Decidable c] {e : ε} {d : δ} {x : Except ε α} {y : Except δ β}
    (h : ¬ c → Alike R x y) : Alike R (if c then .error e else x) (if c then .error d else y) := by
  by_cases hc : c
  · rw [if_pos hc, if_pos hc]
    exact alike_error_error
  · rw [if_neg hc, if_neg hc]
    exact h hc

/-- The same where a value is checked on the left before it is used. -/
theorem Alike.bind_checked {x : Except ε α} {check : α → Except ε Unit} {y : Except δ β}
    {f : α → Except ε γ} {g : β → Except δ κ} (h : Alike R (do let a ← x; check a; .ok a) y)
    (hfg : ∀ a b, R a b → Alike S (f a) (g b)) :
    Alike S (do let a ← x; check a; f a) (do let b ← y; g b) := by
  have hbind := h.bind hfg
  simpa only [bind_assoc, ok_bind] using hbind

/-- A step that always answers may stand on the right alone. -/
theorem Alike.bind_right {x : Except ε α} {y : Except δ β} {g : β → Except δ κ} {T : α → κ → Prop}
    (h : Alike R x y) (hg : ∀ a b, R a b → Answers (T a) (g b)) :
    Alike T x (y >>= g) := by
  cases x <;> cases y
  · trivial
  · exact h.elim
  · exact h.elim
  · rename_i a b
    obtain ⟨c, hc, hT⟩ := answers_iff.mp (hg a b h)
    show Alike T (.ok a) (g b)
    rw [hc]
    exact hT

/-- Where the right side answers, so does the left one. -/
theorem Alike.of_right {x : Except ε α} {y : Except δ β} {b : β} (h : Alike R x y)
    (hy : y = .ok b) : ∃ a, x = .ok a ∧ R a b := by
  subst hy
  cases x with
  | error e => exact h.elim
  | ok a => exact ⟨a, rfl, h⟩

/-- Where the left side answers, so does the right one. -/
theorem Alike.ok {a : α} {y : Except δ β} (h : Alike R (.ok a : Except ε α) y) :
    ∃ b, y = .ok b ∧ R a b := by
  cases y with
  | error d => exact h.elim
  | ok b => exact ⟨b, rfl, h⟩

/-- Where the left side fails, so does the right one. -/
theorem Alike.error {e : ε} {y : Except δ β} (h : Alike R (.error e : Except ε α) y) :
    ∃ d, y = .error d := by
  cases y with
  | error d => exact ⟨d, rfl⟩
  | ok b => exact h.elim

/-- Two computations that answer under one condition, each with one value. -/
theorem alike_of_eq_ok {p : Prop} {a : α} {b : β} {x : Except ε α} {y : Except δ β}
    (hx : ∀ a', x = .ok a' ↔ p ∧ a' = a) (hy : ∀ b', y = .ok b' ↔ p ∧ b' = b) (h : p → R a b) :
    Alike R x y := by
  by_cases hp : p
  · rw [(hx a).mpr ⟨hp, rfl⟩, (hy b).mpr ⟨hp, rfl⟩]
    exact h hp
  · cases x with
    | ok a' => exact absurd ((hx a').mp rfl).1 hp
    | error e =>
      cases y with
      | ok b' => exact absurd ((hy b').mp rfl).1 hp
      | error d => trivial

theorem Alike.trans {ζ : Type} {T : β → γ → Prop} {x : Except ε α} {y : Except δ β}
    {z : Except ζ γ} (h : Alike R x y) (h' : Alike T y z) :
    Alike (fun a c => ∃ b, R a b ∧ T b c) x z := by
  cases x <;> cases y
  · cases z with
    | error e => trivial
    | ok c => exact h'.elim
  · exact h.elim
  · exact h.elim
  · cases z with
    | error e => exact h'.elim
    | ok c => exact ⟨_, h, h'⟩

/-- A value beside a computation that always answers. -/
theorem Answers.alike {a : α} {y : Except δ β} (h : Answers (R a) y) :
    Alike R (.ok a : Except ε α) y := by
  cases y with
  | error d => exact h.elim
  | ok b => exact h

/-- What is known of the right answer by itself. -/
theorem Alike.and_right {P : β → Prop} {x : Except ε α} {y : Except δ β} (h : Alike R x y)
    (hP : ∀ b, y = .ok b → P b) : Alike (fun a b => R a b ∧ P b) x y := by
  cases x <;> cases y
  · trivial
  · exact h.elim
  · exact h.elim
  · exact ⟨h, hP _ rfl⟩

/-- Where the right side is looked at again later, what it answered is kept. -/
theorem Alike.and_eq_ok {x : Except ε α} {y : Except δ β} (h : Alike R x y) :
    Alike (fun a b => R a b ∧ y = .ok b) x y :=
  h.and_right fun _ hy => hy

/-- It does not matter which of two steps is taken first. -/
theorem alike_comm_right {x : Except ε α} {y : Except δ β} {z : Except δ γ}
    {g : β → γ → Except δ κ} {T : α → κ → Prop} :
    Alike T x (do let b ← y; let c ← z; g b c) ↔ Alike T x (do let c ← z; let b ← y; g b c) := by
  cases y <;> cases z <;> cases x <;> rfl

/-- A computation that cannot answer beside one that has failed. -/
theorem alike_bind_error {T : γ → κ → Prop} {x : Except ε α} {f : α → Except ε γ} {d : δ}
    (h : ∀ a, Alike T (f a) (.error d : Except δ κ)) :
    Alike T (x >>= f) (.error d : Except δ κ) := by
  cases x with
  | error e => trivial
  | ok a => exact h a

theorem alike_error_bind {T : α → γ → Prop} {e : ε} {y : Except δ β} {g : β → Except δ γ}
    (h : ∀ b, Alike T (.error e : Except ε α) (g b)) :
    Alike T (.error e : Except ε α) (y >>= g) := by
  cases y with
  | error d => trivial
  | ok b => exact h b

/-- Two runs over related lists end alike if the steps do. -/
theorem Alike.mapM {f : α → Except ε γ} {g : β → Except δ κ} {xs : List α} {ys : List β}
    (h : List.Forall₂ R xs ys) (hfg : ∀ a b, R a b → Alike S (f a) (g b)) :
    Alike (List.Forall₂ S) (xs.mapM f) (ys.mapM g) := by
  induction h with
  | nil => exact List.Forall₂.nil
  | cons hab _ ih =>
    rw [List.mapM_cons, List.mapM_cons]
    refine (hfg _ _ hab).bind fun c d hcd => ih.bind fun cs ds hcds => ?_
    exact List.Forall₂.cons hcd hcds

/-- Two runs over one list that have to give the same answers. -/
theorem Alike.mapM_eq {f : α → Except ε γ} {g : α → Except δ γ} {xs : List α}
    (hfg : ∀ a ∈ xs, Alike Eq (f a) (g a)) : Alike Eq (xs.mapM f) (xs.mapM g) := by
  have hxs : List.Forall₂ (fun a b => a ∈ xs ∧ a = b) xs xs :=
    List.forall₂_same.mpr fun a ha => ⟨ha, rfl⟩
  have h : Alike (List.Forall₂ Eq) (xs.mapM f) (xs.mapM g) := by
    refine Alike.mapM hxs ?_
    rintro a b ⟨ha, rfl⟩
    exact hfg a ha
  rwa [List.forall₂_eq_eq_eq] at h

/-- Two folds over one list end alike if every step keeps their states related. -/
theorem Alike.foldlM {f : α → γ → Except ε α} {g : β → γ → Except δ β} {zs : List γ} {a : α}
    {b : β} (h : R a b) (hfg : ∀ a b, R a b → ∀ z ∈ zs, Alike R (f a z) (g b z)) :
    Alike R (zs.foldlM f a) (zs.foldlM g b) := by
  -- What relates the states is the invariant, and it is carried along for whatever states come up.
  induction zs generalizing a b with
  | nil => exact h
  | cons z zs ih =>
    rw [List.foldlM_cons, List.foldlM_cons]
    refine (hfg a b h z List.mem_cons_self).bind fun a' b' h' => ?_
    exact ih h' fun a b hab w hw => hfg a b hab w (List.mem_cons_of_mem _ hw)

/-! ## Computations that end alike under a condition -/

/-- **`AlikeIf p R x y`** — where `x` has no value neither has `y`, where both have one `R` relates
them, and where `x` has one so has `y`, provided that `p` holds. -/
def AlikeIf (p : Prop) (R : α → β → Prop) : Except ε α → Except δ β → Prop
  | .ok a, .ok b => R a b
  | .ok _, .error _ => ¬ p
  | .error _, .ok _ => False
  | .error _, .error _ => True

theorem Alike.alikeIf {x : Except ε α} {y : Except δ β} (p : Prop) (h : Alike R x y) :
    AlikeIf p R x y := by
  cases x <;> cases y
  · trivial
  · exact h
  · exact h.elim
  · exact h

theorem AlikeIf.bind {p : Prop} {x : Except ε α} {y : Except δ β} {f : α → Except ε γ}
    {g : β → Except δ κ} (h : AlikeIf p R x y) (hfg : ∀ a b, R a b → AlikeIf p S (f a) (g b)) :
    AlikeIf p S (x >>= f) (y >>= g) := by
  cases x with
  | error e =>
    cases y with
    | error d => trivial
    | ok b => exact h.elim
  | ok a =>
    cases y with
    | error d =>
      -- The left side may still fail later; if it answers, the condition is to blame.
      rw [ok_bind, error_bind]
      cases f a with
      | error e => trivial
      | ok c => exact h
    | ok b => exact hfg a b h

theorem Alike.bind_if {p : Prop} {x : Except ε α} {y : Except δ β} {f : α → Except ε γ}
    {g : β → Except δ κ} (h : Alike R x y) (hfg : ∀ a b, R a b → AlikeIf p S (f a) (g b)) :
    AlikeIf p S (x >>= f) (y >>= g) :=
  (h.alikeIf p).bind hfg

theorem alikeIf_comm_right {p : Prop} {x : Except ε α} {y : Except δ β} {z : Except δ γ}
    {g : β → γ → Except δ κ} {T : α → κ → Prop} :
    AlikeIf p T x (do let b ← y; let c ← z; g b c) ↔
      AlikeIf p T x (do let c ← z; let b ← y; g b c) := by
  cases y <;> cases z <;> cases x <;> rfl

/-- A value beside a computation that answers under the condition. -/
theorem AnswersIf.alikeIf {p : Prop} {a : α} {y : Except δ β} (h : AnswersIf p (R a) y) :
    AlikeIf p R (.ok a : Except ε α) y := by
  cases y <;> exact h

/-- A stronger condition will do. -/
theorem AlikeIf.of_imp {p q : Prop} {x : Except ε α} {y : Except δ β} (h : AlikeIf p R x y)
    (hqp : q → p) : AlikeIf q R x y := by
  cases x <;> cases y
  · trivial
  · exact h
  · intro hq
    exact h (hqp hq)
  · exact h

/-- Where the right side answers, so does the left one. -/
theorem AlikeIf.of_right {p : Prop} {x : Except ε α} {y : Except δ β} {b : β} (h : AlikeIf p R x y)
    (hy : y = .ok b) : ∃ a, x = .ok a ∧ R a b := by
  subst hy
  cases x with
  | error e => exact h.elim
  | ok a => exact ⟨a, rfl, h⟩

/-- A step that is taken on the right alone, and that answers under the condition. -/
theorem AlikeIf.bind_right {p : Prop} {x : Except ε α} {y : Except δ β} {g : β → Except δ κ}
    {T : α → κ → Prop} (h : AlikeIf p R x y) (hg : ∀ a b, R a b → AnswersIf p (T a) (g b)) :
    AlikeIf p T x (y >>= g) := by
  rw [← bind_pure x]
  exact h.bind fun a b hab => (hg a b hab).alikeIf

end Alike

/-! ## Computations that end the same way -/

/-- **`EndsSame R x y`** — both computations end with a value, and `R` relates the two; or both fail
for the same reason. -/
def EndsSame (R : α → β → Prop) : Except ε α → Except ε β → Prop
  | .ok a, .ok b => R a b
  | .error e, .error d => e = d
  | _, _ => False

section EndsSame

variable {R : α → β → Prop} {S : γ → κ → Prop}

theorem EndsSame.bind {x : Except ε α} {y : Except ε β} {f : α → Except ε γ} {g : β → Except ε κ}
    (h : EndsSame R x y) (hfg : ∀ a b, R a b → EndsSame S (f a) (g b)) :
    EndsSame S (x >>= f) (y >>= g) := by
  cases x <;> cases y
  · exact h
  · exact h.elim
  · exact h.elim
  · exact hfg _ _ h

/-- Two runs over related lists end the same way if the steps do. -/
theorem EndsSame.mapM {f : α → Except ε γ} {g : β → Except ε κ} {xs : List α} {ys : List β}
    (h : List.Forall₂ R xs ys) (hfg : ∀ a b, R a b → EndsSame S (f a) (g b)) :
    EndsSame (List.Forall₂ S) (xs.mapM f) (ys.mapM g) := by
  induction h with
  | nil => exact List.Forall₂.nil
  | cons hab _ ih =>
    rw [List.mapM_cons, List.mapM_cons]
    refine (hfg _ _ hab).bind fun c d hcd => ?_
    refine ih.bind fun cs ds hrest => ?_
    exact List.Forall₂.cons hcd hrest

/-- Two folds over one list end the same way if every step keeps their states related. -/
theorem EndsSame.foldlM {f : α → γ → Except ε α} {g : β → γ → Except ε β} {zs : List γ} {a : α}
    {b : β} (h : R a b) (hfg : ∀ a b, R a b → ∀ z, EndsSame R (f a z) (g b z)) :
    EndsSame R (zs.foldlM f a) (zs.foldlM g b) := by
  induction zs generalizing a b with
  | nil => exact h
  | cons z zs ih =>
    rw [List.foldlM_cons, List.foldlM_cons]
    exact (hfg a b h z).bind fun a' b' h' => ih h'

end EndsSame

/-! ## Computations that do not break down -/

/-- **`Unbroken x`** — the computation `x` answers or refuses, but it does not break down. -/
def Unbroken (x : Checked ε α) : Prop :=
  ∀ cause, x ≠ .error (.fault cause)

theorem unbroken_ok (a : α) : Unbroken (.ok a : Checked ε α) :=
  fun _ h => by cases h

theorem unbroken_refuse (reason : ε) : Unbroken (Checked.refuse reason : Checked ε α) :=
  fun _ h => by cases h

theorem Answers.unbroken {P : α → Prop} {x : Checked ε α} (h : Answers P x) : Unbroken x := by
  cases x with
  | error e => exact h.elim
  | ok a => exact unbroken_ok a

theorem Unbroken.bind {x : Checked ε α} {f : α → Checked ε β} (h : Unbroken x)
    (hf : ∀ a, x = .ok a → Unbroken (f a)) : Unbroken (x >>= f) := by
  cases x with
  | error e =>
    intro cause hcause
    exact h cause (congrArg Except.error (Except.error.inj hcause))
  | ok a => exact hf a rfl

theorem Unbroken.mapM {f : α → Checked ε β} {xs : List α} (h : ∀ x ∈ xs, Unbroken (f x)) :
    Unbroken (xs.mapM f) := by
  intro cause hcause
  obtain ⟨before, x, after, rfl, -, hx⟩ := mapM_eq_error.mp hcause
  exact h x (List.mem_append_right _ List.mem_cons_self) cause hx

end OpShape

import FilterSql.Proofs.Result
import Mathlib.Data.List.Forall2

/-!
# Two runs that go the same way

Some properties speak of two runs of the compiler: on two filters, behind two lists of parameters,
or with two limits of nesting. Two steps agree if both give results, and these are related, or both
are refused, and the refusals are related. Agreement passes from the steps to a sequence of steps,
and to a step made on each element of two lists of the same length. A step is followed by another
if they agree, or if it is refused for a cause that is excused; then it does not matter what the
other does.
-/

set_option autoImplicit false

namespace FilterSql

variable {ε ε' α α' β β' : Type} {E : ε → ε' → Prop} {R : α → α' → Prop} {S : β → β' → Prop}

/-- Two steps that give related results, or are both refused for related causes. -/
inductive Agree (E : ε → ε' → Prop) (R : α → α' → Prop) : Except ε α → Except ε' α' → Prop
  | ok {a : α} {a' : α'} (related : R a a') : Agree E R (.ok a) (.ok a')
  | error {e : ε} {e' : ε'} (related : E e e') : Agree E R (.error e) (.error e')

/-- Runs that agree agree on whatever follows from what their results have in common. -/
theorem Agree.mono {R' : α → α' → Prop} {x : Except ε α} {y : Except ε' α'} (h : Agree E R x y)
    (weaker : ∀ a a', R a a' → R' a a') : Agree E R' x y := by
  cases h with
  | ok related => exact .ok (weaker _ _ related)
  | error related => exact .error related

/-- Sequences of steps agree if their first steps do, and if so do the second steps from results
that are related. -/
theorem Agree.bind {x : Except ε α} {y : Except ε' α'} {f : α → Except ε β}
    {g : α' → Except ε' β'} (first : Agree E R x y)
    (second : ∀ a a', R a a' → Agree E S (f a) (g a')) : Agree E S (x >>= f) (y >>= g) := by
  cases first with
  | ok related => exact second _ _ related
  | error related => exact .error related

/-- Runs that agree still do after their results are passed on to related functions. -/
theorem Agree.map {x : Except ε α} {y : Except ε' α'} {f : α → β} {g : α' → β'}
    (h : Agree E R x y) (each : ∀ a a', R a a' → S (f a) (g a')) :
    Agree E S (x.map f) (y.map g) := by
  cases h with
  | ok related => exact .ok (each _ _ related)
  | error related => exact .error related

/-- Choices on equivalent conditions agree if their branches do. -/
theorem agree_ite {p p' : Prop} [Decidable p] [Decidable p'] {x y : Except ε α}
    {x' y' : Except ε' α'} (same : p ↔ p') (yes : Agree E R x x') (no : Agree E R y y') :
    Agree E R (if p then x else y) (if p' then x' else y') := by
  by_cases h : p
  · rwa [if_pos h, if_pos (same.1 h)]
  · rwa [if_neg h, if_neg (mt same.2 h)]

/-- Steps that agree on related elements agree when they are made on all elements. -/
theorem agree_mapM {γ γ' : Type} {T : γ → γ' → Prop} {f : γ → Except ε α} {g : γ' → Except ε' α'}
    {xs : List γ} {ys : List γ'} (related : List.Forall₂ T xs ys)
    (each : ∀ x y, T x y → Agree E R (f x) (g y)) :
    Agree E (List.Forall₂ R) (xs.mapM f) (ys.mapM g) := by
  induction related with
  | nil => exact .ok .nil
  | cons first _ ih =>
    rw [List.mapM_cons, List.mapM_cons]
    exact (each _ _ first).bind fun a a' head => ih.bind fun as as' tail => .ok (.cons head tail)

/-- Steps that agree on every element in equal results do so on lists. -/
theorem agree_mapM_eq {γ : Type} {f : γ → Except ε α} {g : γ → Except ε' α}
    (each : ∀ x, Agree E Eq (f x) (g x)) (xs : List γ) :
    Agree E Eq (xs.mapM f) (xs.mapM g) := by
  have same : List.Forall₂ Eq xs xs := List.forall₂_same.2 fun _ _ => rfl
  have agree : Agree E (List.Forall₂ Eq) (xs.mapM f) (xs.mapM g) := by
    refine agree_mapM same ?_
    rintro x _ rfl
    exact each x
  rwa [List.forall₂_eq_eq_eq] at agree

/-- A step made on every element of a list gives, for each of them, what it gives on that one. -/
theorem gives_mapM_forall₂ (f : α → Except ε β) (xs : List α) :
    Gives (xs.mapM f) (List.Forall₂ (fun x b => f x = .ok b) xs) := by
  induction xs with
  | nil => exact gives_ok .nil
  | cons x xs ih =>
    intro bs h
    rw [List.mapM_cons] at h
    obtain ⟨b, first, h⟩ := bind_eq_ok_iff.1 h
    obtain ⟨others, rest, h⟩ := bind_eq_ok_iff.1 h
    cases h
    exact .cons first (ih others rest)

/-- Steps that are the same on related elements are the same when they are made on all elements. -/
theorem mapM_congr_forall₂ {T : α → α → Prop} {f : α → Except ε β} {xs ys : List α}
    (related : List.Forall₂ T xs ys) (each : ∀ x y, T x y → f x = f y) : xs.mapM f = ys.mapM f := by
  induction related with
  | nil => rfl
  | cons first _ ih => rw [List.mapM_cons, List.mapM_cons, each _ _ first, ih]

/-- A step that agrees with one that gives a result, in results that are equal, gives the same. -/
theorem Agree.eq_ok {a : α} {y : Except ε' α} (h : Agree E Eq (.ok a) y) : y = .ok a := by
  cases h with
  | ok same => rw [same]

/-- Steps that agree in results that are equal have the same result. -/
theorem Agree.sameResult {x : Except ε α} {y : Except ε' α} (h : Agree E Eq x y) :
    SameResult x y := by
  cases h with
  | ok same =>
    intro b
    rw [same]
    constructor <;> intro given <;> rw [Except.ok.inj given]
  | error related => exact sameResult_error _ _

/-- Steps agree but for their refusals if what the first gives is related to what the second gives,
and the first succeeds where the second does. -/
theorem agree_of_ok {x : Except ε α} {y : Except ε' α'}
    (forth : ∀ a, x = .ok a → ∃ b, y = .ok b ∧ R a b) (back : Succeeds y → Succeeds x) :
    Agree (fun _ _ => True) R x y := by
  cases x with
  | ok a =>
    obtain ⟨b, rfl, related⟩ := forth a rfl
    exact .ok related
  | error e =>
    cases y with
    | ok b => exact absurd (back (succeeds_ok b)) (not_succeeds_error e)
    | error e' => exact .error trivial

/-- Sequences of steps have the same result if their first steps agree, and if so do the second
steps from results that are related. -/
theorem Agree.bind_sameResult {x : Except ε α} {y : Except ε' α'} {f : α → Except ε β}
    {g : α' → Except ε' β} (first : Agree E R x y)
    (second : ∀ a a', R a a' → SameResult (f a) (g a')) : SameResult (x >>= f) (y >>= g) := by
  cases first with
  | ok related => exact second _ _ related
  | error related => exact sameResult_error _ _

/-- What the first of two steps that agree gives is known of the related results. -/
theorem Agree.and_gives {P : α → Prop} {x : Except ε α} {y : Except ε' α'} (h : Agree E R x y)
    (gives : Gives x P) : Agree E (fun a a' => R a a' ∧ P a) x y := by
  cases h with
  | ok related => exact .ok ⟨related, gives _ rfl⟩
  | error related => exact .error related

/-- What holds of the results of the second run may be added to what the two have in common. -/
theorem Agree.and_gives_right {P : α' → Prop} {x : Except ε α} {y : Except ε' α'}
    (h : Agree E R x y) (gives : Gives y P) : Agree E (fun a a' => R a a' ∧ P a') x y := by
  cases h with
  | ok related => exact .ok ⟨related, gives _ rfl⟩
  | error related => exact .error related

/-- A step agrees with itself, and its result is what it gives. -/
theorem Agree.self {E : ε → ε → Prop} {P : α → Prop} {x : Except ε α} (refl : ∀ e, E e e)
    (gives : Gives x P) : Agree E (fun a a' => a = a' ∧ P a) x x := by
  cases given : x with
  | ok a => exact .ok ⟨rfl, gives a given⟩
  | error e => exact .error (refl e)

/-- A run agrees with itself, for every relation of refusals that is reflexive. -/
theorem Agree.of_refl {E : ε → ε → Prop} (refl : ∀ e, E e e) (x : Except ε α) : Agree E Eq x x :=
  (Agree.self refl fun _ _ => trivial).mono fun _ _ same => same.1

/-! ## Excused refusals -/

/-- A step that is refused for an excused cause, or else agrees with another step. -/
inductive Follows (X : ε → Prop) (E : ε → ε' → Prop) (R : α → α' → Prop) :
    Except ε α → Except ε' α' → Prop
  | excused {e : ε} (excuse : X e) (y : Except ε' α') : Follows X E R (.error e) y
  | agree {x : Except ε α} {y : Except ε' α'} (agree : Agree E R x y) : Follows X E R x y

section

variable {X : ε → Prop}

/-- Related results follow one another. -/
theorem Follows.ok {a : α} {a' : α'} (related : R a a') : Follows X E R (.ok a) (.ok a') :=
  .agree (.ok related)

/-- Related refusals follow one another. -/
theorem Follows.error {e : ε} {e' : ε'} (related : E e e') :
    Follows X E R (.error e) (.error e') := .agree (.error related)

/-- Sequences of steps follow one another if their first steps do, and if so do the second steps
from results that are related. -/
theorem Follows.bind {x : Except ε α} {y : Except ε' α'} {f : α → Except ε β}
    {g : α' → Except ε' β'} (first : Follows X E R x y)
    (second : ∀ a a', R a a' → Follows X E S (f a) (g a')) :
    Follows X E S (x >>= f) (y >>= g) := by
  cases first with
  | excused excuse => exact .excused excuse _
  | agree first =>
    cases first with
    | ok related => exact second _ _ related
    | error related => exact .error related

/-- A choice follows one on an equivalent condition if its branches do. -/
theorem follows_ite {p p' : Prop} [Decidable p] [Decidable p'] {x y : Except ε α}
    {x' y' : Except ε' α'} (same : p ↔ p') (yes : Follows X E R x x') (no : Follows X E R y y') :
    Follows X E R (if p then x else y) (if p' then x' else y') := by
  by_cases h : p
  · rwa [if_pos h, if_pos (same.1 h)]
  · rwa [if_neg h, if_neg (mt same.2 h)]

/-- Where nothing is excused, a step agrees with the one that follows it. -/
theorem Follows.agrees {x : Except ε α} {y : Except ε' α'} (h : Follows X E R x y)
    (never : ∀ e, ¬ X e) : Agree E R x y := by
  cases h with
  | excused excuse => exact absurd excuse (never _)
  | agree agree => exact agree

end

end FilterSql

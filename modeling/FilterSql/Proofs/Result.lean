/-!
# Steps that may be refused

A step of the compiler gives a result or a refusal. A sequence of steps has a result exactly
when each of its steps has one, and so has a step made on every element of a list. A step that
has a result succeeds; which result it is does not matter then.
-/

set_option autoImplicit false

namespace FilterSql

variable {ε α β γ : Type}

/-- Two steps in sequence have a result exactly when the first has one from which the second
reaches it. -/
theorem bind_eq_ok_iff {x : Except ε α} {f : α → Except ε β} {b : β} :
    (x >>= f) = .ok b ↔ ∃ a, x = .ok a ∧ f a = .ok b := by
  cases x with
  | error e =>
    constructor
    · intro h
      cases h
    · rintro ⟨a, h, -⟩
      cases h
  | ok a =>
    constructor
    · intro h
      exact ⟨a, rfl, h⟩
    · rintro ⟨a', h, h'⟩
      cases h
      exact h'

/-- A step whose result is passed on has a result exactly when the step has one that is passed on to
it. -/
theorem map_eq_ok_iff {x : Except ε α} {f : α → β} {b : β} :
    x.map f = .ok b ↔ ∃ a, x = .ok a ∧ f a = b := by
  cases x <;> simp [Except.map]

/-- A step whose result is passed on is refused exactly as the step is. -/
theorem map_eq_error_iff {x : Except ε α} {f : α → β} {e : ε} :
    x.map f = .error e ↔ x = .error e := by
  cases x <;> simp [Except.map]

/-! ## What holds of a result -/

/-- What a step gives, if it gives anything, satisfies a property. -/
def Gives (x : Except ε α) (P : α → Prop) : Prop := ∀ a, x = .ok a → P a

section

variable {P : β → Prop}

/-- A result satisfies what it satisfies. -/
theorem gives_ok {b : β} (h : P b) : Gives (.ok b : Except ε β) P := by
  intro b' same
  cases same
  exact h

/-- A step that only gives a result satisfies what the result satisfies. -/
theorem gives_pure {b : β} (h : P b) : Gives (pure b : Except ε β) P := gives_ok h

/-- A refusal gives nothing, so what it gives satisfies anything. -/
theorem gives_error (e : ε) : Gives (.error e : Except ε β) P := by
  intro b same
  cases same

/-- What the first of two steps gives is known when the second is made. -/
theorem gives_bind {x : Except ε α} {f : α → Except ε β} {Q : α → Prop} (first : Gives x Q)
    (second : ∀ a, Q a → Gives (f a) P) : Gives (x >>= f) P := by
  intro b h
  obtain ⟨a, given, h⟩ := bind_eq_ok_iff.1 h
  exact second a (first a given) b h

/-- Often it does not matter what the first step gives. -/
theorem gives_bind_of_forall {x : Except ε α} {f : α → Except ε β}
    (second : ∀ a, Gives (f a) P) : Gives (x >>= f) P := by
  have nothing : Gives x fun _ => True := fun _ _ => trivial
  exact gives_bind nothing fun a _ => second a

/-- Whichever branch is taken, what it gives satisfies a property that both branches satisfy. -/
theorem gives_ite {p : Prop} [Decidable p] {x y : Except ε β} (yes : Gives x P)
    (no : Gives y P) : Gives (if p then x else y) P := by
  split
  · exact yes
  · exact no

/-- A step made on every element of a list gives what it gives on each. -/
theorem gives_mapM {f : α → Except ε β} (each : ∀ x, Gives (f x) P) (xs : List α) :
    Gives (xs.mapM f) fun bs => ∀ b ∈ bs, P b := by
  induction xs with
  | nil => exact gives_ok (List.forall_mem_nil _)
  | cons x xs ih =>
    rw [List.mapM_cons]
    exact gives_bind (each x) fun b first => gives_bind ih fun bs others =>
      gives_pure (List.forall_mem_cons.2 ⟨first, others⟩)

end

/-- A step made on every element of a list gives as many results as there are elements. -/
theorem gives_mapM_length (f : α → Except ε β) (xs : List α) :
    Gives (xs.mapM f) fun bs => bs.length = xs.length := by
  induction xs with
  | nil => exact gives_ok rfl
  | cons x xs ih =>
    rw [List.mapM_cons]
    exact gives_bind_of_forall fun b => gives_bind ih fun bs others =>
      gives_pure (congrArg Nat.succ others)

/-! ## What holds of a refusal -/

/-- What a step is refused for, if it is refused, satisfies a property. -/
def Refuses (x : Except ε α) (Q : ε → Prop) : Prop := ∀ e, x = .error e → Q e

section

variable {Q Q' : ε → Prop}

/-- What holds of all refusals may be weakened. -/
theorem Refuses.mono {x : Except ε α} (h : Refuses x Q) (weaker : ∀ e, Q e → Q' e) :
    Refuses x Q' := fun e refused => weaker e (h e refused)

/-- A result is no refusal, so anything holds of its refusals. -/
theorem refuses_ok (a : α) : Refuses (.ok a : Except ε α) Q := by
  intro e refused
  cases refused

/-- A step that only gives a result is never refused. -/
theorem refuses_pure (a : α) : Refuses (pure a : Except ε α) Q := refuses_ok a

/-- A refusal satisfies what it satisfies. -/
theorem refuses_error {e : ε} (h : Q e) : Refuses (.error e : Except ε α) Q := by
  intro e' refused
  cases refused
  exact h

/-- Two steps in sequence are refused where the first is, or where the second is from what the
first gives. -/
theorem Refuses.bind {x : Except ε α} {f : α → Except ε β} (first : Refuses x Q)
    (second : ∀ a, x = .ok a → Refuses (f a) Q) : Refuses (x >>= f) Q := by
  cases given : x with
  | error e => exact refuses_error (first e given)
  | ok a => exact second a given

/-- Whichever branch is taken, its refusals satisfy a property that those of both branches satisfy.
-/
theorem refuses_ite {p : Prop} [Decidable p] {x y : Except ε α} (yes : Refuses x Q)
    (no : Refuses y Q) : Refuses (if p then x else y) Q := by
  split
  · exact yes
  · exact no

/-- A step made on every element of a list is refused where it is on one of them. -/
theorem refuses_mapM {f : α → Except ε β} {xs : List α} (each : ∀ x ∈ xs, Refuses (f x) Q) :
    Refuses (xs.mapM f) Q := by
  induction xs with
  | nil => exact refuses_ok []
  | cons x xs ih =>
    obtain ⟨first, others⟩ := List.forall_mem_cons.1 each
    rw [List.mapM_cons]
    exact first.bind fun b _ => (ih others).bind fun bs _ => refuses_pure _

end

/-! ## Whether there is a result -/

/-- A step succeeds if it has a result. -/
def Succeeds (x : Except ε α) : Prop := ∃ a, x = .ok a

/-- A result is a success. -/
@[simp] theorem succeeds_ok (a : α) : Succeeds (.ok a : Except ε α) := ⟨a, rfl⟩

/-- A step that only gives a result succeeds. -/
@[simp] theorem succeeds_pure (a : α) : Succeeds (pure a : Except ε α) := ⟨a, rfl⟩

/-- A refusal is no success. -/
@[simp] theorem not_succeeds_error (e : ε) : ¬ Succeeds (.error e : Except ε α) := by
  rintro ⟨a, h⟩
  cases h

/-- Two steps in sequence succeed exactly when the first has a result with which the second
succeeds. -/
theorem succeeds_bind_iff {x : Except ε α} {f : α → Except ε β} :
    Succeeds (x >>= f) ↔ ∃ a, x = .ok a ∧ Succeeds (f a) := by
  constructor
  · rintro ⟨b, h⟩
    obtain ⟨a, first, second⟩ := bind_eq_ok_iff.1 h
    exact ⟨a, first, b, second⟩
  · rintro ⟨a, first, b, second⟩
    exact ⟨b, bind_eq_ok_iff.2 ⟨a, first, second⟩⟩

/-- What is done with a result does not matter to success if it cannot be refused. -/
theorem succeeds_bind_pure_iff {x : Except ε α} {g : α → β} :
    Succeeds (x >>= fun a => pure (g a)) ↔ Succeeds x := by
  simp only [succeeds_bind_iff, succeeds_pure, and_true]
  rfl

/-- Two steps whose results are only put together succeed exactly when each of them does. -/
theorem succeeds_bind_bind_pure_iff {x : Except ε α} {y : Except ε β} {g : α → β → γ} :
    Succeeds (x >>= fun a => y >>= fun b => pure (g a b)) ↔ Succeeds x ∧ Succeeds y := by
  simp only [succeeds_bind_iff, succeeds_pure, and_true]
  constructor
  · rintro ⟨a, first, second⟩
    exact ⟨⟨a, first⟩, second⟩
  · rintro ⟨⟨a, first⟩, second⟩
    exact ⟨a, first, second⟩

/-- A step made on every element of a list succeeds exactly when it does on each. -/
theorem succeeds_mapM_iff {f : α → Except ε β} {xs : List α} :
    Succeeds (xs.mapM f) ↔ ∀ x ∈ xs, Succeeds (f x) := by
  induction xs with
  | nil => simp
  | cons x xs ih => rw [List.mapM_cons, succeeds_bind_bind_pure_iff, List.forall_mem_cons, ih]

/-- A step made on every element of a list is refused for the first element on which it is. -/
theorem mapM_append_error {f : α → Except ε β} {before after : List α} {x : α} {e : ε}
    (succeeds : ∀ y ∈ before, Succeeds (f y)) (refused : f x = .error e) :
    (before ++ x :: after).mapM f = .error e := by
  induction before with
  | nil =>
    rw [List.nil_append, List.mapM_cons, refused]
    rfl
  | cons y before ih =>
    obtain ⟨⟨b, first⟩, others⟩ := List.forall_mem_cons.1 succeeds
    rw [List.cons_append, List.mapM_cons, first, ih others]
    rfl

/-! ## Equal results -/

/-- Two steps have the same result, or both none. What they are refused for may differ. -/
def SameResult {ε' : Type} (x : Except ε α) (y : Except ε' α) : Prop :=
  ∀ a, x = .ok a ↔ y = .ok a

section

variable {ε' ε'' : Type} {x : Except ε α} {y : Except ε' α} {z : Except ε'' α}

/-- A step has the result that it has. -/
theorem SameResult.refl (x : Except ε α) : SameResult x x := fun _ => Iff.rfl

/-- Which of two steps comes first does not matter for their results. -/
theorem SameResult.symm (h : SameResult x y) : SameResult y x := fun a => (h a).symm

/-- Steps with the result of one step have the same result. -/
theorem SameResult.trans (h : SameResult x y) (h' : SameResult y z) : SameResult x z :=
  fun a => (h a).trans (h' a)

/-- Two refusals have the same result, which is none. -/
theorem sameResult_error (e : ε) (e' : ε') :
    SameResult (.error e : Except ε α) (.error e' : Except ε' α) := by
  intro a
  constructor <;> intro h <;> cases h

/-- Sequences of steps have the same result if their first steps do, and from any result their
second steps. -/
theorem SameResult.bind {f : α → Except ε β} {g : α → Except ε' β} (first : SameResult x y)
    (second : ∀ a, SameResult (f a) (g a)) : SameResult (x >>= f) (y >>= g) := by
  intro b
  rw [bind_eq_ok_iff, bind_eq_ok_iff]
  exact exists_congr fun a => and_congr (first a) (second a b)

/-- Steps with the same result have it after it is passed on. -/
theorem SameResult.map {f : α → β} (h : SameResult x y) : SameResult (x.map f) (y.map f) := by
  intro b
  rw [map_eq_ok_iff, map_eq_ok_iff]
  exact exists_congr fun a => and_congr_left fun _ => h a

/-- Choices on equivalent conditions have the same result if their branches do. -/
theorem sameResult_ite {p p' : Prop} [Decidable p] [Decidable p'] {x' : Except ε α}
    {y' : Except ε' α} (same : p ↔ p') (yes : SameResult x y) (no : SameResult x' y') :
    SameResult (if p then x else x') (if p' then y else y') := by
  by_cases h : p
  · rwa [if_pos h, if_pos (same.1 h)]
  · rwa [if_neg h, if_neg (mt same.2 h)]

/-- Steps that have the same result on each element have the same results on a list. -/
theorem sameResult_mapM {f g : α → Except ε β} (each : ∀ x, SameResult (f x) (g x))
    (xs : List α) : SameResult (xs.mapM f) (xs.mapM g) := by
  induction xs with
  | nil => exact .refl _
  | cons x xs ih =>
    rw [List.mapM_cons, List.mapM_cons]
    exact (each x).bind fun b => ih.bind fun bs => .refl _

end

end FilterSql

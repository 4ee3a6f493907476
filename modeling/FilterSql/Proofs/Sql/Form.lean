import FilterSql.Sql.Text

/-!
# The form of conditions

Two facts about a condition as it is written. `Over` says which column names and which quoted
texts it mentions; all other code is one of the `templates`. `Chained` says that no connective
stands beside a different one without parentheses between them. Conjunctions and groups keep
both.
-/

set_option autoImplicit false

namespace FilterSql.Sql

variable {α : Type}

/-! ## Columns and quoted texts -/

section

variable (column literal : String → Prop)

/-- All columns and quoted texts of a term satisfy the given properties. -/
def Term.Over : Term α → Prop
  | .column name => column name
  | .literal text => literal text
  | .param _ | .array _ => True
  | .member base key | .memberText base key => base.Over ∧ literal key
  | .cast term _ | .paren term => term.Over

/-- All columns and quoted texts of a test satisfy the given properties. -/
def Test.Over : Test α → Prop
  | .relation left _ right => left.Over column literal ∧ right.Over column literal
  | .isNull term | .isNotNull term | .inList term _ | .notInList term _ => term.Over column literal
  | .inArray term right | .notInArray term right | .inDocument term right =>
    term.Over column literal ∧ right.Over column literal

/-- All columns and quoted texts of a condition satisfy the given properties. -/
def Condition.Over : Condition α → Prop
  | .constant _ => True
  | .test t => t.Over column literal
  | .not c | .paren c => c.Over
  | .join _ left right => left.Over ∧ right.Over

end

section

variable {column column' literal literal' : String → Prop}

section

variable (columns : ∀ name, column name → column' name)
  (literals : ∀ text, literal text → literal' text)

include columns literals

/-- A term over some names is over any names that include them. -/
theorem Term.Over.mono {t : Term α} (h : t.Over column literal) : t.Over column' literal' := by
  induction t with
  | column name => exact columns name h
  | literal text => exact literals text h
  | param value => trivial
  | array values => trivial
  | member base key ih => exact ⟨ih h.1, literals key h.2⟩
  | memberText base key ih => exact ⟨ih h.1, literals key h.2⟩
  | cast term type ih => exact ih h
  | paren term ih => exact ih h

/-- A test over some names is over any names that include them. -/
theorem Test.Over.mono {t : Test α} (h : t.Over column literal) : t.Over column' literal' := by
  cases t with
  | relation left r right => exact ⟨h.1.mono columns literals, h.2.mono columns literals⟩
  | isNull term => exact Term.Over.mono columns literals h
  | isNotNull term => exact Term.Over.mono columns literals h
  | inList term values => exact Term.Over.mono columns literals h
  | notInList term values => exact Term.Over.mono columns literals h
  | inArray term array => exact ⟨h.1.mono columns literals, h.2.mono columns literals⟩
  | notInArray term array => exact ⟨h.1.mono columns literals, h.2.mono columns literals⟩
  | inDocument term document => exact ⟨h.1.mono columns literals, h.2.mono columns literals⟩

/-- A condition over some names is over any names that include them. -/
theorem Condition.Over.mono {c : Condition α} (h : c.Over column literal) :
    c.Over column' literal' := by
  induction c with
  | constant truth => trivial
  | test t => exact Test.Over.mono columns literals h
  | not c ih => exact ih h
  | paren c ih => exact ih h
  | join k left right ihLeft ihRight => exact ⟨ihLeft h.1, ihRight h.2⟩

end

/-- A group mentions only what its conditions mention. -/
theorem Condition.over_group (k : Connective) {cs : List (Condition α)}
    (h : ∀ c ∈ cs, c.Over column literal) : (group k cs).Over column literal := by
  induction cs using group.induct with
  | case1 => cases k <;> trivial
  | case2 c => exact h c List.mem_cons_self
  | case3 c rest nonempty ih =>
    rw [group]
    · exact ⟨h c List.mem_cons_self, ih fun c' mem => h c' (List.mem_cons_of_mem _ mem)⟩
    · exact nonempty

/-- A conjunction is its only condition, or the group of its conditions. -/
theorem Condition.all_cases (cs : List (Condition α)) : cs = [all cs] ∨ all cs = group .and cs := by
  match cs with
  | [] => exact .inr rfl
  | [_] => exact .inl rfl
  | _ :: _ :: _ => exact .inr rfl

/-- A conjunction of several conditions is a group of them under the connective `and`. -/
theorem Condition.all_eq_group {cs : List (Condition α)} (several : 2 ≤ cs.length) :
    all cs = group .and cs := by
  rcases all_cases cs with single | group
  · rw [single, List.length_singleton] at several
    omega
  · exact group

/-- A conjunction mentions only what its conditions mention. -/
theorem Condition.over_all {cs : List (Condition α)} (h : ∀ c ∈ cs, c.Over column literal) :
    (all cs).Over column literal := by
  rcases all_cases cs with single | several
  · exact h _ (single ▸ List.mem_singleton_self _)
  · rw [several]
    exact over_group .and h

end

/-! ## The code of a condition -/

/-- All code in which statements are written, apart from the names of columns. -/
def templates : List String :=
  ["WHERE ", "ARRAY[", "]", ", ", "->", "->>", "::", "(", ")", " ", " IS NULL", " IS NOT NULL",
    " IN (", " NOT IN (", " = ANY(", " != ALL(", " = ANY(SELECT jsonb_array_elements(", "))",
    "TRUE", "FALSE", "NOT (", " AND ", " OR ", "text", "boolean", "numeric", "jsonb", "uuid",
    "uuid[]", "text[]", "=", "!=", "<", "<=", ">", ">=", "LIKE", "ILIKE", "&&", "@>"]

/-- Code of a piece is one of the templates or a column, and quoted text is of the given kind. -/
def Piece.Over (column literal : String → Prop) : Piece α → Prop
  | .code text => text ∈ templates ∨ column text
  | .quoted text => literal text
  | .hole _ => True

section

variable {column literal : String → Prop}

/-- Holes between commas hold no code but the commas. -/
theorem over_holes (values : List α) : ∀ piece ∈ holes values, piece.Over column literal := by
  induction values using holes.induct with
  | case1 => simp [holes]
  | case2 value => simp [holes, Piece.Over]
  | case3 value rest nonempty ih =>
    rw [holes]
    · simp only [List.forall_mem_cons]
      exact ⟨trivial, .inl (by decide), ih⟩
    · exact nonempty

/-- The pieces of a term over some names are over the same names. -/
theorem Term.Over.pieces {t : Term α} (h : t.Over column literal) :
    ∀ piece ∈ t.pieces, piece.Over column literal := by
  induction t with
  | column name => exact List.forall_mem_singleton.2 (.inr h)
  | literal text => exact List.forall_mem_singleton.2 h
  | param value => simp [Term.pieces, Piece.Over]
  | array values =>
    simp only [Term.pieces, List.cons_append, List.forall_mem_cons, List.forall_mem_append]
    exact ⟨.inl (by decide), over_holes values, .inl (by decide), List.forall_mem_nil _⟩
  | member base key ih =>
    simp only [Term.pieces, List.forall_mem_append, List.forall_mem_cons]
    exact ⟨ih h.1, .inl (by decide), h.2, List.forall_mem_nil _⟩
  | memberText base key ih =>
    simp only [Term.pieces, List.forall_mem_append, List.forall_mem_cons]
    exact ⟨ih h.1, .inl (by decide), h.2, List.forall_mem_nil _⟩
  | cast term type ih =>
    simp only [Term.pieces, List.forall_mem_append, List.forall_mem_cons]
    exact ⟨ih h, .inl (by decide), .inl (by cases type <;> decide), List.forall_mem_nil _⟩
  | paren term ih =>
    simp only [Term.pieces, List.cons_append, List.forall_mem_cons, List.forall_mem_append]
    exact ⟨.inl (by decide), ih h, .inl (by decide), List.forall_mem_nil _⟩

/-- The pieces of a test over some names are over the same names. -/
theorem Test.Over.pieces {t : Test α} (h : t.Over column literal) :
    ∀ piece ∈ t.pieces, piece.Over column literal := by
  cases t with
  | relation left r right =>
    simp only [Test.pieces, List.forall_mem_append, List.forall_mem_cons]
    have symbol : r.sql ∈ templates := by
      cases r with
      | compare c => cases c <;> decide
      | pattern p => cases p <;> decide
      | overlaps => decide
      | includes => decide
    exact ⟨h.1.pieces, .inl (by decide), .inl symbol, .inl (by decide), h.2.pieces⟩
  | isNull term =>
    simp only [Test.pieces, List.forall_mem_append, List.forall_mem_cons]
    exact ⟨Term.Over.pieces h, .inl (by decide), List.forall_mem_nil _⟩
  | isNotNull term =>
    simp only [Test.pieces, List.forall_mem_append, List.forall_mem_cons]
    exact ⟨Term.Over.pieces h, .inl (by decide), List.forall_mem_nil _⟩
  | inList term values =>
    simp only [Test.pieces, List.forall_mem_append, List.forall_mem_cons]
    exact ⟨⟨Term.Over.pieces h, .inl (by decide), over_holes values⟩, .inl (by decide),
      List.forall_mem_nil _⟩
  | notInList term values =>
    simp only [Test.pieces, List.forall_mem_append, List.forall_mem_cons]
    exact ⟨⟨Term.Over.pieces h, .inl (by decide), over_holes values⟩, .inl (by decide),
      List.forall_mem_nil _⟩
  | inArray term array =>
    simp only [Test.pieces, List.forall_mem_append, List.forall_mem_cons]
    exact ⟨⟨h.1.pieces, .inl (by decide), h.2.pieces⟩, .inl (by decide), List.forall_mem_nil _⟩
  | notInArray term array =>
    simp only [Test.pieces, List.forall_mem_append, List.forall_mem_cons]
    exact ⟨⟨h.1.pieces, .inl (by decide), h.2.pieces⟩, .inl (by decide), List.forall_mem_nil _⟩
  | inDocument term document =>
    simp only [Test.pieces, List.forall_mem_append, List.forall_mem_cons]
    exact ⟨⟨h.1.pieces, .inl (by decide), h.2.pieces⟩, .inl (by decide), List.forall_mem_nil _⟩

/-- The pieces of a condition over some names are over the same names. -/
theorem Condition.Over.pieces {c : Condition α} (h : c.Over column literal) :
    ∀ piece ∈ c.pieces, piece.Over column literal := by
  induction c with
  | constant truth => cases truth <;> exact List.forall_mem_singleton.2 (.inl (by decide))
  | test t => exact Test.Over.pieces h
  | not c ih =>
    simp only [Condition.pieces, List.cons_append, List.forall_mem_cons, List.forall_mem_append]
    exact ⟨.inl (by decide), ih h, .inl (by decide), List.forall_mem_nil _⟩
  | paren c ih =>
    simp only [Condition.pieces, List.cons_append, List.forall_mem_cons, List.forall_mem_append]
    exact ⟨.inl (by decide), ih h, .inl (by decide), List.forall_mem_nil _⟩
  | join k left right ihLeft ihRight =>
    simp only [Condition.pieces, List.forall_mem_append, List.forall_mem_cons]
    exact ⟨ihLeft h.1, .inl (by cases k <;> decide), ihRight h.2⟩

end

/-! ## Connectives without parentheses -/

namespace Condition

/-- Whether a connective stands in a condition outside all parentheses. -/
def exposes (k : Connective) : Condition α → Bool
  | .join k' left right => k' = k || left.exposes k || right.exposes k
  | _ => false

/-- Connectives of one kind stand in a row from left to right, all others in parentheses. -/
def Chained : Condition α → Prop
  | .constant _ | .test _ => True
  | .not c | .paren c => c.Chained
  | .join k left right =>
    (∀ k', left.exposes k' = false) ∧ (∀ k', k' ≠ k → right.exposes k' = false) ∧
      left.Chained ∧ right.Chained

/-- A group shows no connective but its own. -/
theorem exposes_group {k k' : Connective} (other : k' ≠ k) (cs : List (Condition α)) :
    (group k cs).exposes k' = false := by
  induction cs using group.induct with
  | case1 => cases k <;> rfl
  | case2 c => rfl
  | case3 c rest nonempty ih =>
    rw [group]
    · simpa [exposes, ih] using Ne.symm other
    · exact nonempty

/-- A group of chained conditions is chained. -/
theorem chained_group (k : Connective) {cs : List (Condition α)} (h : ∀ c ∈ cs, c.Chained) :
    (group k cs).Chained := by
  induction cs using group.induct with
  | case1 => cases k <;> trivial
  | case2 c => exact h c List.mem_cons_self
  | case3 c rest nonempty ih =>
    rw [group]
    · have chainedFirst := h c List.mem_cons_self
      have chainedRest := ih fun c' mem => h c' (List.mem_cons_of_mem _ mem)
      exact ⟨fun _ => rfl, fun _ other => exposes_group other rest, chainedFirst, chainedRest⟩
    · exact nonempty

/-- A conjunction of chained conditions is chained. -/
theorem chained_all {cs : List (Condition α)} (h : ∀ c ∈ cs, c.Chained) : (all cs).Chained := by
  rcases all_cases cs with single | several
  · exact h _ (single ▸ List.mem_singleton_self _)
  · rw [several]
    exact chained_group .and h

end Condition

end FilterSql.Sql

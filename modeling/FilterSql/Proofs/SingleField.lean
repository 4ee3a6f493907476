import FilterSql.Proofs.Continuation
import FilterSql.Proofs.Spelling
import FilterSql.Proofs.Sql.Values

/-!
# Filters with one field

A field with one operator has the fragment of a leaf (`fieldCondition_condition`). A filter with one
field has the condition of that field (`compile_single`), and what the field binds
stands behind the given parameters (`compile_single_ok`). So what is known of the condition of a
field is known of the statement as well.
-/

set_option autoImplicit false

namespace FilterSql

open Sql Compile

namespace Compile

/-- A field with one operator has the fragment of a leaf. -/
theorem fieldCondition_condition {config : Config} {levels : Nat} {key : String} {target : Target}
    (addressed : config.target? key = some target) (o : Operator) (v : Value) :
    fieldCondition config levels key (o.condition v) =
      Leaf.fragment config ⟨key, target, o, v⟩ := by
  have parsed := Spec.parse_condition key o v
  cases target with
  | metadata path =>
    rw [fieldCondition_of_metadata addressed, metadataCondition_of_operation parsed rfl]
    rfl
  | _ =>
    rw [fieldCondition, addressed]
    simp only [parsed]
    rfl

end Compile

/-- The filter with one entry. -/
def Filter.single (key : String) (v : Value) : Filter := ⟨[(key, v)]⟩

section

variable {compiler : Compiler} {key : String} {given : ParamList} {mode : Mode}

/-- A filter with one field is compiled as the condition of that field. -/
theorem compile_single (isField : isKeywordKey key = false) (v : Value) :
    compiler.compile (.single key v) given mode =
      (fieldCondition compiler.config compiler.config.maxDepth key v).map
        (statementOf mode (.single key v) given) := by
  have notGroup : ¬ isKeywordKey key = true := by simp [isField]
  rw [compile_eq, filterCondition, Filter.single, entriesCondition_field _ _ notGroup]

/-- The parameters of a filter with one field are the values of its condition, behind the given
ones. -/
theorem params_statementOf_single (v : Value) (c : Fragment) :
    (statementOf mode (.single key v) given c).params.items = given.items ++ c.values := by
  cases mode <;> rfl

/-- What a field binds stands behind the given parameters. -/
theorem compile_single_ok (isField : isKeywordKey key = false) {v : Value} {c : Fragment}
    (h : fieldCondition compiler.config compiler.config.maxDepth key v = .ok c) :
    ∃ s, compiler.compile (.single key v) given mode = .ok s ∧
      s.params.items = given.items ++ c.values := by
  rw [compile_single isField, h]
  exact ⟨_, rfl, params_statementOf_single v c⟩

/-- Values with the same condition have the same statement. -/
theorem compile_single_congr (isField : isKeywordKey key = false) {v w : Value}
    (same : fieldCondition compiler.config compiler.config.maxDepth key v =
      fieldCondition compiler.config compiler.config.maxDepth key w) :
    compiler.compile (.single key v) given mode = compiler.compile (.single key w) given mode := by
  rw [compile_single isField, compile_single isField, same]
  rfl

end

end FilterSql

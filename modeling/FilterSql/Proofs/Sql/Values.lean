import FilterSql.Proofs.Sql.Form
import FilterSql.Proofs.Sql.Token

/-!
# The values of a condition

What is bound to the placeholders of a condition, from left to right. A connective puts the values
of its two sides one behind the other, and so does a conjunction or a group with those of its parts;
all else that is written around a condition keeps them.
-/

set_option autoImplicit false

namespace FilterSql.Sql

variable {α : Type}

/-- Holes for values hold these values. -/
theorem holeValues_holes (values : List α) : holeValues (holes values) = values := by
  induction values using holes.induct with
  | case1 => rfl
  | case2 value => rfl
  | case3 value rest nonempty ih =>
    rw [holes]
    · simp only [holeValues, ih]
    · exact nonempty

/-- What is bound to the placeholders of a term, from left to right. -/
def Term.values (t : Term α) : List α := holeValues t.pieces

/-- What is bound to the placeholders of a test, from left to right. -/
def Test.values (t : Test α) : List α := holeValues t.pieces

/-- What is bound to the placeholders of a condition, from left to right. -/
def Condition.values (c : Condition α) : List α := holeValues c.pieces

variable (t t' : Term α) (c c' : Condition α)

/-- A column binds nothing. -/
@[simp] theorem Term.values_column (name : String) : (column name : Term α).values = [] := rfl

/-- A literal binds nothing. -/
@[simp] theorem Term.values_literal (text : String) : (literal text : Term α).values = [] := rfl

/-- A parameter is bound itself. -/
@[simp] theorem Term.values_param (value : α) : (param value).values = [value] := rfl

/-- An array binds its elements. -/
@[simp] theorem Term.values_array (values : List α) : (array values).values = values := by
  simp [Term.values, pieces, holeValues, holeValues_append, holeValues_holes]

/-- A cast binds what its term binds. -/
@[simp] theorem Term.values_cast (type : SqlType) : (t.cast type).values = t.values := by
  simp [values, pieces, holeValues, holeValues_append]

/-- Parentheses around a term bind what it binds. -/
@[simp] theorem Term.values_paren : t.paren.values = t.values := by
  simp [values, pieces, holeValues, holeValues_append]

/-- A relation binds what its left side binds before what its right side binds. -/
@[simp] theorem Test.values_relation (r : Relation) :
    (relation t r t').values = t.values ++ t'.values := by
  simp [values, Term.values, pieces, holeValues, holeValues_append]

/-- A test for null binds what its term binds. -/
@[simp] theorem Test.values_isNull : (isNull t).values = t.values := by
  simp [values, Term.values, pieces, holeValues, holeValues_append]

/-- A negated test for null binds what its term binds. -/
@[simp] theorem Test.values_isNotNull : (isNotNull t).values = t.values := by
  simp [values, Term.values, pieces, holeValues, holeValues_append]

/-- A membership in a list binds what its term binds before the elements. -/
@[simp] theorem Test.values_inList (values : List α) :
    (inList t values).values = t.values ++ values := by
  simp [Test.values, Term.values, pieces, holeValues, holeValues_append, holeValues_holes]

/-- A negated membership in a list binds what its term binds before the elements. -/
@[simp] theorem Test.values_notInList (values : List α) :
    (notInList t values).values = t.values ++ values := by
  simp [Test.values, Term.values, pieces, holeValues, holeValues_append, holeValues_holes]

/-- A membership in an array binds what its term binds before the array. -/
@[simp] theorem Test.values_inArray : (inArray t t').values = t.values ++ t'.values := by
  simp [values, Term.values, pieces, holeValues, holeValues_append]

/-- A negated membership in an array binds what its term binds before the array. -/
@[simp] theorem Test.values_notInArray : (notInArray t t').values = t.values ++ t'.values := by
  simp [values, Term.values, pieces, holeValues, holeValues_append]

/-- A membership in a document binds what its term binds before the document. -/
@[simp] theorem Test.values_inDocument : (inDocument t t').values = t.values ++ t'.values := by
  simp [values, Term.values, pieces, holeValues, holeValues_append]

/-- A constant binds nothing. -/
@[simp] theorem Condition.values_constant (truth : Bool) :
    (constant truth : Condition α).values = [] := by
  cases truth <;> rfl

/-- A test that stands as a condition binds what it binds. -/
@[simp] theorem Condition.values_test (t : Test α) : (test t).values = t.values := rfl

/-- A negation binds what its condition binds. -/
@[simp] theorem Condition.values_not : c.not.values = c.values := by
  simp [values, pieces, holeValues, holeValues_append]

/-- Parentheses around a condition bind what it binds. -/
@[simp] theorem Condition.values_paren : c.paren.values = c.values := by
  simp [values, pieces, holeValues, holeValues_append]

/-- A connective binds what its left side binds before what its right side binds. -/
@[simp] theorem Condition.values_join (k : Connective) :
    (join k c c').values = c.values ++ c'.values := by
  simp [values, pieces, holeValues, holeValues_append]

/-- A group binds what its conditions bind, one behind the other. -/
theorem Condition.values_group (k : Connective) (cs : List (Condition α)) :
    (group k cs).values = cs.flatMap values := by
  induction cs using group.induct with
  | case1 => cases k <;> rfl
  | case2 c => rw [group, values_paren, List.flatMap_singleton]
  | case3 c rest nonempty ih =>
    rw [group, values_join, values_paren, ih, List.flatMap_cons]
    exact nonempty

/-- A conjunction binds what its conditions bind, one behind the other. -/
theorem Condition.values_all (cs : List (Condition α)) :
    (all cs).values = cs.flatMap values := by
  rcases all_cases cs with single | several
  · rw [single, List.flatMap_singleton]
    rfl
  · rw [several, values_group]

end FilterSql.Sql

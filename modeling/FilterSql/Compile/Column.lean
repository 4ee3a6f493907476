import FilterSql.Compile.Operand

/-!
# Conditions on plain columns

A plain column is compared with scalars, matched against patterns, and tested for
membership in lists of scalars. Equality with null is a test for null.
-/

set_option autoImplicit false

namespace FilterSql.Compile

open Sql

/-- The condition of an operator on a plain column. -/
def columnOperation (config : Config) (field column : String) (o : Operator) (operand : Value) :
    Except CompileError Fragment :=
  match o with
  | .compare c =>
    if c.isEquality && operand.isNull then
      .ok (.test (if c = .ne then .isNotNull (.column column) else .isNull (.column column)))
    else do
      let p ← scalarOperand field o operand
      return .test (.relation (.column column) (.compare c) (.param p))
  | .pattern p => do
    let text ← patternOperand field o config.likeAutoWildcard operand
    return .test (.relation (.column column) (.pattern p) (.param (.text text)))
  | .within => do
    let values ← (← listOperand field o operand).mapM (scalarOperand field o)
    return if values.isEmpty then .constant false else .test (.inList (.column column) values)
  | .without => do
    let values ← (← listOperand field o operand).mapM (scalarOperand field o)
    return if values.isEmpty then .constant true else .test (.notInList (.column column) values)
  | .overlap | .contains => .error (.unsupportedOperator field o .standardColumn)

/-- The condition of a shape on a plain column. A bare list asks for membership. -/
def columnCondition (config : Config) (field column : String) (spec : Spec) :
    Except CompileError Fragment :=
  match spec.operation? .within with
  | some (o, operand) => columnOperation config field column o operand
  | none => .error (.invalidForm (.nestedInColumn field))

end FilterSql.Compile

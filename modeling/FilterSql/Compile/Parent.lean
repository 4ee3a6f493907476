import FilterSql.Compile.Operand

/-!
# Conditions on the parent of a row

The reference to the parent is compared as an identifier where the operand is one, and as
text otherwise. A list is compared as identifiers only if all its elements are.
-/

set_option autoImplicit false

namespace FilterSql.Compile

open Sql

/-- The column of the reference to the parent. -/
def parentTerm : Term Param := .column Target.parentField

/-- What a comparison with the parent compares it with: an identifier, or a scalar. -/
def parentOperand (field : String) (o : Operator) (operand : Value) :
    Except CompileError (Term Param) :=
  match uuidOperand field operand with
  | .ok id => .ok (.cast (.param (.text id.text)) .uuid)
  | .error _ => do
    let p ← scalarOperand field o operand
    return .param p

/-- The array of a list: identifiers if all elements are, else their texts. -/
def parentArray (field : String) (o : Operator) (items : List Value) :
    Except CompileError (Term Param) :=
  match items.mapM (uuidOperand field) with
  | .ok ids => .ok (.cast (.param (.textArray (ids.map Uuid.text))) .uuidArray)
  | .error _ => do
    let texts ← items.mapM (textOperand field o)
    return .cast (.param (.textArray texts)) .textArray

/-- The condition of an operator on the parent. -/
def parentOperation (field : String) (o : Operator) (operand : Value) :
    Except CompileError Fragment :=
  match o with
  | .compare .eq =>
    if operand.isNull then .ok (.test (.isNull parentTerm))
    else do
      let term ← parentOperand field o operand
      return .test (.relation parentTerm (.compare .eq) term)
  | .compare .ne =>
    if operand.isNull then .ok (.test (.isNotNull parentTerm))
    else do
      let term ← parentOperand field o operand
      return .test (.relation parentTerm (.compare .ne) term)
  | .within => do
    let items ← listOperand field o operand
    if items.isEmpty then return .constant false
    else return .test (.inArray parentTerm (← parentArray field o items))
  | .without => do
    let items ← listOperand field o operand
    if items.isEmpty then return .constant true
    else return .test (.notInArray parentTerm (← parentArray field o items))
  | _ => .error (.unsupportedOperator field o .hierarchicalReference)

/-- The condition of a shape on the parent. A bare list asks for membership. -/
def parentCondition (field : String) (spec : Spec) : Except CompileError Fragment :=
  match spec.operation? .within with
  | some (o, operand) => parentOperation field o operand
  | none => .error (.invalidForm (.nestedInReserved field))

end FilterSql.Compile

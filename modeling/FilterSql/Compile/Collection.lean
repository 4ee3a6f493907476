import FilterSql.Compile.Operand

/-!
# Conditions on the collections of a row

The collections of a row are an array of identifiers. Equality with one identifier asks
whether the array holds it, equality with a list compares the whole array. A row overlaps a
list if they share an identifier, and contains a list if it holds all of it.
-/

set_option autoImplicit false

namespace FilterSql.Compile

open Sql

/-- The column of the collections. -/
def collectionTerm : Term Param := .column Target.collectionColumn

/-- The text `{}`, which is read as an array without elements. -/
def noElements : String := braced ""

/-- An array of identifiers. The empty one has a form of its own. -/
def uuidArray (ids : List Uuid) : Term Param :=
  if ids.isEmpty then .cast (.literal noElements) .uuidArray
  else .cast (.array (ids.map fun id => .text id.text)) .uuidArray

/-- The test whether the collections share an identifier with a list. -/
def overlapTest (ids : List Uuid) : Fragment :=
  .test (.relation collectionTerm .overlaps (uuidArray ids))

/-- The condition of an operator on the collections. -/
def collectionOperation (field : String) (o : Operator) (operand : Value) :
    Except CompileError Fragment :=
  match o, operand with
  | .compare .eq, .null => .ok (.test (.isNull collectionTerm))
  | .compare .ne, .null => .ok (.test (.isNotNull collectionTerm))
  | .compare .eq, .list items => do
    let ids ← items.mapM (uuidOperand field)
    return .test (.relation collectionTerm (.compare .eq) (uuidArray ids))
  | .compare .ne, .list items => do
    let ids ← items.mapM (uuidOperand field)
    return .test (.relation collectionTerm (.compare .ne) (uuidArray ids))
  | .compare .eq, single => do
    let id ← uuidOperand field single
    return overlapTest [id]
  | .compare .ne, single => do
    let id ← uuidOperand field single
    return .not (overlapTest [id])
  | .within, list | .overlap, list => do
    let ids ← (← listOperand field o list).mapM (uuidOperand field)
    return if ids.isEmpty then .constant false else overlapTest ids
  | .without, list => do
    let ids ← (← listOperand field o list).mapM (uuidOperand field)
    return if ids.isEmpty then .constant true else .not (overlapTest ids)
  | .contains, .list items => do
    let ids ← items.mapM (uuidOperand field)
    return if ids.isEmpty then .constant true
      else .test (.relation collectionTerm .includes (uuidArray ids))
  | .contains, single => do
    let id ← uuidOperand field single
    return .test (.relation collectionTerm .includes (uuidArray [id]))
  | .compare _, _ | .pattern _, _ => .error (.unsupportedOperator field o .arrayMembership)

/-- The condition of a shape on the collections. A bare list asks for an overlap. -/
def collectionCondition (field : String) (spec : Spec) : Except CompileError Fragment :=
  match spec.operation? .overlap with
  | some (o, operand) => collectionOperation field o operand
  | none => .error (.invalidForm (.nestedInReserved field))

end FilterSql.Compile

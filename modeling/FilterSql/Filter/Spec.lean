import FilterSql.Error

/-!
# Conditions on one field

The value of a field has one of three shapes: a bare value, an operator with its operand,
or further keys that continue the path of the field. An object has the second shape if its
only key is that of an operator, and the third if none of its keys is a keyword.
-/

set_option autoImplicit false

namespace FilterSql

/-- The shape of a condition. -/
inductive Spec
  | literal (value : Value)
  | operator (o : Operator) (operand : Value)
  | path (entries : List (String × Value))

namespace Spec

/-- The shape of an object with the given entries, as the condition of a field. -/
def ofEntries (field : String) (entries : List (String × Value)) : Except CompileError Spec :=
  let keys := (entries.map Prod.fst).filter isKeywordKey
  match entries, keys with
  | [], _ => .error (.invalidForm (.emptyCondition field))
  | _, [] => .ok (.path entries)
  | [(key, operand)], _ =>
    match Keyword.ofKey? key with
    | none => .error (.unknownOperator field key)
    | some (.connective c) => .error (.invalidForm (.connectiveOnField c field))
    | some (.operator o) => .ok (.operator o operand)
  | _, _ =>
    if keys.length = entries.length then .error (.multipleOperators field keys)
    else .error (.invalidForm (.mixedCondition field))

/-- The shape of a value as the condition of a field. -/
def parse (field : String) : Value → Except CompileError Spec
  | .object entries => ofEntries field entries
  | v => .ok (.literal v)

/-- The operator and the operand of a shape that does not continue a path. A bare list is
the operand of `onList`, and any other bare value is compared for equality. -/
def operation? (onList : Operator) : Spec → Option (Operator × Value)
  | .literal v => some (if v.isScalar then .compare .eq else onList, v)
  | .operator o operand => some (o, operand)
  | .path _ => none

end Spec

end FilterSql

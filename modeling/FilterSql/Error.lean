import FilterSql.Field.Target
import FilterSql.Operator
import FilterSql.Value.Document

/-!
# Why a filter is refused

Every refusal is a cause; `CompileError.message` is the one place where causes are worded.
-/

set_option autoImplicit false

namespace FilterSql

/-- What is wrong with the form of a filter or of a configuration. -/
inductive FormFault
  | notAnObject (kind : Kind)
  | emptyCondition (field : String)
  | mixedCondition (field : String)
  | connectiveOnField (connective : Connective) (field : String)
  | nestedInColumn (field : String)
  | nestedInReserved (field : String)
  | operatorWithoutField (key : String)
  | groupElement (connective : Connective) (kind : Kind)
  | noDepth
deriving Repr, DecidableEq

/-- The wording of a fault of form. -/
def FormFault.message : FormFault → String
  | .notAnObject kind => s!"filter must be an object, got {kind.name}"
  | .emptyCondition field => s!"empty condition for field '{field}'"
  | .mixedCondition field => s!"condition for field '{field}' mixes operators and nested fields"
  | .connectiveOnField c field =>
    s!"logical operator '{c.key}' cannot be used as a condition on field '{field}'"
  | .nestedInColumn field =>
    s!"nested conditions are only supported on metadata fields, not '{field}'"
  | .nestedInReserved field => s!"nested conditions are not supported on '{field}'"
  | .operatorWithoutField key => s!"operator '{key}' must be applied to a field"
  | .groupElement c kind => s!"elements of '{c.key}' must be objects, got {kind.name}"
  | .noDepth => "max_depth must be at least 1"

/-- What is wrong with the operand of an operator. -/
inductive OperandFault
  | null
  | notScalar (kind : Kind)
  | notString (kind : Kind)
  | notList (kind : Kind)
deriving Repr, DecidableEq

/-- The wording of a fault of an operand. -/
def OperandFault.message : OperandFault → String
  | .null => "null is only supported with $eq and $ne"
  | .notScalar kind => s!"expected a scalar, got {kind.name}"
  | .notString kind => s!"expected a string, got {kind.name}"
  | .notList kind => s!"expected a list, got {kind.name}"

/-- Why a filter or a configuration is refused. -/
inductive CompileError
  | invalidForm (fault : FormFault)
  | groupNotList (connective : Connective)
  | multipleOperators (field : String) (keys : List String)
  | unknownOperator (field : String) (key : String)
  | unsupportedOperator (field : String) (operator : Operator) (fieldClass : FieldClass)
  | invalidOperand (field : String) (operator : Operator) (fault : OperandFault)
  | invalidUuid (field : String) (value : String)
  | invalidField (field : String)
  | notSerializable (field : String) (cause : NonFinite)
  | tooDeep (maxDepth : Nat)
deriving DecidableEq

/-- The wording of a refusal. -/
def CompileError.message : CompileError → String
  | .invalidForm fault => s!"Invalid filter format: {fault.message}"
  | .groupNotList c => s!"Logical operator '{c.key}' must be a list"
  | .multipleOperators field keys =>
    s!"Condition for '{field}' has more than one operator: " ++ ", ".intercalate keys
  | .unknownOperator field key => s!"Unknown operator '{key}' on field '{field}'"
  | .unsupportedOperator field o c =>
    s!"Operator '{o.key}' is not supported for {c.name} field '{field}'"
  | .invalidOperand field o fault =>
    s!"Invalid operand for '{o.key}' on field '{field}': {fault.message}"
  | .invalidUuid field value => s!"Invalid UUID format for field '{field}': {value}"
  | .invalidField field => s!"Invalid field name: {field}"
  | .notSerializable field cause =>
    s!"Value for '{field}' cannot be serialized to JSON: {cause.message}"
  | .tooDeep maxDepth => s!"Filter nesting exceeds maximum depth of {maxDepth}"

end FilterSql

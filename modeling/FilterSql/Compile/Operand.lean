import FilterSql.Config
import FilterSql.Filter.Spec
import FilterSql.Sql.Text
import FilterSql.Uuid

/-!
# Operands

What an operator asks of its operand, and what is bound for it. The field and the
operator are passed on for the sake of the refusal.
-/

set_option autoImplicit false

namespace FilterSql.Compile

/-- A condition whose placeholders hold parameters. -/
abbrev Fragment := Sql.Condition Param

/-- The parameter of an operand that must be a scalar other than null. -/
def scalarOperand (field : String) (o : Operator) (v : Value) : Except CompileError Param :=
  if v.isNull then .error (.invalidOperand field o .null)
  else
    match Param.ofScalar? v with
    | some p => .ok p
    | none => .error (.invalidOperand field o (.notScalar v.kind))

/-- The text of an operand that must be a scalar other than null. -/
def textOperand (field : String) (o : Operator) (v : Value) : Except CompileError String :=
  match v.toText? with
  | some text => .ok text
  | none =>
    if v.isNull then .error (.invalidOperand field o .null)
    else .error (.invalidOperand field o (.notScalar v.kind))

/-- A pattern between wildcards, unless it has one or wildcards are not asked for. -/
def widenPattern (autoWildcard : Bool) (text : String) : String :=
  if autoWildcard && !text.toList.contains '%' then "%" ++ text ++ "%" else text

/-- The pattern of an operand that must be a string. -/
def patternOperand (field : String) (o : Operator) (autoWildcard : Bool) (v : Value) :
    Except CompileError String :=
  match v with
  | .string text => .ok (widenPattern autoWildcard text)
  | v => .error (.invalidOperand field o (.notString v.kind))

/-- The elements of an operand that must be a list. -/
def listOperand (field : String) (o : Operator) (v : Value) : Except CompileError (List Value) :=
  match v with
  | .list items => .ok items
  | v => .error (.invalidOperand field o (.notList v.kind))

/-- The identifier of an operand that must be the text of one. -/
def uuidOperand (field : String) (v : Value) : Except CompileError Uuid :=
  match v with
  | .string text =>
    match Uuid.ofText? text with
    | some id => .ok id
    | none => .error (.invalidUuid field text)
  | v => .error (.invalidUuid field (v.toText?.getD v.kind.name))

/-- The JSON parameter of an operand that must be a document. -/
def jsonOperand (field : String) (v : Value) : Except CompileError Param :=
  match v.toJson with
  | .ok document => .ok (.json document.text)
  | .error cause => .error (.notSerializable field cause)

end FilterSql.Compile

import FilterSql.Compile.Operand

/-!
# Conditions on metadata

A path inside the JSON column is reached key by key. Scalars are compared with the text of
what stands there, cast to a number or a truth value where the operand is one; lists and
objects are compared as documents. A condition may continue the path, and then holds the
conditions of all its keys; each such step uses up one level of nesting.
-/

set_option autoImplicit false

namespace FilterSql.Compile

open Sql

/-- What stands at a path of a column, as a document. -/
def jsonAccessor {α : Type} (column : String) (path : List String) : Term α :=
  path.foldl .member (.column column)

/-- What stands at a path of a column, as text. -/
def textAccessor {α : Type} (column : String) (path : List String) : Term α :=
  match path.getLast? with
  | none => .cast (.column column) .text
  | some key => .memberText (jsonAccessor column path.dropLast) key

/-- The text at a path, cast as the operand asks for. -/
def typedAccessor {α : Type} (column : String) (path : List String) (operand : Value) : Term α :=
  match operand.kind with
  | .boolean => .cast (.paren (textAccessor column path)) .boolean
  | .number => .cast (.paren (textAccessor column path)) .numeric
  | _ => textAccessor column path

/-- The JSON null. -/
def jsonNull {α : Type} : Term α := .cast (.literal "null") .jsonb

/-- The test that a path exists and holds the JSON null. -/
def isJsonNull (accessor : Term Param) : Fragment :=
  .paren (.join .and (.test (.isNotNull accessor))
    (.test (.relation accessor (.compare .eq) jsonNull)))

/-- The test that a path does not exist or holds something other than the JSON null. -/
def isNotJsonNull (accessor : Term Param) : Fragment :=
  .paren (.join .or (.test (.isNull accessor)) (.test (.relation accessor (.compare .ne) jsonNull)))

/-- The name of a path in messages: its segments, or the column for the empty path. -/
def pathName (column : String) (path : List String) : String :=
  if joinSegments path = "" then column else joinSegments path

/-- The membership of what stands at a path in a list with at least one element. -/
def metadataMembership (config : Config) (field : String) (path : List String) (o : Operator)
    (negated : Bool) (items : List Value) : Except CompileError Fragment :=
  match config.metadataIn with
  | .placeholderList => do
    let texts ← items.mapM (textOperand field o)
    let term := Term.paren (textAccessor config.jsonColumn path)
    return .test
      (if negated then .notInList term (texts.map .text) else .inList term (texts.map .text))
  | .jsonArrayElements => do
    let p ← jsonOperand field (.list items)
    let membership := Condition.test
      (.inDocument (jsonAccessor config.jsonColumn path) (.cast (.param p) .jsonb))
    return if negated then .not membership else membership

/-- The condition of an operator on a path inside the JSON column. -/
def metadataOperation (config : Config) (path : List String) (o : Operator) (operand : Value) :
    Except CompileError Fragment :=
  let column := config.jsonColumn
  let field := pathName column path
  match o with
  | .compare c =>
    if c.isEquality && operand.isNull then
      .ok (if c = .ne then isNotJsonNull (jsonAccessor column path)
        else isJsonNull (jsonAccessor column path))
    else if c.isEquality && !operand.isScalar then do
      let p ← jsonOperand field operand
      return .test (.relation (jsonAccessor column path) (.compare c) (.cast (.param p) .jsonb))
    else do
      let p ← scalarOperand field o operand
      return .test (.relation (typedAccessor column path operand) (.compare c) (.param p))
  | .pattern p => do
    let text ← patternOperand field o config.likeAutoWildcard operand
    return .test (.relation (textAccessor column path) (.pattern p) (.param (.text text)))
  | .within => do
    let items ← listOperand field o operand
    if items.isEmpty then return .constant false
    else metadataMembership config field path o false items
  | .without => do
    let items ← listOperand field o operand
    if items.isEmpty then return .constant true
    else metadataMembership config field path o true items
  | .contains => do
    let p ← jsonOperand field operand
    return .test (.relation (jsonAccessor column path) .includes (.cast (.param p) .jsonb))
  | .overlap => .error (.unsupportedOperator field o .metadataPath)

/-- The path of a key below a path. A key may bring several segments, none of them empty. -/
def childPath (column : String) (path : List String) (key : String) :
    Except CompileError (List String) :=
  if (segments key).all (· ≠ "") then .ok (path ++ segments key)
  else .error (.invalidField (pathName column path ++ "." ++ key))

mutual

/-- The condition of a value on a path inside the JSON column, with `levels` levels of
nesting left. Faults of its form are reported for the field `label`. -/
def metadataCondition (config : Config) (levels : Nat) (label : String) (path : List String) :
    Value → Except CompileError Fragment
  | .object entries => do
    match ← Spec.ofEntries label entries with
    | .operator o operand => metadataOperation config path o operand
    | .literal v => metadataOperation config path (.compare .eq) v
    | .path _ =>
      match levels with
      | 0 => .error (.tooDeep config.maxDepth)
      | levels + 1 => return .all (← childConditions config levels path entries)
  | .list items => metadataOperation config path .within (.list items)
  | v => metadataOperation config path (.compare .eq) v

/-- The conditions of the keys below a path, in their order. -/
def childConditions (config : Config) (levels : Nat) (path : List String) :
    List (String × Value) → Except CompileError (List Fragment)
  | [] => .ok []
  | (key, value) :: rest => do
    let child ← childPath config.jsonColumn path key
    let first ← metadataCondition config levels (joinSegments child) child value
    let others ← childConditions config levels path rest
    return first :: others

end

end FilterSql.Compile

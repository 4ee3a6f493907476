import FilterSql.Proofs.Composition
import FilterSql.Proofs.InPlace.Accumulator

/-!
# Building conditions in place

The four builders of conditions as steps on an accumulator. Each checks its operand, collects what
the condition binds, and puts the text together from the placeholders that it gets. A path inside
the JSON column that goes on is built key by key, on the same accumulator.
-/

set_option autoImplicit false

namespace FilterSql.Compile

open Sql Build

/-! ## Texts -/

/-- Quoted text, with quotes inside doubled. -/
def quotedText (text : String) : String := String.ofList (quoteChars text)

/-- The text of what stands at a path of a column, as a document. -/
def jsonAccessorText (column : String) (path : List String) : String :=
  path.foldl (fun text key => text ++ "->" ++ quotedText key) column

/-- The text of what stands at a path of a column, as text. -/
def textAccessorText (column : String) (path : List String) : String :=
  match path.getLast? with
  | none => column ++ "::text"
  | some key => jsonAccessorText column path.dropLast ++ "->>" ++ quotedText key

/-- The text at a path, cast as the operand asks for. -/
def typedAccessorText (column : String) (path : List String) (operand : Value) : String :=
  match operand.kind with
  | .boolean => "(" ++ textAccessorText column path ++ ")::boolean"
  | .number => "(" ++ textAccessorText column path ++ ")::numeric"
  | _ => textAccessorText column path

/-- A relation between two texts. -/
def relationText (left symbol right : String) : String := left ++ " " ++ symbol ++ " " ++ right

/-- The test for null that equality with null stands for, or its negation. -/
def nullText (column : String) (c : Comparison) : String :=
  if c = .ne then column ++ " IS NOT NULL" else column ++ " IS NULL"

/-- The test for the JSON null, or its negation. -/
def jsonNullText (accessor : String) (c : Comparison) : String :=
  if c = .ne then "(" ++ accessor ++ " IS NULL OR " ++ accessor ++ " != 'null'::jsonb)"
  else "(" ++ accessor ++ " IS NOT NULL AND " ++ accessor ++ " = 'null'::jsonb)"

/-- Membership in a list of placeholders, or its negation. -/
def inListText (left : String) (negated : Bool) (placeholders : String) : String :=
  if negated then left ++ " NOT IN (" ++ placeholders ++ ")"
  else left ++ " IN (" ++ placeholders ++ ")"

/-- Membership in an array, or its negation. -/
def inArrayText (left : String) (negated : Bool) (array : String) : String :=
  if negated then left ++ " != ALL(" ++ array ++ ")" else left ++ " = ANY(" ++ array ++ ")"

/-- What an operator on a list gives for the empty list. -/
def emptyListText : Operator → String
  | .without | .contains => "TRUE"
  | _ => "FALSE"

/-- A negation, if it is asked for. -/
def negatedText (negated : Bool) (text : String) : String :=
  if negated then "NOT (" ++ text ++ ")" else text

/-- The conjunction of conditions, in which a single condition stands without parentheses. -/
def conjunctionText : List String → String
  | [] => "TRUE"
  | [text] => text
  | texts => joinTexts .and texts

/-! ## The builders -/

/-- The condition of an operator on a plain column. -/
def buildColumn (config : Config) (field column : String) (o : Operator) (operand : Value) :
    Build String :=
  match o with
  | .compare c =>
    if c.isEquality && operand.isNull then pure (nullText column c)
    else do
      let p ← check (scalarOperand field o operand)
      let placeholder ← collect p
      return relationText column c.sql placeholder
  | .pattern p => do
    let pattern ← check (patternOperand field o config.likeAutoWildcard operand)
    let placeholder ← collect (.text pattern)
    return relationText column p.sql placeholder
  | .within | .without => do
    let items ← check (listOperand field o operand)
    if items.isEmpty then return emptyListText o
    else
      let values ← check (items.mapM (scalarOperand field o))
      let placeholders ← collectAll values
      return inListText column (o = .without) placeholders
  | .overlap | .contains => refuse (.unsupportedOperator field o .standardColumn)

/-- An array of identifiers. The empty one has a form of its own. -/
def buildUuidArray (ids : List Uuid) : Build String :=
  if ids.isEmpty then pure (quotedText noElements ++ "::uuid[]")
  else do
    let placeholders ← collectAll (ids.map fun id => .text id.text)
    return "ARRAY[" ++ placeholders ++ "]" ++ "::uuid[]"

/-- The condition of an operator on the collections of a row. -/
def buildCollection (field column : String) (o : Operator) (operand : Value) : Build String :=
  match o with
  | .compare c =>
    if c.isEquality then
      match operand with
      | .null => pure (nullText column c)
      | .list items => do
        let ids ← check (items.mapM (uuidOperand field))
        let array ← buildUuidArray ids
        return relationText column c.sql array
      | single => do
        let id ← check (uuidOperand field single)
        let array ← buildUuidArray [id]
        return negatedText (c = .ne) (relationText column "&&" array)
    else refuse (.unsupportedOperator field o .arrayMembership)
  | .within | .overlap | .without => do
    let items ← check (listOperand field o operand)
    let ids ← check (items.mapM (uuidOperand field))
    if ids.isEmpty then return emptyListText o
    else
      let array ← buildUuidArray ids
      return negatedText (o = .without) (relationText column "&&" array)
  | .contains =>
    match operand with
    | .list items => do
      let ids ← check (items.mapM (uuidOperand field))
      if ids.isEmpty then return emptyListText o
      else
        let array ← buildUuidArray ids
        return relationText column "@>" array
    | single => do
      let id ← check (uuidOperand field single)
      let array ← buildUuidArray [id]
      return relationText column "@>" array
  | .pattern _ => refuse (.unsupportedOperator field o .arrayMembership)

/-- What a comparison with the parent compares it with: an identifier, or a scalar. -/
def buildParentOperand (field : String) (o : Operator) (operand : Value) : Build String :=
  match uuidOperand field operand with
  | .ok id => do
    let placeholder ← collect (.text id.text)
    return placeholder ++ "::uuid"
  | .error _ => do
    let p ← check (scalarOperand field o operand)
    collect p

/-- The array of a list: identifiers if all elements are, else their texts. -/
def buildParentArray (field : String) (o : Operator) (items : List Value) : Build String :=
  match items.mapM (uuidOperand field) with
  | .ok ids => do
    let placeholder ← collect (.textArray (ids.map Uuid.text))
    return placeholder ++ "::uuid[]"
  | .error _ => do
    let texts ← check (items.mapM (textOperand field o))
    let placeholder ← collect (.textArray texts)
    return placeholder ++ "::text[]"

/-- The condition of an operator on the parent of a row. -/
def buildParent (field column : String) (o : Operator) (operand : Value) : Build String :=
  match o with
  | .compare c =>
    if c.isEquality then
      if operand.isNull then pure (nullText column c)
      else do
        let right ← buildParentOperand field o operand
        return relationText column c.sql right
    else refuse (.unsupportedOperator field o .hierarchicalReference)
  | .within | .without => do
    let items ← check (listOperand field o operand)
    if items.isEmpty then return emptyListText o
    else
      let array ← buildParentArray field o items
      return inArrayText column (o = .without) array
  | _ => refuse (.unsupportedOperator field o .hierarchicalReference)

/-- The membership of what stands at a path in a list with at least one element. -/
def buildMembership (config : Config) (column field : String) (path : List String) (o : Operator)
    (negated : Bool) (items : List Value) : Build String :=
  match config.metadataIn with
  | .placeholderList => do
    let texts ← check (items.mapM (textOperand field o))
    let placeholders ← collectAll (texts.map .text)
    return inListText ("(" ++ textAccessorText column path ++ ")") negated placeholders
  | .jsonArrayElements => do
    let p ← check (jsonOperand field (.list items))
    let placeholder ← collect p
    return negatedText negated (jsonAccessorText column path ++
      " = ANY(SELECT jsonb_array_elements(" ++ (placeholder ++ "::jsonb") ++ "))")

/-- The condition of an operator on a path inside the JSON column. -/
def buildMetadata (config : Config) (column : String) (path : List String) (o : Operator)
    (operand : Value) : Build String :=
  let field := pathName column path
  match o with
  | .compare c =>
    if c.isEquality && operand.isNull then pure (jsonNullText (jsonAccessorText column path) c)
    else if c.isEquality && !operand.isScalar then do
      let p ← check (jsonOperand field operand)
      let placeholder ← collect p
      return relationText (jsonAccessorText column path) c.sql (placeholder ++ "::jsonb")
    else do
      let p ← check (scalarOperand field o operand)
      let placeholder ← collect p
      return relationText (typedAccessorText column path operand) c.sql placeholder
  | .pattern p => do
    let pattern ← check (patternOperand field o config.likeAutoWildcard operand)
    let placeholder ← collect (.text pattern)
    return relationText (textAccessorText column path) p.sql placeholder
  | .within | .without => do
    let items ← check (listOperand field o operand)
    if items.isEmpty then return emptyListText o
    else buildMembership config column field path o (o = .without) items
  | .contains => do
    let p ← check (jsonOperand field operand)
    let placeholder ← collect p
    return relationText (jsonAccessorText column path) "@>" (placeholder ++ "::jsonb")
  | .overlap => refuse (.unsupportedOperator field o .metadataPath)

/-- The condition of a shape on a path inside the JSON column, with `levels` levels of nesting left.
Keys that continue the path are built one after another on the same accumulator. -/
def buildShape (config : Config) (column : String) : Nat → List String → Spec → Build String
  | _, path, .literal v =>
    buildMetadata config column path (if v.isScalar then .compare .eq else .within) v
  | _, path, .operator o operand => buildMetadata config column path o operand
  | 0, _, .path _ => refuse (.tooDeep config.maxDepth)
  | levels + 1, path, .path entries => do
    let texts ← entries.mapM fun (key, value) => do
      let child ← check (childPath column path key)
      let spec ← check (Spec.parse (joinSegments child) value)
      buildShape config column levels child spec
    return conjunctionText texts

end FilterSql.Compile

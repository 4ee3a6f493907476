import FilterSql.Compile.Collection
import FilterSql.Compile.Column
import FilterSql.Compile.Metadata
import FilterSql.Compile.Parent
import FilterSql.Filter.Basic

/-!
# Conditions of filters

The condition of a filter is the conjunction of the conditions of its entries: first the
groups under a connective, then the fields, each in their order. A group uses up one level
of nesting, whether or not it is empty.
-/

set_option autoImplicit false

namespace FilterSql.Compile

open Sql

/-- The condition of one field with `levels` levels of nesting left. -/
def fieldCondition (config : Config) (levels : Nat) (key : String) (value : Value) :
    Except CompileError Fragment :=
  match config.target? key with
  | none => .error (.invalidField key)
  | some (.column name) => do columnCondition config key name (← Spec.parse key value)
  | some .collection => do collectionCondition key (← Spec.parse key value)
  | some .parent => do parentCondition key (← Spec.parse key value)
  | some (.metadata path) => metadataCondition config levels key path value

/-- The conditions of the entries that are fields, in their order. -/
def fieldConditions (config : Config) (levels : Nat) :
    List (String × Value) → Except CompileError (List Fragment)
  | [] => .ok []
  | (key, value) :: rest =>
    if isKeywordKey key then fieldConditions config levels rest
    else do
      let first ← fieldCondition config levels key value
      let others ← fieldConditions config levels rest
      return first :: others

/-- The connective of a key that has the form of a keyword. -/
def connectiveOfKey (key : String) : Except CompileError Connective :=
  match Keyword.ofKey? key with
  | some (.connective c) => .ok c
  | some (.operator _) => .error (.invalidForm (.operatorWithoutField key))
  | none => .error (.unknownOperator "" key)

mutual

/-- The condition of the value of a connective, with `levels` levels of nesting left. -/
def groupCondition (config : Config) (levels : Nat) (c : Connective) :
    Value → Except CompileError Fragment
  | .list items =>
    match levels with
    | 0 => .error (.tooDeep config.maxDepth)
    | levels + 1 => do return .group c (← elementConditions config levels c items)
  | _ =>
    match levels with
    | 0 => .error (.tooDeep config.maxDepth)
    | _ + 1 => .error (.groupNotList c)

/-- The conditions of the filters that a connective joins. -/
def elementConditions (config : Config) (levels : Nat) (c : Connective) :
    List Value → Except CompileError (List Fragment)
  | [] => .ok []
  | .object entries :: rest => do
    let groups ← groupConditions config levels entries
    let fields ← fieldConditions config levels entries
    let others ← elementConditions config levels c rest
    return .all (groups ++ fields) :: others
  | v :: _ => .error (.invalidForm (.groupElement c v.kind))

/-- The conditions of the entries that are groups, in their order. -/
def groupConditions (config : Config) (levels : Nat) :
    List (String × Value) → Except CompileError (List Fragment)
  | [] => .ok []
  | (key, value) :: rest =>
    if isKeywordKey key then do
      let c ← connectiveOfKey key
      let first ← groupCondition config levels c value
      let others ← groupConditions config levels rest
      return first :: others
    else groupConditions config levels rest

end

/-- The condition of entries with `levels` levels of nesting left. -/
def entriesCondition (config : Config) (levels : Nat) (entries : List (String × Value)) :
    Except CompileError Fragment := do
  let groups ← groupConditions config levels entries
  let fields ← fieldConditions config levels entries
  return .all (groups ++ fields)

/-- The condition of a filter. -/
def filterCondition (config : Config) (f : Filter) : Except CompileError Fragment :=
  entriesCondition config config.maxDepth f.entries

end FilterSql.Compile

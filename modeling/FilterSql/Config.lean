import FilterSql.Error

/-!
# Configurations

A configuration names the plain columns and the JSON column, limits the nesting, and
chooses between two ways to write membership on metadata. It is valid if the JSON column
is an identifier and some nesting is allowed.
-/

set_option autoImplicit false

namespace FilterSql

/-- A name that stands for no mode, or for no way to write membership on metadata. -/
inductive UnknownName
  | mode (name : String)
  | metadataIn (name : String)
deriving Repr, DecidableEq

/-- The wording for a name that stands for nothing. -/
def UnknownName.message : UnknownName → String
  | .mode name => s!"unknown compile mode: {name}"
  | .metadataIn name => s!"unknown metadata IN strategy: {name}"

/-- How membership on metadata is written: with one placeholder for each element, or with
one JSON array that is taken apart. -/
inductive MetadataIn
  | placeholderList
  | jsonArrayElements
deriving Repr, DecidableEq

/-- The name of a strategy. -/
def MetadataIn.name : MetadataIn → String
  | .placeholderList => "placeholder_list"
  | .jsonArrayElements => "json_array_elements"

/-- The strategy that a name stands for; its words may be joined by hyphens as well. -/
def MetadataIn.ofName (name : String) : Except UnknownName MetadataIn :=
  match name with
  | "placeholder_list" | "placeholder-list" => .ok .placeholderList
  | "json_array_elements" | "json-array-elements" => .ok .jsonArrayElements
  | _ => .error (.metadataIn name)

/-- What a compilation gives: a condition, or a clause that is empty for the empty filter. -/
inductive Mode
  | condition
  | whereClause
deriving Repr, DecidableEq

/-- The name of a mode. -/
def Mode.name : Mode → String
  | .condition => "condition"
  | .whereClause => "where-clause"

/-- The mode that a name stands for. -/
def Mode.ofName (name : String) : Except UnknownName Mode :=
  match name with
  | "condition" => .ok .condition
  | "where-clause" | "where_clause" | "where" => .ok .whereClause
  | _ => .error (.mode name)

/-- The nesting allowed unless another limit is given. -/
def defaultMaxDepth : Nat := 32

/-- A configuration. -/
structure Config where
  columns : ColumnSet := ColumnSet.default
  jsonColumn : String := Target.defaultJsonColumn
  maxDepth : Nat := defaultMaxDepth
  likeAutoWildcard : Bool := false
  metadataIn : MetadataIn := .placeholderList
deriving DecidableEq

namespace Config

/-- Names the plain columns; no names at all mean the default columns. -/
def withColumns (config : Config) (names : List String) : Config :=
  { config with columns := (ColumnSet.ofList names).orDefault }

/-- Names the JSON column. -/
def withJsonColumn (config : Config) (name : String) : Config := { config with jsonColumn := name }

/-- Limits the nesting. -/
def withMaxDepth (config : Config) (depth : Nat) : Config := { config with maxDepth := depth }

/-- Says whether patterns without a wildcard get one at both ends. -/
def withLikeAutoWildcard (config : Config) (enabled : Bool) : Config :=
  { config with likeAutoWildcard := enabled }

/-- Chooses how membership on metadata is written. -/
def withMetadataIn (config : Config) (strategy : MetadataIn) : Config :=
  { config with metadataIn := strategy }

/-- A configuration under which filters can be compiled. -/
def Valid (config : Config) : Prop :=
  isIdentifier config.jsonColumn = true ∧ 0 < config.maxDepth

/-- It can be decided whether a configuration is valid. -/
instance (config : Config) : Decidable config.Valid := inferInstanceAs (Decidable (_ ∧ _))

/-- The first fault of a configuration, if it has one. -/
def fault? (config : Config) : Option CompileError :=
  if ¬ isIdentifier config.jsonColumn then some (.invalidField config.jsonColumn)
  else if config.maxDepth = 0 then some (.invalidForm .noDepth)
  else none

/-- A configuration has no fault exactly if it is valid. -/
theorem fault?_eq_none_iff {config : Config} : config.fault? = none ↔ config.Valid := by
  unfold fault? Valid
  split
  · rename_i h
    simp [h]
  · rename_i h
    simp only [Decidable.not_not] at h
    split
    · rename_i h'
      simp [h']
    · rename_i h'
      simp [h]
      omega

/-- What a field name addresses under a configuration. -/
def target? (config : Config) (field : String) : Option Target :=
  Target.ofField? config.columns config.jsonColumn field

end Config

end FilterSql

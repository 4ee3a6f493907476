import FilterSql.Config

/-!
# Settings

The settings of the program: those of its log, and those that make a configuration. No
names of columns stand for the default columns.
-/

set_option autoImplicit false

namespace FilterSql

/-- The two forms of the log. -/
inductive LogFormat
  | pretty
  | json
deriving Repr, DecidableEq

/-- The name of a form of the log. -/
def LogFormat.name : LogFormat → String
  | .pretty => "pretty"
  | .json => "json"

/-- The settings of the program. -/
structure Settings where
  logLevel : String := "info"
  logFormat : LogFormat := .pretty
  columns : List String := []
  jsonColumn : String := Target.defaultJsonColumn
  maxDepth : Nat := defaultMaxDepth
  likeAutoWildcard : Bool := false
  metadataIn : MetadataIn := .placeholderList
deriving DecidableEq

/-- The configuration that settings make. -/
def Settings.toConfig (s : Settings) : Config :=
  (({} : Config).withColumns s.columns).withJsonColumn s.jsonColumn
    |>.withMaxDepth s.maxDepth
    |>.withLikeAutoWildcard s.likeAutoWildcard
    |>.withMetadataIn s.metadataIn

end FilterSql

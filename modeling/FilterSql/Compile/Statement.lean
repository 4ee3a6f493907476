import FilterSql.Compile.Filter

/-!
# Compiled filters

A compiler is a valid configuration. It turns a filter into the text of a condition, or of
a `WHERE` clause, and the list of parameters: those given before, and behind them those of
the filter.
-/

set_option autoImplicit false

namespace FilterSql

/-- The text of a condition or a clause with all its parameters. -/
structure Statement where
  sql : String
  params : ParamList
deriving DecidableEq

/-- The document that shows a statement. -/
def Statement.toJson (s : Statement) : Json :=
  .object [("sql", .string s.sql), ("params", s.params.toJson)]

/-- A valid configuration. -/
structure Compiler where
  config : Config
  valid : config.Valid

namespace Compiler

/-- The compiler of a configuration, or the fault of the configuration. -/
def ofConfig (config : Config) : Except CompileError Compiler :=
  match h : config.fault? with
  | none => .ok ⟨config, Config.fault?_eq_none_iff.1 h⟩
  | some fault => .error fault

/-- The compiler of the default configuration. -/
def default : Compiler := ⟨{}, by decide⟩

/-- The text in a mode. A clause for the empty filter is empty. -/
def inMode (mode : Mode) (f : Filter) (condition : String) : String :=
  match mode with
  | .condition => condition
  | .whereClause => if f.isEmpty then "" else "WHERE " ++ condition

/-- Compiles a filter, continuing the given parameters. -/
def compile (compiler : Compiler) (f : Filter) (given : ParamList) (mode : Mode) :
    Except CompileError Statement := do
  let condition ← Compile.filterCondition compiler.config f
  let (text, params) := condition.bindTo given
  return ⟨inMode mode f text, params⟩

end Compiler

end FilterSql

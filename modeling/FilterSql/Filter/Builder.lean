import FilterSql.Filter.Basic

/-!
# Building filters

A filter can be put together step by step; each step adds one entry. A step that joins
filters holds the steps of each of them.
-/

set_option autoImplicit false

namespace FilterSql

/-- A step that adds one entry to a filter. -/
inductive BuildStep
  | field (key : String) (value : Value)
  | compare (c : Comparison) (key : String) (value : Value)
  | pattern (p : Pattern) (key : String) (text : String)
  | inList (key : String) (values : List Value)
  | notInList (key : String) (values : List Value)
  | overlap (key : String) (values : List Value)
  | contains (key : String) (value : Value)
  | isNull (key : String)
  | isNotNull (key : String)
  | group (c : Connective) (filters : List (List BuildStep))

/-- A condition with one operator. -/
def Operator.condition (o : Operator) (operand : Value) : Value := .object [(o.key, operand)]

namespace BuildStep

mutual

/-- The entry that a step adds. -/
def entry : BuildStep → String × Value
  | .field key value => (key, value)
  | .compare c key value => (key, (Operator.compare c).condition value)
  | .pattern p key text => (key, (Operator.pattern p).condition (.string text))
  | .inList key values => (key, Operator.within.condition (.list values))
  | .notInList key values => (key, Operator.without.condition (.list values))
  | .overlap key values => (key, Operator.overlap.condition (.list values))
  | .contains key value => (key, Operator.contains.condition value)
  | .isNull key => (key, (Operator.compare .eq).condition .null)
  | .isNotNull key => (key, (Operator.compare .ne).condition .null)
  | .group c filters => (c.key, .list (groupValues filters))

/-- The entries that steps add, in their order. -/
def entries : List BuildStep → List (String × Value)
  | [] => []
  | step :: rest => entry step :: entries rest

/-- The filters that a group joins, as values. -/
def groupValues : List (List BuildStep) → List Value
  | [] => []
  | steps :: rest => .object (entries steps) :: groupValues rest

end

end BuildStep

/-- The filter that steps build. -/
def Filter.ofSteps (steps : List BuildStep) : Filter := ⟨BuildStep.entries steps⟩

end FilterSql

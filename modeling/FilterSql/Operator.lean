/-!
# Operators and connectives

A key that begins with a dollar sign is a keyword of the filter language. Operators
state a condition on a field; the two connectives join whole filters. `$contains` has a
second spelling, `$array_contains`; every other keyword has one.
-/

set_option autoImplicit false

namespace FilterSql

/-- Equality and the orderings. -/
inductive Comparison
  | eq
  | ne
  | lt
  | lte
  | gt
  | gte
deriving Repr, DecidableEq

/-- The SQL symbol of a comparison. -/
def Comparison.sql : Comparison → String
  | .eq => "="
  | .ne => "!="
  | .lt => "<"
  | .lte => "<="
  | .gt => ">"
  | .gte => ">="

/-- Whether a comparison is equality or its negation, the two that take null. -/
def Comparison.isEquality : Comparison → Bool
  | .eq | .ne => true
  | _ => false

/-- The pattern matches, with or without regard to case. -/
inductive Pattern
  | like
  | ilike
deriving Repr, DecidableEq

/-- The SQL keyword of a pattern match. -/
def Pattern.sql : Pattern → String
  | .like => "LIKE"
  | .ilike => "ILIKE"

/-- An operator of a condition. -/
inductive Operator
  | compare (c : Comparison)
  | pattern (p : Pattern)
  | within
  | without
  | overlap
  | contains
deriving Repr, DecidableEq

/-- The key of an operator. -/
def Operator.key : Operator → String
  | .compare .eq => "$eq"
  | .compare .ne => "$ne"
  | .compare .lt => "$lt"
  | .compare .lte => "$lte"
  | .compare .gt => "$gt"
  | .compare .gte => "$gte"
  | .pattern .like => "$like"
  | .pattern .ilike => "$ilike"
  | .within => "$in"
  | .without => "$nin"
  | .overlap => "$overlap"
  | .contains => "$contains"

/-- A connective of filters. -/
inductive Connective
  | and
  | or
deriving Repr, DecidableEq

/-- The key of a connective. -/
def Connective.key : Connective → String
  | .and => "$and"
  | .or => "$or"

/-- A keyword of the filter language. -/
inductive Keyword
  | operator (o : Operator)
  | connective (c : Connective)
deriving Repr, DecidableEq

/-- The canonical key of a keyword. -/
def Keyword.key : Keyword → String
  | .operator o => o.key
  | .connective c => c.key

/-- The keyword that a key spells. -/
def Keyword.ofKey? (key : String) : Option Keyword :=
  match key with
  | "$eq" => some (.operator (.compare .eq))
  | "$ne" => some (.operator (.compare .ne))
  | "$lt" => some (.operator (.compare .lt))
  | "$lte" => some (.operator (.compare .lte))
  | "$gt" => some (.operator (.compare .gt))
  | "$gte" => some (.operator (.compare .gte))
  | "$like" => some (.operator (.pattern .like))
  | "$ilike" => some (.operator (.pattern .ilike))
  | "$in" => some (.operator .within)
  | "$nin" => some (.operator .without)
  | "$overlap" => some (.operator .overlap)
  | "$contains" => some (.operator .contains)
  | "$array_contains" => some (.operator .contains)
  | "$and" => some (.connective .and)
  | "$or" => some (.connective .or)
  | _ => none

/-- Whether a keyword is a connective. -/
def Keyword.isConnective : Keyword → Bool
  | .connective _ => true
  | .operator _ => false

/-- The comparison of a keyword that is one. -/
def Keyword.comparison? : Keyword → Option Comparison
  | .operator (.compare c) => some c
  | _ => none

/-- The pattern match of a keyword that is one. -/
def Keyword.pattern? : Keyword → Option Pattern
  | .operator (.pattern p) => some p
  | _ => none

/-- Whether a key has the form of a keyword, whether or not it is one. -/
def isKeywordKey (key : String) : Bool := key.toList.head? = some '$'

end FilterSql

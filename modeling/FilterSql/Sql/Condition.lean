import FilterSql.Operator

/-!
# SQL conditions

Conditions as they are written: every parenthesis of the text is a node of the tree, so
that the text follows from the tree alone. Values do not occur; where the text has a
placeholder, the tree holds whatever is bound to it, of a type `α`.
-/

set_option autoImplicit false

namespace FilterSql.Sql

/-- The types that occur in casts. -/
inductive SqlType
  | text
  | boolean
  | numeric
  | jsonb
  | uuid
  | uuidArray
  | textArray
deriving Repr, DecidableEq

/-- The name of a type. -/
def SqlType.name : SqlType → String
  | .text => "text"
  | .boolean => "boolean"
  | .numeric => "numeric"
  | .jsonb => "jsonb"
  | .uuid => "uuid"
  | .uuidArray => "uuid[]"
  | .textArray => "text[]"

/-- A term. `member` and `memberText` reach into a JSON document by a key, the latter for
the text of what stands there. -/
inductive Term (α : Type)
  | column (name : String)
  | literal (text : String)
  | param (value : α)
  | array (values : List α)
  | member (base : Term α) (key : String)
  | memberText (base : Term α) (key : String)
  | cast (term : Term α) (type : SqlType)
  | paren (term : Term α)
deriving Repr, DecidableEq

/-- A relation between two terms. -/
inductive Relation
  | compare (c : Comparison)
  | pattern (p : Pattern)
  | overlaps
  | includes
deriving Repr, DecidableEq

/-- The SQL symbol of a relation. -/
def Relation.sql : Relation → String
  | .compare c => c.sql
  | .pattern p => p.sql
  | .overlaps => "&&"
  | .includes => "@>"

/-- A test without connectives: a relation, a test for null, or membership in a list of
parameters, in an array or among the elements of a JSON array. -/
inductive Test (α : Type)
  | relation (left : Term α) (relation : Relation) (right : Term α)
  | isNull (term : Term α)
  | isNotNull (term : Term α)
  | inList (term : Term α) (values : List α)
  | notInList (term : Term α) (values : List α)
  | inArray (term : Term α) (array : Term α)
  | notInArray (term : Term α) (array : Term α)
  | inDocument (term : Term α) (document : Term α)
deriving Repr, DecidableEq

/-- A condition. `join` writes its two sides without parentheses of its own. -/
inductive Condition (α : Type)
  | constant (truth : Bool)
  | test (t : Test α)
  | not (c : Condition α)
  | paren (c : Condition α)
  | join (connective : Connective) (left right : Condition α)
deriving Repr, DecidableEq

namespace Condition

variable {α : Type}

/-- What a connective gives over no conditions at all. -/
def unit : Connective → Condition α
  | .and => .constant true
  | .or => .constant false

/-- Joins conditions, each in parentheses. -/
def group (connective : Connective) : List (Condition α) → Condition α
  | [] => unit connective
  | [c] => .paren c
  | c :: rest => .join connective (.paren c) (group connective rest)

/-- The conjunction of conditions, in which a single condition stands without parentheses. -/
def all : List (Condition α) → Condition α
  | [c] => c
  | cs => group .and cs

end Condition

end FilterSql.Sql

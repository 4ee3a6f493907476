import FilterSql.Sql.Condition
import FilterSql.Param

/-!
# The text of a condition

A condition is written as a row of pieces: fixed code, quoted text, and holes for
parameters. Numbering the holes from left to right gives the text, and the values in the
holes, in the same order, are the parameters. A quote inside quoted text is doubled.
-/

set_option autoImplicit false

namespace FilterSql.Sql

/-- A piece of a statement. -/
inductive Piece (α : Type)
  | code (text : String)
  | quoted (text : String)
  | hole (value : α)
deriving Repr, DecidableEq

variable {α : Type}

/-- Holes for parameters, separated by commas. -/
def holes : List α → List (Piece α)
  | [] => []
  | [value] => [.hole value]
  | value :: rest => .hole value :: .code ", " :: holes rest

/-- The pieces of a term. -/
def Term.pieces : Term α → List (Piece α)
  | .column name => [.code name]
  | .literal text => [.quoted text]
  | .param value => [.hole value]
  | .array values => .code "ARRAY[" :: holes values ++ [.code "]"]
  | .member base key => base.pieces ++ [.code "->", .quoted key]
  | .memberText base key => base.pieces ++ [.code "->>", .quoted key]
  | .cast term type => term.pieces ++ [.code "::", .code type.name]
  | .paren term => .code "(" :: term.pieces ++ [.code ")"]

/-- The pieces of a test. -/
def Test.pieces : Test α → List (Piece α)
  | .relation left r right => left.pieces ++ .code " " :: .code r.sql :: .code " " :: right.pieces
  | .isNull term => term.pieces ++ [.code " IS NULL"]
  | .isNotNull term => term.pieces ++ [.code " IS NOT NULL"]
  | .inList term values => term.pieces ++ .code " IN (" :: holes values ++ [.code ")"]
  | .notInList term values => term.pieces ++ .code " NOT IN (" :: holes values ++ [.code ")"]
  | .inArray term array => term.pieces ++ .code " = ANY(" :: array.pieces ++ [.code ")"]
  | .notInArray term array => term.pieces ++ .code " != ALL(" :: array.pieces ++ [.code ")"]
  | .inDocument term document =>
    term.pieces ++ .code " = ANY(SELECT jsonb_array_elements(" :: document.pieces ++ [.code "))"]

/-- The keyword of a connective. -/
def connectiveCode : Connective → String
  | .and => " AND "
  | .or => " OR "

/-- The pieces of a condition. -/
def Condition.pieces : Condition α → List (Piece α)
  | .constant true => [.code "TRUE"]
  | .constant false => [.code "FALSE"]
  | .test t => t.pieces
  | .not c => .code "NOT (" :: c.pieces ++ [.code ")"]
  | .paren c => .code "(" :: c.pieces ++ [.code ")"]
  | .join k left right => left.pieces ++ .code (connectiveCode k) :: right.pieces

/-- Quoted text with its quotes; a quote inside is doubled. -/
def quoteChars (text : String) : List Char :=
  '\'' :: text.toList.flatMap (fun c => if c = '\'' then ['\'', '\''] else [c]) ++ ['\'']

/-- A text between braces, as arrays and documents are written. -/
def braced (text : String) : String := String.ofList ('{' :: text.toList ++ ['}'])

/-- The characters of pieces whose first hole has the number `next`. -/
def charsFrom (next : Nat) : List (Piece α) → List Char
  | [] => []
  | .code text :: rest => text.toList ++ charsFrom next rest
  | .quoted text :: rest => quoteChars text ++ charsFrom next rest
  | .hole _ :: rest => ParamList.placeholder next ++ charsFrom (next + 1) rest

/-- The values in the holes, from left to right. -/
def holeValues : List (Piece α) → List α
  | [] => []
  | .hole value :: rest => value :: holeValues rest
  | _ :: rest => holeValues rest

/-- The text of pieces whose holes continue a list of parameters, and the list with what
the holes hold. -/
def bindPieces (pieces : List (Piece Param)) (ps : ParamList) : String × ParamList :=
  (String.ofList (charsFrom ps.next pieces), ⟨ps.items ++ holeValues pieces⟩)

/-- The text of a condition behind given parameters, and all parameters. -/
def Condition.bindTo (c : Condition Param) (ps : ParamList) : String × ParamList :=
  bindPieces c.pieces ps

end FilterSql.Sql

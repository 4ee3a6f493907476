/-!
# Field names

A field name is a row of segments between dots. An identifier, which may stand in SQL
without quotes, is made of ASCII letters, digits and underscores and does not begin with
a digit.
-/

set_option autoImplicit false

namespace FilterSql

/-- Splits at every dot. There is always one part more than there are dots. -/
def splitDots : List Char → List (List Char)
  | [] => [[]]
  | c :: rest =>
    if c = '.' then [] :: splitDots rest
    else
      match splitDots rest with
      | [] => [[c]]
      | first :: others => (c :: first) :: others

/-- The segments of a name. -/
def segments (name : String) : List String := (splitDots name.toList).map String.ofList

/-- Joins segments by dots. -/
def joinSegments (path : List String) : String := ".".intercalate path

/-- Whether a character may begin an identifier. -/
def isIdentifierStart (c : Char) : Bool := c.isAlpha || c = '_'

/-- Whether a character may stand inside an identifier. -/
def isIdentifierPart (c : Char) : Bool := c.isAlphanum || c = '_'

/-- Whether characters form an identifier. -/
def isIdentifierChars : List Char → Bool
  | [] => false
  | c :: rest => isIdentifierStart c && rest.all isIdentifierPart

/-- Whether a name may stand in SQL without quotes. -/
def isIdentifier (name : String) : Bool := isIdentifierChars name.toList

end FilterSql

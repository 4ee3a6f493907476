import FilterSql.Json.Basic
import FilterSql.Decimal.FloatText

/-!
# Writing JSON text

The compact form has no blanks. The indented form puts every element and member on a
line of its own, two blanks deeper than what encloses it, and writes what is empty in
one piece. Inside a string only the quote, the backslash and the control characters
are escaped.
-/

set_option autoImplicit false

namespace FilterSql

namespace Json

/-- The lowercase hexadecimal digit of a number below sixteen. -/
def hexDigit (n : Nat) : Char := Nat.digitChar n

/-- The characters that stand for one character inside a quoted string. -/
def escape (c : Char) : List Char :=
  if c = '\"' then ['\\', '\"']
  else if c = '\\' then ['\\', '\\']
  else if c = '\n' then ['\\', 'n']
  else if c = '\t' then ['\\', 't']
  else if c = '\r' then ['\\', 'r']
  else if c.toNat = 8 then ['\\', 'b']
  else if c.toNat = 12 then ['\\', 'f']
  else if c.toNat < 32 then ['\\', 'u', '0', '0', hexDigit (c.toNat / 16), hexDigit (c.toNat % 16)]
  else [c]

/-- A string between quotes. -/
def quote (s : String) : List Char :=
  '\"' :: s.toList.flatMap escape ++ ['\"']

/-- The decimal digits of a whole number, after a sign if it is negative. -/
def wholeChars (n : Int) : List Char :=
  if n < 0 then '-' :: Nat.toDigits 10 n.natAbs else Nat.toDigits 10 n.natAbs

/-- The characters of a number. -/
def Number.chars : Number → List Char
  | .whole n _ _ => wholeChars n
  | .float x _ => Decimal.jsonLayout.chars x

mutual

/-- The compact form of a document. -/
def chars : Json → List Char
  | .null => ['n', 'u', 'l', 'l']
  | .bool true => ['t', 'r', 'u', 'e']
  | .bool false => ['f', 'a', 'l', 's', 'e']
  | .number n => n.chars
  | .string s => quote s
  | .array [] => ['[', ']']
  | .array (item :: rest) => '[' :: chars item ++ moreItems rest
  | .object [] => ['{', '}']
  | .object ((key, value) :: rest) => '{' :: quote key ++ ':' :: chars value ++ moreMembers rest

/-- What follows an element of an array: the other elements and the closing bracket. -/
def moreItems : List Json → List Char
  | [] => [']']
  | item :: rest => ',' :: chars item ++ moreItems rest

/-- What follows a member of an object: the other members and the closing brace. -/
def moreMembers : List (String × Json) → List Char
  | [] => ['}']
  | (key, value) :: rest => ',' :: quote key ++ ':' :: chars value ++ moreMembers rest

end

/-- The compact text of a document. -/
def text (document : Json) : String := String.ofList document.chars

/-- A new line, indented by two blanks for each level. -/
def newLine (level : Nat) : List Char := '\n' :: List.replicate (2 * level) ' '

mutual

/-- The indented form of a document that stands at a level. -/
def indentedChars (level : Nat) : Json → List Char
  | .array (item :: rest) =>
    '[' :: newLine (level + 1) ++ indentedChars (level + 1) item ++ moreItemsIndented level rest
  | .object ((key, value) :: rest) =>
    '{' :: newLine (level + 1) ++ quote key ++ ':' :: ' ' :: indentedChars (level + 1) value ++
      moreMembersIndented level rest
  | document => chars document

/-- What follows an element of an array in the indented form. -/
def moreItemsIndented (level : Nat) : List Json → List Char
  | [] => newLine level ++ [']']
  | item :: rest =>
    ',' :: newLine (level + 1) ++ indentedChars (level + 1) item ++ moreItemsIndented level rest

/-- What follows a member of an object in the indented form. -/
def moreMembersIndented (level : Nat) : List (String × Json) → List Char
  | [] => newLine level ++ ['}']
  | (key, value) :: rest =>
    ',' :: newLine (level + 1) ++ quote key ++ ':' :: ' ' :: indentedChars (level + 1) value ++
      moreMembersIndented level rest

end

/-- The indented text of a document. -/
def indentedText (document : Json) : String := String.ofList (document.indentedChars 0)

end Json

end FilterSql

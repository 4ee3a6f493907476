/-!
# Universally unique identifiers

An identifier is thirty-two hexadecimal digits. It is read from four spellings, in
digits of either case: the hyphenated one, with groups of 8, 4, 4, 4 and 12 digits; the
digits without hyphens; the hyphenated one in braces; and the hyphenated one behind
`urn:uuid:`. It is always written in the hyphenated spelling with lowercase digits.
-/

set_option autoImplicit false

namespace FilterSql

/-- An identifier of 128 bits as its hexadecimal digits. -/
structure Uuid where
  digits : List (Fin 16)
  length_eq : digits.length = 32
deriving DecidableEq

namespace Uuid

/-- The value of a hexadecimal digit in either case. -/
def digit? (c : Char) : Option (Fin 16) :=
  if '0' ≤ c ∧ c ≤ '9' then some (Fin.ofNat 16 (c.toNat - '0'.toNat))
  else if 'a' ≤ c ∧ c ≤ 'f' then some (Fin.ofNat 16 (c.toNat - 'a'.toNat + 10))
  else if 'A' ≤ c ∧ c ≤ 'F' then some (Fin.ofNat 16 (c.toNat - 'A'.toNat + 10))
  else none

/-- An identifier from its digits, if there are thirty-two. -/
def ofDigits? (digits : List (Fin 16)) : Option Uuid :=
  if h : digits.length = 32 then some ⟨digits, h⟩ else none

/-- Reads digits without hyphens. -/
def ofPlain? (cs : List Char) : Option Uuid := do
  ofDigits? (← cs.mapM digit?)

/-- The lengths of the groups in the hyphenated spelling before the last one. -/
def groupLengths : List Nat := [8, 4, 4, 4]

/-- Takes out the hyphens that stand behind groups of the given lengths. -/
def dropHyphens : List Nat → List Char → Option (List Char)
  | [], cs => some cs
  | length :: lengths, cs =>
    match cs.drop length with
    | '-' :: rest => (dropHyphens lengths rest).map (cs.take length ++ ·)
    | _ => none

/-- Reads the hyphenated spelling. -/
def ofHyphenated? (cs : List Char) : Option Uuid := do
  ofPlain? (← dropHyphens groupLengths cs)

/-- The name space that may stand before the hyphenated spelling, in any case. -/
def nameSpace : List Char := ['u', 'r', 'n', ':', 'u', 'u', 'i', 'd', ':']

/-- Reads any of the four spellings. -/
def ofChars? (cs : List Char) : Option Uuid :=
  if cs.length = 32 then ofPlain? cs
  else if cs.length = 36 then ofHyphenated? cs
  else if cs.length = 38 then
    if cs.head? = some '{' ∧ cs.getLast? = some '}' then ofHyphenated? (cs.drop 1).dropLast
    else none
  else if cs.length = 45 then
    if (cs.take 9).map Char.toLower = nameSpace then ofHyphenated? (cs.drop 9) else none
  else none

/-- The identifier that a text spells. -/
def ofText? (text : String) : Option Uuid := ofChars? text.toList

/-- The digits with a hyphen behind each group but the last. -/
def hyphenate : List Nat → List Char → List Char
  | [], cs => cs
  | length :: lengths, cs => cs.take length ++ '-' :: hyphenate lengths (cs.drop length)

/-- The characters of the hyphenated spelling with lowercase digits. -/
def chars (id : Uuid) : List Char :=
  hyphenate groupLengths (id.digits.map fun d => Nat.digitChar d.val)

/-- The text of an identifier. -/
def text (id : Uuid) : String := String.ofList id.chars

end Uuid

end FilterSql

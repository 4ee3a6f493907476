import FilterSql.Json.Numeral

/-!
# Reading JSON text

The reader is strict: blanks are the space, the tab, the line feed and the carriage
return, a number has no leading zero, and an escape sequence must name a character. At
most 127 arrays and objects may be nested, so the recursion descends along the levels
that are left. Each function takes the characters that are still to be read and gives
the rest back.
-/

set_option autoImplicit false

namespace FilterSql.Json

/-- The characters that may stand between the parts of a document. -/
def isBlank (c : Char) : Bool :=
  c = ' ' || c = '\t' || c = '\n' || c = '\r'

/-- Skips blanks. -/
def skipBlanks (cs : List Char) : List Char := cs.dropWhile isBlank

/-- The value of a hexadecimal digit in either case. -/
def hexValue? (c : Char) : Option Nat :=
  if '0' ≤ c ∧ c ≤ '9' then some (c.toNat - '0'.toNat)
  else if 'a' ≤ c ∧ c ≤ 'f' then some (c.toNat - 'a'.toNat + 10)
  else if 'A' ≤ c ∧ c ≤ 'F' then some (c.toNat - 'A'.toNat + 10)
  else none

/-- The sixteen bits that four hexadecimal digits name. -/
def codeUnit? (a b c d : Char) : Option Nat := do
  let a ← hexValue? a
  let b ← hexValue? b
  let c ← hexValue? c
  let d ← hexValue? d
  return ((a * 16 + b) * 16 + c) * 16 + d

/-- Whether a code unit opens a pair of surrogates. -/
def isHighSurrogate (unit : Nat) : Bool := 0xD800 ≤ unit && unit < 0xDC00

/-- Whether a code unit closes a pair of surrogates. -/
def isLowSurrogate (unit : Nat) : Bool := 0xDC00 ≤ unit && unit < 0xE000

/-- The character that a pair of surrogates stands for. -/
def joinSurrogates (high low : Nat) : Char :=
  Char.ofNat (0x10000 + (high - 0xD800) * 0x400 + (low - 0xDC00))

/-- The character that a one-letter escape names. -/
def namedEscape? (c : Char) : Option Char :=
  match c with
  | '\"' => some '\"'
  | '\\' => some '\\'
  | '/' => some '/'
  | 'b' => some (Char.ofNat 8)
  | 'f' => some (Char.ofNat 12)
  | 'n' => some '\n'
  | 'r' => some '\r'
  | 't' => some '\t'
  | _ => none

/-- Reads the rest of a string whose opening quote has been read. -/
def readString : List Char → Option (List Char × List Char)
  | [] => none
  | '\"' :: rest => some ([], rest)
  | '\\' :: 'u' :: a :: b :: c :: d :: rest => do
    let unit ← codeUnit? a b c d
    if isHighSurrogate unit then
      match rest with
      | '\\' :: 'u' :: e :: f :: g :: h :: after =>
        let low ← codeUnit? e f g h
        if isLowSurrogate low then
          let (tail, remaining) ← readString after
          return (joinSurrogates unit low :: tail, remaining)
        else none
      | _ => none
    else if isLowSurrogate unit then none
    else
      let (tail, remaining) ← readString rest
      return (Char.ofNat unit :: tail, remaining)
  | '\\' :: c :: rest => do
    let character ← namedEscape? c
    let (tail, remaining) ← readString rest
    return (character :: tail, remaining)
  | c :: rest =>
    if c.toNat < 32 || c = '\\' then none
    else do
      let (tail, remaining) ← readString rest
      return (c :: tail, remaining)

/-- Reads at least one digit. -/
def readDigits (cs : List Char) : Option (List Char × List Char) :=
  match cs.takeWhile Char.isDigit with
  | [] => none
  | digits => some (digits, cs.dropWhile Char.isDigit)

/-- Reads the whole part of a numeral, which has no leading zero. -/
def readWhole (cs : List Char) : Option (List Char × List Char) := do
  let (digits, rest) ← readDigits cs
  if digits.head? = some '0' ∧ 1 < digits.length then none else return (digits, rest)

/-- Reads a fraction if a point follows. -/
def readFraction : List Char → Option (Option (List Char) × List Char)
  | '.' :: rest => do
    let (digits, rest) ← readDigits rest
    return (some digits, rest)
  | cs => some (none, cs)

/-- Reads the sign and the digits of an exponent. -/
def readSignedDigits (cs : List Char) : Option (WrittenExponent × List Char) := do
  let (negative, rest) := match cs with
    | '-' :: rest => (true, rest)
    | '+' :: rest => (false, rest)
    | rest => (false, rest)
  let (digits, rest) ← readDigits rest
  return (⟨negative, digits⟩, rest)

/-- Reads an exponent if its letter follows. -/
def readExponent : List Char → Option (Option WrittenExponent × List Char)
  | 'e' :: rest | 'E' :: rest => do
    let (exponent, rest) ← readSignedDigits rest
    return (some exponent, rest)
  | cs => some (none, cs)

/-- Reads a numeral, as many characters as belong to it. -/
def readNumeral (cs : List Char) : Option (Numeral × List Char) := do
  let (negative, rest) := match cs with
    | '-' :: rest => (true, rest)
    | rest => (false, rest)
  let (whole, rest) ← readWhole rest
  let (fraction, rest) ← readFraction rest
  let (exponent, rest) ← readExponent rest
  return (⟨negative, whole, fraction, exponent⟩, rest)

/-- Reads a document that is neither an array nor an object. -/
def readScalar : List Char → Option (Json × List Char)
  | 'n' :: 'u' :: 'l' :: 'l' :: rest => some (.null, rest)
  | 't' :: 'r' :: 'u' :: 'e' :: rest => some (.bool true, rest)
  | 'f' :: 'a' :: 'l' :: 's' :: 'e' :: rest => some (.bool false, rest)
  | '\"' :: rest => do
    let (characters, rest) ← readString rest
    return (.string (String.ofList characters), rest)
  | cs => do
    let (numeral, rest) ← readNumeral cs
    let number ← numeral.number?
    return (.number number, rest)

/-- Reads parts between commas up to a closing character. The count bounds the number of
parts; no text has more parts than characters. -/
def readParts {α : Type} (part : List Char → Option (α × List Char)) (close : Char) :
    Nat → List Char → Option (List α × List Char)
  | 0, _ => none
  | count + 1, cs => do
    let (first, rest) ← part cs
    match skipBlanks rest with
    | ',' :: rest =>
      let (others, rest) ← readParts part close count rest
      return (first :: others, rest)
    | c :: rest => if c = close then return ([first], rest) else none
    | [] => none

/-- Reads what stands between brackets, of which the opening one has been read. -/
def readBetween {α : Type} (part : List Char → Option (α × List Char)) (close : Char)
    (cs : List Char) : Option (List α × List Char) :=
  match skipBlanks cs with
  | [] => none
  | c :: rest =>
    if c = close then some ([], rest) else readParts part close (c :: rest).length (c :: rest)

/-- Reads a member of an object, whose value `value` reads. -/
def readMember {α : Type} (value : List Char → Option (α × List Char)) (cs : List Char) :
    Option ((String × α) × List Char) :=
  match skipBlanks cs with
  | '\"' :: rest => do
    let (key, rest) ← readString rest
    match skipBlanks rest with
    | ':' :: rest =>
      let (content, rest) ← value rest
      return ((String.ofList key, content), rest)
    | _ => none
  | _ => none

/-- Reads a document in which at most `levels` arrays and objects are nested. A key that
an object gives several times is kept each time. -/
def readValue (levels : Nat) (cs : List Char) : Option (Json × List Char) :=
  match levels, skipBlanks cs with
  | inner + 1, '[' :: rest => do
    let (items, rest) ← readBetween (readValue inner) ']' rest
    return (.array items, rest)
  | inner + 1, '{' :: rest => do
    let (members, rest) ← readBetween (readMember (readValue inner)) '}' rest
    return (.object members, rest)
  | _, cs => readScalar cs

/-- The number of arrays and objects that may be nested. -/
def nestingLimit : Nat := 127

/-- Reads a whole text, keeping each occurrence of a key. -/
def read? (text : String) : Option Json := do
  let (document, rest) ← readValue nestingLimit text.toList
  if (skipBlanks rest).isEmpty then return document else none

/-- The document that a text means. -/
def ofText? (text : String) : Option Json := (read? text).map collapse

end FilterSql.Json

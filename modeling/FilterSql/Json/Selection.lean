import FilterSql.Json.Reader

/-!
# Reading parts of a text

A reader that asks for some members of an object passes over the others. What it passes over
has to be written as JSON, but it is not judged any further: its arrays and objects may be nested
to any depth, its numbers may be out of range, and the code units that its escapes name need not
form characters. The machine that passes over a value keeps the closing brackets that it still
waits for, so it needs no recursion along the nesting.
-/

set_option autoImplicit false

namespace FilterSql.Json

/-- Passes over the rest of a string whose opening quote has been read. -/
def passString : List Char → Option (List Char)
  | [] => none
  | '\"' :: rest => some rest
  | '\\' :: 'u' :: a :: b :: c :: d :: rest =>
    if (codeUnit? a b c d).isSome then passString rest else none
  | '\\' :: c :: rest => if (namedEscape? c).isSome then passString rest else none
  | c :: rest => if c.toNat < 32 || c = '\\' then none else passString rest

/-- Passes over a value that is neither an array nor an object. -/
def passScalar : List Char → Option (List Char)
  | 'n' :: 'u' :: 'l' :: 'l' :: rest => some rest
  | 't' :: 'r' :: 'u' :: 'e' :: rest => some rest
  | 'f' :: 'a' :: 'l' :: 's' :: 'e' :: rest => some rest
  | '\"' :: rest => passString rest
  | cs => (readNumeral cs).map Prod.snd

/-- A bracket that is open. -/
inductive Bracket
  | array
  | object
deriving Repr, DecidableEq

/-- The character that closes a bracket. -/
def Bracket.close : Bracket → Char
  | .array => ']'
  | .object => '}'

/-- What is passed over next: a value, a member from its key on, or what follows a value. -/
inductive Ahead
  | value
  | member
  | separator
deriving Repr, DecidableEq

/-- What an open bracket holds. -/
def Bracket.part : Bracket → Ahead
  | .array => .value
  | .object => .member

/-- What is ahead behind an opening bracket, and the brackets that are open then. -/
def enter (bracket : Bracket) (outer : List Bracket) (cs : List Char) :
    List Bracket × Ahead × List Char :=
  match skipBlanks cs with
  | c :: rest =>
    if c = bracket.close then (outer, .separator, rest)
    else (bracket :: outer, bracket.part, c :: rest)
  | [] => (bracket :: outer, bracket.part, [])

/-- One step of passing over a value that stands inside open brackets. -/
def passStep (brackets : List Bracket) (ahead : Ahead) (cs : List Char) :
    Option (List Bracket × Ahead × List Char) :=
  match ahead, brackets, skipBlanks cs with
  | .value, outer, '[' :: rest => some (enter .array outer rest)
  | .value, outer, '{' :: rest => some (enter .object outer rest)
  | .value, outer, cs => (passScalar cs).map fun rest => (outer, .separator, rest)
  | .member, outer, '\"' :: rest => do
    match skipBlanks (← passString rest) with
    | ':' :: rest => some (outer, .value, rest)
    | _ => none
  | .separator, bracket :: outer, c :: rest =>
    if c = ',' then some (bracket :: outer, bracket.part, rest)
    else if c = bracket.close then some (outer, .separator, rest)
    else none
  | _, _, _ => none

/-- Passes over what is ahead until no bracket is open. The count bounds the number of steps; each
of them takes a character. -/
def passFrom : Nat → List Bracket → Ahead → List Char → Option (List Char)
  | _, [], .separator, cs => some cs
  | 0, _, _, _ => none
  | count + 1, brackets, ahead, cs =>
    match passStep brackets ahead cs with
    | none => none
    | some (brackets, ahead, rest) => passFrom count brackets ahead rest

/-- Passes over a value. -/
def passValue (cs : List Char) : Option (List Char) := passFrom cs.length [] .value cs

/-- What reads the value of a named part. -/
abbrev PartReader := List Char → Option (Json × List Char)

/-- Reads the value of a member, if it is asked for. -/
def readPart (parts : List (String × PartReader)) (key : String) (cs : List Char) :
    Option (Option (String × Json) × List Char) :=
  match parts.lookup key with
  | some part => do
    let (value, rest) ← part cs
    return (some (key, value), rest)
  | none => (passValue cs).map fun rest => (none, rest)

/-- Reads a member of an object, if it is asked for. -/
def readSelectedMember (parts : List (String × PartReader)) (cs : List Char) :
    Option (Option (String × Json) × List Char) :=
  match skipBlanks cs with
  | '\"' :: rest => do
    let (key, rest) ← readString rest
    match skipBlanks rest with
    | ':' :: rest => readPart parts (String.ofList key) rest
    | _ => none
  | _ => none

/-- Reads the items of an array behind one that has been read: each stands for a part. -/
def readFurtherItems : List PartReader → List Char → Option (List Json × List Char)
  | [], cs =>
    match skipBlanks cs with
    | ']' :: rest => some ([], rest)
    | _ => none
  | part :: parts, cs =>
    match skipBlanks cs with
    | ']' :: rest => some ([], rest)
    | ',' :: rest => do
      let (item, rest) ← part rest
      let (items, rest) ← readFurtherItems parts rest
      return (item :: items, rest)
    | _ => none

/-- Reads the items of an array whose opening bracket has been read. -/
def readItems : List PartReader → List Char → Option (List Json × List Char)
  | [], cs => readFurtherItems [] cs
  | part :: parts, cs =>
    match skipBlanks cs with
    | ']' :: rest => some ([], rest)
    | cs => do
      let (item, rest) ← part cs
      let (items, rest) ← readFurtherItems parts rest
      return (item :: items, rest)

/-- Reads named parts: of an object those members that are asked for, of an array the items in
the order of the parts, and no more of them. -/
def readSelected (parts : List (String × PartReader)) (cs : List Char) :
    Option (Json × List Char) :=
  match skipBlanks cs with
  | '{' :: rest => do
    let (members, rest) ← readBetween (readSelectedMember parts) '}' rest
    return (.object (members.filterMap id), rest)
  | '[' :: rest => do
    let (items, rest) ← readItems (parts.map Prod.snd) rest
    return (.array items, rest)
  | _ => none

end FilterSql.Json

import FilterSql.Character.Alphanumeric
import FilterSql.Settings.FileLines

/-!
# Files of variables

A file of variables has a line `KEY=value` for each variable, with blanks allowed around the
parts and the word `export` allowed in front. Blank lines and comments are passed over. A value
may hold parts in single quotes, which are taken as they are, parts in double quotes, escapes
behind a backslash, and the values of other variables behind a dollar sign; behind a blank only
a comment may follow. The first line that does not have this form, or is unfinished, ends the
file.
-/

set_option autoImplicit false

namespace FilterSql

/-- Variables with their values. -/
abbrev Variables := List (String × String)

namespace Variables

/-- Where the reader of a value stands. `name` collects the name of a variable. -/
inductive Phase
  | plain
  | escaped
  | single
  | ended
  | name (collected : List Char)
  | bracedName (collected : List Char)
deriving Repr, DecidableEq

/-- The reader of a value: whether it is inside double quotes, and where it stands. -/
structure Reader where
  double : Bool
  phase : Phase
deriving Repr, DecidableEq

/-- The value of a variable, or nothing. -/
def valueChars (known : Variables) (name : List Char) : List Char :=
  ((known.lookup (String.ofList name)).getD "").toList

/-- What the reader of a value does with a character: the characters it gives, and where it
stands then. A comment makes it stop, which is `some none`; `none` is a fault. -/
def Reader.step (known : Variables) (r : Reader) (c : Char) :
    Option (Option (List Char × Reader)) :=
  match r.phase with
  | .ended =>
    if c = ' ' || c = '\t' then some (some ([], r)) else if c = '#' then some none else none
  | .escaped =>
    if c = 'n' then some (some (['\n'], { r with phase := .plain }))
    else if ['\\', '\'', '\"', '$', ' '].contains c then
      some (some ([c], { r with phase := .plain }))
    else none
  | .single =>
    if c = '\'' then some (some ([], { r with phase := .plain })) else some (some ([c], r))
  | .name collected =>
    if Character.isAlphanumeric c then
      some (some ([], { r with phase := .name (collected ++ [c]) }))
    else if c = '{' && collected.isEmpty then some (some ([], { r with phase := .bracedName [] }))
    else if c = '$' then some (some (valueChars known collected, { r with phase := .name [] }))
    else some (some (valueChars known collected ++ [c], { r with phase := .plain }))
  | .bracedName collected =>
    if c = '}' then some (some (valueChars known collected, { r with phase := .plain }))
    else some (some ([], { r with phase := .bracedName (collected ++ [c]) }))
  | .plain =>
    if c = '$' then some (some ([], { r with phase := .name [] }))
    else if c = '\\' then some (some ([], { r with phase := .escaped }))
    else if c = '\"' then some (some ([], { r with double := !r.double }))
    else if r.double then some (some ([c], r))
    else if c = '\'' then some (some ([], { r with phase := .single }))
    else if c = ' ' || c = '\t' then some (some ([], { r with phase := .ended }))
    else some (some ([c], r))

/-- What a value ends with, unless a quote or a brace is open. -/
def Reader.finish (known : Variables) (r : Reader) : Option (List Char) :=
  match r.phase with
  | .bracedName _ | .single => none
  | .name collected => if r.double then none else some (valueChars known collected)
  | _ => if r.double then none else some []

/-- The value that characters spell. -/
def readValue (known : Variables) (r : Reader) : List Char → Option (List Char)
  | [] => r.finish known
  | c :: rest => do
    match ← r.step known c with
    | none => r.finish known
    | some (given, next) => return given ++ (← readValue known next rest)

/-- Whether a character may begin a key. -/
def isKeyStart (c : Char) : Bool := c.isAlpha || c = '_'

/-- Whether a character may stand in a key. -/
def isKeyPart (c : Char) : Bool := c.isAlphanum || c = '_' || c = '.'

/-- Reads a key and the white space behind it. -/
def readKey (cs : List Char) : Option (String × List Char) :=
  if cs.head?.any isKeyStart then
    some (String.ofList (cs.takeWhile isKeyPart), Character.skipWhite (cs.dropWhile isKeyPart))
  else none

/-- Reads an equals sign. -/
def readEquals : List Char → Option (List Char)
  | '=' :: rest => some rest
  | _ => none

/-- Reads the key of a variable up to the equals sign. The word `export` in front of a key is
passed over; before an equals sign it is a key itself. -/
def readAssigned (cs : List Char) : Option (String × List Char) := do
  let (key, rest) ← readKey cs
  match readEquals rest with
  | some rest => return (key, rest)
  | none =>
    if key = "export" then
      let (key, rest) ← readKey rest
      return (key, ← readEquals rest)
    else none

/-- Reads a line: a variable, nothing, or a fault. -/
def readLine (known : Variables) (line : List Char) : Option (Option (String × String)) :=
  let cs := Character.skipWhite (Character.trimEnd line)
  if cs.isEmpty || cs.head? = some '#' then some none
  else do
    let (key, rest) ← readAssigned cs
    let rest := Character.skipWhite rest
    if rest.isEmpty || rest.head? = some '#' then return some (key, "")
    else return some (key, String.ofList (← readValue known ⟨false, .plain⟩ rest))

/-- Adds the variables of lines. A variable that is set already keeps its value, but within
the lines the newest value is known. -/
def addLines (set seen : Variables) : List (Option (List Char)) → Variables
  | [] | none :: _ => set
  | some line :: rest =>
    match readLine (set ++ seen) line with
    | none => set
    | some none => addLines set seen rest
    | some (some (key, value)) =>
      addLines (if (set.lookup key).isSome then set else set ++ [(key, value)])
        ((key, value) :: seen) rest

/-- The variables with those of a file that are not set already. -/
def addFile (set : Variables) (text : String) : Variables := addLines set [] (fileLines text)

end Variables

end FilterSql

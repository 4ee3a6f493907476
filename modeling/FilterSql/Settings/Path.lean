import FilterSql.Settings.Reading

/-!
# Paths into settings

A path leads from the outermost object to a setting. It begins with a key; behind it come more
keys, each after a point, and positions in lists, each between brackets. A negative position
counts from the end of the list. A value is laid over what stands at the end of the path, and
whatever stands in the way becomes an object or a list as the path needs it. Keys are compared
without regard to case.
-/

set_option autoImplicit false

namespace FilterSql.Settings

/-- One step of a path: to the entry under a key, or to the item at a position. -/
inductive Step
  | key (name : String)
  | item (position : Int)
deriving Repr, DecidableEq

/-- Steps from an object or a list inwards. -/
abbrev Path := List Step

namespace Path

/-- Whether a character may stand in a key of a path. -/
def isKeyChar (c : Char) : Bool := c.isAlphanum || c = '_' || c = '-' || c = ' '

/-- Reads a key. -/
def readKey (cs : List Char) : Option (Step × List Char) :=
  match cs.takeWhile isKeyChar with
  | [] => none
  | name => some (.key (String.ofList name), cs.dropWhile isKeyChar)

/-- Skips spaces and tabs. -/
def skipBlanks (cs : List Char) : List Char := cs.dropWhile fun c => c = ' ' || c = '\t'

/-- The positions that a path may name. No list is made longer than that. -/
def positionLimit : Nat := 0x1000000

/-- Reads a position behind its opening bracket, and the closing bracket. -/
def readPosition (cs : List Char) : Option (Step × List Char) :=
  let (negative, cs) := match skipBlanks cs with
    | '-' :: rest => (true, rest)
    | rest => (false, rest)
  match cs.takeWhile Char.isDigit, skipBlanks (cs.dropWhile Char.isDigit) with
  | [], _ => none
  | digits, ']' :: rest =>
    let size := Nat.ofDigitChars 10 digits 0
    if size < positionLimit then some (.item (if negative then -size else size), rest) else none
  | _, _ => none

/-- Reads the step that a point or a bracket opens. -/
def readStep : List Char → Option (Step × List Char)
  | '.' :: rest => readKey rest
  | '[' :: rest => readPosition rest
  | _ => none

/-- Reads steps up to the end. The count bounds the number of steps; no text has more steps
than characters. -/
def readSteps : Nat → List Char → Option Path
  | _, [] => some []
  | 0, _ => none
  | count + 1, cs => do
    let (step, rest) ← readStep cs
    return step :: (← readSteps count rest)

/-- The path that a text is. -/
def read? (text : String) : Option Path := do
  let (first, rest) ← readKey text.toList
  return first :: (← readSteps rest.length rest)

/-- The path that a text names; a text that is no path is a key as a whole. -/
def ofText (text : String) : Path := (read? text).getD [.key text]

end Path

mutual

/-- A value laid over another one. An object is merged into an object; an object without
entries leaves in place what is there. -/
def overlay (base : Option Value) : Value → Value
  | .object entries =>
    match base, entries with
    | some (.object below), _ => .object (mergeInto below entries)
    | some other, [] => other
    | _, _ => .object (mergeInto [] entries)
  | v => v

/-- Entries merged into others, one after the other. -/
def mergeInto (below : List (String × Value)) : List (String × Value) → List (String × Value)
  | [] => below
  | (key, v) :: rest =>
    let name := lowercase key
    mergeInto (Members.set name (overlay (Members.get? name below) v) below) rest

end

/-- The entries that a new entry is set among: none if there is no object. -/
def entriesOf : Option Value → List (String × Value)
  | some (.object entries) => entries
  | _ => []

/-- The items that a new item is set among: none if there is no list. -/
def itemsOf : Option Value → List Value
  | some (.list items) => items
  | _ => []

/-- The index of a position in a list of a given length. Counting from the end stops at the
first item. -/
def indexOf (length : Nat) (position : Int) : Nat :=
  if 0 ≤ position then position.toNat else length - position.natAbs

/-- Items, with nulls added until there is one at the index. -/
def fillTo (items : List Value) (index : Nat) : List Value :=
  items ++ List.replicate (index + 1 - items.length) .null

/-- A value laid over what stands at the end of a path that begins at `base`. An item of a list is
replaced, and not merged. -/
def place (base : Option Value) : Path → Value → Value
  | [], v => overlay base v
  | .key key :: rest, v =>
    let entries := entriesOf base
    let name := lowercase key
    .object (Members.set name (place (Members.get? name entries) rest v) entries)
  | .item position :: rest, v =>
    let items := itemsOf base
    let index := indexOf items.length position
    let filled := fillTo items index
    .list (filled.set index (if rest.isEmpty then v else place filled[index]? rest v))

end FilterSql.Settings

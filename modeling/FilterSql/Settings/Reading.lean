import FilterSql.Decimal.Whole
import FilterSql.Json.Selection
import FilterSql.Settings.Basic

/-!
# Reading settings

Settings come as an object of two parts, each an object of its own; what is missing keeps
its default, and keys without a meaning are passed over. A list may stand for an object and
gives the first settings in their order.

A `Reading` says how strict this is. Settings from a single JSON text are read strictly: each
value has exactly its type, a key with a meaning stands once, and a list is no longer than
the object it stands for. Settings merged from several sources are read leniently, since a
variable of the environment is only text: truth values, numbers and strings turn into each other.
-/

set_option autoImplicit false

namespace FilterSql.Settings

/-- How single settings are read, and whether surplus and repetition are refused. -/
structure Reading where
  text : Value → Option String
  flag : Value → Option Bool
  count : Value → Option Nat
  name : List String → Value → Option String
  strict : Bool

/-- The small form of a letter where that is a letter of ASCII: of the large letters of ASCII and
of the Kelvin sign. -/
def smallLetter (c : Char) : Char := if c = '\u212A' then 'k' else c.toLower

/-- Text in which the letters are small whose small form is a letter of ASCII. All names and words
with a meaning are ASCII, so this decides whether a text agrees with one of them up to case. -/
def lowercase (text : String) : String := String.ofList (text.toList.map smallLetter)

/-- The name in a list that agrees with a text up to case. -/
def findName (names : List String) (text : String) : Option String :=
  names.find? fun name => lowercase name = lowercase text

/-- Each value has exactly its type. A name may also be given as the key of null. -/
def strictReading : Reading where
  text := Value.asString?
  flag
    | .bool b => some b
    | _ => none
  count
    | .signed n => if 0 ≤ n then some n.toNatClampNeg else none
    | .unsigned n => some n.toNat
    | _ => none
  name names
    | .string s | .object [(s, .null)] => names.find? (· = s)
    | _ => none
  strict := true

/-- The text of a truth value, a number or a string. -/
def lenientText : Value → Option String
  | .string s => some s
  | .bool b => some (if b then "true" else "false")
  | .signed n => some (String.ofList (Json.wholeChars n.toInt))
  | .unsigned n => some (Decimal.plainLayout.text n.toFloat)
  | .float x => some (Decimal.plainLayout.text x)
  | .null | .list _ | .object _ => none

/-- The truth value that a word stands for. -/
def wordFlag (word : String) : Option Bool :=
  match lowercase word with
  | "true" | "on" | "yes" => some true
  | "false" | "off" | "no" => some false
  | _ => none

/-- The truth value of a truth value, a number or a word. Every number but zero is true. -/
def lenientFlag : Value → Option Bool
  | .bool b => some b
  | .signed n => some (n ≠ 0)
  | .unsigned n => some (n ≠ 0)
  | .float x => some (x != 0)
  | .string "1" => some true
  | .string "0" => some false
  | .string s => wordFlag s
  | .null | .list _ | .object _ => none

/-- The number nearest to a floating point number, a half rounded away from zero, within the
range of unsigned words; an undefined number counts as zero. -/
def clampToWord (x : Float) : Nat := x.round.toUInt64.toNat

/-- The number of a number, a truth value or a text. -/
def lenientCount : Value → Option Nat
  | .bool b => some b.toNat
  | .signed n => if 0 ≤ n then some n.toNatClampNeg else none
  | .unsigned n => some (clampToWord n.toFloat)
  | .float x => some (clampToWord x)
  | .string s => ((wordFlag s).map Bool.toNat).or (Decimal.readUnsignedWord? s)
  | .null | .list _ | .object _ => none

/-- Values turn into the type that is asked for. Names are compared without regard to case,
and a name may also be given as the only key of an object. -/
def lenientReading : Reading where
  text := lenientText
  flag := lenientFlag
  count := lenientCount
  name names
    | .string s | .object [(s, _)] => findName names s
    | _ => none
  strict := false

/-- The settings that an object or a list gives for known names. -/
def Reading.fields (r : Reading) (names : List String) : Value → Option (List (String × Value))
  | .object entries =>
    let known := entries.filter fun entry => names.contains entry.1
    if r.strict && !(known.map Prod.fst).Nodup then none else some known
  | .list items => if r.strict && names.length < items.length then none else some (names.zip items)
  | _ => none

/-- Strings in a list. -/
def Reading.texts (r : Reading) : Value → Option (List String)
  | .list items => items.mapM r.text
  | _ => none

/-- Reads a part with named settings, one after the other. -/
def Reading.part (r : Reading) (names : List String)
    (field : Settings → String → Value → Option Settings) (s : Settings) (v : Value) :
    Option Settings := do
  (← r.fields names v).foldlM (fun s entry => field s entry.1 entry.2) s

/-- The names of the settings of the log. -/
def logNames : List String := ["level", "format"]

/-- The names of the settings of the compiler. -/
def compilerNames : List String :=
  ["top_level_columns", "json_column", "max_depth", "like_auto_wildcard", "metadata_in"]

/-- The names of the two parts. -/
def partNames : List String := ["logging", "compiler"]

/-- Reads a setting of the log. -/
def Reading.logField (r : Reading) (s : Settings) (key : String) (v : Value) : Option Settings :=
  match key with
  | "level" => do return { s with logLevel := ← r.text v }
  | "format" => do
    let name ← r.name ["pretty", "json"] v
    return { s with logFormat := if name = "json" then .json else .pretty }
  | _ => some s

/-- Reads a setting of the compiler. -/
def Reading.compilerField (r : Reading) (s : Settings) (key : String) (v : Value) :
    Option Settings :=
  match key with
  | "top_level_columns" => do return { s with columns := ← r.texts v }
  | "json_column" => do return { s with jsonColumn := ← r.text v }
  | "max_depth" => do return { s with maxDepth := ← r.count v }
  | "like_auto_wildcard" => do return { s with likeAutoWildcard := ← r.flag v }
  | "metadata_in" => do
    let name ← r.name ["placeholder_list", "json_array_elements"] v
    return { s with
      metadataIn := if name = "json_array_elements" then .jsonArrayElements else .placeholderList }
  | _ => some s

/-- Reads one of the two parts. -/
def Reading.partField (r : Reading) (s : Settings) (key : String) (v : Value) : Option Settings :=
  match key with
  | "logging" => r.part logNames r.logField s v
  | "compiler" => r.part compilerNames r.compilerField s v
  | _ => some s

/-- Reads all settings. -/
def Reading.settings (r : Reading) (v : Value) : Option Settings :=
  r.part partNames r.partField {} v

/-- The names with a reader for the value of each. -/
def readersFor (names : List String) (read : Json.PartReader) : List (String × Json.PartReader) :=
  names.map fun name => (name, read)

/-- Reads the named members of one of the two parts; each is nested in two objects already. -/
def readNamed (names : List String) : Json.PartReader :=
  Json.readSelected (readersFor names (Json.readValue (Json.nestingLimit - 2)))

/-- Reads a JSON text down to the settings, and passes over what is none. -/
def readDocument (cs : List Char) : Option (Json × List Char) :=
  Json.readSelected [("logging", readNamed logNames), ("compiler", readNamed compilerNames)] cs

/-- The settings that a JSON text gives. -/
def ofText? (text : String) : Option Settings := do
  let (document, rest) ← readDocument text.toList
  if (Json.skipBlanks rest).isEmpty then strictReading.settings (.ofJson document) else none

end FilterSql.Settings

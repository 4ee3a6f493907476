import FilterSql.Decimal.FloatText
import FilterSql.Settings.Path
import FilterSql.Settings.Variables

/-!
# Settings in layers

Settings are merged from two files and from the variables of the environment. A later layer
overrides an earlier one key by key: objects are merged, everything else is replaced. The keys
of the outermost object are paths. If a file is malformed, or the merged settings cannot be
read, the defaults stand in place of all of them.
-/

set_option autoImplicit false

namespace FilterSql.Settings

/-- Settings with the entries of another layer laid over them. The keys of the layer are paths. -/
def addLayer (below : Value) (layer : List (String × Value)) : Value :=
  layer.foldl (fun settings entry => place (some settings) (Path.ofText entry.1) entry.2) below

/-- The entries of a file: none if there is no file, a fault if it holds no object. -/
def fileLayer : Option String → Option (List (String × Value))
  | none => some []
  | some text =>
    match Json.ofText? (String.ofList (fileChars text)) with
    | some (.object members) => some (Value.ofMembers members)
    | _ => none

/-- The value of a variable: a truth value, a whole number, a floating point number, or text. -/
def variableValue (text : String) : Value :=
  match lowercase text with
  | "true" => .bool true
  | "false" => .bool false
  | _ =>
    match Decimal.readInt64? text with
    | some n => .signed n
    | none =>
      match Decimal.readFloat? text with
      | some x => .float x
      | none => .string text

/-- What the names of variables begin with that hold settings. -/
def variableMark : List Char := ['a', 'p', 'p', '_', '_']

/-- Characters in which each pair of underscores is a dot. -/
def dotted : List Char → List Char
  | '_' :: '_' :: rest => '.' :: dotted rest
  | c :: rest => c :: dotted rest
  | [] => []

/-- The path that a variable sets, if it holds a setting. -/
def variablePath? (name : String) : Option String :=
  (Target.dropPrefix? variableMark (lowercase name).toList).map fun rest =>
    String.ofList (dotted rest)

/-- The entries that the variables of the environment set. -/
def variableLayer (set : Variables) : List (String × Value) :=
  set.filterMap fun v => (variablePath? v.1).map fun path => (path, variableValue v.2)

/-- What settings are merged from: the texts of two files, and the variables of the environment. -/
structure Sources where
  defaultFile : Option String
  localFile : Option String
  environment : Variables

/-- The settings merged from all sources, if they can be read. -/
def Sources.settings? (sources : Sources) : Option Settings := do
  let layers := [← fileLayer sources.defaultFile, ← fileLayer sources.localFile,
    variableLayer sources.environment]
  lenientReading.settings (layers.foldl addLayer (.object []))

/-- The settings merged from all sources, or the defaults. -/
def Sources.settings (sources : Sources) : Settings := sources.settings?.getD {}

end FilterSql.Settings

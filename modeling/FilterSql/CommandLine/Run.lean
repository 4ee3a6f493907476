import FilterSql.CommandLine.Arguments
import FilterSql.Compile.Statement
import FilterSql.Settings.Layers

/-!
# Running a command

A command is run on its surroundings: the variables of the environment and the files it may
read. The settings come first and make the configuration, which the options override; only
then is the filter read, then the parameters, and then the filter is compiled.
-/

set_option autoImplicit false

namespace FilterSql.CommandLine

/-- What a command finds around it. -/
structure Surroundings where
  environment : Variables
  file? : String → Option String

/-- Why a command gives no answer. -/
inductive Failure
  | usage (error : UsageError)
  | refused (cause : CompileError)
  | unreadable (name : String)
  | malformedFilter
  | notFilter (cause : CompileError)
deriving DecidableEq

/-- The wording of a failure. -/
def Failure.message : Failure → String
  | .usage error => error.name
  | .refused cause => cause.message
  | .unreadable name => s!"Failed to read filter file: {name}"
  | .malformedFilter => "Failed to parse filter JSON"
  | .notFilter cause => s!"Failed to parse filter JSON: {cause.message}"

/-- The file of variables. -/
def variablesFile : String := ".env"

/-- The name of the first layer of settings. -/
def defaultLayer : String := "config/default"

/-- The name of the second layer of settings. -/
def localLayer : String := "config/local"

/-- The file of a layer. Only layers in JSON are read: a layer may also be written in another
format, such as `config/default.toml`, and such files are left out here. -/
def layerFile (layer : String) : String := layer ++ ".json"

/-- The text of a layer, if there is one. A file with just the name of the layer hides it, since
nothing tells in what format such a file is written. -/
def Surroundings.layer? (s : Surroundings) (layer : String) : Option String :=
  match s.file? layer with
  | some _ => none
  | none => s.file? (layerFile layer)

/-- The settings that the surroundings make. -/
def Surroundings.settings (s : Surroundings) : Settings :=
  Settings.Sources.settings {
    defaultFile := s.layer? defaultLayer
    localFile := s.layer? localLayer
    environment := (s.file? variablesFile).elim s.environment s.environment.addFile }

/-- A configuration with the overrides of the options. -/
def Chosen.override (c : Chosen) (config : Config) : Config :=
  let config := if c.columns.isEmpty then config else config.withColumns c.columns
  let config := c.jsonColumn.elim config config.withJsonColumn
  let config := c.maxDepth.elim config config.withMaxDepth
  let config := if c.likeWildcards then config.withLikeAutoWildcard true else config
  c.metadataIn.elim config config.withMetadataIn

/-- The compiler of the settings and the options. -/
def Chosen.compiler (c : Chosen) (s : Surroundings) : Except Failure Compiler :=
  (Compiler.ofConfig (c.override s.settings.toConfig)).mapError .refused

/-- The name of the file that the filter is to be read from, if it is not given itself. -/
def filterFile? (filter : String) : Option String :=
  match filter.toList with
  | '@' :: name => some (String.ofList name)
  | _ => none

/-- The text of the filter. -/
def filterText (s : Surroundings) (filter : String) : Except Failure String :=
  match filterFile? filter with
  | none => .ok filter
  | some name => (s.file? name).elim (.error (.unreadable name)) .ok

/-- The strings of an array that holds nothing else. -/
def stringItems? (items : List Json) : Option (List String) := items.mapM Json.asString?

/-- The parameter that a document gives: a scalar, an array of texts, or else the document. -/
def paramOfJson : Json → Param
  | .null => .null
  | .bool b => .bool b
  | .number n => ((Param.ofScalar? (.ofNumber n)).getD .null)
  | .string s => .text s
  | .array items => (stringItems? items).elim (.json (Json.array items).text) .textArray
  | .object members => .json (Json.object members).text

/-- The parameter that a word gives; a word that is no JSON is taken as text. -/
def paramOfWord (word : String) : Param := (Json.ofText? word).elim (.text word) paramOfJson

/-- Compiles a filter. -/
def compile (c : Chosen) (s : Surroundings) : Except Failure Json := do
  let compiler ← c.compiler s
  let text ← filterText s (c.filter.getD "")
  let f ← (Filter.ofText text).mapError fun
    | .malformed => .malformedFilter
    | .refused cause => .notFilter cause
  let given : ParamList := ⟨c.params.map paramOfWord⟩
  let statement ← (compiler.compile f given (c.mode.getD .condition)).mapError .refused
  return statement.toJson

/-- The document that shows what a field addresses. -/
def classification (config : Config) (field : String) : Except Failure Json :=
  match config.target? field with
  | none => .error (.refused (.invalidField field))
  | some t =>
    .ok (.object [("field", .string field), ("class", .string t.fieldClass.name),
      ("column", .string (t.columnName config.jsonColumn)), ("path", .array (t.path.map .string))])

/-- Classifies fields. -/
def classify (c : Chosen) (s : Surroundings) : Except Failure Json := do
  let compiler ← c.compiler s
  return .array (← c.fields.mapM (classification compiler.config))

/-- The answer to arguments: the indented text of a document, and a line feed. -/
def run (arguments : List String) (s : Surroundings) : Except Failure String := do
  let invocation ← (Invocation.ofArguments arguments).mapError .usage
  let document ← match invocation.command with
    | .compile => compile invocation.chosen s
    | .classify => classify invocation.chosen s
  return document.indentedText ++ "\n"

/-- The names of all files that a command may read. -/
def filesToRead (arguments : List String) : List String :=
  [variablesFile, defaultLayer, layerFile defaultLayer, localLayer, layerFile localLayer] ++
    match Invocation.ofArguments arguments with
    | .ok invocation => ((invocation.chosen.filter.bind filterFile?).toList)
    | .error _ => []

end FilterSql.CommandLine

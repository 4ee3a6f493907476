import FilterSql.Config
import FilterSql.Decimal.Whole

/-!
# Arguments of the command line

The program has two commands. `compile` takes its filter as an option, `classify` takes names
of fields as bare words, and both take the options that override the configuration. An option
takes its value from the same word behind an equals sign, or else from the next word, unless
that has the form of an option. Two hyphens alone end the options.

A value is judged as late as possible, namely when the next part is recognised or the words
end; a word that is no part at all is refused before that.
-/

set_option autoImplicit false

namespace FilterSql.CommandLine

/-- Why the program does not run: the arguments are at fault, or ask for information only. -/
inductive UsageError
  | missingRequiredArgument
  | unknownArgument
  | invalidValue
  | valueValidation
  | argumentConflict
  | tooManyValues
  | invalidSubcommand
  | missingSubcommand
  | noArguments
  | help
  | version
deriving Repr, DecidableEq

/-- The name of a fault or request. -/
def UsageError.name : UsageError → String
  | .missingRequiredArgument => "MissingRequiredArgument"
  | .unknownArgument => "UnknownArgument"
  | .invalidValue => "InvalidValue"
  | .valueValidation => "ValueValidation"
  | .argumentConflict => "ArgumentConflict"
  | .tooManyValues => "TooManyValues"
  | .invalidSubcommand => "InvalidSubcommand"
  | .missingSubcommand => "MissingSubcommand"
  | .noArguments => "DisplayHelpOnMissingArgumentOrSubcommand"
  | .help => "DisplayHelp"
  | .version => "DisplayVersion"

/-- The two commands. -/
inductive Command
  | compile
  | classify
deriving Repr, DecidableEq

/-- The command of a name. -/
def Command.ofName? (name : String) : Option Command :=
  match name with
  | "compile" => some .compile
  | "classify" => some .classify
  | _ => none

/-- The options that take a value. -/
inductive Setting
  | filter
  | mode
  | param
  | column
  | jsonColumn
  | maxDepth
  | metadataIn
deriving Repr, DecidableEq

/-- The options that take none. -/
inductive Switch
  | likeWildcards
  | verbose
  | help
  | version
deriving Repr, DecidableEq

/-- An option with a value that a command knows by a long name. -/
def Command.setting? (command : Command) (name : String) : Option Setting :=
  match command, name with
  | .compile, "filter" => some .filter
  | .compile, "mode" => some .mode
  | .compile, "param" => some .param
  | _, "column" => some .column
  | _, "json-column" => some .jsonColumn
  | _, "max-depth" => some .maxDepth
  | _, "metadata-in" => some .metadataIn
  | _, _ => none

/-- An option without a value that both commands know by a long name. -/
def Command.switch? (name : String) : Option Switch :=
  match name with
  | "like-wildcards" => some .likeWildcards
  | "verbose" => some .verbose
  | "help" => some .help
  | _ => none

/-- An option without a value that both commands know by a letter. -/
def Command.letter? (letter : Char) : Option Switch :=
  match letter with
  | 'v' => some .verbose
  | 'h' => some .help
  | _ => none

/-- What the words of a command have chosen so far. -/
structure Chosen where
  filter : Option String := none
  mode : Option Mode := none
  params : List String := []
  columns : List String := []
  jsonColumn : Option String := none
  maxDepth : Option Nat := none
  metadataIn : Option MetadataIn := none
  likeWildcards : Bool := false
  verbose : Bool := false
  fields : List String := []
deriving DecidableEq

/-- A value given once. -/
def once {α : Type} (old : Option α) (new : Option α) : Except UsageError (Option α) :=
  if old.isSome then .error .argumentConflict
  else new.elim (.error .valueValidation) (.ok ∘ some)

/-- Takes the value of an option. -/
def Chosen.put (c : Chosen) (setting : Setting) (value : String) : Except UsageError Chosen :=
  match setting with
  | .filter => do return { c with filter := ← once c.filter (some value) }
  | .mode => do return { c with mode := ← once c.mode (Mode.ofName value).toOption }
  | .param => .ok { c with params := c.params ++ [value] }
  | .column => .ok { c with columns := c.columns ++ [value] }
  | .jsonColumn => do return { c with jsonColumn := ← once c.jsonColumn (some value) }
  | .maxDepth => do
    return { c with maxDepth := ← once c.maxDepth (Decimal.readUnsignedWord? value) }
  | .metadataIn => do
    return { c with metadataIn := ← once c.metadataIn (MetadataIn.ofName value).toOption }

/-- Takes an option without a value. -/
def Chosen.flip (c : Chosen) (switch : Switch) : Except UsageError Chosen :=
  match switch with
  | .likeWildcards =>
    if c.likeWildcards then .error .argumentConflict else .ok { c with likeWildcards := true }
  | .verbose => if c.verbose then .error .argumentConflict else .ok { c with verbose := true }
  | .help => .error .help
  | .version => .error .version

/-- How far the words of a command have been read: what they have chosen, the option that
waits for its value or for being judged, and whether the options have ended. -/
structure Progress where
  chosen : Chosen := {}
  pending : Option (Setting × Option String) := none
  bare : Bool := false
deriving DecidableEq

/-- Judges the pending option. -/
def Progress.settle (p : Progress) : Except UsageError Progress :=
  match p.pending with
  | none => .ok p
  | some (_, none) => .error .invalidValue
  | some (setting, some value) => do
    return { p with chosen := ← p.chosen.put setting value, pending := none }

/-- The name and the value of a word that begins with two hyphens. -/
def longOption? (word : String) : Option (String × Option String) :=
  match word.toList with
  | '-' :: '-' :: body =>
    let value := match body.dropWhile (· ≠ '=') with
      | [] => none
      | _ :: value => some (String.ofList value)
    some (String.ofList (body.takeWhile (· ≠ '=')), value)
  | _ => none

/-- The letters of a word that begins with one hyphen. -/
def shortOptions? (word : String) : Option (List Char) :=
  match word.toList with
  | '-' :: c :: letters => some (c :: letters)
  | _ => none

/-- Takes a bare word. -/
def Progress.word (command : Command) (p : Progress) (word : String) : Except UsageError Progress :=
  match command with
  | .compile => .error .unknownArgument
  | .classify => do
    let p ← p.settle
    return { p with chosen := { p.chosen with fields := p.chosen.fields ++ [word] } }

/-- Takes an option without a value. -/
def Progress.flip (p : Progress) (switch : Switch) : Except UsageError Progress := do
  let p ← p.settle
  return { p with chosen := ← p.chosen.flip switch }

/-- Takes an option with a long name. -/
def Progress.long (command : Command) (p : Progress) (name : String) (value : Option String) :
    Except UsageError Progress :=
  match command.setting? name, Command.switch? name, value with
  | some setting, _, some value => do
    let p ← p.settle
    return { p with chosen := ← p.chosen.put setting value }
  | some setting, _, none => do
    let p ← p.settle
    return { p with pending := some (setting, none) }
  | none, some switch, none => p.flip switch
  | none, some _, some _ => .error .tooManyValues
  | none, none, _ => .error .unknownArgument

/-- Takes a letter of a word of letters. -/
def Progress.letter (p : Progress) (letter : Char) : Except UsageError Progress :=
  match Command.letter? letter with
  | some switch => p.flip switch
  | none => .error .unknownArgument

/-- Takes one word. -/
def Progress.step (command : Command) (p : Progress) (word : String) :
    Except UsageError Progress :=
  if p.bare then p.word command word
  else if word = "--" then .ok { p with bare := true }
  else
    match longOption? word, shortOptions? word, p.pending with
    | some (name, value), _, _ => p.long command name value
    | none, some letters, _ => letters.foldlM Progress.letter p
    | none, none, some (setting, none) => .ok { p with pending := some (setting, some word) }
    | none, none, _ => p.word command word

/-- Whether a command has what it needs. -/
def Command.isSatisfied (command : Command) (c : Chosen) : Bool :=
  match command with
  | .compile => c.filter.isSome
  | .classify => !c.fields.isEmpty

/-- What the words behind a command choose. -/
def Command.chosen (command : Command) (words : List String) : Except UsageError Chosen := do
  let p ← (← words.foldlM (Progress.step command) {}).settle
  if command.isSatisfied p.chosen then return p.chosen else .error .missingRequiredArgument

/-- What the words behind `help` ask for: the help of the program or of one command. -/
def helpTopic : List String → UsageError
  | [] => .help
  | [topic] => if ["compile", "classify", "help"].contains topic then .help else .invalidSubcommand
  | _ => .invalidSubcommand

/-- What the program is to do: a command and what its words choose. -/
structure Invocation where
  command : Command
  chosen : Chosen
deriving DecidableEq

/-- The fault of words that name no command. -/
def noCommand (verbose : Bool) : UsageError := if verbose then .missingSubcommand else .noArguments

/-- The fault of what stands behind two hyphens in front of any command. -/
def bareFault (verbose : Bool) : List String → UsageError
  | [] => noCommand verbose
  | word :: _ =>
    if ["compile", "classify", "help"].contains word then .unknownArgument else .invalidSubcommand

/-- The option without a value that the program knows by a long name in front of a command. -/
def rootSwitch? (name : String) : Option Switch :=
  match name with
  | "verbose" => some .verbose
  | "help" => some .help
  | "version" => some .version
  | _ => none

/-- The option without a value that the program knows by a letter in front of a command. -/
def rootLetter? (letter : Char) : Option Switch :=
  match letter with
  | 'v' => some .verbose
  | 'h' => some .help
  | 'V' => some .version
  | _ => none

/-- Takes an option in front of a command. -/
def rootFlip (verbose : Bool) : Option Switch → Except UsageError Bool
  | some .verbose => if verbose then .error .argumentConflict else .ok true
  | some .help => .error .help
  | some .version => .error .version
  | some .likeWildcards | none => .error .unknownArgument

/-- What the program is to do; the flag tells whether the log has been asked for. -/
def invocationFrom (verbose : Bool) : List String → Except UsageError Invocation
  | [] => .error (noCommand verbose)
  | "--" :: rest => .error (bareFault verbose rest)
  | "help" :: rest => .error (helpTopic rest)
  | word :: rest =>
    match Command.ofName? word, longOption? word, shortOptions? word with
    | some command, _, _ => do return ⟨command, ← command.chosen rest⟩
    | none, some (name, none), _ => do invocationFrom (← rootFlip verbose (rootSwitch? name)) rest
    | none, some (name, some _), _ =>
      .error (if (rootSwitch? name).isSome then .tooManyValues else .unknownArgument)
    | none, none, some letters => do
      invocationFrom (← letters.foldlM (fun v c => rootFlip v (rootLetter? c)) verbose) rest
    | none, none, none => .error .invalidSubcommand

/-- What the program is to do with its arguments. -/
def Invocation.ofArguments (arguments : List String) : Except UsageError Invocation :=
  invocationFrom false arguments

end FilterSql.CommandLine

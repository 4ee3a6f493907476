import FilterSql.CommandLine.Run

/-!
# The program

Reads the files and the environment, runs the command, and prints its answer.
-/

set_option autoImplicit false

namespace FilterSql.CommandLine

/-- The content of a file, if it can be read. -/
def readIfPresent (name : String) : IO (Option String) := do
  try
    return some (← IO.FS.readFile name)
  catch _ => return none

/-- Where the system shows the environment of the running program. -/
def environmentFile : String := "/proc/self/environ"

/-- The variables that a text of definitions names, each ended by a character zero. -/
def readDefinitions (text : String) : Variables :=
  (text.splitOn "\x00").filterMap fun definition =>
    match definition.splitOn "=" with
    | name :: first :: others => some (name, String.intercalate "=" (first :: others))
    | _ => none

/-- The variables of the environment. -/
def readEnvironment : IO Variables := do
  return readDefinitions ((← readIfPresent environmentFile).getD "")

/-- Runs the program and gives its exit code. -/
def program (arguments : List String) : IO UInt32 := do
  let files ← (filesToRead arguments).filterMapM fun name => do
    return (← readIfPresent name).map fun text => (name, text)
  match run arguments ⟨← readEnvironment, fun name => files.lookup name⟩ with
  | .ok answer =>
    IO.print answer
    return 0
  | .error (.usage error) =>
    IO.eprintln s!"error: {error.name}"
    return if error = .help || error = .version then 0 else 2
  | .error failure =>
    IO.eprintln s!"Error: {failure.message}"
    return 1

end FilterSql.CommandLine

/-- The entry of the program. -/
def main (arguments : List String) : IO UInt32 := FilterSql.CommandLine.program arguments

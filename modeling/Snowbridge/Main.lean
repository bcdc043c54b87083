import Snowbridge.CommandLine.Report

/-!
# The program

Reads the arguments, the environment and the files that a command may look at, runs the command and
prints its report.
-/

namespace Snowbridge

/-- The variables that a command may look at. -/
def variableNames : List String :=
  CommandLine.configVariable :: Connection.Field.all.map (·.environmentName)

/-- The variables that are set, with their values. -/
def readEnvironment : IO (List (String × String)) := do
  let found ← variableNames.mapM fun name => do
    return (← IO.getEnv name).map fun value => (name, value)
  return found.filterMap id

/-- What stands at a path, if anything does. -/
def readEntry (path : String) : IO (Option FileEntry) := do
  try
    return some (.file (← IO.FS.readFile path))
  catch e =>
    match e with
    | .noFileOrDirectory .. => return none
    | _ => return some .directory

/-- Adds what stands at a path. -/
def addEntry (files : FileTree) (path : String) : IO FileTree := do
  match ← readEntry path with
  | some entry => return files.insert path entry
  | none => return files

def run (args : List String) : IO UInt32 := do
  let environment ← readEnvironment
  let lookup := fun name => environment.lookup name
  match CommandLine.Invocation.read lookup args with
  | .error e =>
    if e.isFault then
      IO.eprintln e.message
      return 2
    IO.println e.message
    return 0
  | .ok invocation =>
    let empty : FileTree := .ofFiles (FileTree.names (toString (← IO.currentDir))) []
    let files ← invocation.configPaths.foldlM addEntry empty
    let files ← (invocation.keyPaths files lookup).foldlM addEntry files
    let report := invocation.report files lookup
    for notice in report.notices do
      IO.eprintln notice.line
    match report.result with
    | .ok text =>
      IO.print text
      return 0
    | .error e =>
      IO.eprintln e.message
      return 1

end Snowbridge

def main (args : List String) : IO UInt32 := Snowbridge.run args

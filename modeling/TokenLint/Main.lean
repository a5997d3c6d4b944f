import TokenLint.CommandLine.Run

/-!
# The program

Brings what a command may touch into a workspace, runs the command on it, and writes
the files that changed. Configuration documents are not parsed here: one that holds
anything is taken for malformed.
-/

namespace TokenLint.Program

/-- The environment variables that settings are taken from. -/
def readEnvironment : IO (List (String × String)) :=
  Setting.all.filterMapM fun setting => do
    let name := Workspace.variableName setting
    return (← IO.getEnv name).map fun text => (name, text)

/-- Brings the file or directory at some names into a tree, without what a directory holds. -/
def loadPlace (tree : Entry) (names : List String) : IO Entry := do
  let place := (← IO.currentDir) / (Path.absolute names).text
  if ← place.isDir then return tree.insertDirectory names
  else if ← place.pathExists then
    return tree.insert ⟨(← IO.FS.readBinFile place).toList, none⟩ names
  else return tree

/-- Brings the file or directory at some names into a tree, with all that lies below it outside of
ignored directories. -/
partial def loadBelow (tree : Entry) (names : List String) : IO Entry := do
  let mut tree ← loadPlace tree names
  let place := (← IO.currentDir) / (Path.absolute names).text
  if ← place.isDir then
    for found in ← place.readDir do
      let ignored := ignoredDirectories.contains found.fileName && (← found.path.isDir)
      unless ignored do
        tree ← loadBelow tree (names ++ [found.fileName])
  return tree

/-- Brings all that a path passes through into a tree, and all below the place it leads to. -/
def loadPath (current : List String) (tree : Entry) (path : Path) : IO Entry := do
  let mut tree := tree
  for length in [0:path.parts.length] do
    tree ← loadPlace tree ({ path with parts := path.parts.take length }.resolve current)
  loadBelow tree (path.resolve current)

/-- The paths that a command names: of files, of directories and of a ruleset. -/
def namedPaths : CommandLine.Command → List Path
  | .check arguments | .fix arguments => (arguments.paths ++ arguments.ruleset.toList).map .ofText
  | _ => []

/-- The workspace that a command runs on. -/
def loadWorkspace (arguments : List String) : IO Workspace := do
  let environment ← readEnvironment
  let current := (Path.ofText (← IO.currentDir).toString).parts
  let named := match CommandLine.Command.read arguments with
    | .ok command => namedPaths command
    | .error _ => []
  let ruleset := (environment.lookup (Workspace.variableName .ruleset)).toList.map Path.ofText
  let settings := [settingsFileName, projectFileName].flatMap fun name =>
    Workspace.candidatePaths name current.reverse
  let start := (Entry.directory []).insertDirectory current
  let tree ← (named ++ ruleset ++ settings).foldlM (loadPath current) start
  return { tree, current, environment }

/-- Writes the files that differ from what they held before. -/
def saveChanges (earlier later : Workspace) : IO Unit :=
  for (names, content) in later.changedSince earlier do
    IO.FS.writeBinFile (Path.absolute names).text ⟨content.bytes.toArray⟩

/-- Prints what a command has to say. -/
def report (outcome : CommandLine.Outcome) : IO Unit := do
  IO.print outcome.output
  for message in outcome.messages do IO.eprintln message
  if let some error := outcome.usage then IO.eprintln ("Error: " ++ error.message)
  if let some fault := outcome.fault then IO.eprintln (fault.label ++ ": " ++ fault.message)

end TokenLint.Program

/-- Runs a command; the exit code tells how it ended. -/
def main (arguments : List String) : IO UInt32 := do
  let workspace ← TokenLint.Program.loadWorkspace arguments
  let (after, outcome) := TokenLint.CommandLine.run workspace arguments
  TokenLint.Program.saveChanges workspace after
  TokenLint.Program.report outcome
  return outcome.exitCode.toUInt32

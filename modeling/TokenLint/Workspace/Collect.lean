import TokenLint.Workspace.Tree

/-!
# Collecting source files

The files that a list of paths stands for: a file stands for itself, and a directory
for the files below it that have one of the wanted suffixes and lie in no ignored
directory. No file is listed twice.
-/

namespace TokenLint

/-- Names of the directories that are not searched. -/
def ignoredDirectories : List String :=
  ["vendor", "node_modules", ".git", ".hg", ".svn", ".idea", ".vscode", "__pycache__", ".venv",
    "venv", ".cache", ".phpunit.cache", "var"]

/-- An extension in lower case and without the dots before it. -/
def normalizedExtension (extension : String) : String :=
  String.ofList ((Text.lower extension).toList.dropWhile fun char => char = '.')

/-- Whether the names of a file below a directory are those of a wanted source file. -/
def isWanted (extensions : List String) (parts : List String) : Bool :=
  match parts.reverse with
  | [] => false
  | name :: directories =>
    (extensions.map fun extension => "." ++ normalizedExtension extension).contains
        (Text.lower (fileSuffix name)) &&
      !directories.any ignoredDirectories.contains

/-- A path that leads to nothing. -/
structure MissingPath where
  path : Path
  deriving DecidableEq

/-- The wording of an error about a path. -/
def MissingPath.message (missing : MissingPath) : String :=
  "Path does not exist: " ++ missing.path.text

namespace Workspace

/-- The source files below a directory, in order of their names. -/
def filesBelow (extensions : List String) (path : Path) (directory : Entry) : List Path :=
  let found := (directory.files.map Prod.fst).filter (isWanted extensions)
  (found.mergeSort Path.partsBefore).map path.below

variable (workspace : Workspace)

/-- The files that one path stands for: a file for itself, wanted or not, and a directory for the
source files below it. -/
def filesFor (extensions : List String) (path : Path) : Except MissingPath (List Path) :=
  match workspace.entryAt path with
  | .ok (.file _) => .ok [path]
  | .ok directory => .ok (filesBelow extensions path directory)
  | .error _ => .error ⟨path⟩

/-- Paths without those that lead to a place met before. -/
def distinctFrom (seen : List (List String)) : List Path → List Path
  | [] => []
  | path :: rest =>
    let place := path.resolve workspace.current
    if seen.contains place then distinctFrom seen rest
    else path :: distinctFrom (place :: seen) rest

/-- The files that paths stand for, in order. -/
def collect (extensions : List String) (paths : List Path) : Except MissingPath (List Path) := do
  let found ← paths.mapM (workspace.filesFor extensions)
  return workspace.distinctFrom [] found.flatten

end Workspace

end TokenLint

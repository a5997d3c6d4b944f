import TokenLint.Text.Quoted
import TokenLint.Text.Utf8
import TokenLint.Value
import TokenLint.Workspace.Path

/-!
# The workspace

Files and directories as a tree, the directory that relative paths start from, and the
environment. A run reads and writes files only through a workspace.
-/

namespace TokenLint

/-- A file: its bytes, and for a configuration document also the value that it writes. -/
structure FileContent where
  bytes : List UInt8
  document : Option Value

namespace FileContent

/-- The content of a file that holds a text. -/
def ofText (text : String) : FileContent := ⟨Text.encode text, none⟩

end FileContent

/-- A file, or a directory with its entries by name. -/
inductive Entry where
  | file (content : FileContent)
  | directory (entries : List (String × Entry))
  deriving Inhabited

/-- Why a path leads to nothing that can be used as asked. -/
inductive AccessError where
  | notFound
  | notADirectory
  | isADirectory
  deriving DecidableEq

/-- The wording of an error about a path. -/
def AccessError.message (error : AccessError) (path : Path) : String :=
  let reason := match error with
    | notFound => "[Errno 2] No such file or directory: "
    | notADirectory => "[Errno 20] Not a directory: "
    | isADirectory => "[Errno 21] Is a directory: "
  reason ++ Text.quoted path.text

namespace Entry

/-- Follows names from the entry at the head of a trail, whose tail are the directories around it,
innermost first. -/
def follow (trail : List Entry) : List String → Except AccessError Entry
  | [] =>
    match trail with
    | entry :: _ => .ok entry
    | [] => .error .notFound
  | part :: rest =>
    match trail with
    | directory entries :: outer =>
      if part = ".." then follow (if outer.isEmpty then trail else outer) rest
      else
        match entries.lookup part with
        | some entry => follow (entry :: trail) rest
        | none => .error .notFound
    | file _ :: _ => .error .notADirectory
    | [] => .error .notFound

mutual

/-- The files at or below an entry, each with the names that lead to it. -/
def files : Entry → List (List String × FileContent)
  | file content => [([], content)]
  | directory entries => filesIn entries

/-- The files below the entries of a directory. -/
def filesIn : List (String × Entry) → List (List String × FileContent)
  | [] => []
  | (name, entry) :: rest =>
    entry.files.map (fun found => (name :: found.1, found.2)) ++ filesIn rest

end

/-- Puts a file at some names below an entry, with the directories on the way. -/
def insert (content : FileContent) : List String → Entry → Entry
  | [], _ => file content
  | part :: rest, entry =>
    let entries := match entry with
      | directory entries => entries
      | file _ => []
    let inner := insert content rest ((entries.lookup part).getD (directory []))
    directory
      (if (entries.lookup part).isSome then
        entries.map fun named => if named.1 = part then (part, inner) else named
      else entries ++ [(part, inner)])

/-- Makes a directory at some names below an entry, with the directories on the way. -/
def insertDirectory : List String → Entry → Entry
  | [], entry => entry
  | part :: rest, entry =>
    let entries := match entry with
      | directory entries => entries
      | file _ => []
    let inner := insertDirectory rest ((entries.lookup part).getD (directory []))
    directory
      (if (entries.lookup part).isSome then
        entries.map fun named => if named.1 = part then (part, inner) else named
      else entries ++ [(part, inner)])

end Entry

/-- Everything outside the program that a run depends on. -/
structure Workspace where
  tree : Entry
  /-- The names below the root of the directory that relative paths start from. -/
  current : List String
  environment : List (String × String)

/-- Why a file cannot be read as text. -/
inductive ReadError where
  | access (error : AccessError) (path : Path)
  | undecodable (error : Text.DecodeError)
  | nullInPath
  deriving DecidableEq

namespace ReadError

/-- The class of a failure to read. -/
def label : ReadError → String
  | access .notFound _ => "FileNotFoundError"
  | access .notADirectory _ => "NotADirectoryError"
  | access .isADirectory _ => "IsADirectoryError"
  | undecodable _ => "UnicodeDecodeError"
  | nullInPath => "ValueError"

/-- The wording of a failure to read. -/
def message : ReadError → String
  | access error path => error.message path
  | undecodable error => error.message
  | nullInPath => "embedded null byte"

end ReadError

namespace Workspace

variable (workspace : Workspace)

/-- What a path leads to from the current directory, name by name. -/
def entryAt (path : Path) : Except AccessError Entry :=
  Entry.follow [workspace.tree]
    (if path.isAbsolute then path.parts else workspace.current ++ path.parts)

/-- Whether a path leads to a file. -/
def isFile (path : Path) : Bool :=
  match workspace.entryAt path with
  | .ok (.file _) => true
  | _ => false

/-- The content of the file that a path leads to. A path with a null character is none of any file.
-/
def openFile (path : Path) : Except ReadError FileContent :=
  if path.parts.any fun part => part.toList.contains '\x00' then .error .nullInPath
  else
    match workspace.entryAt path with
    | .ok (.file content) => .ok content
    | .ok (.directory _) => .error (.access .isADirectory path)
    | .error error => .error (.access error path)

/-- The text of the file that a path leads to. -/
def readText (path : Path) : Except ReadError String := do
  let content ← workspace.openFile path
  match Text.decode content.bytes with
  | .ok text => return text
  | .error error => throw (.undecodable error)

/-- The workspace after a text is written to a file. -/
def writeText (path : Path) (text : String) : Workspace :=
  { workspace with
    tree := workspace.tree.insert (.ofText text) (path.resolve workspace.current) }

/-- The files whose bytes an earlier workspace does not hold at the same place. -/
def changedSince (earlier : Workspace) : List (List String × FileContent) :=
  let older := earlier.tree.files
  workspace.tree.files.filter fun found =>
    (older.lookup found.1).map FileContent.bytes != some found.2.bytes

end Workspace

end TokenLint

import TokenLint.Config.Load
import TokenLint.Rule.Registry
import TokenLint.Run.FixLoop

/-!
# Runs over many files

Files are linted one by one, each on its own, and their results are listed in the
order of the files. A fixed file is written back where that is asked for.
-/

namespace TokenLint

/-- Why a run cannot start. -/
inductive SetupError where
  | workers (number : Int)
  | unknownRules (unknown : UnknownRules)
  | maxIterations (number : Int)
  deriving DecidableEq

namespace SetupError

/-- The class of a refusal. -/
def label : SetupError → String
  | unknownRules _ => "UnknownRuleError"
  | _ => "ValueError"

/-- The wording of a refusal. -/
def message : SetupError → String
  | workers number => "workers must be >= 1, got " ++ toString number
  | unknownRules unknown => unknown.message
  | maxIterations number => "max_iterations must be >= 1, got " ++ toString number

end SetupError

/-- Settings with a number of fixing passes that must be at least one. -/
def LintSettings.make (rules : List Rule) (options : Value) (fix : Bool) (maxIterations : Int) :
    Except SetupError LintSettings :=
  if maxIterations < 1 then .error (.maxIterations maxIterations)
  else .ok ⟨rules, options, fix, maxIterations.toNat⟩

/-- What is asked of a run over many files. -/
structure BatchRequest where
  rules : List String
  exclude : List String
  fix : Bool
  /-- Whether fixed files are written back. -/
  write : Bool
  maxIterations : Int
  workers : Int
  options : Value

/-- The request that a configuration makes. -/
def Config.request (config : Config) (write : Bool) : BatchRequest :=
  ⟨config.rules, config.exclude, config.fix, write, config.maxIterations, config.workers,
    config.optionsValue⟩

/-- A run over many files that can start. -/
structure Batch where
  settings : LintSettings
  write : Bool
  /-- How many files may be worked on at a time. -/
  workers : Nat
  cancelled : Bool

/-- The run that a request asks for. The number of workers is checked first, then the names of the
rules, then the number of passes. -/
def BatchRequest.start (request : BatchRequest) (registry : Registry) : Except SetupError Batch :=
  if request.workers < 1 then .error (.workers request.workers)
  else
    match registry.resolve request.rules request.exclude with
    | .error unknown => .error (.unknownRules unknown)
    | .ok rules => do
      let settings ← LintSettings.make rules request.options request.fix request.maxIterations
      return ⟨settings, request.write, request.workers.toNat, false⟩

/-- Why a file has no result. -/
inductive FileFault where
  | run (fault : RunFault)
  | read (error : ReadError)
  deriving DecidableEq

namespace FileFault

/-- The class of a fault. -/
def label : FileFault → String
  | run fault => fault.label
  | read error => error.label

/-- The wording of a fault. -/
def message : FileFault → String
  | run fault => fault.message
  | read error => error.message

end FileFault

/-- The result of a file that could not be read or worked on. -/
def FileResult.unusable (path message : String) : FileResult :=
  .failure path "" Diagnostic.fileErrorCode message .start

/-- The results of a run, in the order of the files. -/
structure BatchResult where
  results : List FileResult

namespace Batch

variable (batch : Batch)

/-- Whether the source of a finished file is to be written back. -/
def writesBack (result : FileResult) : Bool :=
  batch.write && result.state = .done && result.changed

/-- Lints one file, and writes it back where that is asked for and its source has changed. A file
that cannot be read has a result that says so; only a path that no file can have is a fault. -/
def lintFile (workspace : Workspace) (path : Path) : Workspace × Except FileFault FileResult :=
  if batch.cancelled then (workspace, .ok (.unread path.text .cancelled))
  else
    match workspace.readText path with
    | .error .nullInPath => (workspace, .error (.read .nullInPath))
    | .error error =>
      (workspace, .ok (.unusable path.text ("Cannot read file: " ++ error.message)))
    | .ok source =>
      match batch.settings.lint path.text source with
      | .error fault => (workspace, .error (.run fault))
      | .ok run =>
        (if batch.writesBack run.result then workspace.writeText path run.result.fixedSource
          else workspace, .ok run.result)

/-- Lints files one after the other; the first fault ends the run. -/
def lintInTurn (workspace : Workspace) : List Path → Workspace × Except FileFault (List FileResult)
  | [] => (workspace, .ok [])
  | path :: rest =>
    match batch.lintFile workspace path with
    | (workspace, .error fault) => (workspace, .error fault)
    | (workspace, .ok result) =>
      let (workspace, results) := lintInTurn workspace rest
      (workspace, results.map (result :: ·))

/-- Lints one file of a run that outlives faults: a fault becomes the result of its file. -/
def lintApart (workspace : Workspace) (path : Path) : Workspace × FileResult :=
  match batch.lintFile workspace path with
  | (workspace, .ok result) => (workspace, result)
  | (workspace, .error fault) =>
    (workspace, .unusable path.text ("Processing failed: " ++ fault.message))

/-- Lints files in the order in which their places in the list of paths are given, and keeps each
result with its place. -/
def finishFiles (workspace : Workspace) (paths : List Path) :
    List Nat → Workspace × List (Nat × FileResult)
  | [] => (workspace, [])
  | place :: rest =>
    match paths[place]? with
    | none => finishFiles workspace paths rest
    | some path =>
      let (workspace, result) := batch.lintApart workspace path
      let (workspace, finished) := finishFiles workspace paths rest
      (workspace, (place, result) :: finished)

/-- Whether files are worked on at the same time. -/
def isParallel (paths : List Path) : Bool := 1 < batch.workers && 1 < paths.length

/-- Lints files. Where they are worked on at the same time they are finished in some order, and the
results are listed in the order of the paths all the same. -/
def runInOrder (order : List Nat) (workspace : Workspace) (paths : List Path) :
    Workspace × Except FileFault BatchResult :=
  if batch.isParallel paths then
    let (workspace, finished) := batch.finishFiles workspace paths order
    (workspace, .ok ⟨(List.range paths.length).filterMap fun place => finished.lookup place⟩)
  else
    let (workspace, results) := batch.lintInTurn workspace paths
    (workspace, results.map BatchResult.mk)

/-- Lints files, each finished before the next one begins. -/
def run (workspace : Workspace) (paths : List Path) : Workspace × Except FileFault BatchResult :=
  batch.runInOrder (List.range paths.length) workspace paths

end Batch

/-- A problem with the file that it was found in. -/
structure BatchRecord where
  file : String
  diagnostic : Diagnostic
  deriving DecidableEq

namespace BatchResult

variable (result : BatchResult)

/-- How many files were not cancelled. -/
def filesChecked : Nat := result.results.countP fun file => file.state ≠ .cancelled

/-- How many errors are left in all files. -/
def errorCount : Nat := (result.results.flatMap FileResult.errors).length

/-- How many warnings are left in all files. -/
def warningCount : Nat := (result.results.flatMap FileResult.warnings).length

/-- How many problems were fixed in all files. -/
def fixedCount : Nat := (result.results.flatMap FileResult.fixed).length

/-- Whether an error is left. -/
def failed : Bool := 0 < result.errorCount

/-- The word for the outcome. -/
def status : String := if result.failed then "fail" else "pass"

/-- The exit code: one if errors are left. -/
def exitCode : Nat := if result.failed then 1 else 0

/-- The results whose fixed source differs from what was read. -/
def changedFiles : List FileResult := result.results.filter FileResult.changed

/-- The problems that are left, file by file. -/
def records : List BatchRecord :=
  result.results.flatMap fun file => file.diagnostics.map fun diagnostic => ⟨file.path, diagnostic⟩

end BatchResult

end TokenLint

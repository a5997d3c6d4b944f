import TokenLint.CommandLine.Arguments
import TokenLint.CommandLine.Report

/-!
# Running a command

From arguments and a workspace to what is printed, the exit code, and the workspace
afterwards. Wrong arguments, configurations and paths exit with two, errors that are
left in files with one.
-/

namespace TokenLint.CommandLine

/-- A fault that no part of the program deals with. -/
inductive CommandFault where
  | load (fault : LoadFault)
  | file (fault : FileFault)
  deriving DecidableEq

namespace CommandFault

/-- The class of a fault. -/
def label : CommandFault → String
  | load fault => fault.label
  | file fault => fault.label

/-- The wording of a fault. -/
def message : CommandFault → String
  | load fault => fault.message
  | file fault => fault.message

end CommandFault

/-- How a command ended: its exit code, what it printed, its messages on the error stream, and the
usage error or fault that ended it early. -/
structure Outcome where
  exitCode : Nat
  output : String
  messages : List String
  usage : Option UsageError
  fault : Option CommandFault

namespace Outcome

/-- The end of a command that did what was asked. -/
def success (exitCode : Nat) (output : String) (messages : List String) : Outcome :=
  ⟨exitCode, output, messages, none, none⟩

/-- The end of a command that cannot do what is asked. -/
def refusal (messages : List String) (reason : String) : Outcome :=
  ⟨2, "", messages ++ ["Error: " ++ Output.plainOutput reason], none, none⟩

/-- The end of a command whose arguments are not understood. -/
def misuse (error : UsageError) : Outcome := ⟨2, "", [], some error, none⟩

/-- An outcome without output, cut short by a fault. -/
def crash (messages : List String) (fault : CommandFault) : Outcome :=
  ⟨1, "", messages, none, some fault⟩

end Outcome

/-- The name and version of the program. -/
def versionText : String := "sniffkit version 0.1.0"

/-- The rule identifiers in option values, each of which may hold several with commas between them.
Without any value there is no choice of rules. -/
def splitRuleIds (values : List String) : Option (List String) :=
  if values.isEmpty then none else some (values.flatMap Workspace.splitNames)

/-- A setting given on the command line; null where it is not given, so that it overrides nothing.
-/
def override {α : Type} (setting : Setting) (encode : α → Value) (value : Option α) :
    String × Value :=
  (setting.key, (value.map encode).getD .null)

/-- The settings that arguments make. Only whether to fix is always said. -/
def LintArguments.settings (arguments : LintArguments) (fix : Bool) : Table :=
  let names (ids : List String) : Value := .list (ids.map .text)
  [override .rules names (splitRuleIds arguments.rules),
    override .exclude names (splitRuleIds arguments.exclude),
    override .ruleset (fun text => .text (Path.ofText text).text) arguments.ruleset,
    override .workers (fun number : Nat => .int number) arguments.workers,
    override .maxIterations (fun number : Nat => .int number) arguments.maxIterations,
    override .fix .bool (some fix)]

/-- Whether a text names a file. One that ends with a slash, or with a dot after it, can only name a
directory. -/
def namesFile (workspace : Workspace) (text : String) : Bool :=
  let last := (Path.splitSlashes text.toList).getLast?.getD []
  last ≠ [] && last ≠ ['.'] && workspace.isFile (.ofText text)

/-- Whether the ruleset of the arguments, if there is one, is a file. -/
def LintArguments.hasUsableRuleset (arguments : LintArguments) (workspace : Workspace) : Bool :=
  arguments.ruleset.all (namesFile workspace)

/-- Lints the files that paths stand for with a configuration. -/
def lintPaths (workspace : Workspace) (config : Config) (paths : List Path) (write : Bool)
    (report : BatchResult → String) : Workspace × Outcome :=
  match workspace.collect config.extensions paths with
  | .error missing => (workspace, .refusal [] missing.message)
  | .ok files =>
    let messages := if files.isEmpty then ["Warning: No source files found."] else []
    match (config.request write).start .builtin with
    | .error error => (workspace, .refusal messages error.message)
    | .ok batch =>
      match batch.run workspace files with
      | (workspace, .error fault) => (workspace, .crash messages (.file fault))
      | (workspace, .ok result) =>
        (workspace, .success result.exitCode (report result) messages)

/-- Loads the configuration and lints the files. A ruleset that is no file is a misuse of the
command, and an invalid configuration is refused. -/
def runLint (workspace : Workspace) (arguments : LintArguments) (fix write : Bool)
    (report : BatchResult → String) : Workspace × Outcome :=
  if arguments.hasUsableRuleset workspace then
    match workspace.loadConfig (.absolute workspace.current) (arguments.settings fix) with
    | .error (.config error) =>
      (workspace, .refusal [] ("Invalid configuration: " ++ error.message))
    | .error fault => (workspace, .crash [] (.load fault))
    | .ok config => lintPaths workspace config (arguments.paths.map .ofText) write report
  else (workspace, .misuse (.notAFile .ruleset (arguments.ruleset.getD "")))

/-- Runs a command that has been read. -/
def runCommand (workspace : Workspace) : Command → Workspace × Outcome
  | .version => (workspace, .success 0 (versionText ++ "\n") [])
  | .help => (workspace, .success 0 "" [])
  | .rules json quiet =>
    (workspace, .success 0 (rulesReport json quiet Registry.builtin.sortedRules) [])
  | .check arguments =>
    runLint workspace arguments false false (checkReport arguments.json arguments.quiet)
  | .fix arguments =>
    runLint workspace arguments true (!arguments.dryRun)
      (fixReport arguments.json arguments.dryRun arguments.quiet)

/-- Runs a command line; one that cannot be read is a misuse. -/
def run (workspace : Workspace) (arguments : List String) : Workspace × Outcome :=
  match Command.read arguments with
  | .error error => (workspace, .misuse error)
  | .ok command => runCommand workspace command

end TokenLint.CommandLine

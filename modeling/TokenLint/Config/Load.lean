import TokenLint.Config.Merge
import TokenLint.Number.Numeral
import TokenLint.Workspace.Tree

/-!
# Loading the configuration

Settings come from the project file, the settings file, the environment and the
command line, each taking precedence over those before it. The two files are looked
for in a directory and then in the directories around it.
-/

namespace TokenLint

/-- What makes a configuration unusable. -/
inductive ConfigError where
  | unreadable (path : Path)
  | rulesetUnreadable (path : Path) (error : AccessError)
  | rulesetMalformed (path : Path)
  | ruleset (source : String) (error : RulesetError)
  | notABoolean (name text : String)
  | notAnInteger (name text : String)
  | setting (error : SettingError)
  deriving DecidableEq

/-- The wording of an unusable configuration. -/
def ConfigError.message : ConfigError → String
  | unreadable path => "Cannot read " ++ path.text
  | rulesetUnreadable path error =>
    "Cannot read ruleset " ++ path.text ++ ": " ++ error.message path
  | rulesetMalformed path => "Failed to parse ruleset " ++ path.text
  | ruleset source error => error.message source
  | notABoolean name text => name ++ " must be a boolean, got " ++ Text.quoted text
  | notAnInteger name text => name ++ " must be an integer, got " ++ Text.quoted text
  | setting error => error.message

/-- Why no configuration could be loaded: it is unusable, a value in it has a type that was not
reckoned with, or a file holds no text. -/
inductive LoadFault where
  | config (error : ConfigError)
  | reading (error : ReadingError)
  | notAPath (typeName : String)
  | read (error : ReadError)
  deriving DecidableEq

namespace LoadFault

/-- The class of a fault. -/
def label : LoadFault → String
  | config _ => "ConfigurationError"
  | reading error => error.label
  | notAPath _ => "TypeError"
  | read error => error.label

/-- The wording of a fault. -/
def message : LoadFault → String
  | config error => error.message
  | reading error => error.message
  | notAPath typeName => "expected str, bytes or os.PathLike object, not " ++ typeName
  | read error => error.message

/-- What could be read, or the fault that something could not. -/
def ofReading {α : Type} : Except ReadingError α → Except LoadFault α
  | .ok result => .ok result
  | .error error => .error (.reading error)

end LoadFault

/-- The name of the file that holds settings and nothing else. -/
def settingsFileName : String := ".sniffkitrc"

/-- Name of the project file, which holds settings in a section of its own. -/
def projectFileName : String := "pyproject.toml"

/-- Whether a document holds nothing but blank lines and comments. -/
def isBlankDocument (text : String) : Bool :=
  (text.splitOn "\n").all fun line =>
    match line.toList.dropWhile fun char => char = ' ' || char = '\t' || char = '\r' with
    | [] => true
    | char :: _ => char = '#'

namespace Workspace

variable (workspace : Workspace)

/-- The paths of a file of some name in the directory whose names are given, last first, and in the
directories around it. -/
def candidatePaths (name : String) : List String → List Path
  | [] => [.absolute [name]]
  | last :: outer => .absolute ((name :: last :: outer).reverse) :: candidatePaths name outer

/-- The nearest file of some name in a directory or one of those around it. -/
def findUpward? (name : String) (directory : List String) : Option Path :=
  (candidatePaths name directory.reverse).find? workspace.isFile

/-- The document in a file: its value, or nothing if the document is empty. -/
def readDocument (path : Path) (decode : List UInt8 → Except Text.DecodeError String)
    (malformed : ConfigError) (unreadable : AccessError → ConfigError) :
    Except LoadFault (Option Value) :=
  match workspace.openFile path with
  | .error (.access error _) => .error (.config (unreadable error))
  | .error error => .error (.read error)
  | .ok content =>
    match content.document with
    | some value => .ok (some value)
    | none =>
      match decode content.bytes with
      | .error error => .error (.read (.undecodable error))
      | .ok text => if isBlankDocument text then .ok none else .error (.config malformed)

/-- The entries of a settings file; a document that is no table counts as an empty one. -/
def readSettingsFile (path : Path) : Except LoadFault Table := do
  let document ← workspace.readDocument path Text.decode (.unreadable path)
    fun _ => .unreadable path
  return (document.bind Value.entries?).getD []

/-- The settings in the nearest project file at a directory or above it: those of this program,
which stand two tables deep. Unknown keys are dropped. -/
def projectSettings (directory : List String) : Except LoadFault Table :=
  match workspace.findUpward? projectFileName directory with
  | none => .ok []
  | some path => do
    let table ← workspace.readSettingsFile path
    let tools ← LoadFault.ofReading (((table.get? "tool").getD (.table [])).entriesFor "get")
    let own ← LoadFault.ofReading (((tools.get? "sniffkit").getD (.table [])).entriesFor "items")
    return Config.knownSettings own

/-- The settings in the nearest settings file at a directory or above it. Unknown keys are dropped.
-/
def fileSettings (directory : List String) : Except LoadFault Table :=
  match workspace.findUpward? settingsFileName directory with
  | none => .ok []
  | some path => return Config.knownSettings (← workspace.readSettingsFile path)

/-- The environment variable that holds a setting. -/
def variableName (setting : Setting) : String :=
  "SNIFFKIT_" ++ setting.key.map Char.toUpper

/-- The text that the environment holds for a setting. -/
def environmentText? (setting : Setting) : Option String :=
  workspace.environment.lookup (variableName setting)

/-- The names in a list with commas, without blanks around them; empty ones are dropped. -/
def splitNames (text : String) : List String :=
  ((text.splitOn ",").map Text.trim).filter fun name => !name.isEmpty

/-- The truth value that a text writes. -/
def readBoolean? (text : String) : Option Bool :=
  let word := Text.lower (Text.trim text)
  if ["1", "true", "yes", "on"].contains word then some true
  else if ["0", "false", "no", "off", ""].contains word then some false
  else none

/-- A list of names from the environment. -/
def namesVariable (setting : Setting) : Table :=
  match workspace.environmentText? setting with
  | some text => [(setting.key, .list ((splitNames text).map .text))]
  | none => []

/-- A setting that the environment gives as a decimal number. -/
def integerVariable (setting : Setting) : Except ConfigError Table :=
  match workspace.environmentText? setting with
  | none => .ok []
  | some text =>
    match readInteger 10 text with
    | .ok number => .ok [(setting.key, .int number)]
    | .error _ => .error (.notAnInteger (variableName setting) text)

/-- A truth value from the environment. -/
def booleanVariable (setting : Setting) : Except ConfigError Table :=
  match workspace.environmentText? setting with
  | none => .ok []
  | some text =>
    match readBoolean? text with
    | some flag => .ok [(setting.key, .bool flag)]
    | none => .error (.notABoolean (variableName setting) text)

/-- A text from the environment; an empty one counts as absent. -/
def textVariable (setting : Setting) : Table :=
  match workspace.environmentText? setting with
  | some text => if text.isEmpty then [] else [(setting.key, .text text)]
  | none => []

/-- The settings that the environment gives. A variable that cannot be read is an error. -/
def environmentSettings : Except ConfigError Table := do
  let maxIterations ← workspace.integerVariable .maxIterations
  let workers ← workspace.integerVariable .workers
  let fix ← workspace.booleanVariable .fix
  return [Setting.rules, .exclude, .extensions].flatMap workspace.namesVariable ++ maxIterations ++
    workers ++ fix ++ workspace.textVariable .ruleset

/-- Reads a ruleset file; an empty document or null is an empty ruleset. -/
def readRuleset (path : Path) : Except LoadFault Ruleset := do
  let document ← workspace.readDocument path Text.decodeStreamed (.rulesetMalformed path)
    (.rulesetUnreadable path)
  match document.getD .null with
  | .null => return .empty
  | value =>
    match Ruleset.ofValue value with
    | .ok ruleset => return ruleset
    | .error (.invalid error) => throw (.config (.ruleset path.text error))
    | .error (.reading error) => throw (.reading error)

/-- Settings with the ruleset that they name below them. A relative path of the ruleset starts from
the given directory. -/
def seedRuleset (directory : Path) (settings : Table) : Except LoadFault Table :=
  match (settings.get? Setting.ruleset.key).filter Value.isTrue with
  | none => .ok settings
  | some (.text name) => do
    let ruleset ← workspace.readRuleset (directory.join (.ofText name))
    LoadFault.ofReading (ruleset.seed settings)
  | some value => .error (.notAPath value.typeName)

/-- The configuration for a directory, where the command line sets some settings itself. -/
def loadConfig (directory : Path) (overrides : Table) : Except LoadFault Config := do
  let place := directory.resolve workspace.current
  let project ← workspace.projectSettings place
  let file ← workspace.fileSettings place
  let environment ← match workspace.environmentSettings with
    | .ok settings => pure settings
    | .error error => throw (.config error)
  let merged ← LoadFault.ofReading
    (Table.overlaySources [project, file, environment, Config.knownSettings overrides])
  let seeded ← workspace.seedRuleset directory merged
  match Config.ofTable seeded with
  | .ok config => return config
  | .error error => throw (.config (.setting error))

end Workspace

end TokenLint

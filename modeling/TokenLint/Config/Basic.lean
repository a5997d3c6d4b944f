import TokenLint.Value.Reading
import TokenLint.Workspace.Collect

/-!
# Configuration

What a run can be told, with the values that hold where nothing is told. A
configuration is made from a table of settings, and only from one whose settings all
have the right shape.
-/

namespace TokenLint

/-- The settings of a configuration. -/
inductive Setting where
  | rules
  | exclude
  | fix
  | maxIterations
  | workers
  | extensions
  | ruleset
  | ruleOptions
  deriving DecidableEq, Repr

namespace Setting

/-- All settings. -/
def all : List Setting :=
  [rules, exclude, fix, maxIterations, workers, extensions, ruleset, ruleOptions]

/-- The key of a setting in a document. -/
def key : Setting → String
  | rules => "rules"
  | exclude => "exclude"
  | fix => "fix"
  | maxIterations => "max_iterations"
  | workers => "workers"
  | extensions => "extensions"
  | ruleset => "ruleset"
  | ruleOptions => "rule_options"

/-- Whether a key is that of a setting. -/
def isKey (key : String) : Bool := all.any fun setting => setting.key == key

end Setting

/-- What is wrong with the value of a setting. -/
inductive SettingError where
  | notNames (setting : Setting)
  | notAFlag (setting : Setting)
  | notPositive (setting : Setting)
  | noExtensions
  | notAName (setting : Setting)
  | notTables (setting : Setting)
  deriving DecidableEq

/-- The wording of a wrong setting. -/
def SettingError.message : SettingError → String
  | notNames setting => setting.key ++ " must be a list of non-empty strings"
  | notAFlag setting => setting.key ++ " must be a boolean"
  | notPositive setting => setting.key ++ " must be an integer >= 1"
  | noExtensions => "extensions must not be empty"
  | notAName setting => setting.key ++ " must be a non-empty string"
  | notTables setting => setting.key ++ " must map rule ids to tables"

/-- A configuration. -/
structure Config where
  /-- Identifiers of the rules to use; with none given, all. -/
  rules : List String
  /-- Identifiers of the rules not to use. -/
  exclude : List String
  fix : Bool
  /-- How many fixing passes a file may take, at least one. -/
  maxIterations : Nat
  /-- How many files are worked on at a time, at least one. -/
  workers : Nat
  /-- Extensions of the files that are looked for in directories. -/
  extensions : List String
  ruleset : Option String
  ruleOptions : List (String × Table)
  deriving Inhabited

namespace Config

/-- The configuration where nothing is told. -/
def standard : Config := ⟨[], [], false, 50, 4, ["php"], none, []⟩

/-- The names in a list of non-empty texts. -/
def names? (value : Value) : Option (List String) :=
  value.texts?.filter fun names => names.all fun name => !name.isEmpty

/-- Reads a list of names, or a standard one where the setting is absent. -/
def readNames (table : Table) (setting : Setting) (standard : List String) :
    Except SettingError (List String) :=
  match table.get? setting.key with
  | none => .ok standard
  | some value =>
    match names? value with
    | some names => .ok names
    | none => .error (.notNames setting)

/-- A setting that is true or false. -/
def readFlag (table : Table) (setting : Setting) (standard : Bool) : Except SettingError Bool :=
  match table.get? setting.key with
  | none => .ok standard
  | some (.bool flag) => .ok flag
  | some _ => .error (.notAFlag setting)

/-- Reads a number that must be at least one, or a standard one where the setting is absent. -/
def readPositive (table : Table) (setting : Setting) (standard : Nat) : Except SettingError Nat :=
  match table.get? setting.key with
  | none => .ok standard
  | some (.int number) => if 1 ≤ number then .ok number.toNat else .error (.notPositive setting)
  | some _ => .error (.notPositive setting)

/-- Reads a name. Absent and null settings name nothing, an empty name is refused. -/
def readName (table : Table) (setting : Setting) : Except SettingError (Option String) :=
  match table.get? setting.key with
  | none | some .null => .ok none
  | some (.text name) => if name.isEmpty then .error (.notAName setting) else .ok (some name)
  | some _ => .error (.notAName setting)

/-- Reads tables by name; an absent setting holds none. -/
def readTables (table : Table) (setting : Setting) :
    Except SettingError (List (String × Table)) :=
  match table.get? setting.key with
  | none => .ok []
  | some (.table entries) =>
    match entries.mapM fun entry => entry.2.entries?.map fun options => (entry.1, options) with
    | some tables => .ok tables
    | none => .error (.notTables setting)
  | some _ => .error (.notTables setting)

/-- The configuration that a table of settings makes. The first wrong setting, in this order, is the
one that is reported. -/
def ofTable (table : Table) : Except SettingError Config := do
  let rules ← readNames table .rules []
  let exclude ← readNames table .exclude []
  let extensions ← readNames table .extensions ["php"]
  let fix ← readFlag table .fix false
  let maxIterations ← readPositive table .maxIterations 50
  let workers ← readPositive table .workers 4
  if extensions.isEmpty then throw .noExtensions
  let ruleset ← readName table .ruleset
  let ruleOptions ← readTables table .ruleOptions
  return { rules, exclude, fix, maxIterations, workers, extensions, ruleset, ruleOptions }

/-- The first key of a table that is none of a setting. -/
def unknownKey? (table : Table) : Option String :=
  (table.map Prod.fst).find? fun key => !Setting.isKey key

/-- The settings of a table, without its other entries. -/
def knownSettings (table : Table) : Table := table.filter fun entry => Setting.isKey entry.1

variable (config : Config)

/-- The extensions in the form in which they are compared. -/
def normalizedExtensions : List String := config.extensions.map normalizedExtension

/-- The options of all rules, as a document holds them. -/
def optionsValue : Value := .table (config.ruleOptions.map fun entry => (entry.1, .table entry.2))

end Config

end TokenLint

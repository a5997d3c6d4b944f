import TokenLint.Proofs.Config.Overlaying

/-!
# Which source decides a setting

A setting has the value of the first source that gives it: the command line, the environment, the
settings file, the project file. The options of rules are decided one by one in this order, and a
ruleset stands below all sources, but for its exclusions, which are added to those of the sources.
Each step of loading a configuration is told by what is found in the table that it makes, and the
whole follows by composing the steps.
-/

namespace TokenLint

/-! ### Rulesets -/

namespace Ruleset

variable {ruleset : Ruleset} {settings seeded : Table}

/-- The value that a ruleset holds for an option of a rule. -/
def option? (ruleset : Ruleset) (id name : String) : Option Value :=
  (ruleset.options.lookup id).bind fun options => Table.get? options name

end Ruleset

/-! ### The configuration -/

namespace Config

variable {table : Table} {config : Config} {setting : Setting}

/-- The value of a setting in a configuration. -/
def valueOf (config : Config) : Setting → Value
  | .rules => .list (config.rules.map .text)
  | .exclude => .list (config.exclude.map .text)
  | .fix => .bool config.fix
  | .maxIterations => .int config.maxIterations
  | .workers => .int config.workers
  | .extensions => .list (config.extensions.map .text)
  | .ruleset => (config.ruleset.map Value.text).getD .null
  | .ruleOptions => config.optionsValue

/-- The value of an option of a rule in a configuration. -/
def option? (config : Config) (id name : String) : Option Value :=
  (config.ruleOptions.lookup id).bind fun options => Table.get? options name

/-- Whether a configuration follows from what the sources give first and from a ruleset below them,
if there is one. Of a ruleset only its rules and its options give way; what it excludes is added. -/
structure Follows (config : Config) (first? : Setting → Option Value)
    (firstOption? : String → String → Option Value) (ruleset? : Option Ruleset) : Prop where
  setting : ∀ setting, setting ≠ .rules → setting ≠ .exclude → setting ≠ .ruleOptions →
    config.valueOf setting = (first? setting).getD (standard.valueOf setting)
  rules : config.valueOf .rules = (first? .rules).getD
    (.list (((ruleset?.map Ruleset.rules).getD standard.rules).map .text))
  option : ∀ id name, config.option? id name =
    (firstOption? id name).or (ruleset?.bind fun ruleset => ruleset.option? id name)
  exclude : ∃ ids : List String, (first? .exclude).getD (.list []) = .list (ids.map .text) ∧
    match ruleset? with
    | none => config.exclude = ids
    | some ruleset => config.exclude.Pairwise (· < ·) ∧
        ∀ id, id ∈ config.exclude ↔ id ∈ ids ∨ id ∈ ruleset.exclude

section Follows

variable {first? : Setting → Option Value} {firstOption? : String → String → Option Value}

end Follows

end Config

namespace Workspace

variable {workspace : Workspace} {directory : Path} {overrides project file : Table}

/-- The value of an option of a rule in the first source that gives it. The environment gives
none. -/
def firstOption? (overrides file project : Table) (id name : String) : Option Value :=
  (overrides.option? id name).or <| (file.option? id name).or (project.option? id name)

end Workspace

end TokenLint

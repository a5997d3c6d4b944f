import TokenLint.Config.Load
import TokenLint.Proofs.Config.Merging

/-!
# How loading a configuration fails

A configuration that is loaded passes its validation. Where none can be loaded the cause is told as
an error of the configuration, but for the ways listed by `Workspace.Strays`: a file that is no
text, a section of the project file that is no table, options laid over a value that cannot be read
as a table, a ruleset that is not named by a text or whose rules are no sequence, and exclusions
that cannot be collected and put in order.
-/

namespace TokenLint

namespace Config

variable {table : Table} {setting : Setting}

end Config

section Escapes

variable {α β : Type}

end Escapes

namespace Workspace

variable (workspace : Workspace)

/-- Whether a file is there whose text cannot be read: it holds no document, and bytes that cannot
be decoded, or its name has a null character. -/
def HoldsNoText (path : Path) (decode : List UInt8 → Except Text.DecodeError String) : Prop :=
  workspace.openFile path = .error .nullInPath ∨
    ∃ content error, workspace.openFile path = .ok content ∧ content.document = none ∧
      decode content.bytes = .error error

/-- Whether a file is there that holds a document. -/
def HoldsDocument (path : Path) (value : Value) : Prop :=
  ∃ content, workspace.openFile path = .ok content ∧ content.document = some value

variable {workspace}

section Documents

variable {path : Path} {decode : List UInt8 → Except Text.DecodeError String}
  {malformed : ConfigError} {unreadable : AccessError → ConfigError}

/-- Whether a project file cannot be used: it is no text, or the section of the tools or the one of
the program is no table. -/
inductive SpoilsProject (workspace : Workspace) (path : Path) : Prop where
  | text (unread : workspace.HoldsNoText path Text.decode)
  | tools {table : Table} {value : Value} (held : workspace.HoldsDocument path (.table table))
      (present : table.get? "tool" = some value) (shape : value.entries? = none)
  | own {table tools : Table} {value : Value} (held : workspace.HoldsDocument path (.table table))
      (present : table.get? "tool" = some (.table tools))
      (ownPresent : tools.get? "sniffkit" = some value) (shape : value.entries? = none)

end Documents

end Workspace

namespace Ruleset

variable {ruleset : Ruleset} {settings : Table}

end Ruleset

namespace Workspace

variable {workspace : Workspace}

/-- Whether a ruleset cannot be used for another cause than an error of its own: it is no text, or
its rules are no sequence. -/
inductive SpoilsRuleset (workspace : Workspace) (path : Path) : Prop where
  | text (unread : workspace.HoldsNoText path Text.decodeStreamed)
  | rules {entries : Table} {value : Value} (held : workspace.HoldsDocument path (.table entries))
      (present : entries.get? "rules" = some value) (isTrue : value.isTrue = true)
      (shape : value.sequence? = none)

/-- The settings of all sources laid over each other. -/
def mergedSettings (workspace : Workspace) (directory : Path) (overrides : Table) :
    Except LoadFault Table := do
  let place := directory.resolve workspace.current
  let project ← workspace.projectSettings place
  let file ← workspace.fileSettings place
  let environment ← workspace.environmentSettings.mapError LoadFault.config
  LoadFault.ofReading
    (Table.overlaySources [project, file, environment, Config.knownSettings overrides])

variable {directory : Path} {overrides : Table}

/-- The ways in which no configuration is loaded and the cause is told as no error of the
configuration. -/
inductive Strays (workspace : Workspace) (directory : Path) (overrides : Table) : Prop where
  | project {path : Path}
      (found : workspace.findUpward? projectFileName (directory.resolve workspace.current) =
        some path)
      (spoiled : workspace.SpoilsProject path)
  | file {project : Table} {path : Path}
      (projectRead : workspace.projectSettings (directory.resolve workspace.current) = .ok project)
      (found : workspace.findUpward? settingsFileName (directory.resolve workspace.current) =
        some path)
      (unread : workspace.HoldsNoText path Text.decode)
  | options {project file environment : Table}
      (projectRead : workspace.projectSettings (directory.resolve workspace.current) = .ok project)
      (fileRead : workspace.fileSettings (directory.resolve workspace.current) = .ok file)
      (environmentRead : workspace.environmentSettings = .ok environment)
      (mixes : Table.MixesOptions
        [project, file, environment, Config.knownSettings overrides].flatten)
  | rulesetName {merged : Table} {value : Value}
      (made : workspace.mergedSettings directory overrides = .ok merged)
      (present : merged.get? Setting.ruleset.key = some value) (isTrue : value.isTrue = true)
      (shape : value.text? = none)
  | ruleset {merged : Table} {name : String}
      (made : workspace.mergedSettings directory overrides = .ok merged)
      (present : merged.get? Setting.ruleset.key = some (.text name)) (nonempty : name ≠ "")
      (spoiled : workspace.SpoilsRuleset (directory.join (.ofText name)))
  | exclude {merged : Table} {name : String} {ruleset : Ruleset} {value : Value}
      (made : workspace.mergedSettings directory overrides = .ok merged)
      (present : merged.get? Setting.ruleset.key = some (.text name)) (nonempty : name ≠ "")
      (rulesetRead : workspace.readRuleset (directory.join (.ofText name)) = .ok ruleset)
      (excluded : merged.get? Setting.exclude.key = some value)
      (shape : value.sequence? = none ∨
        ∃ items, value.sequence? = some items ∧ Unsortable ruleset.exclude items)

end Workspace

end TokenLint

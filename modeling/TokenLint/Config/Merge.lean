import TokenLint.Config.Basic
import TokenLint.Config.Ruleset
import TokenLint.Text.Distinct

/-!
# Merging settings

Settings from several sources, the later ones taking precedence. A setting that a
source leaves null is not set by it, and the options of rules are merged rule by rule
and name by name. A ruleset stands below all sources, except that what it excludes is
added to what they exclude.
-/

namespace TokenLint

namespace Table

/-- The options of one rule laid over earlier ones, if both are tables. -/
def overlayOptions (made : Table) (id : String) (options : Value) : Table :=
  match (made.get? id).getD (.table []), options with
  | .table older, .table newer => made.set id (.table (merge older newer))
  | _, _ => made.set id options

/-- The options of some rules laid over earlier ones. -/
def overlayAll (older newer : Table) : Table :=
  newer.foldl (fun made entry => made.overlayOptions entry.1 entry.2) older

/-- One setting laid over earlier ones. -/
def overlaySetting (made : Table) (key : String) (value : Value) : Except ReadingError Table :=
  match value with
  | .null => .ok made
  | .table newer =>
    if key = Setting.ruleOptions.key then do
      let older ← ((made.get? key).getD (.table [])).asTable
      return made.set key (.table (overlayAll older newer))
    else .ok (made.set key value)
  | _ => .ok (made.set key value)

/-- The settings of one source laid over earlier ones. -/
def overlay (made source : Table) : Except ReadingError Table :=
  source.foldlM (fun made entry => made.overlaySetting entry.1 entry.2) made

/-- The settings of several sources, the first one lowest. -/
def overlaySources (sources : List Table) : Except ReadingError Table := sources.foldlM overlay []

end Table

/-- The kinds of value that can be compared with each other. -/
inductive ComparisonClass where
  | number
  | text
  | null
  | collection
  deriving DecidableEq

/-- The class of a value in comparisons: only values of one class have an order. -/
def Value.comparisonClass : Value → ComparisonClass
  | bool _ | int _ | float _ => .number
  | text _ => .text
  | null => .null
  | list _ | table _ => .collection

/-- The first of some hashable values that cannot be compared with the one before it. Nulls are all
the same one. -/
def firstUnordered? : List Value → Option ReadingError
  | left :: right :: rest =>
    if left.comparisonClass = right.comparisonClass then firstUnordered? (right :: rest)
    else some (.notOrdered right.typeName left.typeName)
  | _ => none

/-- Texts in increasing order without repetition. Other values are kept as they are, if they can be
ordered at all. -/
def unionOf (ids : List String) (values : List Value) : Except ReadingError Value :=
  match values.find? fun value => !value.isHashable with
  | some value => .error (.unhashable value.typeName)
  | none =>
    match values.mapM Value.text? with
    | some texts => .ok (.list ((sortedDistinct (ids ++ texts)).map Value.text))
    | none =>
      let all := ids.map Value.text ++ values
      match firstUnordered? all with
      | some error => .error error
      | none => .ok (.list all)

namespace Ruleset

variable (ruleset : Ruleset)

/-- A ruleset as settings, which those of the other sources are laid over. -/
def settings : Table := [
  (Setting.rules.key, .list (ruleset.rules.map .text)),
  (Setting.exclude.key, .list (ruleset.exclude.map .text)),
  (Setting.ruleOptions.key, .table (ruleset.options.map fun entry => (entry.1, .table entry.2)))]

/-- Settings laid over those of a ruleset. What the ruleset excludes stays excluded besides. -/
def seed (settings : Table) : Except ReadingError Table := do
  let made ← ruleset.settings.overlay settings
  let excluded ← ((settings.get? Setting.exclude.key).getD (.list [])).sequence
  return made.set Setting.exclude.key (← unionOf ruleset.exclude excluded)

end Ruleset

end TokenLint

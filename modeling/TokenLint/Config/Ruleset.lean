import TokenLint.Value.Reading

/-!
# Rulesets

A document that names rules, some with options, and rules to leave out.
-/

namespace TokenLint

/-- The rules that a ruleset file chooses and leaves out, with options for them. -/
structure Ruleset where
  rules : List String
  exclude : List String
  /-- Options by rule identifier. -/
  options : List (String × Table)
  deriving Inhabited

/-- Why a document is no ruleset. -/
inductive RulesetError where
  | notAMapping
  | optionsNotMapping (id : String)
  | invalidEntry (shown : String)
  | invalidExclude
  deriving DecidableEq

/-- The wording of an error in the ruleset that comes from some source. -/
def RulesetError.message (error : RulesetError) (source : String) : String :=
  source ++ ": " ++ match error with
    | notAMapping => "ruleset must be a mapping"
    | optionsNotMapping id => "options of " ++ Text.quoted id ++ " must be a mapping"
    | invalidEntry shown => "invalid rule entry " ++ shown
    | invalidExclude => "exclude must be a list of rule ids"

/-- Why a document yields no ruleset: it is wrong, or its list of rules is no list at all. -/
inductive RulesetFault where
  | invalid (error : RulesetError)
  | reading (error : ReadingError)
  deriving DecidableEq

namespace Ruleset

/-- The ruleset that says nothing. -/
def empty : Ruleset := ⟨[], [], []⟩

variable (ruleset : Ruleset)

/-- A ruleset with one more rule, behind the others. -/
def addRule (id : String) : Ruleset := { ruleset with rules := ruleset.rules ++ [id] }

/-- Sets the options of a rule; empty ones leave earlier ones in place. -/
def setOptions (id : String) (options : Table) : Ruleset :=
  if options.isEmpty then ruleset
  else if (ruleset.options.lookup id).isSome then
    { ruleset with
      options := ruleset.options.map fun entry => if entry.1 = id then (id, options) else entry }
  else { ruleset with options := ruleset.options ++ [(id, options)] }

/-- Adds one entry of the list of rules: an identifier, or a table from one to its options. -/
def addEntry (entry : Value) : Except RulesetError Ruleset :=
  match entry with
  | .text id => .ok (ruleset.addRule id)
  | .table [(id, options)] =>
    match options with
    | .null => .ok (ruleset.addRule id)
    | .table own => .ok ((ruleset.addRule id).setOptions id own)
    | _ => .error (.optionsNotMapping id)
  | other => .error (.invalidEntry other.display)

/-- The items under a key. What counts as false, such as null, stands for an empty list. -/
def itemsUnder (document : Table) (key : String) : Value :=
  ((document.get? key).filter Value.isTrue).getD (.list [])

/-- Reads a ruleset from a document, the rules before what is excluded. -/
def ofValue (document : Value) : Except RulesetFault Ruleset :=
  match document with
  | .table entries => do
    let items ← match (itemsUnder entries "rules").sequence with
      | .ok items => pure items
      | .error error => throw (.reading error)
    match items.foldlM addEntry empty, itemsUnder entries "exclude" with
    | .error error, _ => throw (.invalid error)
    | .ok made, exclude =>
      match exclude.texts? with
      | some ids => return { made with exclude := ids }
      | none => throw (.invalid .invalidExclude)
  | _ => .error (.invalid .notAMapping)

end Ruleset

end TokenLint

import TokenLint.Rule.Builtin
import TokenLint.Text.Distinct

/-!
# The rule registry

Rules by identifier, and the choice of the rules that a run uses.
-/

namespace TokenLint

/-- Why a rule cannot be registered. -/
inductive RegistrationError where
  | missingId (name : String)
  | duplicateId (id name : String)
  deriving DecidableEq

/-- The wording of a refused registration. -/
def RegistrationError.message : RegistrationError → String
  | missingId name => "Rule class " ++ name ++ " has no rule_id defined"
  | duplicateId id name => "Rule '" ++ id ++ "' already registered: " ++ name

/-- Identifiers that no rule has, in order and without repetition. -/
structure UnknownRules where
  ids : List String
  deriving DecidableEq

/-- The wording of a choice that names unknown rules. -/
def UnknownRules.message (unknown : UnknownRules) : String :=
  "Unknown rule(s): " ++ ", ".intercalate unknown.ids

/-- The registered rules, in order of registration. -/
structure Registry where
  rules : List Rule

namespace Registry

/-- The registry without rules. -/
def empty : Registry := ⟨[]⟩

variable (registry : Registry)

/-- The rule with an identifier. -/
def get? (id : String) : Option Rule := registry.rules.find? fun rule => rule.id == id

/-- Whether a rule with an identifier is registered. -/
def has (id : String) : Bool := (registry.get? id).isSome

/-- Adds a rule, whose identifier must be new and not empty. -/
def register (rule : Rule) : Except RegistrationError Registry :=
  if rule.id.isEmpty then .error (.missingId rule.name)
  else
    match registry.get? rule.id with
    | some present => .error (.duplicateId rule.id present.name)
    | none => .ok ⟨registry.rules ++ [rule]⟩

/-- The rules in order of their identifiers. -/
def sortedRules : List Rule := registry.rules.mergeSort fun left right => left.id ≤ right.id

/-- The identifiers in order. -/
def ids : List String := registry.sortedRules.map Rule.id

/-- The identifiers that no rule has, sorted and each once. -/
def unknownAmong (ids : List String) : List String :=
  sortedDistinct (ids.filter fun id => !registry.has id)

/-- The rules that a run uses, in order of their identifiers: the requested ones, or all if none is
requested, without the excluded ones. -/
def resolve (requested excluded : List String) : Except UnknownRules (List Rule) :=
  match registry.unknownAmong (requested ++ excluded) with
  | [] =>
    .ok (registry.sortedRules.filter fun rule =>
      (requested.isEmpty || requested.contains rule.id) && !excluded.contains rule.id)
  | unknown => .error ⟨unknown⟩

/-- The registry of the built-in rules. -/
def builtin : Registry := ⟨Rule.builtin⟩

end Registry

end TokenLint

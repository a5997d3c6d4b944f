import TokenLint.Rule.Basic
import TokenLint.Navigation.Search

/-!
# Variables of a foreach

The array, the key and the value of a `foreach` are to be different variables.
-/

namespace TokenLint

/-- The variable names of a `foreach`. -/
structure ForeachNames where
  array : String
  key : Option String
  value : String
  deriving DecidableEq

namespace TokenStream

variable (stream : TokenStream)

/-- The variable names of the `foreach` at an index. -/
def foreachNames? (index : Nat) : Option ForeachNames := do
  let pair ← (stream.token? index).bind Token.parenthesis
  let middle ← stream.nextOf? .kwAs pair.opener pair.closer
  let array ← stream.previousOf? .variable pair.opener middle
  let first ← stream.nextOf? .variable (middle + 1) pair.closer
  match stream.nextOf? .doubleArrow (first + 1) pair.closer with
  | none => return ⟨stream.contentAt array, none, stream.contentAt first⟩
  | some _ =>
    let value ← stream.nextOf? .variable (first + 1) pair.closer
    return ⟨stream.contentAt array, some (stream.contentAt first), stream.contentAt value⟩

end TokenStream

namespace Rule

/-- A report that two expressions of a `foreach` name one variable. -/
def sharedVariable (index : Nat) (shortCode name first second : String) : Report :=
  errorAt index shortCode
    ("The \"%s\" variable is already defined in \"" ++ first ++ "\" and \"" ++ second ++ "\".")
    [.text name]

/-- The reports about the names of a `foreach` at an index. -/
def foreachReports (index : Nat) (names : ForeachNames) : List Report :=
  if names.key = some names.value ∧ names.value = names.array then
    [errorAt index "AllIdentical"
      ("The \"%s\" variable is defined in \"array_expression\", \"key_expression\" " ++
        "and \"value_expression\".") [.text names.array]]
  else
    (if names.key = some names.array then
      [sharedVariable index "ArrayAsKey" names.array "array_expression" "key_expression"]
    else []) ++
    (if names.array = names.value then
      [sharedVariable index "ArrayAsValue" names.array "array_expression" "value_expression"]
    else []) ++
    (if names.key = some names.value then
      [sharedVariable index "KeyAsValue" names.value "key_expression" "value_expression"]
    else [])

/-- Reports a `foreach` that uses a variable twice. -/
def foreachVariable : Rule where
  id := "foreach_array_is_used_as_key_or_value"
  name := "ForeachArrayIsUsedAsKeyOrValue"
  category := "probable_bugs"
  description := "Foreach array variable reused as key or value."
  interest := [.kwForeach]
  process stream index _ :=
    match stream.foreachNames? index with
    | none => .done none
    | some names => reportAll (foreachReports index names)

end Rule

end TokenLint

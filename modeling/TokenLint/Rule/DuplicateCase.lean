import TokenLint.Rule.Basic
import TokenLint.Text.Blank

/-!
# Repeated cases

The second of two equal `case` expressions in one `switch` is never reached.
-/

namespace TokenLint

/-- The expression of a `case`, with the token of the keyword. -/
structure CaseLabel where
  token : Token
  expression : String
  deriving DecidableEq

namespace TokenStream

variable (stream : TokenStream)

/-- The `case` labels directly in a block whose tokens have the given level. -/
def caseLabels (opener closer level : Nat) : List CaseLabel :=
  (stream.tokens.extract (opener + 1) closer).toList.filterMap fun token =>
    if token.kind = .kwCase ∧ token.level = level then
      token.scope.map fun scope =>
        ⟨token, Text.trim (stream.textBetween (token.index + 1) scope.opener)⟩
    else none

end TokenStream

namespace Rule

/-- Reports of the expressions met before. `seen` holds for each expression met so far the line of
its first place. -/
def repeatedCaseReports (seen : List (String × Nat)) : List CaseLabel → List Report
  | [] => []
  | label :: rest =>
    match seen.lookup label.expression with
    | none => repeatedCaseReports ((label.expression, label.token.position.line) :: seen) rest
    | some line =>
      errorAt label.token.index "Found"
        "Duplicate case expression: %s. First occurrence of this expression at line %d."
        [.text label.expression, .int line] :: repeatedCaseReports seen rest

/-- Reports `case` expressions that a `switch` repeats. -/
def duplicateCase : Rule where
  id := "duplicate_switch_case"
  name := "DuplicateSwitchCase"
  category := "probable_bugs"
  description := "Identical case expressions in one switch."
  interest := [.kwSwitch]
  process stream index _ :=
    match stream.token? index with
    | none => .done none
    | some token =>
      match token.scope with
      | some ⟨opener, some closer, _, _⟩ =>
        reportAll (repeatedCaseReports [] (stream.caseLabels opener closer (token.level + 1)))
      | _ => .done none

end Rule

end TokenLint

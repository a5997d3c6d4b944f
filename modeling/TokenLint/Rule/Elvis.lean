import TokenLint.Rule.Basic
import TokenLint.Navigation.Ternary
import TokenLint.Text.Blank

/-!
# Repeated conditions

A ternary whose then branch repeats its condition can be written with `?:` instead.
-/

namespace TokenLint

/-- Drops whitespace, then parentheses, then whitespace again from both ends of a text. Parentheses
go whether they match or not. -/
def stripParentheses (text : String) : String :=
  Text.trim (Text.trimSet (fun char => char = '(' || char = ')') (Text.trim text))

namespace Rule

/-- Reports a ternary whose then branch repeats its condition; the fix drops the branch. -/
def elvisOperator : Rule where
  id := "elvis_operator_can_be_used"
  name := "ElvisOperatorCanBeUsed"
  category := "code_style"
  description := "Ternary whose then-part repeats the condition."
  interest := [.ternaryThen]
  process stream index _ :=
    match stream.conditionStart? index, stream.ternaryElse? index with
    | some start, some colon =>
      let condition := stripParentheses (stream.textBetween start index)
      let branch := stripParentheses (stream.textBetween (index + 1) colon)
      if branch.isEmpty || condition ≠ branch then .done none
      else
        reportAndFix (fixableWarningAt index "ReplacementMissing" "Elvis operator can be used." [])
          (removals (index + 1) colon)
    | _, _ => .done none

end Rule

end TokenLint

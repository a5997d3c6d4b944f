import TokenLint.Rule.Basic
import TokenLint.Navigation.Search

/-!
# Assignments that add or subtract one

`+= 1` and `-= 1` can be written `++` and `--` where nothing uses the value: in a
statement of their own or in the header of a `for`.
-/

namespace TokenLint

namespace TokenStream

variable (stream : TokenStream)

/-- The bracket that a token lies in; a closing parenthesis counts as inside its own pair. -/
def headerOpener? (index : Nat) : Option Nat := do
  let token ← stream.token? index
  if token.kind = .closeParenthesis ∧ token.partner.isSome then token.partner
  else token.enclosingBracket.map BracketPair.opener

/-- Whether a token lies directly in the header of a `for`. -/
def isInForHeader (index : Nat) : Bool :=
  (stream.headerOpener? index).any fun opener =>
    (stream.previousCode? opener).any fun owner => stream.hasKind owner .kwFor

/-- Whether nothing uses the value of the assignment that ends with the operand at an index. -/
def isValueDiscarded (operand : Nat) : Bool :=
  (stream.nextCode? (operand + 1)).any fun following =>
    match stream.kind? following with
    | some .semicolon | some .closeTag =>
      stream.holdsAt (fun token => token.enclosingBracket.isNone) operand ||
        stream.isInForHeader following
    | some .comma | some .closeParenthesis => stream.isInForHeader following
    | _ => false

/-- Puts the short operator behind its operand: the blank in front of the operator and all up to the
operand of 1 are removed. -/
def incrementEdits (index operand : Nat) : List Edit :=
  (if index ≠ 0 ∧ stream.hasKind (index - 1) .whitespace then [Rule.removal (index - 1)] else []) ++
    ⟨.replace, index, if stream.hasKind index .plusEqual then "++" else "--"⟩ ::
      Rule.removals (index + 1) (operand + 1)

end TokenStream

namespace Rule

/-- Reports an assignment by one whose value nothing uses. -/
def incrementByOne : Rule where
  id := "prefixed_increment_or_decrement"
  name := "PrefixedIncrementOrDecrement"
  category := "code_style"
  description := "Compound assignment by one instead of ++/--."
  interest := [.plusEqual, .minusEqual]
  process stream index _ :=
    match stream.nextCode? (index + 1) with
    | none => .done none
    | some operand =>
      if stream.contentAt operand = "1" ∧ stream.isValueDiscarded operand then
        reportAndFix
          (fixableWarningAt index "NotAllowed"
            "Use increment or decrement operator instead of += or -= assignment." [])
          (stream.incrementEdits index operand)
      else .done none

end Rule

end TokenLint

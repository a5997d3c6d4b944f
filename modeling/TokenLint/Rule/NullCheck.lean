import TokenLint.Rule.Basic
import TokenLint.Navigation.Call
import TokenLint.Text.LowerCase

/-!
# Comparing with null

`is_null(x)` can be written `null === x`, and `!is_null(x)` can be written
`null !== x`. Parentheses keep the argument together where its operators bind looser
than the comparison, and the comparison where its neighbours bind tighter.
-/

namespace TokenLint

/-- A call of `is_null` with one argument. The call extends from `start`, the negation before it or
its name, to `closer`. -/
structure NullCheck where
  start : Nat
  name : Nat
  opener : Nat
  closer : Nat
  first : Nat
  last : Nat
  deriving DecidableEq

namespace NullCheck

/-- Kinds that an argument may consist of and still bind tighter than a comparison. -/
def bindsTight : TokenKind → Bool
  | .variable | .identifier | .namespaceSeparator | .objectOperator | .nullsafeOperator
  | .doubleColon | .selfName | .parentName | .kwStatic | .dollar | .integerNumber | .floatNumber
  | .plainString | .templateString | .trueLiteral | .falseLiteral | .nullLiteral | .kwArray
  | .whitespace | .comment | .docComment => true
  | _ => false

/-- Kinds beside a comparison that bind looser than it. -/
def bindsLoose : TokenKind → Bool
  | .openParenthesis | .openSquare | .openShortArray | .openCurly | .closeParenthesis
  | .closeSquare | .closeShortArray | .closeCurly | .comma | .semicolon | .equal | .plusEqual
  | .minusEqual | .multiplyEqual | .divideEqual | .concatEqual | .modulusEqual | .powerEqual
  | .andEqual | .orEqual | .xorEqual | .shiftLeftEqual | .shiftRightEqual | .coalesceEqual
  | .doubleArrow | .booleanAnd | .booleanOr | .kwLogicalAnd | .kwLogicalOr | .kwLogicalXor
  | .coalesce | .ternaryThen | .ternaryElse | .colon | .kwReturn | .kwEcho | .kwPrint | .kwYield
  | .kwThrow | .openTag | .openTagWithEcho | .closeTag => true
  | _ => false

/-- Whether the tokens from `index` to `last` bind tighter than a comparison. Brackets in them are
passed over as a whole. -/
def isSimpleFrom (stream : TokenStream) (last index : Nat) : Bool :=
  if index ≤ last then
    match stream.token? index with
    | none => true
    | some token =>
      match (if token.kind.isOpener then token.partner else none) with
      | some closer => if index ≤ closer then isSimpleFrom stream last (closer + 1) else true
      | none =>
        !token.kind.isCloser && bindsTight token.kind && isSimpleFrom stream last (index + 1)
  else true
termination_by last + 1 - index

variable (check : NullCheck)

/-- Whether a sign of negation stands in front of a check. -/
def isNegated : Bool := check.start ≠ check.name

/-- The comparison operator that the call stands for. -/
def operator : String := if check.isNegated then "!==" else "==="

/-- Whether a neighbour of the call, if there is one, binds looser than a comparison. -/
def isLooseAt (stream : TokenStream) (neighbour : Option Nat) : Bool :=
  neighbour.all fun index => stream.kindIs index bindsLoose

/-- Whether the argument needs parentheses. -/
def wrapsArgument (stream : TokenStream) : Bool := !isSimpleFrom stream check.last check.first

/-- Whether the comparison needs parentheses. -/
def wrapsAll (stream : TokenStream) : Bool :=
  !(isLooseAt stream (stream.previousCode? check.start) &&
    isLooseAt stream (stream.nextCode? (check.closer + 1)))

/-- The edits that write the call as a comparison. -/
def edits (stream : TokenStream) : List Edit :=
  let before := (List.range' check.start (check.first - check.start)).filter fun index =>
    index ≠ check.name && index ≠ check.opener
  let argument := check.wrapsArgument stream
  let all := check.wrapsAll stream
  before.map Rule.removal ++ Rule.removals (check.last + 1) check.closer ++
    [⟨.replace, check.name, (if all then "(" else "") ++ "null " ++ check.operator⟩,
      ⟨.replace, check.opener, if argument then " (" else " "⟩,
      ⟨.replace, check.closer, (if argument then ")" else "") ++ (if all then ")" else "")⟩]

end NullCheck

/-- The check for null at an index: a call with one argument, with the negation in front of it. -/
def TokenStream.nullCheck? (stream : TokenStream) (index : Nat) : Option NullCheck := do
  guard (Text.lower (stream.contentAt index) = "is_null")
  let opener ← stream.callOpener? index
  let closer ← stream.partner? opener
  match stream.callArguments opener with
  | [(first, last)] =>
    let negation := (stream.previousCode? index).filter fun before =>
      stream.hasKind before .booleanNot
    return ⟨negation.getD index, index, opener, closer, first, last⟩
  | _ => none

namespace Rule

/-- Reports calls of `is_null` with one argument. -/
def nullCheck : Rule where
  id := "is_null_could_be_replaced_by_null_operator"
  name := "IsNullCouldBeReplacedByNullOperator"
  category := "performance"
  description := "is_null() instead of a strict null comparison."
  interest := [.identifier]
  process stream index _ :=
    match stream.nullCheck? index with
    | none => .done none
    | some check =>
      reportAndFix
        (fixableErrorAt index "ReplacementMissing"
          "Function \"%s()\" used. Replace it with \"null %s== ...\"."
          [.text (stream.contentAt index), .text (if check.isNegated then "!" else "=")])
        (check.edits stream)

end Rule

end TokenLint

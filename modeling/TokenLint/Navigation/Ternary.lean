import TokenLint.Navigation.Statement

/-!
# The extent of a ternary

From the `?` of a ternary: the `:` that belongs to it, the first token of its
condition, and the last token of its else branch.
-/

namespace TokenLint.TokenStream

variable (stream : TokenStream)

/-- Operators that bind looser than a ternary and so delimit it. -/
def delimitsTernary (kind : TokenKind) : Bool :=
  kind.isAssignment || kind = .kwLogicalAnd || kind = .kwLogicalOr || kind = .kwLogicalXor ||
    kind = .comma

/-- Keywords that introduce an expression without belonging to it. -/
def introducesExpression : TokenKind → Bool
  | .kwReturn | .kwEcho | .kwPrint | .kwYield | .kwThrow | .kwCase | .kwInclude | .kwRequire => true
  | _ => false

/-- Scans from `index` on for the `:` that closes the outermost of `depth` open ternaries. -/
def ternaryElseFrom? (depth index : Nat) : Option Nat :=
  if index < stream.size then
    match stream.token? index with
    | none => none
    | some token =>
      if token.kind.isOpener then
        match token.partner with
        | none => none
        | some closer => if index ≤ closer then ternaryElseFrom? depth (closer + 1) else none
      else if token.kind.isCloser || token.kind = .semicolon then none
      else if token.kind = .ternaryThen then ternaryElseFrom? (depth + 1) (index + 1)
      else if token.kind = .ternaryElse then
        if depth ≤ 1 then some index else ternaryElseFrom? (depth - 1) (index + 1)
      else ternaryElseFrom? depth (index + 1)
  else none
termination_by stream.size - index

/-- The `:` of the ternary whose `?` stands at an index. -/
def ternaryElse? (index : Nat) : Option Nat := stream.ternaryElseFrom? 1 (index + 1)

/-- Scans the tokens below the last argument, and not below `low`, for the start of a condition
whose earliest known token is `first`. -/
def conditionStartFrom? (low first : Nat) : Nat → Option Nat
  | 0 => some first
  | index + 1 =>
    if index < low then some first
    else
      match stream.token? index with
      | none => none
      | some token =>
        if token.kind.isCloser then
          match token.partner with
          | none => none
          | some opener => if opener ≤ index then conditionStartFrom? low opener opener else none
        else if delimitsTernary token.kind || introducesExpression token.kind ||
            token.kind = .ternaryThen || token.kind = .ternaryElse then some first
        else conditionStartFrom? low (if token.isTrivia then first else index) index
termination_by index => index
decreasing_by
  · exact Nat.lt_succ_of_le ‹opener ≤ index›
  · exact Nat.lt_succ_self index

/-- The first token of the condition of the ternary whose `?` stands at an index. -/
def conditionStart? (index : Nat) : Option Nat := do
  let low ← stream.statementStart? index
  let first ← stream.conditionStartFrom? low index index
  guard (first ≠ index)
  return first

/-- Scans from `index` on for the end of an else branch whose latest known token is `last`. -/
def elseEndFrom? (last index : Nat) : Option Nat :=
  if index < stream.size then
    match stream.token? index with
    | none => none
    | some token =>
      if token.kind.isOpener then
        match token.partner with
        | none => none
        | some closer => if index ≤ closer then elseEndFrom? closer (closer + 1) else none
      else if token.kind.isCloser || delimitsTernary token.kind ||
          token.kind.isStatementTerminator then some last
      else elseEndFrom? (if token.isTrivia then last else index) (index + 1)
  else some last
termination_by stream.size - index

/-- The last token of the else branch that follows the `:` at an index. -/
def elseEnd? (colon : Nat) : Option Nat := do
  let last ← stream.elseEndFrom? colon (colon + 1)
  guard (last ≠ colon)
  return last

end TokenLint.TokenStream

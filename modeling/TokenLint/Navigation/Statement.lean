import TokenLint.Navigation.Search

/-!
# Statement bounds

Where the statement around a token begins and ends. Both scans pass over bracket
pairs as a whole and stop at the nearest terminator at their own nesting level; an
unmatched bracket in the way leaves the bound undefined.
-/

namespace TokenLint.TokenStream

variable (stream : TokenStream)

/-- Whether the block opened at an index is the body of a closure or a `match`, and so part of an
expression. -/
def isExpressionBody (brace : Nat) : Bool :=
  (((stream.token? brace).bind Token.scope).bind Scope.owner).any fun owner =>
    stream.kindIs owner TokenKind.isExpressionScopeOwner

/-- Kinds that begin a new statement when met from the right. -/
def startsStatement (kind : TokenKind) : Bool :=
  kind.isStatementTerminator || kind = .openTagWithEcho

/-- Scans the tokens below the last argument for the start of a statement whose earliest known
token is `first`. -/
def statementStartFrom? (first : Nat) : Nat → Option Nat
  | 0 => some first
  | index + 1 =>
    match stream.token? index with
    | none => none
    | some token =>
      if token.kind.isCloser then
        match token.partner with
        | none => none
        | some opener =>
          if token.kind = .closeCurly ∧ !stream.isExpressionBody opener then some first
          else if opener ≤ index then statementStartFrom? opener opener
          else none
      else if token.kind.isOpener || startsStatement token.kind then some first
      else statementStartFrom? (if token.isTrivia then first else index) index

/-- Where the statement around an index begins. -/
def statementStart? (index : Nat) : Option Nat :=
  if index < stream.size then stream.statementStartFrom? index index else none

/-- Scans from `index` on for the end of a statement; `last` is its latest known token, and a
closing bracket at `start` itself does not end it. -/
def statementEndFrom? (start last index : Nat) : Option Nat :=
  if index < stream.size then
    match stream.token? index with
    | none => none
    | some token =>
      if token.kind.isOpener then
        match token.partner with
        | none => none
        | some closer =>
          if token.kind = .openCurly ∧ !stream.isExpressionBody index then some closer
          else if index ≤ closer then statementEndFrom? start closer (closer + 1)
          else none
      else if token.kind.isCloser ∧ index ≠ start then some last
      else if token.kind.isStatementTerminator then some index
      else statementEndFrom? start (if token.isTrivia then last else index) (index + 1)
  else some last
termination_by stream.size - index

/-- Where the statement around an index ends. -/
def statementEnd? (index : Nat) : Option Nat :=
  if index < stream.size then stream.statementEndFrom? index index index else none

end TokenLint.TokenStream

import TokenLint.Navigation.Search

/-!
# Calls and element lists

Which names call a global function, and how the tokens between two brackets fall into
comma-separated parts.
-/

namespace TokenLint.TokenStream

variable (stream : TokenStream)

/-- A name after one of these kinds is a method, a declaration or a class constant. -/
def hidesFunction : TokenKind → Bool
  | .objectOperator | .nullsafeOperator | .doubleColon | .kwFunction | .kwNew | .kwConst => true
  | _ => false

/-- Whether the namespace separator at an index follows a qualifier. -/
def isQualified (separator : Nat) : Bool :=
  (stream.previousCode? separator).any fun qualifier =>
    stream.kindIs qualifier fun kind => kind = .identifier || kind = .kwNamespace

/-- The parenthesis of the global function call that the name at an index makes. -/
def callOpener? (index : Nat) : Option Nat := do
  let opener ← stream.nextCode? (index + 1)
  guard (stream.hasKind opener .openParenthesis)
  let previous ← stream.previousCode? index
  guard !stream.kindIs previous hidesFunction
  guard !(stream.hasKind previous .namespaceSeparator && stream.isQualified previous)
  return opener

/-- Collects the argument ranges from `index` up to the closing bracket; the current argument began
at `start`. -/
def argumentsFrom (closer start index : Nat) : List (Nat × Nat) :=
  if index ≤ closer then
    let token := stream.token? index
    match token.filter (fun token => token.kind.isOpener) |>.bind Token.partner with
    | some inner => if index ≤ inner then argumentsFrom closer start (inner + 1) else []
    | none =>
      if index = closer ∨ token.any (fun token => token.kind = .comma) then
        let first := stream.nextCodeBefore? start index
        let range := match first, stream.previousCodeFrom? start index with
          | some first, some last => [(first, last)]
          | _, _ => []
        range ++ argumentsFrom closer (index + 1) (index + 1)
      else argumentsFrom closer start (index + 1)
  else []
termination_by closer + 1 - index

/-- The arguments between a bracket and its partner: first and last token of each, without
surrounding whitespace and comments; empty ones are left out. -/
def callArguments (opener : Nat) : List (Nat × Nat) :=
  match stream.partner? opener with
  | some closer => stream.argumentsFrom closer (opener + 1) (opener + 1)
  | none => []

/-- Collects the element ranges from `index` up to the closing bracket; the current element began
at `start`. -/
def elementsFrom (closer start index : Nat) : List (Nat × Nat) :=
  if index < closer then
    let token := stream.token? index
    match token.filter (fun token => token.kind.isOpener) |>.bind Token.partner with
    | some inner => if index ≤ inner then elementsFrom closer start (inner + 1) else []
    | none =>
      if token.any fun token => token.kind = .comma then
        (start, index) :: elementsFrom closer (index + 1) (index + 1)
      else elementsFrom closer start (index + 1)
  else if start < closer then [(start, closer)]
  else []
termination_by closer - index

/-- The elements between two brackets, each from its first token up to but not including the comma
after it. -/
def arrayElements (opener closer : Nat) : List (Nat × Nat) :=
  stream.elementsFrom closer (opener + 1) (opener + 1)

end TokenLint.TokenStream

import TokenLint.Rule.Basic
import TokenLint.Navigation.Search

/-!
# Nested conditions

An `if` whose body is nothing but another `if` could test both conditions at once,
unless either of them has an alternative.
-/

namespace TokenLint

namespace TokenStream

variable (stream : TokenStream)

/-- The closed scope of the token at an index: its first and last brace. -/
def block? (index : Nat) : Option BracketPair := do
  let token ← stream.token? index
  let scope ← token.scope
  let closer ← scope.closer
  return ⟨scope.opener, closer⟩

/-- Whether an alternative follows the block that closes at an index. -/
def hasAlternative (closer : Nat) : Bool :=
  (stream.nextCode? (closer + 1)).any fun following =>
    stream.kindIs following fun kind => kind = .kwElse || kind = .kwElseif

/-- Whether the block of the `if` at an index holds nothing but another `if`, and neither has an
alternative. -/
def isNestedIf (index : Nat) : Bool :=
  (stream.block? index).any fun outer =>
    !stream.hasAlternative outer.closer &&
      (stream.nextCode? (outer.opener + 1)).any fun nested =>
        stream.hasKind nested .kwIf &&
          (stream.block? nested).any fun inner =>
            stream.nextCode? (inner.closer + 1) == some outer.closer

end TokenStream

namespace Rule

/-- Reports an `if` whose only content is another `if`. -/
def nestedIf : Rule where
  id := "nested_positive_ifs"
  name := "NestedPositiveIfs"
  category := "code_style"
  description := "If statement whose only content is another if."
  interest := [.kwIf]
  process stream index _ :=
    if stream.isNestedIf index then
      reportAll [errorAt index "NotAllowed" "Nested if detected." []]
    else .done none

end Rule

end TokenLint

import TokenLint.Rule.Basic
import TokenLint.Navigation.Search
import TokenLint.Text.LowerCase

/-!
# Constructors named after their class

A method with the name of its class used to be its constructor. A class that also
declares `__construct` has an ordinary method of that name instead.
-/

namespace TokenLint

namespace TokenStream

variable (stream : TokenStream)

/-- The name tokens of the methods that are declared directly in a scope, in order. -/
def methodNames (scope : Scope) (closer : Nat) : List Nat :=
  (List.range' (scope.opener + 1) (closer - (scope.opener + 1))).filterMap fun index =>
    if stream.holdsAt (fun token =>
        token.kind = .kwFunction && token.level = scope.level) index then
      stream.nextOf? .identifier (index + 1) closer
    else none

/-- Whether the text of a token is a name, in lower case, when case is ignored. -/
def isNamed (name : String) (index : Nat) : Bool := Text.lower (stream.contentAt index) == name

/-- The method name that makes an old-style constructor of the class at an index. -/
def oldConstructor? (index : Nat) : Option Nat := do
  let name ← stream.nextCode? (index + 1)
  guard (stream.hasKind name .identifier)
  let scope ← (stream.token? index).bind Token.scope
  let closer ← scope.closer
  let methods := stream.methodNames scope closer
  guard !methods.any (stream.isNamed "__construct")
  methods.find? (stream.isNamed (Text.lower (stream.contentAt name)))

end TokenStream

namespace Rule

/-- Reports a constructor named after its class; the fix renames it. -/
def oldConstructor : Rule where
  id := "deprecated_old_constructor_style"
  name := "DeprecatedOldConstructorStyle"
  category := "compatibility"
  description := "PHP 4 style constructor named after the class."
  interest := [.kwClass]
  process stream index _ :=
    match stream.oldConstructor? index with
    | none => .done none
    | some method =>
      reportAndReplace
        (fixableErrorAt method "ReplacementMissing"
          "Old constructor style found. Replace it with the __construct method." [])
        method "__construct"

end Rule

end TokenLint

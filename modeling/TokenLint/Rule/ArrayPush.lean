import TokenLint.Rule.Basic
import TokenLint.Navigation.Call
import TokenLint.Text.LowerCase

/-!
# Appending to an array

`array_push` does slowly what `[]` does fast.
-/

namespace TokenLint

namespace Rule

/-- Whether a variable stands between a bracket and its partner. -/
def holdsVariable (stream : TokenStream) (opener : Nat) : Bool :=
  (stream.partner? opener).any fun closer =>
    (stream.nextOf? .variable (opener + 1) closer).isSome

/-- Reports calls of `array_push`. -/
def arrayPush : Rule where
  id := "array_push_misused"
  name := "ArrayPushMisused"
  category := "performance"
  description := "array_push() instead of the [] short syntax."
  interest := [.identifier]
  process stream index _ :=
    let name := stream.contentAt index
    if Text.lower name = "array_push" then
      match stream.callOpener? index with
      | none => .done none
      | some opener =>
        if holdsVariable stream opener then
          reportAll [errorAt index "Found"
            "Function \"%s()\" used. Replace it with the [] short syntax equivalent." [.text name]]
        else
          reportAll [errorAt index "InvalidSignature"
            "Function \"%s()\" used but with invalid signature." [.text name]]
    else .done none

end Rule

end TokenLint

import TokenLint.Rule.Basic
import TokenLint.Rule.ArrayKey
import TokenLint.Navigation.Call

/-!
# Repeated array keys

A key that an array literal holds twice loses its first value.
-/

namespace TokenLint

namespace TokenStream

variable (stream : TokenStream)

/-- The brackets of the array literal that a keyword or a short bracket begins. -/
def arrayBrackets? (index : Nat) : Option BracketPair := do
  let token ← stream.token? index
  if token.kind = .kwArray then token.parenthesis
  else token.partner.map fun closer => ⟨index, closer⟩

/-- The arrow of an element that lies directly in the literal's brackets. -/
def keyArrow? (brackets : BracketPair) (element : Nat × Nat) : Option Nat :=
  stream.firstWith? (fun token =>
    token.kind = .doubleArrow && token.enclosingBracket == some brackets) element.1 element.2

/-- The key of an element, with the token in front of its arrow. A key of several tokens is compared
by its text. -/
def elementKey? (brackets : BracketPair) (element : Nat × Nat) :
    Option (Token × Except Nat ArrayKey) := do
  let arrow ← stream.keyArrow? brackets element
  let index ← stream.previousCodeFrom? element.1 arrow
  let token ← stream.token? index
  let whole := Text.trim (stream.textBetween element.1 arrow)
  return (token, if whole = token.content then ArrayKey.ofToken token else .ok (.text whole))

end TokenStream

namespace Rule

/-- The program that reports keys met before. `seen` holds for each key met so far the line of its
first place. -/
def reportRepeatedKeys (seen : List (ArrayKey × Nat)) :
    List (Token × Except Nat ArrayKey) → RuleProgram (Option Int)
  | [] => .done none
  | (_, .error digits) :: _ => .fail (.numeral digits)
  | (token, .ok key) :: rest =>
    match seen.lookup key with
    | none => reportRepeatedKeys ((key, token.position.line) :: seen) rest
    | some line =>
      .report (errorAt token.index "Found"
        "Duplicate array key: %s. First occurrence of this key at line %d."
        [.text token.content, .int line]) fun _ => reportRepeatedKeys seen rest

/-- Reports keys that an array literal repeats. -/
def duplicateKey : Rule where
  id := "duplicate_array_keys"
  name := "DuplicateArrayKeys"
  category := "probable_bugs"
  description := "Identical keys in one array literal."
  interest := [.kwArray, .openShortArray]
  process stream index _ :=
    match stream.arrayBrackets? index with
    | none => .done none
    | some brackets =>
      reportRepeatedKeys [] ((stream.arrayElements brackets.opener brackets.closer).filterMap
        (stream.elementKey? brackets))

end Rule

end TokenLint

import TokenLint.Rule.Basic
import TokenLint.Navigation.Search
import TokenLint.Text.Blank

/-!
# Strict types

A script is to declare `strict_types = 1`. Only its first open tag is looked at, and a
file that begins with markup other than a shebang line is a template and no script.
-/

namespace TokenLint

namespace TokenStream

variable (stream : TokenStream)

/-- Whether no open tag stands before an index, and no text but a line for the shell. -/
def beginsScript (index : Nat) : Bool :=
  (stream.previousOf? .openTag 0 index).isNone &&
    (List.range index).all fun before =>
      !stream.holdsAt (fun token =>
        token.kind = .inlineHtml && !token.content.startsWith "#!") before

/-- The name `strict_types` in the parenthesis of a `declare` at an index. -/
def strictTypesName? (declaration : Nat) : Option Nat := do
  let pair ← (stream.token? declaration).bind Token.parenthesis
  stream.firstWith? (fun token => token.kind = .identifier && token.content == "strict_types")
    pair.opener pair.closer

/-- The name `strict_types` in the first `declare` from an index on that has one. -/
def strictTypesFrom? (start : Nat) : Option Nat :=
  (List.range' start (stream.size - start)).findSome? fun index =>
    if stream.hasKind index .kwDeclare then stream.strictTypesName? index else none

/-- The value that a directive name is given. -/
def declaredValue? (name : Nat) : Option Nat := do
  let sign ← stream.nextCode? (name + 1)
  guard (stream.hasKind sign .equal)
  stream.nextCode? (sign + 1)

/-- The blanks from an index on, up to the first token that is none. -/
def blanksFrom (index : Nat) : List Nat :=
  (List.range' index (stream.size - index)).takeWhile fun index => stream.hasKind index .whitespace

/-- Whether the text of a token ends with a blank. -/
def endsBlank (index : Nat) : Bool := (stream.contentAt index).toList.getLast?.any Text.isBlank

/-- The edits that put a declaration after the open tag at an index, in place of the whitespace
there. -/
def strictTypesEdits (tag : Nat) : List Edit :=
  (stream.blanksFrom (tag + 1)).map Rule.removal ++
    [⟨.after, tag, (if stream.endsBlank tag then "" else "\n") ++ "declare(strict_types = 1);\n\n"⟩]

end TokenStream

namespace Rule

/-- Reports a script that does not declare strict types. -/
def strictTypes : Rule where
  id := "declare_strict_types"
  name := "DeclareStrictTypes"
  category := "general"
  description := "Missing or wrong \"declare(strict_types = 1);\"."
  interest := [.openTag]
  process stream index _ :=
    if stream.beginsScript index then
      match stream.strictTypesFrom? index with
      | none =>
        reportAndFix
          (fixableWarningAt index "MissingStatement"
            "Missing statement \"declare(strict_types = 1);\" at start of file." [])
          (stream.strictTypesEdits index)
      | some name =>
        match stream.declaredValue? name with
        | none => .done none
        | some value =>
          if stream.contentAt value = "1" then .done none
          else
            reportAndReplace
              (fixableWarningAt value "BadValue"
                "Bad value for the declaration of strict_types." [])
              value "1"
    else .done none

end Rule

end TokenLint

import TokenLint.Stream.Basic

/-!
# Edits and patches

An edit replaces the text of one token or inserts text at one of its sides. A patch
is what the edits of a changeset make of one token.
-/

namespace TokenLint

/-- Where an edit puts its text. -/
inductive EditPlace where
  | replace
  | before
  | after
  deriving DecidableEq, Repr

/-- One edit of a token. Removing a token replaces its text by nothing. -/
structure Edit where
  place : EditPlace
  index : Nat
  text : String
  deriving DecidableEq

/-- What edits make of one token: texts before and after it, and a new text for it. -/
structure Patch where
  before : String
  replacement : Option String
  after : String
  deriving DecidableEq

namespace Patch

/-- The patch that changes nothing. -/
def empty : Patch := ⟨"", none, ""⟩

/-- Adds an edit: insertions gather in order and the last replacement stands. -/
def add (patch : Patch) (place : EditPlace) (text : String) : Patch :=
  match place with
  | .replace => { patch with replacement := some text }
  | .before => { patch with before := patch.before ++ text }
  | .after => { patch with after := patch.after ++ text }

/-- The text that a patch makes of a token. -/
def render (patch : Patch) (content : String) : String :=
  patch.before ++ patch.replacement.getD content ++ patch.after

end Patch

end TokenLint

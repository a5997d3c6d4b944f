import TokenLint.Rule.Program

/-!
# Rules

A rule has an identifier, the kinds of token it wants to see, and a program for each
token of these kinds. The program may answer with an index before which the rule
wants to see no more tokens.
-/

namespace TokenLint

/-- A rule: what it is called, which tokens it asks for and what it does about one of them. -/
structure Rule where
  /-- Unique identifier, and the first part of every code that the rule reports. -/
  id : String
  name : String
  /-- Group under which the rule is listed. -/
  category : String
  /-- One-line summary. -/
  description : String
  interest : List TokenKind
  /-- What the rule does about the token at an index, given its options. -/
  process : TokenStream → Nat → Table → RuleProgram (Option Int)

namespace Rule

/-- An error about a token that no fix is known for. -/
def errorAt (index : Nat) (shortCode template : String) (arguments : List Value) : Report :=
  ⟨template, arguments, index, shortCode, .error, false⟩

/-- A warning about a token that no fix is known for. -/
def warningAt (index : Nat) (shortCode template : String) (arguments : List Value) : Report :=
  ⟨template, arguments, index, shortCode, .warning, false⟩

/-- An error about a token that the rule can fix. -/
def fixableErrorAt (index : Nat) (shortCode template : String) (arguments : List Value) : Report :=
  ⟨template, arguments, index, shortCode, .error, true⟩

/-- A warning about a token that the rule can fix. -/
def fixableWarningAt (index : Nat) (shortCode template : String) (arguments : List Value) :
    Report :=
  ⟨template, arguments, index, shortCode, .warning, true⟩

/-- The edit that takes a token away. -/
def removal (index : Nat) : Edit := ⟨.replace, index, ""⟩

/-- The edits that take away the tokens from `start` up to but not including `stop`. -/
def removals (start stop : Nat) : List Edit :=
  (List.range' start (stop - start)).map removal

/-- Reports a problem and, if asked to, fixes it in one changeset. -/
def reportAndFix (made : Report) (edits : List Edit) : RuleProgram (Option Int) :=
  .report made fun fixNow =>
    if fixNow then (RuleProgram.changeTogether edits).bind fun _ => .done none
    else .done none

/-- Reports a problem and, if asked to, fixes it by a single edit. -/
def reportAndReplace (made : Report) (index : Nat) (text : String) : RuleProgram (Option Int) :=
  .report made fun fixNow =>
    if fixNow then .edit .replace index text fun _ => .done none else .done none

/-- Makes reports one after the other. -/
def reportAll : List Report → RuleProgram (Option Int)
  | [] => .done none
  | first :: rest => .report first fun _ => reportAll rest

end Rule

end TokenLint
